import Mathlib.Data.List.Basic

/-!
# Alarms that latch

Readings of several sources arrive in any order.  An alarm is given at the first reading of a
source that is low, and not again before a calm reading of the same source; readings of the other
two levels leave the alarm as it is.

* `raised_append`: the alarm of a source, one reading after another.
* `raised_filter`: only a source's own readings move its alarm.
* `exists_calm`: an alarm that is down again was taken down by a calm reading.
* `alarms_apart`: between two alarms of a source there is a calm reading of that source.
-/

namespace LatchedAlarm

/-- What a reading says of its source. -/
inductive Level
  | calm
  | unknown
  | low
  | critical
  deriving DecidableEq

/-- How the readings are read: their source and their level. -/
structure Scale (ρ κ : Type) where
  source : ρ → κ
  level : ρ → Level

variable {ρ κ : Type} [DecidableEq κ] (S : Scale ρ κ)

/-- The alarm of a source after one more reading. -/
def after (k : κ) (up : Bool) (r : ρ) : Bool :=
  if S.source r = k then
    match S.level r with
    | .calm => false
    | .low => true
    | .unknown | .critical => up
  else up

/-- The alarm of a source after the readings. -/
def raised (k : κ) (readings : List ρ) : Bool := readings.foldl (after S k) false

/-- The reading gives an alarm. -/
def Alarms (before : List ρ) (r : ρ) : Prop :=
  S.level r = .low ∧ raised S (S.source r) before = false

theorem raised_append (k : κ) (readings more : List ρ) :
    raised S k (readings ++ more) = more.foldl (after S k) (raised S k readings) :=
  List.foldl_append

theorem raised_concat (k : κ) (readings : List ρ) (r : ρ) :
    raised S k (readings ++ [r]) = after S k (raised S k readings) r :=
  raised_append S k readings [r]

theorem after_of_ne {k : κ} {r : ρ} (h : S.source r ≠ k) (up : Bool) : after S k up r = up :=
  if_neg h

/-- Only a source's own readings move its alarm. -/
theorem raised_filter (k : κ) (readings : List ρ) :
    raised S k (readings.filter fun r => S.source r = k) = raised S k readings := by
  unfold raised
  rw [List.foldl_filter]
  congr
  funext up r
  by_cases h : S.source r = k
  · rw [if_pos (decide_eq_true h)]
  · rw [if_neg (by simpa using h), after_of_ne S h]

/-- An alarm that is down again was taken down by a calm reading. -/
theorem exists_calm {k : κ} (more : List ρ) (h : more.foldl (after S k) true = false) :
    ∃ r ∈ more, S.source r = k ∧ S.level r = .calm := by
  induction more with
  | nil => exact nomatch h
  | cons r more ih =>
    by_cases hcalm : S.source r = k ∧ S.level r = .calm
    · exact ⟨r, List.mem_cons_self, hcalm⟩
    · have hup : after S k true r = true := by
        unfold after
        split_ifs with hsource
        · split
          · rename_i hlevel
            exact absurd ⟨hsource, hlevel⟩ hcalm
          · rfl
          · rfl
          · rfl
        · rfl
      rw [List.foldl_cons, hup] at h
      obtain ⟨calm, hmem, hcalm⟩ := ih h
      exact ⟨calm, List.mem_cons_of_mem r hmem, hcalm⟩

/-- **Between two alarms of a source there is a calm reading of that source.** -/
theorem alarms_apart {before between : List ρ} {r s : ρ} (hr : Alarms S before r)
    (hsource : S.source s = S.source r) (hs : Alarms S (before ++ r :: between) s) :
    ∃ calm ∈ between, S.source calm = S.source r ∧ S.level calm = .calm := by
  obtain ⟨hlow, -⟩ := hr
  obtain ⟨-, hdown⟩ := hs
  have hup : raised S (S.source r) (before ++ [r]) = true := by
    rw [raised_concat]
    unfold after
    rw [if_pos rfl, hlow]
  rw [hsource, List.append_cons, raised_append, hup] at hdown
  exact exists_calm S between hdown

end LatchedAlarm
