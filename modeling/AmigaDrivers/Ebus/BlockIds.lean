import Mathlib.Algebra.Ring.Int.Defs
import Mathlib.Algebra.Ring.Nat
import Mathlib.Data.Finset.Card
import Mathlib.Data.List.Chain
import Mathlib.Order.Interval.Finset.Nat

/-!
# Block ids and lost frames

A camera numbers its frames.  `BlockIds` looks at the numbers it receives and reports how many are
missing before each.  A camera of the old kind has numbers of 16 bits that go from 65535 back to 1.

* `BlockIds.observe`: the code.
* `Wire`: what a kind of camera sends for its frames, and what is a stray number.
* `observeAll_eq_expected`: the run, from one lemma for each kind of number.
* `sum_gap_expected`: the reported gaps are the frames that are missing.
* `block_ids`: both kinds.
-/

namespace AmigaDrivers
namespace Ebus

/-! ## The code -/

/-- `Observation`. -/
structure Observation where
  gap : Nat := 0
  anomaly : Bool := false
  deriving DecidableEq, Repr

/-- `BlockIds`.  No sum or difference of its numbers leaves 64 bits. -/
structure BlockIds where
  extended : Bool := false
  haveLast : Bool := false
  last : Nat := 0
  deriving DecidableEq, Repr

/-- `Observe`. -/
def BlockIds.observe (b : BlockIds) (id : Nat) : Observation × BlockIds :=
  if id = 0 ∨ b.extended = false ∧ id > 65535 then ({ anomaly := true }, b)
  else if b.haveLast = false then ({}, { b with haveLast := true, last := id })
  else if b.extended then
    if id ≤ b.last then ({ anomaly := true }, b)
    else ({ gap := id - b.last - 1 }, { b with last := id })
  else
    let expected := if b.last = 65535 then 1 else b.last + 1
    let distance := (id + 65535 - expected) % 65535
    if distance > 32767 then ({ anomaly := true }, b)
    else ({ gap := distance }, { b with last := id })

/-- The observations of a list of numbers. -/
def BlockIds.observeAll : BlockIds → List Nat → List Observation
  | _, [] => []
  | b, id :: ids => (b.observe id).1 :: (b.observe id).2.observeAll ids

/-! ## What a camera sends -/

/-- A number is that of a frame, or a stray one. -/
inductive Sighting
  | frame (n : Nat)
  | stray (id : Nat)

/-- The numbers of a kind of camera.  A frame may be followed by some later ones; a number may be
stray depending on the latest frame. -/
structure Wire where
  extended : Bool
  id : Nat → Nat
  First : Nat → Prop
  Next : Nat → Nat → Prop
  Stray : Option Nat → Nat → Prop

/-- The sighting of no frame. -/
def Sighting.isStray : Sighting → Bool
  | .frame _ => false
  | .stray _ => true

/-- The frames that are received. -/
def framesOf : List Sighting → List Nat
  | [] => []
  | .frame n :: rest => n :: framesOf rest
  | .stray _ :: rest => framesOf rest

namespace Wire

variable (w : Wire)

/-- The number that is received. -/
def received : Sighting → Nat
  | .frame n => w.id n
  | .stray id => id

/-- A frame in its place. -/
def Continues : Option Nat → Nat → Prop
  | none, n => w.First n
  | some m, n => w.Next m n

/-- Frames that follow one another, with stray numbers between them. -/
def Sends : Option Nat → List Sighting → Prop
  | _, [] => True
  | latest, .frame n :: rest => w.Continues latest n ∧ Sends (some n) rest
  | latest, .stray id :: rest => w.Stray latest id ∧ Sends latest rest

end Wire

/-- The old kind: one of 65535 numbers, and at most 32768 frames on. -/
def wire16 : Wire where
  extended := false
  id n := 1 + n % 65535
  First _ := True
  Next m n := m < n ∧ n ≤ m + 32768
  -- nothing, too much, or the number of the latest frame or of one at most 32766 before
  Stray latest id := id = 0 ∨ 65535 < id ∨
    ∃ m ∈ latest, ∃ d ≤ 32766, id = 1 + (m + 65535 - d) % 65535

/-- The new kind: the frames' own numbers. -/
def wire64 : Wire where
  extended := true
  id n := n
  First n := n ≠ 0
  Next m n := m < n
  Stray latest id := id = 0 ∨ ∃ m ∈ latest, id ≤ m

/-- What is to be reported: the frames missing before a frame, and every stray number. -/
def expected : Option Nat → List Sighting → List Observation
  | _, [] => []
  | latest, .frame n :: rest => { gap := latest.elim 0 fun m => n - m - 1 } :: expected (some n) rest
  | latest, .stray _ :: rest => { anomaly := true } :: expected latest rest

/-! ## The run -/

/-- The state after a latest frame. -/
def BlockIds.after (w : Wire) (latest : Option Nat) : BlockIds :=
  { extended := w.extended, haveLast := latest.isSome, last := latest.elim 0 w.id }

/-- A kind of camera whose numbers are understood one by one. -/
structure Wire.Understood (w : Wire) : Prop where
  frame : ∀ latest n, w.Continues latest n →
    (BlockIds.after w latest).observe (w.id n) =
      ({ gap := latest.elim 0 fun m => n - m - 1 }, .after w (some n))
  stray : ∀ latest id, w.Stray latest id →
    (BlockIds.after w latest).observe id = ({ anomaly := true }, .after w latest)

/-- A number of 16 bits, by its distance from the one that would come next. -/
theorem observe_narrow (last : Nat) {id : Nat} (hid : 1 ≤ id ∧ id ≤ 65535) :
    BlockIds.observe { haveLast := true, last } id =
      if (id + 65535 - if last = 65535 then 1 else last + 1) % 65535 > 32767 then
        ({ anomaly := true }, { haveLast := true, last })
      else
        ({ gap := (id + 65535 - if last = 65535 then 1 else last + 1) % 65535 },
          { haveLast := true, last := id }) := by
  unfold BlockIds.observe
  rw [if_neg (by omega)]
  rfl

/-- A number of 64 bits. -/
theorem observe_wide (last : Nat) {id : Nat} (hid : id ≠ 0) :
    BlockIds.observe { extended := true, haveLast := true, last } id =
      if id ≤ last then ({ anomaly := true }, { extended := true, haveLast := true, last })
      else ({ gap := id - last - 1 }, { extended := true, haveLast := true, last := id }) := by
  unfold BlockIds.observe
  rw [if_neg (by simp [hid])]
  rfl

/-- The number that would come next. -/
theorem next_narrow (m : Nat) :
    (if 1 + m % 65535 = 65535 then 1 else 1 + m % 65535 + 1) = 1 + (m + 1) % 65535 := by
  split <;> omega

theorem understood_wire16 : wire16.Understood where
  frame latest n h := by
    have hid : 1 ≤ 1 + n % 65535 ∧ 1 + n % 65535 ≤ 65535 := by omega
    cases latest with
    | none =>
      unfold BlockIds.observe BlockIds.after wire16
      dsimp only
      rw [if_neg (by omega)]
      rfl
    | some m =>
      obtain ⟨hlater, hnear⟩ : m < n ∧ n ≤ m + 32768 := h
      have hdistance : (1 + n % 65535 + 65535 - (1 + (m + 1) % 65535)) % 65535 = n - m - 1 := by
        omega
      refine (observe_narrow (1 + m % 65535) hid).trans ?_
      have hnarrow : ¬ n - m - 1 > 32767 := by omega
      rw [next_narrow, hdistance, if_neg hnarrow]
      rfl
  stray latest id h := by
    obtain rfl | hlarge | ⟨m, rfl, d, hd, rfl⟩ := h
    · rfl
    · unfold BlockIds.observe
      rw [if_pos (.inr ⟨rfl, hlarge⟩)]
    · have hid : 1 ≤ 1 + (m + 65535 - d) % 65535 ∧ 1 + (m + 65535 - d) % 65535 ≤ 65535 := by omega
      have hdistance :
          (1 + (m + 65535 - d) % 65535 + 65535 - (1 + (m + 1) % 65535)) % 65535 > 32767 := by
        omega
      refine (observe_narrow (1 + m % 65535) hid).trans ?_
      rw [next_narrow, if_pos hdistance]
      rfl

theorem understood_wire64 : wire64.Understood where
  frame latest n h := by
    cases latest with
    | none =>
      unfold BlockIds.observe BlockIds.after wire64
      dsimp only
      have hfirst : n ≠ 0 := h
      rw [if_neg (by simpa using hfirst)]
      rfl
    | some m =>
      have hlater : m < n := h
      refine (observe_wide m (Nat.ne_of_gt (Nat.zero_lt_of_lt hlater))).trans ?_
      rw [if_neg (Nat.not_le_of_lt hlater)]
      rfl
  stray latest id h := by
    by_cases hzero : id = 0
    · unfold BlockIds.observe
      rw [if_pos (.inl hzero)]
    · obtain ⟨m, rfl, hle⟩ := h.resolve_left hzero
      refine (observe_wide m hzero).trans ?_
      rw [if_pos hle]
      rfl

/-- All that is sent is reported as expected. -/
theorem observeAll_eq_expected {w : Wire} (h : w.Understood) (sent : List Sighting) :
    ∀ latest, w.Sends latest sent →
      (BlockIds.after w latest).observeAll (sent.map w.received) = expected latest sent := by
  induction sent with
  | nil => exact fun _ _ => rfl
  | cons s rest ih =>
    intro latest hsends
    cases s with
    | frame n =>
      obtain ⟨hcontinues, hrest⟩ := hsends
      rw [List.map_cons, BlockIds.observeAll, Wire.received, h.frame latest n hcontinues, ih _ hrest]
      rfl
    | stray id =>
      obtain ⟨hstray, hrest⟩ := hsends
      rw [List.map_cons, BlockIds.observeAll, Wire.received, h.stray latest id hstray, ih _ hrest]
      rfl

/-! ## The missing frames -/

/-- The frames that are not received. -/
def missing (first last : Nat) (frames : List Nat) : Finset Nat :=
  Finset.Icc first last \ frames.toFinset

/-- The gaps behind a frame, and the frames, make up the way to the last one. -/
theorem sum_gap_from (frames : List Nat) : ∀ m, (m :: frames).IsChain (· < ·) →
    ((expected (some m) (frames.map .frame)).map Observation.gap).sum + frames.length + m =
      (m :: frames).getLast (List.cons_ne_nil m frames) := by
  induction frames with
  | nil => exact fun m _ => Nat.zero_add m
  | cons n frames ih =>
    intro m hchain
    obtain ⟨hlater, hrest⟩ := List.isChain_cons_cons.mp hchain
    have hsum := ih n hrest
    rw [List.getLast_cons_cons, ← hsum, List.map_cons, expected, List.map_cons, List.sum_cons,
      List.length_cons]
    dsimp only [Option.elim_some]
    omega

/-- The reported gaps are the frames that are missing. -/
theorem sum_gap_expected (first : Nat) (frames : List Nat)
    (hchain : (first :: frames).IsChain (· < ·)) :
    ((expected none ((first :: frames).map .frame)).map Observation.gap).sum =
      (missing first ((first :: frames).getLast (List.cons_ne_nil first frames))
        (first :: frames)).card := by
  have hsum := sum_gap_from frames first hchain
  have hpairwise := List.isChain_iff_pairwise.mp hchain
  have hsubset : (first :: frames).toFinset ⊆
      Finset.Icc first ((first :: frames).getLast (List.cons_ne_nil first frames)) := by
    intro n hn
    rw [List.mem_toFinset] at hn
    rw [Finset.mem_Icc]
    refine ⟨?_, (hpairwise.imp Nat.le_of_lt).rel_getLast hn⟩
    obtain rfl | htail := List.mem_cons.mp hn
    · exact Nat.le_refl n
    · exact (List.rel_of_pairwise_cons hpairwise htail).le
  unfold missing
  rw [Finset.card_sdiff_of_subset hsubset, List.toFinset_card_of_nodup (hpairwise.imp Nat.ne_of_lt),
    Nat.card_Icc, ← hsum, List.map_cons, expected, List.map_cons, List.sum_cons, List.length_cons]
  dsimp only [Option.elim_none]
  omega

/-! ## Both kinds -/

/-- The stray numbers are the anomalies. -/
theorem anomaly_expected (sent : List Sighting) : ∀ latest,
    (expected latest sent).map Observation.anomaly = sent.map Sighting.isStray := by
  induction sent with
  | nil => exact fun _ => rfl
  | cons s rest ih =>
    intro latest
    cases s with
    | frame n => exact congrArg (false :: ·) (ih (some n))
    | stray id => exact congrArg (true :: ·) (ih latest)

/-- The others are reported as if there had been no stray number. -/
theorem filter_expected (sent : List Sighting) : ∀ latest,
    (expected latest sent).filter (fun o => !o.anomaly) =
      expected latest ((framesOf sent).map .frame) := by
  induction sent with
  | nil => exact fun _ => rfl
  | cons s rest ih =>
    intro latest
    cases s with
    | frame n => exact congrArg (_ :: ·) (ih (some n))
    | stray id => exact ih latest

section Sends

variable {w : Wire}

/-- Frames that follow one another are sent as they are. -/
theorem sends_frames (frames : List Nat) : ∀ m, (m :: frames).IsChain w.Next →
    w.Sends (some m) (frames.map .frame) := by
  induction frames with
  | nil => exact fun _ _ => trivial
  | cons n frames ih =>
    intro m hchain
    obtain ⟨hnext, hrest⟩ := List.isChain_cons_cons.mp hchain
    exact ⟨hnext, ih n hrest⟩

/-- The frames of what is sent could have been sent alone. -/
theorem sends_framesOf (sent : List Sighting) : ∀ latest, w.Sends latest sent →
    w.Sends latest ((framesOf sent).map .frame) := by
  induction sent with
  | nil => exact fun _ _ => trivial
  | cons s rest ih =>
    intro latest hsends
    cases s with
    | frame n => exact ⟨hsends.1, ih (some n) hsends.2⟩
    | stray id => exact ih latest hsends.2

/-- The reports on a kind of camera are exact: frames alone are no anomalies and the gaps are the
missing ones; stray numbers are the anomalies, and without their reports all is as without them. -/
structure Exact (w : Wire) : Prop where
  gaps : ∀ first frames, w.First first → (first :: frames).IsChain w.Next →
    let reported := BlockIds.observeAll { extended := w.extended } ((first :: frames).map w.id)
    (∀ o ∈ reported, o.anomaly = false) ∧
      (reported.map Observation.gap).sum =
        (missing first ((first :: frames).getLast (List.cons_ne_nil first frames))
          (first :: frames)).card
  strays : ∀ sent, w.Sends none sent →
    let reported := BlockIds.observeAll { extended := w.extended } (sent.map w.received)
    reported.map Observation.anomaly = sent.map Sighting.isStray ∧
      reported.filter (fun o => !o.anomaly) =
        BlockIds.observeAll { extended := w.extended } ((framesOf sent).map w.id)

theorem exact_of_understood (h : w.Understood) (hlater : ∀ m n, w.Next m n → m < n) : Exact w where
  gaps first frames hfirst hchain := by
    have hsends : w.Sends none ((first :: frames).map .frame) :=
      ⟨hfirst, sends_frames frames first hchain⟩
    have hreported := observeAll_eq_expected h _ none hsends
    have hstart : BlockIds.after w none = { extended := w.extended } := rfl
    rw [List.map_map, hstart] at hreported
    have hids : (first :: frames).map (w.received ∘ .frame) = (first :: frames).map w.id := rfl
    rw [hids] at hreported
    dsimp only
    rw [hreported]
    refine ⟨fun o ho => ?_, sum_gap_expected first frames (hchain.imp hlater)⟩
    have hanomaly := List.mem_map_of_mem (f := Observation.anomaly) ho
    rw [anomaly_expected, List.map_map] at hanomaly
    obtain ⟨n, -, hn⟩ := List.mem_map.mp hanomaly
    exact hn.symm
  strays sent hsends := by
    have hreported := observeAll_eq_expected h sent none hsends
    have hframes := observeAll_eq_expected h _ none (sends_framesOf sent none hsends)
    have hstart : BlockIds.after w none = { extended := w.extended } := rfl
    rw [List.map_map, hstart] at hframes
    rw [hstart] at hreported
    have hids : (framesOf sent).map (w.received ∘ .frame) = (framesOf sent).map w.id := rfl
    rw [hids] at hframes
    dsimp only
    rw [hreported, hframes]
    exact ⟨anomaly_expected sent none, filter_expected sent none⟩

end Sends

/-- Every list of numbers is sent by a camera of the new kind. -/
theorem exists_sends_wire64 (ids : List Nat) : ∀ latest,
    ∃ sent, wire64.Sends latest sent ∧ sent.map wire64.received = ids := by
  induction ids with
  | nil => exact fun _ => ⟨[], trivial, rfl⟩
  | cons id ids ih =>
    intro latest
    by_cases hstray : wire64.Stray latest id
    · obtain ⟨sent, hsends, hids⟩ := ih latest
      exact ⟨.stray id :: sent, ⟨hstray, hsends⟩, congrArg (id :: ·) hids⟩
    · obtain ⟨sent, hsends, hids⟩ := ih (some id)
      refine ⟨.frame id :: sent, ⟨?_, hsends⟩, congrArg (id :: ·) hids⟩
      obtain ⟨hzero, hbehind⟩ := not_or.mp hstray
      cases latest with
      | none => exact hzero
      | some m => exact Nat.lt_of_not_le fun hle => hbehind ⟨m, rfl, hle⟩

/-- **Block ids.**  `BlockIds` is exact for frames that go at most 32768 on, numbered on the cycle of
65535, with nothing, too large numbers, duplicates and numbers at most 32766 behind between them; and
in the mode of 64 bits for all increasing numbers, with any others between them: there every list of
numbers is of this form. -/
theorem block_ids : Exact wire16 ∧ Exact wire64 ∧
    ∀ ids, ∃ sent, wire64.Sends none sent ∧ sent.map wire64.received = ids :=
  ⟨exact_of_understood understood_wire16 fun _ _ h => h.1,
    exact_of_understood understood_wire64 fun _ _ h => h, fun ids => exists_sends_wire64 ids none⟩

end Ebus
end AmigaDrivers
