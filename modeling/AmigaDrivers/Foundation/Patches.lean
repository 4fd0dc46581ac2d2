import Mathlib.Data.List.Sort

/-!
# Patches of a text

Some spans of a list are replaced.  When each is replaced by itself, and the last one first, the
places of the others do not move.

* `Patch.splice`: one replacement.
* `Patched`: what replacing some spans, and nothing else, means.
* `patched_foldl_splice`: the spans one after another, the last one first.
-/

namespace Patches

variable {α : Type}

/-- A span, and what is to take its place. -/
structure Patch (α : Type) where
  start : Nat
  stop : Nat
  new : List α
  deriving DecidableEq, Repr

/-- The span is replaced. -/
def Patch.splice (l : List α) (p : Patch α) : List α := l.take p.start ++ p.new ++ l.drop p.stop

/-- Some spans are replaced, and what stands before, between and behind them stays.  So many
elements stood before the list. -/
inductive Patched : Nat → List α → List (Patch α) → List α → Prop
  | nil (i : Nat) (l : List α) : Patched i l [] l
  | cons {i : Nat} {kept old rest rest' : List α} {p : Patch α} {ps : List (Patch α)}
      (start : p.start = i + kept.length) (stop : p.stop = p.start + old.length)
      (tail : Patched p.stop rest ps rest') :
      Patched i (kept ++ (old ++ rest)) (p :: ps) (kept ++ (p.new ++ rest'))

/-- What is in the new list was in the old one, or is new. -/
theorem Patched.mem {i : Nat} {l l' : List α} {ps : List (Patch α)} (h : Patched i l ps l') {a : α}
    (ha : a ∈ l') : a ∈ l ∨ ∃ p ∈ ps, a ∈ p.new := by
  induction h with
  | nil i l => exact .inl ha
  | @cons i kept old rest rest' p ps start stop tail ih =>
    rw [List.mem_append, List.mem_append] at ha ⊢
    rcases ha with ha | ha | ha
    · exact .inl (.inl ha)
    · exact .inr ⟨p, List.mem_cons_self, ha⟩
    · rcases ih ha with ha | ⟨q, hq, ha⟩
      · exact .inl (.inr (.inr ha))
      · exact .inr ⟨q, List.mem_cons_of_mem _ hq, ha⟩

/-- A span that is not empty and lies in a list of this length. -/
structure Patch.Within (n : Nat) (p : Patch α) : Prop where
  nonempty : p.start < p.stop
  stop_le : p.stop ≤ n

/-- One span ends before another begins. -/
def Patch.Before (p q : Patch α) : Prop := p.stop ≤ q.start

/-- The spans, in their order, behind a part of the list that none of them touches. -/
theorem patched_of_inOrder {l : List α} {ps : List (Patch α)} {k : Nat} (hk : k ≤ l.length)
    (hstart : ∀ p ∈ ps, k ≤ p.start) (hwithin : ∀ p ∈ ps, p.Within l.length)
    (horder : ps.Pairwise Patch.Before) :
    ∃ rest, ps.foldr (fun p l => p.splice l) l = l.take k ++ rest ∧
      Patched k (l.drop k) ps rest := by
  induction ps generalizing k with
  | nil => exact ⟨l.drop k, (List.take_append_drop k l).symm, .nil k _⟩
  | cons p ps ih =>
    obtain ⟨hnonempty, hstop⟩ := hwithin p List.mem_cons_self
    have hkp : k ≤ p.start := hstart p List.mem_cons_self
    obtain ⟨hbefore, horder⟩ := List.pairwise_cons.mp horder
    obtain ⟨rest, hrest, hpatched⟩ := ih hstop hbefore
      (fun q hq => hwithin q (List.mem_cons_of_mem _ hq)) horder
    have hlength : (l.take p.stop).length = p.stop := List.length_take_of_le hstop
    have htake : (l.take p.stop ++ rest).take p.start =
        l.take k ++ (l.drop k).take (p.start - k) := by
      rw [List.take_append_of_le_length (hlength.symm ▸ hnonempty.le), List.take_take,
        min_eq_left hnonempty.le, ← List.take_add, Nat.add_sub_cancel' hkp]
    have hdrop : (l.take p.stop ++ rest).drop p.stop = rest := List.drop_left' hlength
    have hcut : l.drop k = (l.drop k).take (p.start - k) ++
        ((l.drop p.start).take (p.stop - p.start) ++ l.drop p.stop) := by
      have hmiddle : (l.drop p.start).take (p.stop - p.start) ++ l.drop p.stop =
          l.drop p.start := by
        conv_rhs => rw [← List.take_append_drop (p.stop - p.start) (l.drop p.start)]
        rw [List.drop_drop, Nat.add_sub_cancel' hnonempty.le]
      rw [hmiddle]
      conv_lhs => rw [← List.take_append_drop (p.start - k) (l.drop k)]
      rw [List.drop_drop, Nat.add_sub_cancel' hkp]
    have hkept : p.start = k + ((l.drop k).take (p.start - k)).length := by
      rw [List.length_take, List.length_drop]
      omega
    have hold : p.stop = p.start + ((l.drop p.start).take (p.stop - p.start)).length := by
      rw [List.length_take, List.length_drop]
      omega
    generalize (l.drop k).take (p.start - k) = kept at hcut htake hkept
    refine ⟨kept ++ (p.new ++ rest), ?_, ?_⟩
    · show p.splice (ps.foldr (fun p l => p.splice l) l) = _
      rw [hrest, Patch.splice, htake, hdrop, List.append_assoc, List.append_assoc]
    · rw [hcut]
      exact .cons hkept hold hpatched

/-- **One span after another, the last one first**: of spans that do not meet, sorted by where they
begin, each is replaced, and nothing else is. -/
theorem patched_foldl_splice {l : List α} {ps : List (Patch α)} {le : Patch α → Patch α → Bool}
    (hle : ∀ p q, le p q = true → q.start ≤ p.start)
    (htrans : ∀ p q r, le p q = true → le q r = true → le p r = true)
    (htotal : ∀ p q, (le p q || le q p) = true) (hwithin : ∀ p ∈ ps, p.Within l.length)
    (hapart : ps.Pairwise fun p q => p.Before q ∨ q.Before p) :
    Patched 0 l (ps.mergeSort le).reverse ((ps.mergeSort le).foldl Patch.splice l) := by
  have hperm := List.mergeSort_perm ps le
  have hmem : ∀ p ∈ (ps.mergeSort le).reverse, p.Within l.length := fun p hp =>
    hwithin p (hperm.mem_iff.mp (List.mem_reverse.mp hp))
  have hsorted : (ps.mergeSort le).Pairwise fun p q => q.start ≤ p.start :=
    (List.pairwise_mergeSort htrans htotal ps).imp fun h => hle _ _ h
  have hboth : (ps.mergeSort le).Pairwise fun p q => p.Before q ∨ q.Before p :=
    hperm.pairwise_iff (fun h => h.symm) |>.mpr hapart
  have horder : (ps.mergeSort le).reverse.Pairwise Patch.Before := by
    rw [List.pairwise_reverse]
    refine (hsorted.and hboth).imp_of_mem fun {p q} hp _ h => ?_
    rcases h.2 with hbefore | hbefore
    · -- the span that begins later cannot end first
      have hnonempty := (hmem p (List.mem_reverse.mpr hp)).nonempty
      have hmeet : p.stop ≤ q.start := hbefore
      have hlater := h.1
      omega
    · exact hbefore
  obtain ⟨rest, hrest, hpatched⟩ := patched_of_inOrder (Nat.zero_le _) (fun _ _ => Nat.zero_le _)
    hmem horder
  rw [List.foldr_reverse, List.take_zero, List.nil_append] at hrest
  rw [List.drop_zero] at hpatched
  rwa [hrest]

end Patches
