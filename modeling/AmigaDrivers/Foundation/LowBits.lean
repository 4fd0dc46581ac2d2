import Mathlib.Data.Nat.Bitwise

/-!
# Words split at a bit

A word is split at a bit into an upper and a lower part by a mask that is ones followed by zeros.
What masks do to the bits is division by a power of two and its remainder.

* `Splits`: the mask that splits a word at a bit.
* `exists_splits_iff`: the test for such a mask.
* `Splits.and_eq_and_iff`, `Splits.and_eq_self_iff`, `Splits.or_not_eq_self_iff`: equal upper parts,
  an empty and a full lower part.
-/

namespace LowBits

variable {w k : Nat} {mask a b : BitVec w}

/-- The bits of the mask from `k` on are set, and those below are not. -/
structure Splits (mask : BitVec w) (k : Nat) : Prop where
  inside : k ≤ w
  bit : ∀ i < w, mask.getLsbD i = decide (k ≤ i)

theorem splits_iff_not : Splits mask k ↔ k ≤ w ∧ (~~~mask).toNat = 2 ^ k - 1 := by
  constructor
  · intro h
    refine ⟨h.inside, Nat.eq_of_testBit_eq fun i => ?_⟩
    rw [Nat.testBit_two_pow_sub_one, BitVec.testBit_toNat, BitVec.getLsbD_not]
    by_cases hi : i < w
    · rw [h.bit i hi]
      by_cases hk : k ≤ i
      · simp [hi, hk, Nat.not_lt.mpr hk]
      · simp [hi, hk, Nat.lt_of_not_le hk]
    · have hk : ¬i < k := fun hlt => hi (Nat.lt_of_lt_of_le hlt h.inside)
      simp [hi, hk]
  · rintro ⟨hk, h⟩
    refine ⟨hk, fun i hi => ?_⟩
    have hbit := congrArg (Nat.testBit · i) h
    simp only [Nat.testBit_two_pow_sub_one, BitVec.testBit_toNat, BitVec.getLsbD_not, hi,
      decide_true, Bool.true_and] at hbit
    rw [← Bool.not_not (mask.getLsbD i), hbit, ← decide_not]
    exact decide_eq_decide.mpr Nat.not_lt

/-- The mask as a number. -/
theorem splits_iff_toNat : Splits mask k ↔ k ≤ w ∧ mask.toNat = 2 ^ w - 2 ^ k := by
  have hmask := mask.isLt
  have hpos := Nat.two_pow_pos k
  rw [splits_iff_not, BitVec.toNat_not]
  refine and_congr_right fun hk => ?_
  have hle : 2 ^ k ≤ 2 ^ w := Nat.pow_le_pow_right (by decide) hk
  omega

theorem Splits.unique {l : Nat} (h : Splits mask k) (h' : Splits mask l) : k = l := by
  have hk := (splits_iff_not.mp h).2
  have hl := (splits_iff_not.mp h').2
  have hpos := Nat.two_pow_pos k
  have hpos' := Nat.two_pow_pos l
  exact Nat.pow_right_injective (Nat.le_refl 2) (show 2 ^ k = 2 ^ l by omega)

/-- Inverting turns the mask into one less than a power of two. -/
theorem exists_splits_iff : ~~~mask &&& (~~~mask + 1) = 0 ↔ ∃ k, Splits mask k := by
  have hlt := (~~~mask).isLt
  have hone : (~~~mask + 1).toNat = ((~~~mask).toNat + 1) % 2 ^ w := by
    rw [BitVec.toNat_add]
    exact Nat.add_mod_mod _ _ _
  have hzero : ~~~mask &&& (~~~mask + 1) = 0 ↔
      (~~~mask).toNat &&& ((~~~mask).toNat + 1) % 2 ^ w = 0 := by
    rw [← hone, ← BitVec.toNat_and]
    exact ⟨fun h => by rw [h]; rfl, fun h => BitVec.eq_of_toNat_eq h⟩
  simp only [hzero, splits_iff_not]
  generalize (~~~mask).toNat = n at hlt
  obtain hroom | hfull := Nat.lt_or_ge (n + 1) (2 ^ w)
  · have hpower := Nat.and_sub_one_eq_zero_iff_isPowerOfTwo (Nat.succ_ne_zero n)
    rw [Nat.mod_eq_of_lt hroom, Nat.and_comm]
    refine hpower.trans ⟨fun ⟨k, hk⟩ => ⟨k, ?_, by omega⟩, fun ⟨k, _, hk⟩ => ⟨k, ?_⟩⟩
    · have hle : 2 ^ k ≤ 2 ^ w := by omega
      exact (Nat.pow_le_pow_iff_right Nat.one_lt_two).mp hle
    · have hpos := Nat.two_pow_pos k
      omega
  · have hend : n + 1 = 2 ^ w := Nat.le_antisymm hlt hfull
    rw [hend, Nat.mod_self, Nat.and_zero]
    exact iff_of_true rfl ⟨w, Nat.le_refl w, by omega⟩

/-- Under the mask, words agree when their upper parts do. -/
theorem Splits.and_eq_and_iff (h : Splits mask k) :
    a &&& mask = b &&& mask ↔ a.toNat / 2 ^ k = b.toNat / 2 ^ k := by
  constructor
  · intro heq
    refine Nat.eq_of_testBit_eq fun i => ?_
    rw [Nat.testBit_div_two_pow, Nat.testBit_div_two_pow, BitVec.testBit_toNat,
      BitVec.testBit_toNat]
    by_cases hi : i + k < w
    · have hbit := congrArg (BitVec.getLsbD · (i + k)) heq
      simpa [h.bit _ hi] using hbit
    · rw [BitVec.getLsbD_of_ge _ _ (Nat.le_of_not_lt hi), BitVec.getLsbD_of_ge _ _
        (Nat.le_of_not_lt hi)]
  · intro heq
    refine BitVec.eq_of_getLsbD_eq fun i hi => ?_
    rw [BitVec.getLsbD_and, BitVec.getLsbD_and, h.bit i hi]
    by_cases hk : k ≤ i
    · have hbit := congrArg (Nat.testBit · (i - k)) heq
      simp only [Nat.testBit_div_two_pow, BitVec.testBit_toNat, Nat.sub_add_cancel hk] at hbit
      rw [hbit]
    · simp [hk]

theorem rest_eq_iff {n r : Nat} (hr : r < 2 ^ k) :
    n % 2 ^ k = r ↔ ∀ i < k, n.testBit i = r.testBit i := by
  constructor
  · rintro rfl i hi
    rw [Nat.testBit_mod_two_pow, decide_eq_true hi, Bool.true_and]
  · intro h
    refine Nat.eq_of_testBit_eq fun i => ?_
    rw [Nat.testBit_mod_two_pow]
    by_cases hi : i < k
    · rw [h i hi, decide_eq_true hi, Bool.true_and]
    · have hle : 2 ^ k ≤ 2 ^ i := Nat.pow_le_pow_right (by decide) (Nat.le_of_not_lt hi)
      rw [decide_eq_false hi, Bool.false_and,
        Nat.testBit_lt_two_pow (Nat.lt_of_lt_of_le hr hle)]

/-- The mask leaves a word alone when its lower part is empty. -/
theorem Splits.and_eq_self_iff (h : Splits mask k) : a &&& mask = a ↔ a.toNat % 2 ^ k = 0 := by
  rw [rest_eq_iff (Nat.two_pow_pos k)]
  constructor
  · intro heq i hi
    have hbit := congrArg (BitVec.getLsbD · i) heq
    simp only [BitVec.getLsbD_and, h.bit i (Nat.lt_of_lt_of_le hi h.inside), Nat.not_le.mpr hi,
      decide_false, Bool.and_false] at hbit
    rw [BitVec.testBit_toNat, ← hbit, Nat.zero_testBit]
  · intro hrest
    refine BitVec.eq_of_getLsbD_eq fun i hi => ?_
    rw [BitVec.getLsbD_and, h.bit i hi]
    by_cases hk : k ≤ i
    · rw [decide_eq_true hk, Bool.and_true]
    · have hbit := hrest i (Nat.lt_of_not_le hk)
      rw [BitVec.testBit_toNat, Nat.zero_testBit] at hbit
      rw [hbit, Bool.false_and]

/-- The complement adds nothing when the lower part is full. -/
theorem Splits.or_not_eq_self_iff (h : Splits mask k) :
    a ||| ~~~mask = a ↔ a.toNat % 2 ^ k = 2 ^ k - 1 := by
  have hpos := Nat.two_pow_pos k
  rw [rest_eq_iff (Nat.sub_lt hpos Nat.one_pos)]
  constructor
  · intro heq i hi
    have hin := Nat.lt_of_lt_of_le hi h.inside
    have hbit := congrArg (BitVec.getLsbD · i) heq
    simp only [BitVec.getLsbD_or, BitVec.getLsbD_not, h.bit i hin, hin, Nat.not_le.mpr hi,
      decide_true, decide_false, Bool.not_false, Bool.and_true, Bool.or_true] at hbit
    rw [BitVec.testBit_toNat, ← hbit, Nat.testBit_two_pow_sub_one, decide_eq_true hi]
  · intro hrest
    refine BitVec.eq_of_getLsbD_eq fun i hi => ?_
    rw [BitVec.getLsbD_or, BitVec.getLsbD_not, h.bit i hi, decide_eq_true hi, Bool.true_and]
    by_cases hk : k ≤ i
    · rw [decide_eq_true hk, Bool.not_true, Bool.or_false]
    · have hbit := hrest i (Nat.lt_of_not_le hk)
      rw [BitVec.testBit_toNat, Nat.testBit_two_pow_sub_one,
        decide_eq_true (Nat.lt_of_not_le hk)] at hbit
      rw [hbit, Bool.true_or]

end LowBits
