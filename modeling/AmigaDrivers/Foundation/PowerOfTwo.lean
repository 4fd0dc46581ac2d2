import Mathlib.Data.Nat.Size
import Mathlib.Data.UInt

/-!
# Powers of two

Spreading the bits of a number downwards fills it up to its highest bit, which is one below a
power of two.  Numbers that run freely and are reduced by such a mask name the places of a ring.

* `Spreads.double`, `Spreads.eq`: each round doubles how far the bits reach, and at the end the
  number is full.
* `toNat_and_mask`: a mask takes the remainder.
* `mod_ne_mod`: numbers closer together than the size of the ring name different places.
-/

namespace PowerOfTwo

/-- Every bit of `x` says whether `m` has a bit among the `w` from there on. -/
def Spreads (m w x : Nat) : Prop :=
  ∀ i, x.testBit i = true ↔ ∃ j, i ≤ j ∧ j < i + w ∧ m.testBit j = true

theorem spreads_self (m : Nat) : Spreads m 1 m := by
  intro i
  constructor
  · exact fun h => ⟨i, le_rfl, Nat.lt_succ_self i, h⟩
  · rintro ⟨j, hle, hlt, h⟩
    rwa [Nat.le_antisymm (Nat.lt_succ_iff.mp hlt) hle] at h

/-- One round. -/
theorem Spreads.double {m w x : Nat} (h : Spreads m w x) :
    Spreads m (w + w) (x ||| (x >>> w)) := by
  intro i
  rw [Nat.testBit_or, Nat.testBit_shiftRight, Bool.or_eq_true, h, h]
  constructor
  · rintro (⟨j, hle, hlt, hbit⟩ | ⟨j, hle, hlt, hbit⟩)
    · exact ⟨j, hle, by omega, hbit⟩
    · exact ⟨j, by omega, by omega, hbit⟩
  · rintro ⟨j, hle, hlt, hbit⟩
    obtain hnear | hfar := Nat.lt_or_ge j (i + w)
    · exact .inl ⟨j, hle, hnear, hbit⟩
    · exact .inr ⟨j, by omega, by omega, hbit⟩

/-- Bits that reach all the way down fill the number. -/
theorem Spreads.eq {m w x : Nat} (h : Spreads m w x) (hm : m < 2 ^ w) : x = 2 ^ m.size - 1 := by
  apply Nat.eq_of_testBit_eq
  intro i
  rw [Bool.eq_iff_iff, h, Nat.testBit_two_pow_sub_one, decide_eq_true_iff, Nat.lt_size]
  constructor
  · rintro ⟨j, hle, -, hbit⟩
    exact (Nat.pow_le_pow_right (by decide) hle).trans (Nat.ge_two_pow_of_testBit hbit)
  · intro hle
    obtain ⟨j, hij, hbit⟩ := Nat.exists_ge_and_testBit_of_ge_two_pow hle
    have hj : j < w := (Nat.pow_lt_pow_iff_right (by decide)).mp
      ((Nat.ge_two_pow_of_testBit hbit).trans_lt hm)
    exact ⟨j, hij, by omega, hbit⟩

/-- A mask takes the remainder. -/
theorem toNat_and_mask {mask : UInt64} {k : Nat} (hmask : mask.toNat = 2 ^ k - 1) (i : UInt64) :
    (i &&& mask).toNat = i.toNat % 2 ^ k := by
  rw [UInt64.toNat_and, hmask, Nat.and_two_pow_sub_one_eq_mod]

/-- Numbers closer together than the size of the ring name different places. -/
theorem mod_ne_mod {i j n : Nat} (hij : i < j) (hn : j < i + n) : i % n ≠ j % n := by
  intro h
  have hdvd : n ∣ j - i := (Nat.modEq_iff_dvd' hij.le).mp h
  have hle := Nat.le_of_dvd (by omega) hdvd
  omega

end PowerOfTwo
