import Mathlib.Data.UInt

/-!
# Numbers in machine words

A computation in 64-bit words is the one in natural numbers as long as no sum passes the largest
word and no difference is negative.

* `Is`: the word stands for the number.
* `Is.add`, `Is.sub`, `Is.min`, `Is.max`: operations that do not wrap.
* `Is.lt_iff`, `Is.le_iff`, `Is.eq_zero_iff`: comparisons.
-/

namespace MachineWord

/-- The word stands for the number. -/
def Is (w : UInt64) (n : Nat) : Prop := w.toNat = n

variable {w v : UInt64} {m n : Nat}

theorem is_ofNat (h : n < 2 ^ 64) : Is (.ofNat n) n := UInt64.toNat_ofNat_of_lt' h

theorem Is.lt (hw : Is w n) : n < 2 ^ 64 := hw ▸ w.toNat_lt

/-- A sum that does not wrap. -/
theorem Is.add (hw : Is w m) (hv : Is v n) (h : m + n < 2 ^ 64) : Is (w + v) (m + n) := by
  unfold Is at *
  rw [UInt64.toNat_add, hw, hv, Nat.mod_eq_of_lt h]

theorem Is.le_iff (hw : Is w m) (hv : Is v n) : w ≤ v ↔ m ≤ n := by
  unfold Is at *
  rw [UInt64.le_iff_toNat_le, hw, hv]

theorem Is.lt_iff (hw : Is w m) (hv : Is v n) : w < v ↔ m < n := by
  unfold Is at *
  rw [UInt64.lt_iff_toNat_lt, hw, hv]

theorem Is.eq_zero_iff (hw : Is w n) : w = 0 ↔ n = 0 := by
  unfold Is at hw
  rw [← UInt64.toNat_inj, hw]
  rfl

/-- A difference that does not wrap. -/
theorem Is.sub (hw : Is w m) (hv : Is v n) (h : n ≤ m) : Is (w - v) (m - n) := by
  have hle : v ≤ w := (hv.le_iff hw).mpr h
  unfold Is at *
  rw [UInt64.toNat_sub_of_le _ _ hle, hw, hv]

theorem Is.min (hw : Is w m) (hv : Is v n) : Is (Min.min w v) (Min.min m n) := by
  have hwords : Min.min w v = if w ≤ v then w else v := rfl
  rw [hwords, Nat.min_def]
  by_cases hle : m ≤ n
  · rw [if_pos ((hw.le_iff hv).mpr hle), if_pos hle]
    exact hw
  · rw [if_neg (mt (hw.le_iff hv).mp hle), if_neg hle]
    exact hv

theorem is_toUInt64 (w : UInt32) : Is w.toUInt64 w.toNat := UInt32.toNat_toUInt64 w

theorem Is.max (hw : Is w m) (hv : Is v n) : Is (Max.max w v) (Max.max m n) := by
  have hwords : Max.max w v = if w ≤ v then v else w := rfl
  rw [hwords, Nat.max_def]
  by_cases hle : m ≤ n
  · rw [if_pos ((hw.le_iff hv).mpr hle), if_pos hle]
    exact hv
  · rw [if_neg (mt (hw.le_iff hv).mp hle), if_neg hle]
    exact hw

end MachineWord
