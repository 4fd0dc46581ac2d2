import Mathlib.Data.Nat.Bitwise

/-!
# Cyclic redundancy checks, bit by bit

A register is shifted down once for each bit of a message, and where the bit that drops out differs
from the bit of the message, a polynomial is added.  Bits come least significant first, and so do
the coefficients of the polynomial.

* `BitSerial.shiftIn`, `BitSerial.run`: the register.
* `BitSerial.checksum`: inverted before and after.
* `BitSerial.run_append`: a message may come in parts.
-/

namespace BitSerial

/-- One bit of the message. -/
def shiftIn (poly register : Nat) (bit : Bool) : Nat :=
  (register >>> 1) ^^^ (if register.testBit 0 != bit then poly else 0)

/-- The lowest bits of a number, the least significant first. -/
def bits (count n : Nat) : List Bool := (List.range count).map n.testBit

/-- The register after a message. -/
def run (poly register : Nat) (message : List UInt8) : Nat :=
  (message.flatMap fun b => bits 8 b.toNat).foldl (shiftIn poly) register

/-- The checksum of a message: the register starts with all bits set, and is inverted in the end. -/
def checksum (poly ones : Nat) (message : List UInt8) : Nat := ones ^^^ run poly ones message

variable {poly register : Nat}

theorem bits_succ (count n : Nat) : bits (count + 1) n = n.testBit 0 :: bits count (n >>> 1) := by
  unfold bits
  rw [List.range_succ_eq_map, List.map_cons, List.map_map]
  congr 1
  refine List.map_congr_left fun i _ => ?_
  rw [Function.comp_apply, Nat.testBit_shiftRight, Nat.add_comm]

@[simp] theorem run_nil : run poly register [] = register := rfl

theorem run_cons (b : UInt8) (message : List UInt8) :
    run poly register (b :: message) =
      run poly ((bits 8 b.toNat).foldl (shiftIn poly) register) message := by
  unfold run
  rw [List.flatMap_cons, List.foldl_append]

/-- A message may come in parts. -/
theorem run_append (first second : List UInt8) :
    run poly register (first ++ second) = run poly (run poly register first) second := by
  unfold run
  rw [List.flatMap_append, List.foldl_append]

end BitSerial
