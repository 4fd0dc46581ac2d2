import AmigaDrivers.Foundation.BitSerial
import Mathlib.Data.Nat.Bitwise
import Mathlib.Tactic.SplitIfs
import Mathlib.Logic.Function.Iterate

/-!
# The checksum

`raw::Crc32c` computes CRC-32C with the instructions of the processor where it has them and with
a table where it has not; `crc32c` of the reader is a third version, in unbounded integers.

* `hardware_eq_software`: the instructions and the table agree.
* `toNat_crc32c`: so do the recorder and the reader.
* `crc32c_definition`: **all of them compute CRC-32C**, and the reader may go on from a checksum.
-/

namespace AmigaDrivers
namespace Ebus

/-! ## The recorder -/

/-- One bit of the division. -/
def crcBit (crc : UInt32) : UInt32 :=
  (crc >>> 1) ^^^ (if crc &&& 1 ≠ 0 then 0x82F63B78 else 0)

/-- The table of `Software`. -/
def crcTable (i : UInt32) : UInt32 := crcBit^[8] i

/-- `Software`. -/
def software (data : List UInt8) : UInt32 :=
  ~~~data.foldl (fun crc b => crcTable ((crc ^^^ b.toUInt32) &&& 255) ^^^ (crc >>> 8)) 0xFFFFFFFF

/-- The `crc32` instruction on a byte. -/
def mmCrc32U8 (crc : UInt32) (b : UInt8) : UInt32 := crcBit^[8] (crc ^^^ b.toUInt32)

/-- The `crc32` instruction on eight bytes in memory order. -/
def mmCrc32U64 (crc : UInt32) (value : List UInt8) : UInt32 := value.foldl mmCrc32U8 crc

/-- The loops of `Hardware`. -/
def hardwareLoop (crc : UInt32) : List UInt8 → UInt32
  | b₀ :: b₁ :: b₂ :: b₃ :: b₄ :: b₅ :: b₆ :: b₇ :: data =>
    hardwareLoop (mmCrc32U64 crc [b₀, b₁, b₂, b₃, b₄, b₅, b₆, b₇]) data
  | data => data.foldl mmCrc32U8 crc

/-- `Hardware`. -/
def hardware (data : List UInt8) : UInt32 := ~~~hardwareLoop 0xFFFFFFFF data

/-- `Crc32c`. -/
def crc32c (sse42 : Bool) (data : List UInt8) : UInt32 :=
  if sse42 then hardware data else software data

/-! ## The reader -/

namespace Reader

/-- One entry of `_crc_table`, after some of its eight rounds. -/
def crcRound (value : Nat) : Nat := (value >>> 1) ^^^ (if value &&& 1 ≠ 0 then 0x82F63B78 else 0)

/-- `_CRC_TABLE`. -/
def crcTable (i : Nat) : Nat := crcRound^[8] i

/-- The loop of `crc32c` on one byte. -/
def crcByte (value : Nat) (b : UInt8) : Nat :=
  crcTable ((value ^^^ b.toNat) &&& 255) ^^^ (value >>> 8)

/-- `crc32c`, with the seed of its callers. -/
def crc32c (data : List UInt8) : Nat := 0xFFFFFFFF - data.foldl crcByte 0xFFFFFFFF % 2 ^ 32

/-- `crc32c`, with any seed. -/
def crc32cFrom (data : List UInt8) (seed : Nat) : Nat :=
  0xFFFFFFFF - data.foldl crcByte (0xFFFFFFFF - seed % 2 ^ 32) % 2 ^ 32

end Reader

/-! ## They agree -/

theorem toNat_crcBit (crc : UInt32) : (crcBit crc).toNat = Reader.crcRound crc.toNat := by
  have hbit : crc &&& 1 ≠ 0 ↔ crc.toNat &&& 1 ≠ 0 := by
    rw [ne_eq, ne_eq, ← UInt32.toNat_inj, UInt32.toNat_and]
    rfl
  unfold crcBit Reader.crcRound
  rw [UInt32.toNat_xor, UInt32.toNat_shiftRight]
  by_cases h : crc &&& 1 ≠ 0
  · rw [if_pos h, if_pos (hbit.mp h)]
    rfl
  · rw [if_neg h, if_neg (mt hbit.mpr h)]
    rfl

theorem toNat_iterate_crcBit (n : Nat) (crc : UInt32) :
    (crcBit^[n] crc).toNat = Reader.crcRound^[n] crc.toNat := by
  induction n generalizing crc with
  | zero => rfl
  | succ n ih => rw [Function.iterate_succ_apply, Function.iterate_succ_apply, ih, toNat_crcBit]

/-- The polynomial, where the lowest bit is set. -/
theorem crcRound_eq (v : Nat) :
    Reader.crcRound v = (v >>> 1) ^^^ (if v % 2 = 1 then 0x82F63B78 else 0) := by
  unfold Reader.crcRound
  rw [Nat.and_one_is_mod]
  have hbit : v % 2 ≠ 0 ↔ v % 2 = 1 := Nat.mod_two_ne_zero
  by_cases h : v % 2 = 1
  · rw [if_pos h, if_pos (hbit.mpr h)]
  · rw [if_neg h, if_neg (mt hbit.mp h)]

/-- The rounds are linear. -/
theorem crcRound_xor (v w : Nat) :
    Reader.crcRound (v ^^^ w) = Reader.crcRound v ^^^ Reader.crcRound w := by
  have hmod : (v ^^^ w) % 2 = 1 ↔ (v + w) % 2 = 1 := by rw [Nat.xor_mod_two_eq]
  rw [crcRound_eq, crcRound_eq, crcRound_eq, Nat.shiftRight_xor_distrib]
  by_cases hv : v % 2 = 1
  · by_cases hw : w % 2 = 1
    · rw [if_pos hv, if_pos hw, if_neg (mt hmod.mp (by omega)), Nat.xor_zero, Nat.xor_assoc,
        Nat.xor_comm 0x82F63B78, Nat.xor_assoc, Nat.xor_self, Nat.xor_zero]
    · rw [if_pos hv, if_neg hw, if_pos (hmod.mpr (by omega)), Nat.xor_zero, Nat.xor_assoc,
        Nat.xor_assoc, Nat.xor_comm (w >>> 1)]
  · by_cases hw : w % 2 = 1
    · rw [if_neg hv, if_pos hw, if_pos (hmod.mpr (by omega)), Nat.xor_zero, Nat.xor_assoc]
    · rw [if_neg hv, if_neg hw, if_neg (mt hmod.mp (by omega)), Nat.xor_zero, Nat.xor_zero,
        Nat.xor_zero]

theorem iterate_crcRound_xor (n v w : Nat) :
    Reader.crcRound^[n] (v ^^^ w) = Reader.crcRound^[n] v ^^^ Reader.crcRound^[n] w := by
  induction n generalizing v w with
  | zero => rfl
  | succ n ih =>
    rw [Function.iterate_succ_apply, Function.iterate_succ_apply, Function.iterate_succ_apply,
      crcRound_xor, ih]

/-- The rounds shift a number whose lowest bits are not set. -/
theorem iterate_crcRound_shiftLeft (n v : Nat) : Reader.crcRound^[n] (v <<< n) = v := by
  induction n with
  | zero => rfl
  | succ n ih =>
    have heven : (v <<< (n + 1)) % 2 ≠ 1 := by
      rw [Nat.shiftLeft_succ]
      omega
    have hround : Reader.crcRound (v <<< (n + 1)) = v <<< n := by
      rw [crcRound_eq, if_neg heven, Nat.xor_zero, Nat.shiftLeft_succ, Nat.shiftRight_one]
      omega
    rw [Function.iterate_succ_apply, hround, ih]

/-- A number is its lowest byte and the rest. -/
theorem low_xor_high (v : Nat) : (v &&& 255) ^^^ ((v >>> 8) <<< 8) = v := by
  apply Nat.eq_of_testBit_eq
  intro i
  have hlow : Nat.testBit 255 i = decide (i < 8) := Nat.testBit_two_pow_sub_one 8 i
  rw [Nat.testBit_xor, Nat.testBit_and, hlow, Nat.testBit_shiftLeft, Nat.testBit_shiftRight]
  by_cases hi : i < 8
  · have hi' : ¬i ≥ 8 := by omega
    simp only [hi, hi', decide_true, decide_false, Bool.and_true, Bool.false_and, Bool.xor_false]
  · have hi' : i ≥ 8 := by omega
    have hsum : 8 + (i - 8) = i := by omega
    simp only [hi, hi', hsum, decide_true, decide_false, Bool.and_false, Bool.true_and,
      Bool.false_xor]

/-- Eight rounds are a look at the table. -/
theorem crcByte_eq (value : Nat) (b : UInt8) :
    Reader.crcByte value b = Reader.crcRound^[8] (value ^^^ b.toNat) := by
  have hhigh : (value ^^^ b.toNat) >>> 8 = value >>> 8 := by
    have hb : b.toNat >>> 8 = 0 := by
      have hlt := b.toNat_lt
      rw [Nat.shiftRight_eq_div_pow]
      omega
    rw [Nat.shiftRight_xor_distrib, hb, Nat.xor_zero]
  rw [← low_xor_high (value ^^^ b.toNat), iterate_crcRound_xor, iterate_crcRound_shiftLeft, hhigh]
  rfl

theorem toNat_mmCrc32U8 (crc : UInt32) (b : UInt8) :
    (mmCrc32U8 crc b).toNat = Reader.crcByte crc.toNat b := by
  unfold mmCrc32U8
  rw [toNat_iterate_crcBit, crcByte_eq, UInt32.toNat_xor, UInt8.toNat_toUInt32]

theorem toNat_foldl_mmCrc32U8 (crc : UInt32) (data : List UInt8) :
    (data.foldl mmCrc32U8 crc).toNat = data.foldl Reader.crcByte crc.toNat := by
  induction data generalizing crc with
  | nil => rfl
  | cons b data ih => rw [List.foldl_cons, List.foldl_cons, ih, toNat_mmCrc32U8]

/-- Eight bytes at once are eight bytes. -/
theorem hardwareLoop_eq (crc : UInt32) (data : List UInt8) :
    hardwareLoop crc data = data.foldl mmCrc32U8 crc := by
  induction crc, data using hardwareLoop.induct with
  | case1 crc b₀ b₁ b₂ b₃ b₄ b₅ b₆ b₇ data ih =>
    rw [hardwareLoop, ih, mmCrc32U64, ← List.foldl_append]
    rfl
  | case2 crc data hshort => rw [hardwareLoop.eq_2 _ _ hshort]

theorem toNat_foldl_software (crc : UInt32) (data : List UInt8) :
    (data.foldl (fun crc b => crcTable ((crc ^^^ b.toUInt32) &&& 255) ^^^ (crc >>> 8)) crc).toNat =
      data.foldl Reader.crcByte crc.toNat := by
  induction data generalizing crc with
  | nil => rfl
  | cons b data ih =>
    have hbyte : (crcTable ((crc ^^^ b.toUInt32) &&& 255) ^^^ (crc >>> 8)).toNat =
        Reader.crcByte crc.toNat b := by
      unfold crcTable
      rw [UInt32.toNat_xor, toNat_iterate_crcBit, UInt32.toNat_and, UInt32.toNat_xor,
        UInt8.toNat_toUInt32, UInt32.toNat_shiftRight]
      rfl
    rw [List.foldl_cons, List.foldl_cons, ih, hbyte]

/-- The instructions and the table agree. -/
theorem hardware_eq_software (data : List UInt8) : hardware data = software data := by
  unfold hardware software
  rw [hardwareLoop_eq]
  congr 1
  rw [← UInt32.toNat_inj, toNat_foldl_mmCrc32U8, toNat_foldl_software]

theorem toNat_software (data : List UInt8) : (software data).toNat = Reader.crc32c data := by
  have hfold : (data.foldl (fun crc b =>
      crcTable ((crc ^^^ b.toUInt32) &&& 255) ^^^ (crc >>> 8)) 0xFFFFFFFF).toNat =
      data.foldl Reader.crcByte 0xFFFFFFFF := toNat_foldl_software 0xFFFFFFFF data
  unfold software Reader.crc32c
  rw [UInt32.toNat_not, ← hfold, Nat.mod_eq_of_lt (UInt32.toNat_lt _)]
  rfl

/-- The recorder and the reader agree. -/
theorem toNat_crc32c (sse42 : Bool) (data : List UInt8) :
    (crc32c sse42 data).toNat = Reader.crc32c data := by
  unfold crc32c
  split_ifs
  · rw [hardware_eq_software, toNat_software]
  · exact toNat_software data

/-! ## The definition -/

/-- CRC-32C, bit by bit. -/
def crc32cBits (data : List UInt8) : Nat := BitSerial.checksum 0x82F63B78 0xFFFFFFFF data

/-- A bit that is shifted in is one round of the register that the bit has been added to. -/
theorem shiftIn_eq (register n : Nat) :
    BitSerial.shiftIn 0x82F63B78 register (n.testBit 0) =
      Reader.crcRound (register ^^^ (n % 2)) := by
  have hshift : (n % 2) >>> 1 = 0 := by
    rw [Nat.shiftRight_one]
    omega
  have hlow : (register ^^^ (n % 2)) % 2 = 1 ↔ register % 2 ≠ n % 2 := by
    rw [Nat.xor_mod_two_eq]
    omega
  unfold BitSerial.shiftIn
  rw [crcRound_eq, Nat.shiftRight_xor_distrib, hshift, Nat.xor_zero, Nat.testBit_zero,
    Nat.testBit_zero]
  by_cases h : register % 2 = n % 2
  · rw [if_neg (mt hlow.mp (not_not.mpr h)), h, bne_self_eq_false, if_neg Bool.false_ne_true]
  · rw [if_pos (hlow.mpr h), if_pos]
    rw [bne_iff_ne, Ne, decide_eq_decide]
    omega

/-- The bits of a number, one after the other, are as many rounds. -/
theorem foldl_shiftIn (count register n : Nat) (hn : n < 2 ^ count) :
    (BitSerial.bits count n).foldl (BitSerial.shiftIn 0x82F63B78) register =
      Reader.crcRound^[count] (register ^^^ n) := by
  induction count generalizing register n with
  | zero =>
    have : n = 0 := by omega
    rw [this, Nat.xor_zero]
    rfl
  | succ count ih =>
    have hsplit : n = (n % 2) ^^^ ((n >>> 1) <<< 1) := by
      apply Nat.eq_of_testBit_eq
      intro i
      rw [Nat.testBit_xor, Nat.testBit_shiftLeft, Nat.testBit_shiftRight]
      cases i with
      | zero => simp [Nat.testBit_zero]
      | succ i => simp [Nat.testBit_succ, Nat.add_comm]
    have hround : Reader.crcRound (register ^^^ n) =
        BitSerial.shiftIn 0x82F63B78 register (n.testBit 0) ^^^ (n >>> 1) := by
      have hhigh : Reader.crcRound ((n >>> 1) <<< 1) = n >>> 1 :=
        iterate_crcRound_shiftLeft 1 (n >>> 1)
      conv_lhs => rw [hsplit]
      rw [← Nat.xor_assoc, crcRound_xor, hhigh, shiftIn_eq]
    have hlt : n >>> 1 < 2 ^ count := by
      rw [Nat.shiftRight_one]
      rw [Nat.pow_succ] at hn
      omega
    rw [BitSerial.bits_succ, List.foldl_cons, ih _ _ hlt, Function.iterate_succ_apply, hround]

/-- The table does with a byte what the definition does with its bits. -/
theorem foldl_crcByte (register : Nat) (data : List UInt8) :
    data.foldl Reader.crcByte register = BitSerial.run 0x82F63B78 register data := by
  induction data generalizing register with
  | nil => rfl
  | cons b data ih =>
    rw [List.foldl_cons, BitSerial.run_cons, ih, foldl_shiftIn 8 _ _ b.toNat_lt, crcByte_eq]

/-- The register has 32 bits. -/
theorem foldl_crcByte_lt {register : Nat} (h : register < 2 ^ 32) (data : List UInt8) :
    data.foldl Reader.crcByte register < 2 ^ 32 := by
  have heq := toNat_foldl_mmCrc32U8 (UInt32.ofNat register) data
  rw [UInt32.toNat_ofNat_of_lt' h] at heq
  rw [← heq]
  exact UInt32.toNat_lt _

/-- Taken from a number whose bits are all set, a number is inverted. -/
theorem sub_eq_xor {v : Nat} (h : v < 2 ^ 32) : 0xFFFFFFFF - v = 0xFFFFFFFF ^^^ v := by
  have hsub : 0xFFFFFFFF - v = 2 ^ 32 - (v + 1) := by omega
  rw [hsub]
  apply Nat.eq_of_testBit_eq
  intro i
  have hones : Nat.testBit 0xFFFFFFFF i = decide (i < 32) := Nat.testBit_two_pow_sub_one 32 i
  rw [Nat.testBit_two_pow_sub_succ h, Nat.testBit_xor, hones]
  by_cases hi : i < 32
  · simp only [hi, decide_true, Bool.true_and, Bool.true_xor]
  · have hhigh : v.testBit i = false :=
      Nat.testBit_lt_two_pow (Nat.lt_of_lt_of_le h (Nat.pow_le_pow_right (by decide) (by omega)))
    simp only [hi, hhigh, decide_false, Bool.false_and, Bool.xor_false]

theorem reader_crc32c (data : List UInt8) : Reader.crc32cFrom data 0 = crc32cBits data := by
  have hlt : BitSerial.run 0x82F63B78 0xFFFFFFFF data < 2 ^ 32 := by
    rw [← foldl_crcByte]
    exact foldl_crcByte_lt (by decide) data
  unfold Reader.crc32cFrom crc32cBits BitSerial.checksum
  rw [foldl_crcByte, Nat.zero_mod, Nat.sub_zero, Nat.mod_eq_of_lt hlt, sub_eq_xor hlt]

/-- **All of them compute CRC-32C**: the recorder, with or without the instructions, and the reader,
which may go on from the checksum of what came before. -/
theorem crc32c_definition (sse42 : Bool) (data a b : List UInt8) (seed : Nat) :
    (software data).toNat = crc32cBits data ∧ (crc32c sse42 data).toNat = crc32cBits data ∧
      Reader.crc32cFrom data 0 = crc32cBits data ∧
      Reader.crc32cFrom (a ++ b) seed = Reader.crc32cFrom b (Reader.crc32cFrom a seed) := by
  have hzero : Reader.crc32c data = Reader.crc32cFrom data 0 := rfl
  refine ⟨?_, ?_, reader_crc32c data, ?_⟩
  · rw [toNat_software, hzero, reader_crc32c]
  · rw [toNat_crc32c, hzero, reader_crc32c]
  · -- the two inversions between the parts cancel
    have hlt : a.foldl Reader.crcByte (0xFFFFFFFF - seed % 2 ^ 32) < 2 ^ 32 :=
      foldl_crcByte_lt (by omega) a
    unfold Reader.crc32cFrom
    rw [List.foldl_append]
    congr 3
    omega

end Ebus
end AmigaDrivers
