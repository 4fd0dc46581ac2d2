import Mathlib.Algebra.Ring.Int.Defs
import Mathlib.Algebra.Ring.Nat
import Mathlib.Data.List.GetD

/-!
# Fixed-width integers in byte strings

`common::ByteUtil`: the big-endian loads and stores of the CoLa B telegrams.  A
pointer into a buffer is the suffix of the byte list that starts there; every
caller checks the length before it loads, so a missing byte reads as zero here
and is never reached.

The values are natural numbers.  The source shifts and ors bytes that occupy
disjoint bits, so the sums below are the values it computes.
-/

namespace AmigaDrivers
namespace ByteUtil

/-- `LoadBigU16`. -/
def loadBigU16 (p : List UInt8) : Nat :=
  (p.getD 0 0).toNat * 2 ^ 8 + (p.getD 1 0).toNat

/-- `LoadBigU32`. -/
def loadBigU32 (p : List UInt8) : Nat :=
  (p.getD 0 0).toNat * 2 ^ 24 + (p.getD 1 0).toNat * 2 ^ 16 +
    (p.getD 2 0).toNat * 2 ^ 8 + (p.getD 3 0).toNat

/-- `StoreBigU16`. -/
def storeBigU16 (v : Nat) : List UInt8 := [UInt8.ofNat (v / 2 ^ 8 % 256), UInt8.ofNat (v % 256)]

/-- `StoreBigU32`. -/
def storeBigU32 (v : Nat) : List UInt8 :=
  [UInt8.ofNat (v / 2 ^ 24 % 256), UInt8.ofNat (v / 2 ^ 16 % 256), UInt8.ofNat (v / 2 ^ 8 % 256),
    UInt8.ofNat (v % 256)]

/-- The bytes of a literal of ASCII characters. -/
def ascii (s : String) : List UInt8 := s.toList.map fun c => UInt8.ofNat c.toNat

/-- A load looks at two bytes only. -/
theorem loadBigU16_append (p q : List UInt8) (h : 2 ≤ p.length) :
    loadBigU16 (p ++ q) = loadBigU16 p := by
  have hget : ∀ i < 2, (p ++ q).getD i 0 = p.getD i 0 := fun i hi =>
    List.getD_append _ _ _ _ (by omega)
  simp only [loadBigU16, hget 0 (by omega), hget 1 (by omega)]

/-- A load looks at four bytes only. -/
theorem loadBigU32_append (p q : List UInt8) (h : 4 ≤ p.length) :
    loadBigU32 (p ++ q) = loadBigU32 p := by
  have hget : ∀ i < 4, (p ++ q).getD i 0 = p.getD i 0 := fun i hi =>
    List.getD_append _ _ _ _ (by omega)
  simp only [loadBigU32, hget 0 (by omega), hget 1 (by omega), hget 2 (by omega),
    hget 3 (by omega)]

theorem loadBigU16_lt (p : List UInt8) : loadBigU16 p < 2 ^ 16 := by
  have h0 := (p.getD 0 0).toNat_lt
  have h1 := (p.getD 1 0).toNat_lt
  unfold loadBigU16
  omega

theorem loadBigU32_lt (p : List UInt8) : loadBigU32 p < 2 ^ 32 := by
  have h0 := (p.getD 0 0).toNat_lt
  have h1 := (p.getD 1 0).toNat_lt
  have h2 := (p.getD 2 0).toNat_lt
  have h3 := (p.getD 3 0).toNat_lt
  unfold loadBigU32
  omega

@[simp] theorem length_storeBigU16 (v : Nat) : (storeBigU16 v).length = 2 := rfl

@[simp] theorem length_storeBigU32 (v : Nat) : (storeBigU32 v).length = 4 := rfl

/-- What is stored in two bytes is loaded from them. -/
theorem loadBigU16_storeBigU16 {v : Nat} (h : v < 2 ^ 16) : loadBigU16 (storeBigU16 v) = v := by
  have hbyte (n : Nat) : (UInt8.ofNat (n % 256)).toNat = n % 256 :=
    UInt8.toNat_ofNat_of_lt' (Nat.mod_lt n (by decide))
  show (UInt8.ofNat (v / 2 ^ 8 % 256)).toNat * 2 ^ 8 + (UInt8.ofNat (v % 256)).toNat = v
  rw [hbyte, hbyte]
  omega

/-- Two bytes are stored as they were loaded. -/
theorem storeBigU16_loadBigU16 {p : List UInt8} (h : p.length = 2) :
    storeBigU16 (loadBigU16 p) = p := by
  obtain ⟨a, b, rfl⟩ : ∃ a b, p = [a, b] := by
    match p, h with
    | [a, b], _ => exact ⟨a, b, rfl⟩
  have hb := b.toNat_lt
  have ha := a.toNat_lt
  have hload : loadBigU16 [a, b] = a.toNat * 2 ^ 8 + b.toNat := rfl
  have hstore (n : Nat) (x : UInt8) (hx : n = x.toNat) : UInt8.ofNat n = x := by
    rw [hx, UInt8.ofNat_toNat]
  unfold storeBigU16
  rw [hload, hstore _ a (by omega), hstore _ b (by omega)]

/-- What is stored in four bytes is loaded from them. -/
theorem loadBigU32_storeBigU32 {v : Nat} (h : v < 2 ^ 32) (q : List UInt8) :
    loadBigU32 (storeBigU32 v ++ q) = v := by
  have hbyte (n : Nat) : (UInt8.ofNat (n % 256)).toNat = n % 256 :=
    UInt8.toNat_ofNat_of_lt' (Nat.mod_lt n (by decide))
  rw [loadBigU32_append (storeBigU32 v) q (Nat.le_refl 4)]
  show (UInt8.ofNat (v / 2 ^ 24 % 256)).toNat * 2 ^ 24 + (UInt8.ofNat (v / 2 ^ 16 % 256)).toNat * 2 ^ 16 +
    (UInt8.ofNat (v / 2 ^ 8 % 256)).toNat * 2 ^ 8 + (UInt8.ofNat (v % 256)).toNat = v
  rw [hbyte, hbyte, hbyte, hbyte]
  omega

/-- Four bytes are stored as they were loaded. -/
theorem storeBigU32_loadBigU32 {p : List UInt8} (h : p.length = 4) :
    storeBigU32 (loadBigU32 p) = p := by
  obtain ⟨a, b, c, d, rfl⟩ : ∃ a b c d, p = [a, b, c, d] := by
    match p, h with
    | [a, b, c, d], _ => exact ⟨a, b, c, d, rfl⟩
  have ha := a.toNat_lt
  have hb := b.toNat_lt
  have hc := c.toNat_lt
  have hd := d.toNat_lt
  have hload : loadBigU32 [a, b, c, d] =
    a.toNat * 2 ^ 24 + b.toNat * 2 ^ 16 + c.toNat * 2 ^ 8 + d.toNat := rfl
  have hstore (n : Nat) (x : UInt8) (hx : n = x.toNat) : UInt8.ofNat n = x := by
    rw [hx, UInt8.ofNat_toNat]
  unfold storeBigU32
  rw [hload, hstore _ a (by omega), hstore _ b (by omega), hstore _ c (by omega),
    hstore _ d (by omega)]

/-- A word whose first byte is `b` is at least `b` times the weight of that byte. -/
theorem le_loadBigU32_cons (b : UInt8) (q : List UInt8) :
    b.toNat * 2 ^ 24 ≤ loadBigU32 (b :: q) := by
  show b.toNat * 2 ^ 24 ≤ b.toNat * 2 ^ 24 + _ + _ + _
  omega

end ByteUtil
end AmigaDrivers
