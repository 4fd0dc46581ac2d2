import AmigaDrivers.Ebus.Pixels
import Mathlib.Data.Nat.Digits.Defs
import Mathlib.Tactic.Ring

/-!
# Where the pixels are

* `pack`: the bytes of some samples, from what the packed layouts are.
* `unpack_pack`: they are unpacked to these samples.
* `ImageBytes`: an image in its payload, with all that lies around it and between its rows.
* `pixel_layout`: a record is decoded exactly if it describes such a payload, and then to what the
  rows alone are decoded to.
-/

namespace AmigaDrivers
namespace Ebus
namespace Pixels

open LittleEndian (encode)

/-! ## Packed samples -/

/-- The layouts that pack samples. -/
inductive Packed : Layout → Prop
  | gvsp12p : Packed .gvsp12p
  | gvsp10p : Packed .gvsp10p
  | pfnc12p : Packed .pfnc12p
  | pfnc10p : Packed .pfnc10p

/-- The bits of a packed sample. -/
def sampleBits : Layout → Nat
  | .gvsp12p | .pfnc12p => 12
  | .gvsp10p | .pfnc10p => 10
  | .u8 | .rgb8 => 8
  | .u16 => 16

/-- Two samples in three bytes: the high bits in the outer bytes, the low ones between them. -/
def packPairs (low : Nat) : List Nat → List UInt8
  | p₀ :: p₁ :: rest =>
    UInt8.ofNat (p₀ / 2 ^ low) :: UInt8.ofNat (p₁ % 2 ^ low * 16 + p₀ % 2 ^ low) ::
      UInt8.ofNat (p₁ / 2 ^ low) :: packPairs low rest
  | _ => []

/-- Samples one behind another, from the lowest bit of the first byte on. -/
def packStream (bits : Nat) (samples : List Nat) : List UInt8 :=
  encode (bits * samples.length / 8) (Nat.ofDigits (2 ^ bits) samples)

/-- The bytes of some samples. -/
def pack : Layout → List Nat → List UInt8
  | .u8, samples | .rgb8, samples => samples.map UInt8.ofNat
  | .u16, samples => samples.flatMap (encode 2)
  | .gvsp12p, samples => packPairs 4 samples
  | .gvsp10p, samples => packPairs 2 samples
  | .pfnc12p, samples => packStream 12 samples
  | .pfnc10p, samples => packStream 10 samples

/-- Bytes one behind another. -/
theorem encode_add (a b x y : Nat) (hx : x < 256 ^ a) :
    encode (a + b) (x + 256 ^ a * y) = encode a x ++ encode b y := by
  induction a generalizing x with
  | zero =>
    obtain rfl : x = 0 := by simpa using hx
    rw [Nat.zero_add, Nat.zero_add, Nat.pow_zero, Nat.one_mul]
    rfl
  | succ a ih =>
    have hdiv : (x + 256 ^ (a + 1) * y) / 256 = x / 256 + 256 ^ a * y := by
      rw [Nat.pow_succ', Nat.mul_assoc, Nat.add_mul_div_left _ _ (by decide)]
    have hmod : (x + 256 ^ (a + 1) * y) % 256 = x % 256 := by
      rw [Nat.pow_succ', Nat.mul_assoc, Nat.add_mul_mod_self_left]
    have hlt : x / 256 < 256 ^ a := by
      rw [Nat.div_lt_iff_lt_mul (by decide), ← Nat.pow_succ]
      exact hx
    rw [Nat.succ_add, encode, encode, hdiv, hmod, ih _ hlt, List.cons_append]

/-- Bits beside bits. -/
theorem or_shift {a b i : Nat} (hb : b < 2 ^ i) : b ||| a <<< i = b + a * 2 ^ i := by
  rw [Nat.or_comm, ← Nat.shiftLeft_add_eq_or_of_lt hb, Nat.shiftLeft_eq, Nat.add_comm]

theorem toNat_ofNat {n : Nat} (h : n < 256) : (UInt8.ofNat n).toNat = n :=
  UInt8.toNat_ofNat_of_lt' h

theorem toNat_byte (n : Nat) : (UInt8.ofNat (n % 256)).toNat = n % 256 :=
  toNat_ofNat (Nat.mod_lt n (by decide))

/-- Samples come back from triples if each pair does. -/
theorem unpackTriples_pack {first second : Nat → Nat → Nat → Nat} {pack : List Nat → List UInt8}
    {bound : Nat} (hnil : pack [] = [])
    (hpair : ∀ p₀ < bound, ∀ p₁ < bound, ∀ rest, ∃ b₀ b₁ b₂,
      pack (p₀ :: p₁ :: rest) = b₀ :: b₁ :: b₂ :: pack rest ∧
        first b₀.toNat b₁.toNat b₂.toNat = p₀ ∧ second b₀.toNat b₁.toNat b₂.toNat = p₁) :
    ∀ samples : List Nat, (∀ p ∈ samples, p < bound) → 2 ∣ samples.length →
      unpackTriples first second (pack samples) = .ok samples
  | [], _, _ => by
    rw [hnil]
    rfl
  | [p], _, hlength => absurd hlength (by simp)
  | p₀ :: p₁ :: rest, hbound, hlength => by
    obtain ⟨b₀, b₁, b₂, hpack, hfirst, hsecond⟩ :=
      hpair p₀ (hbound p₀ (by simp)) p₁ (hbound p₁ (by simp)) rest
    have hrest := unpackTriples_pack hnil hpair rest (fun p hp => hbound p (by simp [hp]))
      ((Nat.dvd_add_left (Nat.dvd_refl 2)).mp hlength)
    rw [hpack, unpackTriples, hrest, hfirst, hsecond]
    rfl

theorem and_mask (b n : Nat) : b &&& 2 ^ n - 1 = b % 2 ^ n := Nat.and_two_pow_sub_one_eq_mod b n

/-- High bits above low ones. -/
theorem shift_or {a b i : Nat} (hb : b < 2 ^ i) : a <<< i ||| b = a * 2 ^ i + b := by
  rw [← Nat.shiftLeft_add_eq_or_of_lt hb, Nat.shiftLeft_eq]

theorem unpackGvsp12packed_pack {samples : List Nat} (hbound : ∀ p ∈ samples, p < 2 ^ 12)
    (hlength : 2 ∣ samples.length) : unpackGvsp12packed (packPairs 4 samples) = .ok samples := by
  refine unpackTriples_pack rfl (fun p₀ hp₀ p₁ hp₁ rest => ?_) samples hbound hlength
  have hb₀ : (UInt8.ofNat (p₀ / 2 ^ 4)).toNat = p₀ / 2 ^ 4 := toNat_ofNat (by omega)
  have hb₁ : (UInt8.ofNat (p₁ % 2 ^ 4 * 16 + p₀ % 2 ^ 4)).toNat = p₁ % 2 ^ 4 * 16 + p₀ % 2 ^ 4 :=
    toNat_ofNat (by omega)
  have hb₂ : (UInt8.ofNat (p₁ / 2 ^ 4)).toNat = p₁ / 2 ^ 4 := toNat_ofNat (by omega)
  refine ⟨_, _, _, rfl, ?_, ?_⟩
  · rw [hb₀, hb₁]
    have hmask (b : Nat) : b &&& 0x0F = b % 2 ^ 4 := and_mask b 4
    rw [hmask, shift_or (Nat.mod_lt _ (by decide))]
    omega
  · rw [hb₁, hb₂, Nat.shiftRight_eq_div_pow, shift_or (by omega)]
    omega

theorem unpackGvsp10packed_pack {samples : List Nat} (hbound : ∀ p ∈ samples, p < 2 ^ 10)
    (hlength : 2 ∣ samples.length) : unpackGvsp10packed (packPairs 2 samples) = .ok samples := by
  have hmask (b : Nat) : b &&& 0x03 = b % 2 ^ 2 := and_mask b 2
  refine unpackTriples_pack rfl (fun p₀ hp₀ p₁ hp₁ rest => ?_) samples hbound hlength
  have hb₀ : (UInt8.ofNat (p₀ / 2 ^ 2)).toNat = p₀ / 2 ^ 2 := toNat_ofNat (by omega)
  have hb₁ : (UInt8.ofNat (p₁ % 2 ^ 2 * 16 + p₀ % 2 ^ 2)).toNat = p₁ % 2 ^ 2 * 16 + p₀ % 2 ^ 2 :=
    toNat_ofNat (by omega)
  have hb₂ : (UInt8.ofNat (p₁ / 2 ^ 2)).toNat = p₁ / 2 ^ 2 := toNat_ofNat (by omega)
  refine ⟨_, _, _, rfl, ?_, ?_⟩
  · rw [hb₀, hb₁, hmask, shift_or (Nat.mod_lt _ (by decide))]
    omega
  · rw [hb₁, hb₂, hmask, Nat.shiftRight_eq_div_pow, shift_or (Nat.mod_lt _ (by decide))]
    omega

/-- Two samples of 12 bits are three bytes. -/
theorem packStream_pair (p₀ p₁ : Nat) (hp₀ : p₀ < 2 ^ 12) (hp₁ : p₁ < 2 ^ 12) (rest : List Nat) :
    packStream 12 (p₀ :: p₁ :: rest) = encode 3 (p₀ + 2 ^ 12 * p₁) ++ packStream 12 rest := by
  have hsize : 12 * (p₀ :: p₁ :: rest).length / 8 = 3 + 12 * rest.length / 8 := by
    rw [List.length_cons, List.length_cons]
    omega
  have hnumber : Nat.ofDigits (2 ^ 12) (p₀ :: p₁ :: rest) =
      p₀ + 2 ^ 12 * p₁ + 256 ^ 3 * Nat.ofDigits (2 ^ 12) rest := by
    rw [Nat.ofDigits_cons, Nat.ofDigits_cons]
    ring
  unfold packStream
  rw [hsize, hnumber, encode_add _ _ _ _ (by omega)]

/-- Four samples of 10 bits are five bytes. -/
theorem packStream_quad (p₀ p₁ p₂ p₃ : Nat) (hp₀ : p₀ < 2 ^ 10) (hp₁ : p₁ < 2 ^ 10)
    (hp₂ : p₂ < 2 ^ 10) (hp₃ : p₃ < 2 ^ 10) (rest : List Nat) :
    packStream 10 (p₀ :: p₁ :: p₂ :: p₃ :: rest) =
      encode 5 (p₀ + 2 ^ 10 * p₁ + 2 ^ 20 * p₂ + 2 ^ 30 * p₃) ++ packStream 10 rest := by
  have hsize : 10 * (p₀ :: p₁ :: p₂ :: p₃ :: rest).length / 8 = 5 + 10 * rest.length / 8 := by
    simp only [List.length_cons]
    omega
  have hnumber : Nat.ofDigits (2 ^ 10) (p₀ :: p₁ :: p₂ :: p₃ :: rest) =
      p₀ + 2 ^ 10 * p₁ + 2 ^ 20 * p₂ + 2 ^ 30 * p₃ + 256 ^ 5 * Nat.ofDigits (2 ^ 10) rest := by
    simp only [Nat.ofDigits_cons]
    ring
  unfold packStream
  rw [hsize, hnumber, encode_add _ _ _ _ (by omega)]

theorem unpackPfnc12p_pack {samples : List Nat} (hbound : ∀ p ∈ samples, p < 2 ^ 12)
    (hlength : 2 ∣ samples.length) : unpackPfnc12p (packStream 12 samples) = .ok samples := by
  have hmask (b : Nat) : b &&& 0x0F = b % 2 ^ 4 := and_mask b 4
  refine unpackTriples_pack rfl (fun p₀ hp₀ p₁ hp₁ rest => ?_) samples hbound hlength
  refine ⟨_, _, _, packStream_pair p₀ p₁ hp₀ hp₁ rest, ?_, ?_⟩
  · rw [toNat_byte, toNat_byte, hmask, or_shift (by omega)]
    omega
  · rw [toNat_byte, toNat_byte, Nat.shiftRight_eq_div_pow, or_shift (by omega)]
    omega

theorem unpackPfnc10p_pack : ∀ samples : List Nat, (∀ p ∈ samples, p < 2 ^ 10) →
    4 ∣ samples.length → unpackPfnc10p (packStream 10 samples) = .ok samples
  | [], _, _ => rfl
  | [_], _, hlength => absurd hlength (by simp)
  | [_, _], _, hlength => absurd hlength (by simp)
  | [_, _, _], _, hlength => absurd hlength (by simp)
  | p₀ :: p₁ :: p₂ :: p₃ :: rest, hbound, hlength => by
    have hmask₂ (b : Nat) : b &&& 0x03 = b % 2 ^ 2 := and_mask b 2
    have hmask₄ (b : Nat) : b &&& 0x0F = b % 2 ^ 4 := and_mask b 4
    have hmask₆ (b : Nat) : b &&& 0x3F = b % 2 ^ 6 := and_mask b 6
    have hp₀ := hbound p₀ (by simp)
    have hp₁ := hbound p₁ (by simp)
    have hp₂ := hbound p₂ (by simp)
    have hp₃ := hbound p₃ (by simp)
    have hrest := unpackPfnc10p_pack rest (fun p hp => hbound p (by simp [hp]))
      ((Nat.dvd_add_left (Nat.dvd_refl 4)).mp hlength)
    rw [packStream_quad p₀ p₁ p₂ p₃ hp₀ hp₁ hp₂ hp₃]
    generalize hn : p₀ + 2 ^ 10 * p₁ + 2 ^ 20 * p₂ + 2 ^ 30 * p₃ = n
    have hbytes : encode 5 n ++ packStream 10 rest =
        UInt8.ofNat (n % 256) :: UInt8.ofNat (n / 256 % 256) ::
          UInt8.ofNat (n / 256 / 256 % 256) :: UInt8.ofNat (n / 256 / 256 / 256 % 256) ::
            UInt8.ofNat (n / 256 / 256 / 256 / 256 % 256) :: packStream 10 rest := rfl
    rw [hbytes, unpackPfnc10p, hrest]
    simp only [toNat_byte, hmask₂, hmask₄, hmask₆, Nat.shiftRight_eq_div_pow]
    have h₀ : n % 256 ||| (n / 256 % 256 % 2 ^ 2) <<< 8 = p₀ := by
      rw [or_shift (by omega)]
      omega
    have h₁ : n / 256 % 256 / 2 ^ 2 ||| (n / 256 / 256 % 256 % 2 ^ 4) <<< 6 = p₁ := by
      rw [or_shift (by omega)]
      omega
    have h₂ : n / 256 / 256 % 256 / 2 ^ 4 ||| (n / 256 / 256 / 256 % 256 % 2 ^ 6) <<< 4 = p₂ := by
      rw [or_shift (by omega)]
      omega
    have h₃ : n / 256 / 256 / 256 % 256 / 2 ^ 6 |||
        (n / 256 / 256 / 256 / 256 % 256) <<< 2 = p₃ := by
      rw [or_shift (by omega)]
      omega
    rw [h₀, h₁, h₂, h₃]
    rfl

/-- **Packed samples are unpacked.** -/
theorem unpack_pack {layout : Layout} (hpacked : Packed layout) {samples : List Nat}
    (hbound : ∀ p ∈ samples, p < 2 ^ sampleBits layout) (hlength : group layout ∣ samples.length) :
    unpack layout (pack layout samples) = .ok samples := by
  cases hpacked with
  | gvsp12p => exact unpackGvsp12packed_pack hbound hlength
  | gvsp10p => exact unpackGvsp10packed_pack hbound hlength
  | pfnc12p => exact unpackPfnc12p_pack hbound hlength
  | pfnc10p => exact unpackPfnc10p_pack samples hbound hlength

/-! ## An image in its payload -/

/-- A payload with an image: each row has its padding behind it, the image has its own, and
anything may stand before and after. -/
structure ImageBytes where
  before : List UInt8
  rows : List (List UInt8 × List UInt8)
  padding : List UInt8
  after : List UInt8

namespace ImageBytes

/-- The payload. -/
def payload (bytes : ImageBytes) : List UInt8 :=
  bytes.before ++ bytes.rows.flatMap (fun row => row.1 ++ row.2) ++ bytes.padding ++ bytes.after

/-- The rows alone. -/
def tight (bytes : ImageBytes) : List UInt8 := bytes.rows.flatMap Prod.fst

end ImageBytes

/-- The record is a valid frame, and describes this payload. -/
structure Describes (record : Record) (image : ImageInfo) (bytes : ImageBytes) : Prop where
  validFrame : record.validFrame = true
  described : record.image = some image
  payloadSize : bytes.payload.length = record.payloadSize
  offset : image.payloadOffset = some bytes.before.length
  height : image.height = bytes.rows.length
  paddingY : image.paddingY = bytes.padding.length
  width_pos : 0 < image.width
  height_pos : 0 < image.height
  /-- the format is known, and a row of it is whole groups of samples -/
  layout : ∃ format, pfnc.lookup image.pixelFormat = some format ∧
    image.width % group format.layout = 0 ∧
    (∀ row ∈ bytes.rows,
      row.1.length = needBytes format.layout image.width ∧ row.2.length = image.paddingX) ∧
    image.effectiveImageSize = needBytes format.layout image.width * image.height ∧
    image.imageSize =
      (needBytes format.layout image.width + image.paddingX) * image.height + image.paddingY ∧
    needBytes format.layout image.width * image.height ≤ maxImageBytes

section Rows

variable {rows : List (List UInt8 × List UInt8)} {rowBytes padding : Nat}

theorem length_rows
    (hrows : ∀ row ∈ rows, row.1.length = rowBytes ∧ row.2.length = padding) :
    (rows.flatMap fun row => row.1 ++ row.2).length = (rowBytes + padding) * rows.length := by
  induction rows with
  | nil => rfl
  | cons row rows ih =>
    obtain ⟨hrow, hpadding⟩ := hrows row List.mem_cons_self
    rw [List.flatMap_cons, List.length_append, List.length_append, hrow, hpadding,
      ih fun r hr => hrows r (List.mem_cons_of_mem _ hr), List.length_cons, Nat.mul_succ,
      Nat.add_comm]

theorem length_tight (hrows : ∀ row ∈ rows, row.1.length = rowBytes) :
    (rows.flatMap Prod.fst).length = rowBytes * rows.length := by
  induction rows with
  | nil => rfl
  | cons row rows ih =>
    rw [List.flatMap_cons, List.length_append, hrows row List.mem_cons_self,
      ih fun r hr => hrows r (List.mem_cons_of_mem _ hr), List.length_cons, Nat.mul_succ,
      Nat.add_comm]

/-- A slice between two parts. -/
theorem slice_append (before bytes after : List UInt8) :
    slice (before ++ bytes ++ after) before.length (before.length + bytes.length) = bytes := by
  unfold slice
  rw [List.append_assoc, List.drop_left, Nat.add_sub_cancel_left, List.take_left]

/-- **The stride arithmetic.**  The slices of the rows are the rows. -/
theorem slices_rows (hrows : ∀ row ∈ rows, row.1.length = rowBytes ∧ row.2.length = padding)
    (after : List UInt8) : ∀ before : List UInt8,
    ((List.range rows.length).flatMap fun i =>
      slice (before ++ rows.flatMap (fun row => row.1 ++ row.2) ++ after)
        (before.length + i * (rowBytes + padding))
        (before.length + i * (rowBytes + padding) + rowBytes)) = rows.flatMap Prod.fst := by
  induction rows with
  | nil => exact fun _ => rfl
  | cons row rows ih =>
    intro before
    obtain ⟨hrow, hpadding⟩ := hrows row List.mem_cons_self
    have hrest := ih (fun r hr => hrows r (List.mem_cons_of_mem _ hr)) (before ++ row.1 ++ row.2)
    have hlength : (before ++ row.1 ++ row.2).length = before.length + (rowBytes + padding) := by
      rw [List.length_append, List.length_append, hrow, hpadding, Nat.add_assoc]
    have hbytes : before ++ (row :: rows).flatMap (fun row => row.1 ++ row.2) ++ after =
        before ++ row.1 ++ row.2 ++ rows.flatMap (fun row => row.1 ++ row.2) ++ after := by
      simp only [List.flatMap_cons, List.append_assoc]
    have hfirst : slice (before ++ row.1 ++ row.2 ++ rows.flatMap (fun row => row.1 ++ row.2) ++
        after) (before.length + 0 * (rowBytes + padding))
          (before.length + 0 * (rowBytes + padding) + rowBytes) = row.1 := by
      have hparts := slice_append before row.1
        (row.2 ++ rows.flatMap (fun row => row.1 ++ row.2) ++ after)
      rw [hrow] at hparts
      rw [Nat.zero_mul, Nat.add_zero]
      simpa only [List.append_assoc] using hparts
    rw [List.length_cons, List.range_succ_eq_map, List.flatMap_cons, List.flatMap_map, hbytes,
      hfirst, List.flatMap_cons, ← hrest, hlength]
    refine congrArg (row.1 ++ ·) (List.flatMap_congr fun i _ => ?_)
    have hstart : before.length + i.succ * (rowBytes + padding) =
        before.length + (rowBytes + padding) + i * (rowBytes + padding) := by
      rw [Nat.succ_mul]
      omega
    rw [hstart]

/-- Bytes that are long enough are rows and something behind them. -/
theorem exists_rows (rowBytes padding n : Nat) : ∀ bytes : List UInt8,
    (rowBytes + padding) * n ≤ bytes.length → ∃ rows : List (List UInt8 × List UInt8), ∃ rest,
      rows.length = n ∧ (∀ row ∈ rows, row.1.length = rowBytes ∧ row.2.length = padding) ∧
        bytes = rows.flatMap (fun row => row.1 ++ row.2) ++ rest := by
  induction n with
  | zero => exact fun bytes _ => ⟨[], bytes, rfl, nofun, rfl⟩
  | succ n ih =>
    intro bytes hlength
    rw [Nat.mul_succ] at hlength
    obtain ⟨rows, rest, hn, hrows, hbytes⟩ := ih (bytes.drop (rowBytes + padding)) (by
      rw [List.length_drop]
      omega)
    refine ⟨(bytes.take rowBytes, (bytes.drop rowBytes).take padding) :: rows, rest,
      congrArg (· + 1) hn, ?_, ?_⟩
    · intro row hrow
      obtain rfl | hrow := List.mem_cons.mp hrow
      · refine ⟨List.length_take_of_le (by omega), List.length_take_of_le ?_⟩
        rw [List.length_drop]
        omega
      · exact hrows row hrow
    · rw [List.flatMap_cons, List.append_assoc, List.append_assoc, ← hbytes, ← List.drop_drop,
        List.take_append_drop, List.take_append_drop]

end Rows

/-- The bytes of whole rows. -/
theorem needBytes_mul {layout : Layout} {width : Nat} (hgroup : width % group layout = 0)
    (height : Nat) : needBytes layout (width * height) = needBytes layout width * height := by
  obtain ⟨k, rfl⟩ := Nat.dvd_of_mod_eq_zero hgroup
  cases layout with
  | u8 => rfl
  | u16 => exact Nat.mul_right_comm _ _ _
  | rgb8 => exact Nat.mul_right_comm _ _ _
  | gvsp12p | gvsp10p | pfnc12p =>
    have hpairs (m : Nat) : (2 * m + 1) / 2 * 3 = 3 * m := by omega
    show (2 * k * height + 1) / 2 * 3 = (2 * k + 1) / 2 * 3 * height
    rw [Nat.mul_assoc, hpairs, hpairs, Nat.mul_assoc]
  | pfnc10p =>
    have hquads (m : Nat) : (4 * m + 3) / 4 * 5 = 5 * m := by omega
    show (4 * k * height + 3) / 4 * 5 = (4 * k + 3) / 4 * 5 * height
    rw [Nat.mul_assoc, hquads, hquads, Nat.mul_assoc]

/-! ## Decoding -/

theorem formatForCode_of_lookup {code : Nat} {format : PixelFormat}
    (h : pfnc.lookup code = some format) : formatForCode code = .ok format := by
  unfold formatForCode
  rw [h]

theorem expectedBytes_row {code width : Nat} {format : PixelFormat}
    (h : pfnc.lookup code = some format) :
    (expectedBytes code width 1).getD 0 = needBytes format.layout width := by
  unfold expectedBytes
  rw [h, Nat.mul_one]
  rfl

/-- The rows of a described image. -/
theorem tightRows_eq {image : ImageInfo} {bytes : ImageBytes} {rowBytes : Nat}
    (hheight : image.height = bytes.rows.length)
    (hrows : ∀ row ∈ bytes.rows, row.1.length = rowBytes ∧ row.2.length = image.paddingX) :
    tightRows image bytes.before.length rowBytes bytes.payload = bytes.tight := by
  have hpayload : bytes.payload = bytes.before ++ bytes.rows.flatMap (fun row => row.1 ++ row.2) ++
      (bytes.padding ++ bytes.after) := List.append_assoc _ _ _
  unfold tightRows ImageBytes.tight
  dsimp only
  rw [hheight, hpayload]
  split_ifs with hpadding
  · have hsame : bytes.rows.flatMap (fun row => row.1 ++ row.2) = bytes.rows.flatMap Prod.fst := by
      refine List.flatMap_congr fun row hrow => ?_
      have hnil : row.2 = [] := List.length_eq_zero_iff.mp ((hrows row hrow).2.trans hpadding)
      rw [hnil, List.append_nil]
    have hlength := length_tight fun row hrow => (hrows row hrow).1
    rw [hsame, ← hlength]
    exact slice_append _ _ _
  · exact slices_rows hrows _ _

variable {record : Record} {image : ImageInfo} {bytes : ImageBytes}

/-- A described image is decoded from its rows. -/
theorem decodeRecord_of_describes (h : Describes record image bytes) :
    decodeRecord record bytes.payload =
      decode image.pixelFormat image.width image.height bytes.tight := by
  obtain ⟨hvalid, himage, hsize, hoffset, hheight, hpaddingY, hwidth, hpos, format, hformat, hgroup,
    hrows, heffective, himageSize, hbudget⟩ := h
  have hlength : bytes.payload.length = bytes.before.length +
      ((needBytes format.layout image.width + image.paddingX) * image.height + image.paddingY) +
        bytes.after.length := by
    unfold ImageBytes.payload
    rw [List.length_append, List.length_append, List.length_append, length_rows hrows, hheight,
      hpaddingY]
    omega
  have hget : record.image.get (record.hasImage hvalid) = image := by
    simp only [himage, Option.get_some]
  unfold decodeRecord
  rw [dif_pos hvalid, hget]
  unfold decodeImage
  rw [hoffset, formatForCode_of_lookup hformat]
  show (if _ then _ else _ : Except String Image) = _
  rw [if_neg (by omega), expectedBytes_row hformat, if_neg (by omega),
    if_neg (Nat.not_lt.mpr hbudget), tightRows_eq hheight hrows]

/-- An image that is decoded is described. -/
theorem describes_of_decodeRecord {payload : List UInt8} {out : Image}
    (h : decodeRecord record payload = .ok out) :
    ∃ image bytes, Describes record image bytes ∧ bytes.payload = payload := by
  unfold decodeRecord at h
  split_ifs at h with hvalid
  have hdescribed : record.image = some (record.image.get (record.hasImage hvalid)) :=
    (Option.some_get _).symm
  generalize record.image.get (record.hasImage hvalid) = image at h hdescribed
  unfold decodeImage at h
  cases hoffset : image.payloadOffset with
  | none =>
    rw [hoffset] at h
    exact nomatch h
  | some offset =>
    rw [hoffset] at h
    cases hformat : pfnc.lookup image.pixelFormat with
    | none =>
      unfold formatForCode at h
      rw [hformat] at h
      exact nomatch h
    | some format =>
      rw [formatForCode_of_lookup hformat] at h
      change (if _ then _ else _ : Except String Image) = _ at h
      rw [expectedBytes_row hformat] at h
      split_ifs at h with hgeometry hsizes hbudget
      simp only [not_or, not_not, Nat.not_lt] at hgeometry hsizes hbudget
      obtain ⟨hwidth, hheight, hgroup⟩ := hgeometry
      obtain ⟨heffective, himageSize, hfits, hsize⟩ := hsizes
      obtain ⟨rows, rest, hn, hrows, hrest⟩ :=
        exists_rows (needBytes format.layout image.width) image.paddingX image.height
          (payload.drop offset) (by rw [List.length_drop]; omega)
      have hlength := congrArg List.length hrest
      rw [List.length_drop, List.length_append, length_rows hrows, hn] at hlength
      let bytes : ImageBytes :=
        ⟨payload.take offset, rows, rest.take image.paddingY, rest.drop image.paddingY⟩
      have hpayload : bytes.payload = payload := by
        show payload.take offset ++ rows.flatMap (fun row => row.1 ++ row.2) ++
          rest.take image.paddingY ++ rest.drop image.paddingY = payload
        rw [List.append_assoc, List.take_append_drop, List.append_assoc, ← hrest,
          List.take_append_drop]
      have hbefore : bytes.before.length = offset := List.length_take_of_le (by omega)
      have hpadding : bytes.padding.length = image.paddingY := List.length_take_of_le (by omega)
      refine ⟨image, bytes, ⟨hvalid, hdescribed, ?_, ?_, hn.symm, hpadding.symm,
        Nat.pos_of_ne_zero hwidth, Nat.pos_of_ne_zero hheight, format, hformat, hgroup, hrows,
        heffective, himageSize, hbudget⟩, hpayload⟩
      · rw [hpayload, hsize]
      · rw [hoffset, hbefore]

/-! ### What is described is decoded -/

theorem unpackTriples_isOk (first second : Nat → Nat → Nat → Nat) : ∀ bytes : List UInt8,
    3 ∣ bytes.length → ∃ out, unpackTriples first second bytes = .ok out
  | [], _ => ⟨[], rfl⟩
  | [_], hlength => absurd hlength (by simp)
  | [_, _], hlength => absurd hlength (by simp)
  | b₀ :: b₁ :: b₂ :: rest, hlength => by
    obtain ⟨out, hout⟩ :=
      unpackTriples_isOk first second rest ((Nat.dvd_add_left (Nat.dvd_refl 3)).mp hlength)
    rw [unpackTriples, hout]
    exact ⟨_, rfl⟩

theorem unpackPfnc10p_isOk : ∀ bytes : List UInt8, 5 ∣ bytes.length →
    ∃ out, unpackPfnc10p bytes = .ok out
  | [], _ => ⟨[], rfl⟩
  | [_], hlength => absurd hlength (by simp)
  | [_, _], hlength => absurd hlength (by simp)
  | [_, _, _], hlength => absurd hlength (by simp)
  | [_, _, _, _], hlength => absurd hlength (by simp)
  | b₀ :: b₁ :: b₂ :: b₃ :: b₄ :: rest, hlength => by
    obtain ⟨out, hout⟩ := unpackPfnc10p_isOk rest ((Nat.dvd_add_left (Nat.dvd_refl 5)).mp hlength)
    rw [unpackPfnc10p, hout]
    exact ⟨_, rfl⟩

theorem unpackU16_isOk : ∀ bytes : List UInt8, 2 ∣ bytes.length → ∃ out, unpackU16 bytes = .ok out
  | [], _ => ⟨[], rfl⟩
  | [_], hlength => absurd hlength (by simp)
  | b₀ :: b₁ :: rest, hlength => by
    obtain ⟨out, hout⟩ := unpackU16_isOk rest ((Nat.dvd_add_left (Nat.dvd_refl 2)).mp hlength)
    rw [unpackU16, hout]
    exact ⟨_, rfl⟩

/-- The bytes that an image needs are whole groups. -/
theorem unpack_isOk (layout : Layout) {bytes : List UInt8} {n : Nat}
    (hlength : bytes.length = needBytes layout n) : ∃ out, unpack layout bytes = .ok out := by
  cases layout with
  | u8 | rgb8 => exact ⟨_, rfl⟩
  | u16 => exact unpackU16_isOk bytes ⟨n, hlength.trans (Nat.mul_comm n 2)⟩
  | gvsp12p | gvsp10p | pfnc12p =>
    exact unpackTriples_isOk _ _ bytes ⟨_, hlength.trans (Nat.mul_comm ((n + 1) / 2) 3)⟩
  | pfnc10p => exact unpackPfnc10p_isOk bytes ⟨_, hlength.trans (Nat.mul_comm ((n + 3) / 4) 5)⟩

/-- The rows of a described image are an image. -/
theorem decode_tight_isOk (h : Describes record image bytes) :
    ∃ out, decode image.pixelFormat image.width image.height bytes.tight = .ok out := by
  obtain ⟨format, hformat, hgroup, hrows, -, -, -⟩ := h.layout
  have hlength : bytes.tight.length = needBytes format.layout (image.width * image.height) := by
    rw [needBytes_mul hgroup, h.height]
    exact length_tight fun row hrow => (hrows row hrow).1
  have hwidth := h.width_pos
  have hheight := h.height_pos
  obtain ⟨samples, hsamples⟩ := unpack_isOk format.layout hlength
  unfold decode
  rw [hformat]
  dsimp only
  rw [if_neg (by omega), if_neg (not_not.mpr hgroup), ← hlength, if_neg (Nat.lt_irrefl _),
    if_neg (not_not.mpr rfl), List.take_length, hsamples]
  cases format.layout <;> exact ⟨_, rfl⟩

/-- **Pixels.**  Packed samples are unpacked.  A record is decoded exactly if it describes an image
in its payload, wherever that lies; then the rows alone decide what it is decoded to, and none of
the bytes around and between them. -/
theorem pixel_layout :
    (∀ layout samples, Packed layout → (∀ p ∈ samples, p < 2 ^ sampleBits layout) →
      group layout ∣ samples.length → unpack layout (pack layout samples) = .ok samples) ∧
    (∀ record payload, (∃ out, decodeRecord record payload = .ok out) ↔
      ∃ image bytes, Describes record image bytes ∧ bytes.payload = payload) ∧
    (∀ record image bytes, Describes record image bytes →
      decodeRecord record bytes.payload =
        decode image.pixelFormat image.width image.height bytes.tight) := by
  refine ⟨fun _ _ hpacked hbound hlength => unpack_pack hpacked hbound hlength,
    fun record payload => ⟨fun ⟨out, hout⟩ => describes_of_decodeRecord hout, ?_⟩,
    fun _ _ _ => decodeRecord_of_describes⟩
  rintro ⟨image, bytes, hdescribes, rfl⟩
  rw [decodeRecord_of_describes hdescribes]
  exact decode_tight_isOk hdescribes

end Pixels
end Ebus
end AmigaDrivers
