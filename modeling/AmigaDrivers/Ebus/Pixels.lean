import AmigaDrivers.Foundation.LittleEndian

/-!
# Pixels

The names and sample layouts of the pixel formats, and how recorded bytes become samples.

* `pfnc`, `needBytes`, `expectedBytes`, `formatForCode`: the formats.
* `unpackGvsp12packed`, `unpackGvsp10packed`, `unpackPfnc12p`, `unpackPfnc10p`: packed samples.
* `decode`, `decodeRecord`: the image in a payload.
-/

namespace AmigaDrivers
namespace Ebus
namespace Pixels

/-! ## Pixel formats -/

/-- How the samples lie in memory. -/
inductive Layout
  | u8
  | u16
  | rgb8
  | gvsp12p
  | gvsp10p
  | pfnc12p
  | pfnc10p
  deriving DecidableEq

/-- What the samples are samples of: gray, a Bayer mosaic named by its first two, or color. -/
inductive Pattern
  | mono
  | bayerGR
  | bayerRG
  | bayerGB
  | bayerBG
  | rgb
  deriving DecidableEq

/-- `PixelFormat`. -/
structure PixelFormat where
  name : String
  layout : Layout
  pattern : Pattern
  bits : Nat
  deriving DecidableEq

/-- `PFNC`. -/
def pfnc : List (Nat × PixelFormat) :=
  [(0x01080001, ⟨"Mono8", .u8, .mono, 8⟩),
    (0x01080008, ⟨"BayerGR8", .u8, .bayerGR, 8⟩),
    (0x01080009, ⟨"BayerRG8", .u8, .bayerRG, 8⟩),
    (0x0108000A, ⟨"BayerGB8", .u8, .bayerGB, 8⟩),
    (0x0108000B, ⟨"BayerBG8", .u8, .bayerBG, 8⟩),
    (0x01100003, ⟨"Mono10", .u16, .mono, 10⟩),
    (0x01100005, ⟨"Mono12", .u16, .mono, 12⟩),
    (0x01100007, ⟨"Mono16", .u16, .mono, 16⟩),
    (0x0110000C, ⟨"BayerGR10", .u16, .bayerGR, 10⟩),
    (0x0110000D, ⟨"BayerRG10", .u16, .bayerRG, 10⟩),
    (0x0110000E, ⟨"BayerGB10", .u16, .bayerGB, 10⟩),
    (0x0110000F, ⟨"BayerBG10", .u16, .bayerBG, 10⟩),
    (0x01100010, ⟨"BayerGR12", .u16, .bayerGR, 12⟩),
    (0x01100011, ⟨"BayerRG12", .u16, .bayerRG, 12⟩),
    (0x01100012, ⟨"BayerGB12", .u16, .bayerGB, 12⟩),
    (0x01100013, ⟨"BayerBG12", .u16, .bayerBG, 12⟩),
    -- the older packed formats: two samples in three bytes, their high bits in the outer ones
    (0x010C0004, ⟨"Mono10Packed", .gvsp10p, .mono, 10⟩),
    (0x010C0006, ⟨"Mono12Packed", .gvsp12p, .mono, 12⟩),
    (0x010C0026, ⟨"BayerGR10Packed", .gvsp10p, .bayerGR, 10⟩),
    (0x010C0027, ⟨"BayerRG10Packed", .gvsp10p, .bayerRG, 10⟩),
    (0x010C0028, ⟨"BayerGB10Packed", .gvsp10p, .bayerGB, 10⟩),
    (0x010C0029, ⟨"BayerBG10Packed", .gvsp10p, .bayerBG, 10⟩),
    (0x010C002A, ⟨"BayerGR12Packed", .gvsp12p, .bayerGR, 12⟩),
    (0x010C002B, ⟨"BayerRG12Packed", .gvsp12p, .bayerRG, 12⟩),
    (0x010C002C, ⟨"BayerGB12Packed", .gvsp12p, .bayerGB, 12⟩),
    (0x010C002D, ⟨"BayerBG12Packed", .gvsp12p, .bayerBG, 12⟩),
    -- the newer ones: samples one behind another from the lowest bit on
    (0x010A0046, ⟨"Mono10p", .pfnc10p, .mono, 10⟩),
    (0x010C0047, ⟨"Mono12p", .pfnc12p, .mono, 12⟩),
    (0x010A0052, ⟨"BayerBG10p", .pfnc10p, .bayerBG, 10⟩),
    (0x010A0054, ⟨"BayerGB10p", .pfnc10p, .bayerGB, 10⟩),
    (0x010A0056, ⟨"BayerGR10p", .pfnc10p, .bayerGR, 10⟩),
    (0x010A0058, ⟨"BayerRG10p", .pfnc10p, .bayerRG, 10⟩),
    (0x010C0053, ⟨"BayerBG12p", .pfnc12p, .bayerBG, 12⟩),
    (0x010C0055, ⟨"BayerGB12p", .pfnc12p, .bayerGB, 12⟩),
    (0x010C0057, ⟨"BayerGR12p", .pfnc12p, .bayerGR, 12⟩),
    (0x010C0059, ⟨"BayerRG12p", .pfnc12p, .bayerRG, 12⟩),
    (0x02180014, ⟨"RGB8", .rgb8, .rgb, 8⟩)]

/-- `NEED_BYTES`. -/
def needBytes : Layout → Nat → Nat
  | .u8, n => n
  | .u16, n => n * 2
  | .rgb8, n => n * 3
  | .gvsp12p, n => (n + 1) / 2 * 3
  | .gvsp10p, n => (n + 1) / 2 * 3
  | .pfnc12p, n => (n + 1) / 2 * 3
  | .pfnc10p, n => (n + 3) / 4 * 5

/-- `expected_bytes`. -/
def expectedBytes (code width height : Nat) : Option Nat :=
  (pfnc.lookup code).map fun format => needBytes format.layout (width * height)

/-- A number in eight hexadecimal digits or more. -/
def hex8 (n : Nat) : String :=
  let digits := (Nat.toDigits 16 n).map Char.toUpper
  String.ofList (List.replicate (8 - digits.length) '0' ++ digits)

/-- `format_for_code`. -/
def formatForCode (code : Nat) : Except String PixelFormat :=
  match pfnc.lookup code with
  | none => .error ("Unsupported PixelFormat 0x" ++ hex8 code)
  | some format => .ok format

/-- How many samples are packed together. -/
def group : Layout → Nat
  | .pfnc10p => 4
  | .gvsp12p | .gvsp10p | .pfnc12p => 2
  | .u8 | .u16 | .rgb8 => 1

/-! ## Samples -/

/-- What `reshape` raises for bytes that do not fill their last row. -/
def notReshaped : String := "cannot reshape array"

/-- Two samples from each three bytes. -/
def unpackTriples (first second : Nat → Nat → Nat → Nat) : List UInt8 → Except String (List Nat)
  | [] => .ok []
  | b₀ :: b₁ :: b₂ :: rest => do
    let out ← unpackTriples first second rest
    return first b₀.toNat b₁.toNat b₂.toNat :: second b₀.toNat b₁.toNat b₂.toNat :: out
  | _ => .error notReshaped

/-- `unpack_gvsp12packed`. -/
def unpackGvsp12packed : List UInt8 → Except String (List Nat) :=
  unpackTriples (fun b₀ b₁ _ => b₀ <<< 4 ||| b₁ &&& 0x0F) fun _ b₁ b₂ => b₂ <<< 4 ||| b₁ >>> 4

/-- `unpack_gvsp10packed`. -/
def unpackGvsp10packed : List UInt8 → Except String (List Nat) :=
  unpackTriples (fun b₀ b₁ _ => b₀ <<< 2 ||| b₁ &&& 0x03) fun _ b₁ b₂ =>
    b₂ <<< 2 ||| b₁ >>> 4 &&& 0x03

/-- `unpack_pfnc12p`. -/
def unpackPfnc12p : List UInt8 → Except String (List Nat) :=
  unpackTriples (fun b₀ b₁ _ => b₀ ||| (b₁ &&& 0x0F) <<< 8) fun _ b₁ b₂ => b₁ >>> 4 ||| b₂ <<< 4

/-- `unpack_pfnc10p`. -/
def unpackPfnc10p : List UInt8 → Except String (List Nat)
  | [] => .ok []
  | b₀ :: b₁ :: b₂ :: b₃ :: b₄ :: rest => do
    let out ← unpackPfnc10p rest
    return (b₀.toNat ||| (b₁.toNat &&& 0x03) <<< 8) ::
      (b₁.toNat >>> 2 ||| (b₂.toNat &&& 0x0F) <<< 6) ::
      (b₂.toNat >>> 4 ||| (b₃.toNat &&& 0x3F) <<< 4) ::
      (b₃.toNat >>> 6 ||| b₄.toNat <<< 2) :: out
  | _ => .error notReshaped

/-- `np.frombuffer(buf, "<u2")`. -/
def unpackU16 : List UInt8 → Except String (List Nat)
  | [] => .ok []
  | b₀ :: b₁ :: rest => do
    let out ← unpackU16 rest
    return LittleEndian.decode [b₀, b₁] :: out
  | _ => .error "buffer size must be a multiple of element size"

/-- The samples in some bytes. -/
def unpack : Layout → List UInt8 → Except String (List Nat)
  | .u8, bytes => .ok (bytes.map UInt8.toNat)
  | .u16, bytes => unpackU16 bytes
  | .rgb8, bytes => .ok (bytes.map UInt8.toNat)
  | .gvsp12p, bytes => unpackGvsp12packed bytes
  | .gvsp10p, bytes => unpackGvsp10packed bytes
  | .pfnc12p, bytes => unpackPfnc12p bytes
  | .pfnc10p, bytes => unpackPfnc10p bytes

/-! ## Images -/

/-- An image, its samples row by row. -/
structure Image where
  height : Nat
  width : Nat
  channels : Nat
  samples : List Nat
  name : String
  pattern : Pattern
  deriving DecidableEq

/-- `decode`. -/
def decode (code width height : Nat) (payload : List UInt8) : Except String Image :=
  match pfnc.lookup code with
  | none => .error ("unsupported PixelFormat 0x" ++ hex8 code ++ " (extend the PFNC table)")
  | some format =>
    let n := width * height
    let need := needBytes format.layout n
    if width = 0 ∨ height = 0 then .error "image dimensions must be positive"
    else if width % group format.layout ≠ 0 then
      .error ("packed row width is not a complete packing group; " ++
        "row layout must be supplied explicitly")
    else if payload.length < need then
      .error ("payload too short for " ++ format.name ++ " " ++ toString width ++ "x" ++
        toString height ++ ": " ++ toString payload.length ++ " < " ++ toString need ++
        " bytes (incomplete frame)")
    else if payload.length ≠ need then
      .error ("payload has padding/chunks or an unknown layout; " ++
        "refusing to discard bytes or guess stride")
    else do
      let samples ← unpack format.layout (payload.take need)
      match format.layout with
      | .rgb8 => return ⟨height, width, 3, samples, format.name, format.pattern⟩
      | _ => return ⟨height, width, 1, samples.take n, format.name, format.pattern⟩

/-- What a record says of its image. -/
structure ImageInfo where
  pixelFormat : Nat
  width : Nat
  height : Nat
  paddingX : Nat
  paddingY : Nat
  imageSize : Nat
  effectiveImageSize : Nat
  payloadOffset : Option Nat

/-- What the reader has accepted of a record; a valid frame has an image. -/
structure Record where
  validFrame : Bool
  image : Option ImageInfo
  payloadSize : Nat
  hasImage : validFrame = true → image.isSome = true

/-- `payload[start:stop]`. -/
def slice (payload : List UInt8) (start stop : Nat) : List UInt8 :=
  (payload.drop start).take (stop - start)

/-- The memory that an image may take. -/
def maxImageBytes : Nat := 128 * 1024 * 1024

/-- The rows of an image without what lies between them. -/
def tightRows (image : ImageInfo) (offset rowBytes : Nat) (payload : List UInt8) : List UInt8 :=
  let stride := rowBytes + image.paddingX
  if image.paddingX = 0 then slice payload offset (offset + rowBytes * image.height)
  else (List.range image.height).flatMap fun row =>
    slice payload (offset + row * stride) (offset + row * stride + rowBytes)

/-- `decode_record`, for the image of a valid frame. -/
def decodeImage (image : ImageInfo) (payloadSize : Nat) (payload : List UInt8) :
    Except String Image :=
  match image.payloadOffset with
  | none => .error "SDK image byte offset is unknown; refusing to guess"
  | some offset => do
    let format ← formatForCode image.pixelFormat
    if image.width = 0 ∨ image.height = 0 ∨ image.width % group format.layout ≠ 0 then
      .error "Unsupported SDK image geometry or packed row width"
    else
      let rowBytes := (expectedBytes image.pixelFormat image.width 1).getD 0
      let stride := rowBytes + image.paddingX
      let expected := stride * image.height + image.paddingY
      if image.effectiveImageSize ≠ rowBytes * image.height ∨ image.imageSize ≠ expected ∨
          offset + expected > payload.length ∨ payload.length ≠ payloadSize then
        .error "SDK image layout disagrees with the recorded payload"
      else if rowBytes * image.height > maxImageBytes then
        .error "Decoded image exceeds the memory budget"
      else
        decode image.pixelFormat image.width image.height (tightRows image offset rowBytes payload)

/-- `decode_record`. -/
def decodeRecord (record : Record) (payload : List UInt8) : Except String Image :=
  if h : record.validFrame = true then
    decodeImage (record.image.get (record.hasImage h)) record.payloadSize payload
  else .error "Recorded buffer is not a valid image frame"

end Pixels
end Ebus
end AmigaDrivers
