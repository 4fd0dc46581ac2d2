import AmigaDrivers.Ebus.Crc32c
import AmigaDrivers.Foundation.Json
import AmigaDrivers.Foundation.LittleEndian

/-!
# The reader of the raw container

The reader in Python scans a segment file from its header to its end, and gives out the records it
has checked before it goes on to the next one.

* `readFileHeader`, `validateMetadata`, `recordAt`: what it checks.
* `iterRecords`: the records it gives out, and how it ends.
* `recordAt_eq_some_iff`: when a record is given out.
-/

namespace AmigaDrivers
namespace Ebus
namespace Reader

open LittleEndian (decode)

/-- `_json`. -/
abbrev Loads : Type := List UInt8 → Except String Json

/-- `FILE_MAGIC`. -/
def fileMagic : List UInt8 := [69, 66, 85, 83, 82, 65, 87, 0]

/-- `RECORD_MAGIC`. -/
def recordMagic : List UInt8 := [69, 66, 70, 82]

/-- `FILE_HEADER_SIZE`. -/
def fileHeaderSize : Nat := 64

/-- `RECORD_HEADER_SIZE`. -/
def recordHeaderSize : Nat := 48

/-- `MAX_METADATA_BYTES`. -/
def maxMetadataBytes : Nat := 1024 * 1024

/-- `_UINT64_MAX`. -/
def uint64Max : Nat := 2 ^ 64 - 1

/-- What `read(size)` returns after `seek(offset)`. -/
def read (source : List UInt8) (offset size : Nat) : List UInt8 := (source.drop offset).take size

/-! ## The file header -/

/-- `FileHeader`. -/
structure FileHeader where
  createdRealtimeNs : Nat
  segmentIndex : Nat
  deriving DecidableEq

/-- `read_file_header`. -/
def readFileHeader (source : List UInt8) : Except String FileHeader :=
  let raw := read source 0 fileHeaderSize
  if raw.length ≠ fileHeaderSize then .error "Incomplete eBUS file header"
  else
    let created := decode (read raw 16 8)
    let index := decode (read raw 24 8)
    if read raw 0 8 ≠ fileMagic ∨ decode (read raw 8 2) ≠ 1 ∨
        decode (read raw 10 2) ≠ fileHeaderSize ∨ decode (read raw 12 4) ≠ 0 ∨
        read raw 32 28 ≠ List.replicate 28 0 ∨ index < 1 then
      .error "Unsupported eBUS file header"
    else if crc32c (raw.take 60) ≠ decode (read raw 60 4) then
      .error "eBUS file header CRC-32C mismatch"
    else .ok ⟨created, index⟩

/-! ## Metadata -/

/-- `_uint`. -/
def uint (value : Option Json) (name : String) : Except String Int :=
  match value with
  | some (.int i) =>
    if 0 ≤ i ∧ i ≤ uint64Max then .ok i else .error ("Invalid ebus-raw " ++ name)
  | _ => .error ("Invalid ebus-raw " ++ name)

/-- `_boolean`. -/
def boolean (value : Option Json) (name : String) : Except String Bool :=
  match value with
  | some (.bool b) => .ok b
  | _ => .error ("Invalid ebus-raw " ++ name)

/-- A truth value that `_boolean` has let pass. -/
def flag (j : Json) (name : String) : Bool :=
  match j.get? name with
  | some (.bool b) => b
  | _ => false

/-- The image of `_validate_metadata`, where there is one. -/
def validateImage (image : Json) : Except String Unit := do
  if image.isObject = false then throw "Invalid eBUS image metadata"
  for name in ["pixel_format", "width", "height", "offset_x", "offset_y", "padding_x", "padding_y",
      "image_size", "effective_image_size"] do
    discard <| uint (image.get? name) ("image." ++ name)
  match image.get? "payload_offset" with
  | none | some .null => pure ()
  | some value => discard <| uint (some value) "image.payload_offset"
  for name in ["partial_line_missing", "full_line_missing", "data_overrun"] do
    discard <| boolean (image.get? name) ("image." ++ name)

/-- `record_kind` is the one that the reader knows. -/
def isBuffer (metadata : Json) : Bool :=
  match metadata.get? "record_kind" with
  | some (.str kind) => kind == "buffer"
  | _ => false

/-- `_validate_metadata`. -/
def validateMetadata (metadata : Json) (payloadSize : Nat) : Except String Unit := do
  if metadata.isObject = false ∨ isBuffer metadata = false then
    throw "Unsupported eBUS record metadata"
  for name in ["block_id", "device_timestamp_raw", "host_realtime_ns", "host_monotonic_ns",
      "acquired_size", "payload_type", "operation_result", "chunk_count", "gap_before"] do
    discard <| uint (metadata.get? name) name
  let acquired ← uint (metadata.get? "acquired_size") "acquired_size"
  if acquired ≠ payloadSize then throw "Acquired size disagrees with the raw record prefix"
  for name in ["operation_ok", "valid_frame", "block_id_anomaly"] do
    discard <| boolean (metadata.get? name) name
  match metadata.get? "operation_name" with
  | some (.str _) => pure ()
  | _ => throw "Invalid eBUS operation name"
  let damaged : Bool ← match metadata.get? "image" with
    | none => throw "Missing eBUS image field (use null for a non-image buffer)"
    | some .null => pure true
    | some image => do
      validateImage image
      pure (flag image "partial_line_missing" || flag image "full_line_missing" ||
        flag image "data_overrun")
  if flag metadata "valid_frame" = true ∧ (flag metadata "operation_ok" = false ∨
      flag metadata "block_id_anomaly" = true ∨ damaged = true) then
    throw "valid_frame contradicts the recorded receive result"

/-! ## Records -/

/-- `Record`. -/
structure Record where
  path : String
  offset : Nat
  sequence : Nat
  metadata : Json
  metadataSize : Nat
  payloadSize : Nat
  payloadCrc32c : Nat

/-- `Record.payload_offset`. -/
def Record.payloadOffset (r : Record) : Nat := r.offset + recordHeaderSize + r.metadataSize

/-- `Record.end`. -/
def Record.stop (r : Record) : Nat := r.payloadOffset + r.payloadSize

/-- The fields of `RECORD_HEADER_FMT`. -/
structure RecordPrefix where
  magic : List UInt8
  prefixSize : Nat
  metadataSize : Nat
  flags : Nat
  payloadSize : Nat
  seq : Nat
  mcrc : Nat
  pcrc : Nat
  hcrc : Nat
  reserved : Nat
  deriving DecidableEq

/-- `struct.unpack(RECORD_HEADER_FMT, raw)`. -/
def RecordPrefix.unpack (raw : List UInt8) : RecordPrefix where
  magic := read raw 0 4
  prefixSize := decode (read raw 4 4)
  metadataSize := decode (read raw 8 4)
  flags := decode (read raw 12 4)
  payloadSize := decode (read raw 16 8)
  seq := decode (read raw 24 8)
  mcrc := decode (read raw 32 4)
  pcrc := decode (read raw 36 4)
  hcrc := decode (read raw 40 4)
  reserved := decode (read raw 44 4)

/-- The record prefix is of the one kind that the reader knows. -/
def RecordPrefix.Supported (p : RecordPrefix) : Prop :=
  p.magic = recordMagic ∧ p.prefixSize = recordHeaderSize ∧ p.flags = 0 ∧ p.reserved = 0 ∧
    0 < p.metadataSize ∧ p.metadataSize ≤ maxMetadataBytes

instance (p : RecordPrefix) : Decidable p.Supported :=
  inferInstanceAs (Decidable (p.magic = recordMagic ∧ p.prefixSize = recordHeaderSize ∧
    p.flags = 0 ∧ p.reserved = 0 ∧ 0 < p.metadataSize ∧ p.metadataSize ≤ maxMetadataBytes))

/-- The record that a prefix announces. -/
def RecordPrefix.record (p : RecordPrefix) (path : String) (offset : Nat) (metadata : Json) :
    Record where
  path
  offset
  sequence := p.seq
  metadata
  metadataSize := p.metadataSize
  payloadSize := p.payloadSize
  payloadCrc32c := p.pcrc

/-- `_record_at`. -/
def recordAt (loads : Loads) (path : String) (source : List UInt8) (offset size : Nat)
    (live : Bool) : Except String (Option Record) :=
  let place := path ++ ":" ++ toString offset
  let raw := read source offset recordHeaderSize
  if raw.length ≠ recordHeaderSize then
    if live then .ok none else .error ("Incomplete eBUS record prefix at " ++ place)
  else
    let p := RecordPrefix.unpack raw
    if ¬p.Supported then .error ("Invalid eBUS record prefix at " ++ place)
    else if crc32c (raw.take 40) ≠ p.hcrc then
      .error ("eBUS record prefix CRC-32C mismatch at " ++ place)
    else if size < offset + recordHeaderSize + p.metadataSize + p.payloadSize then
      if live then .ok none else .error ("Incomplete eBUS metadata/payload at " ++ place)
    else
      let metadataRaw := read source (offset + recordHeaderSize) p.metadataSize
      if crc32c metadataRaw ≠ p.mcrc then .error ("eBUS metadata CRC-32C mismatch at " ++ place)
      else do
        let metadata ← loads metadataRaw
        validateMetadata metadata p.payloadSize
        pure (some (p.record path offset metadata))

/-- A record stands at a place of a file, whether or not its payload is all there. -/
structure Found (loads : Loads) (path : String) (source : List UInt8) (offset : Nat)
    (r : Record) : Prop where
  header : (read source offset recordHeaderSize).length = recordHeaderSize
  supported : (RecordPrefix.unpack (read source offset recordHeaderSize)).Supported
  headerCrc : crc32c ((read source offset recordHeaderSize).take 40) =
    (RecordPrefix.unpack (read source offset recordHeaderSize)).hcrc
  metadataCrc : crc32c (read source (offset + recordHeaderSize) r.metadataSize) =
    (RecordPrefix.unpack (read source offset recordHeaderSize)).mcrc
  content : loads (read source (offset + recordHeaderSize) r.metadataSize) = .ok r.metadata
  valid : validateMetadata r.metadata r.payloadSize = .ok ()
  record : r = (RecordPrefix.unpack (read source offset recordHeaderSize)).record path offset
    r.metadata

variable {loads : Loads} {path : String} {source : List UInt8} {offset size n : Nat} {live : Bool}
  {r : Record}

/-- A record is given out when it stands there and ends in time. -/
theorem recordAt_eq_some_iff : recordAt loads path source offset size live = .ok (some r) ↔
    Found loads path source offset r ∧ r.stop ≤ size := by
  unfold recordAt
  dsimp only
  generalize hp : RecordPrefix.unpack (read source offset recordHeaderSize) = p
  constructor
  · intro h
    by_cases header : (read source offset recordHeaderSize).length ≠ recordHeaderSize
    · rw [if_pos header] at h
      cases live <;> exact nomatch h
    by_cases supported : ¬p.Supported
    · rw [if_neg header, if_pos supported] at h
      exact nomatch h
    by_cases headerCrc : crc32c ((read source offset recordHeaderSize).take 40) ≠ p.hcrc
    · rw [if_neg header, if_neg supported, if_pos headerCrc] at h
      exact nomatch h
    by_cases hstop : size < offset + recordHeaderSize + p.metadataSize + p.payloadSize
    · rw [if_neg header, if_neg supported, if_neg headerCrc, if_pos hstop] at h
      cases live <;> exact nomatch h
    by_cases metadataCrc : crc32c (read source (offset + recordHeaderSize) p.metadataSize) ≠ p.mcrc
    · rw [if_neg header, if_neg supported, if_neg headerCrc, if_neg hstop, if_pos metadataCrc] at h
      exact nomatch h
    rw [if_neg header, if_neg supported, if_neg headerCrc, if_neg hstop, if_neg metadataCrc] at h
    cases hload : loads (read source (offset + recordHeaderSize) p.metadataSize) with
    | error e => rw [hload] at h; exact nomatch h
    | ok metadata =>
      rw [hload] at h
      cases hvalid : validateMetadata metadata p.payloadSize with
      | error e =>
        simp only [bind, Except.bind, hvalid] at h
        exact nomatch h
      | ok u =>
        simp only [bind, Except.bind, hvalid, pure, Except.pure, Except.ok.injEq,
          Option.some.injEq] at h
        subst h
        refine ⟨⟨not_not.mp header, ?_, ?_, ?_, hload, hvalid, ?_⟩, Nat.not_lt.mp hstop⟩
        · rw [hp]
          exact not_not.mp supported
        · rw [hp]
          exact not_not.mp headerCrc
        · rw [hp]
          exact not_not.mp metadataCrc
        · rw [hp]
          rfl
  · rintro ⟨h, hstop⟩
    obtain ⟨header, supported, headerCrc, metadataCrc, content, valid, record⟩ := h
    rw [hp] at supported headerCrc metadataCrc record
    obtain ⟨rpath, roffset, sequence, metadata, metadataSize, payloadSize, payloadCrc32c⟩ := r
    obtain ⟨rfl, rfl, rfl, -, rfl, rfl, rfl⟩ := Record.mk.inj record
    have hsize : ¬size < roffset + recordHeaderSize + p.metadataSize + p.payloadSize :=
      Nat.not_lt.mpr hstop
    rw [if_neg (not_not.mpr header), if_neg (not_not.mpr supported), if_neg (not_not.mpr headerCrc),
      if_neg hsize, if_neg (not_not.mpr metadataCrc), content]
    simp only [bind, Except.bind, valid]
    rfl

/-- A record that is given out ends behind where it starts. -/
theorem lt_stop_of_recordAt (h : recordAt loads path source offset size live = .ok (some r)) :
    offset < r.stop := by
  obtain ⟨hfound, -⟩ := recordAt_eq_some_iff.mp h
  have hoffset : r.offset = offset := congrArg Record.offset hfound.record
  unfold Record.stop Record.payloadOffset recordHeaderSize
  omega

/-- The loop of `iter_records`: what it yields from an offset on, and how it ends. -/
def scan (loads : Loads) (path : String) (source : List UInt8) (size : Nat) (live : Bool)
    (offset : Nat) (previous : Option Nat) : List Record × Except String Unit :=
  if offset < size then
    match _h : recordAt loads path source offset size live with
    | .error e => ([], .error e)
    | .ok none => ([], .ok ())
    | .ok (some record) =>
      if previous.any (fun previous => record.sequence ≠ previous + 1) = true then
        ([], .error "Missing, duplicate or reversed eBUS record sequence")
      else
        let (records, result) := scan loads path source size live record.stop (some record.sequence)
        (record :: records, result)
  else ([], .ok ())
termination_by size - offset
decreasing_by
  have hlt := lt_stop_of_recordAt _h
  omega

/-- `iter_records`: what it yields, and how it ends. -/
def iterRecords (loads : Loads) (path : String) (source : List UInt8) (live : Bool) :
    List Record × Except String Unit :=
  match readFileHeader source with
  | .error e => ([], .error e)
  | .ok _ => scan loads path source source.length live fileHeaderSize none

end Reader
end Ebus
end AmigaDrivers
