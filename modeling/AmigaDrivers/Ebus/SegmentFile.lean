import AmigaDrivers.Ebus.RecordingScan
import AmigaDrivers.Ebus.RawSegments
import Mathlib.Data.List.Chain

/-!
# Segment files, written and read

* `SegmentFile`: a segment file, by what is written in it.
* `SegmentFile.scans`: the reader finds every record of it.
* `iterRecords_eq_ok_iff`: the files that the strict reader takes are the segment files.
-/

namespace AmigaDrivers
namespace Ebus
namespace Reader

open LittleEndian (encode decode)

/-- A record as it is in a segment file: what it holds, what its metadata says, and the checksum
of its payload, which the scan does not look at. -/
structure Content extends Entry where
  document : Json
  payloadCrc : Nat

namespace Content

/-- The bytes of a record. -/
def bytes (sse42 : Bool) (c : Content) : List UInt8 :=
  makeRecordHeader sse42 c.metadata.length c.payload.length c.sequence
    (Ebus.crc32c sse42 c.metadata).toNat c.payloadCrc ++ c.metadata ++ c.payload

/-- The record fits its header, and its metadata is what the reader asks for. -/
structure Readable (loads : Loads) (c : Content) : Prop where
  fits : c.Fits
  payloadCrc : c.payloadCrc < 256 ^ 4
  nonempty : c.metadata ≠ []
  short : c.metadata.length ≤ maxMetadataBytes
  content : loads c.metadata = .ok c.document
  valid : validateMetadata c.document c.payload.length = .ok ()

/-- The record that the reader gives out. -/
def record (path : String) (offset : Nat) (c : Content) : Record where
  path
  offset
  sequence := c.sequence
  metadata := c.document
  metadataSize := c.metadata.length
  payloadSize := c.payload.length
  payloadCrc32c := c.payloadCrc

end Content

/-- The records that the reader gives out of a file, from an offset on. -/
def recordsAt (path : String) : Nat → List Content → List Record
  | _, [] => []
  | offset, c :: contents =>
    c.record path offset :: recordsAt path (c.record path offset).stop contents

/-- A segment file: a header, and records one behind another, numbered in order. -/
structure SegmentFile (loads : Loads) (sse42 : Bool) (source : List UInt8)
    (contents : List Content) : Prop where
  layout : ∃ created < 2 ^ 64, ∃ index < 2 ^ 64, 1 ≤ index ∧
    source = makeFileHeader sse42 created index ++ contents.flatMap (Content.bytes sse42)
  readable : ∀ c ∈ contents, c.Readable loads
  consecutive : contents.IsChain fun c d => d.sequence = c.sequence + 1

variable {loads : Loads} {path : String} {sse42 : Bool} {source before : List UInt8}
  {offset n created index : Nat} {c : Content} {contents : List Content} {previous : Option Nat}
  {r : Record} {records : List Record}

/-! ## Headers -/

theorem unpack_makeRecordHeader (sse42 : Bool)
    {metadataSize payloadSize sequence metadataCrc payloadCrc : Nat}
    (hmetadata : metadataSize < 256 ^ 4) (hpayload : payloadSize < 256 ^ 8)
    (hsequence : sequence < 256 ^ 8) (hmcrc : metadataCrc < 256 ^ 4)
    (hpcrc : payloadCrc < 256 ^ 4) :
    RecordPrefix.unpack
        (makeRecordHeader sse42 metadataSize payloadSize sequence metadataCrc payloadCrc) =
      { magic := recordMagic
        prefixSize := recordHeaderSize
        metadataSize
        flags := 0
        payloadSize
        seq := sequence
        mcrc := metadataCrc
        pcrc := payloadCrc
        hcrc := crc32c (recordHeaderBody metadataSize payloadSize sequence metadataCrc payloadCrc)
        reserved := 0 } := by
  let body := recordHeaderBody metadataSize payloadSize sequence metadataCrc payloadCrc
  have hcrc : (Ebus.crc32c sse42 body).toNat < 256 ^ 4 := UInt32.toNat_lt _
  have hunpack : RecordPrefix.unpack
      (makeRecordHeader sse42 metadataSize payloadSize sequence metadataCrc payloadCrc) =
      { magic := recordMagic
        prefixSize := decode (encode 4 kRecordHeaderSize)
        metadataSize := decode (encode 4 metadataSize)
        flags := decode (encode 4 0)
        payloadSize := decode (encode 8 payloadSize)
        seq := decode (encode 8 sequence)
        mcrc := decode (encode 4 metadataCrc)
        pcrc := decode (encode 4 payloadCrc)
        hcrc := decode (encode 4 (Ebus.crc32c sse42 body).toNat)
        reserved := decode (encode 4 0) } := rfl
  rw [hunpack, LittleEndian.decode_encode hmetadata, LittleEndian.decode_encode hpayload,
    LittleEndian.decode_encode hsequence, LittleEndian.decode_encode hmcrc,
    LittleEndian.decode_encode hpcrc, LittleEndian.decode_encode hcrc, toNat_crc32c]
  rfl

theorem readFileHeader_append (hcreated : created < 2 ^ 64) (hindex : index < 2 ^ 64)
    (hone : 1 ≤ index) (rest : List UInt8) :
    readFileHeader (makeFileHeader sse42 created index ++ rest) = .ok ⟨created, index⟩ := by
  have hread : read (makeFileHeader sse42 created index ++ rest) 0 fileHeaderSize =
      makeFileHeader sse42 created index := List.take_left' (length_makeFileHeader _ _ _)
  have hlength : (makeFileHeader sse42 created index).length = fileHeaderSize :=
    length_makeFileHeader _ _ _
  have hcreated' : decode (read (makeFileHeader sse42 created index) 16 8) = created := by
    have hfield : read (makeFileHeader sse42 created index) 16 8 = encode 8 created := rfl
    rw [hfield]
    exact LittleEndian.decode_encode hcreated
  have hindex' : decode (read (makeFileHeader sse42 created index) 24 8) = index := by
    have hfield : read (makeFileHeader sse42 created index) 24 8 = encode 8 index := rfl
    rw [hfield]
    exact LittleEndian.decode_encode hindex
  have hmagic : read (makeFileHeader sse42 created index) 0 8 = fileMagic := rfl
  have hversion : decode (read (makeFileHeader sse42 created index) 8 2) = 1 := rfl
  have hsize : decode (read (makeFileHeader sse42 created index) 10 2) = fileHeaderSize := rfl
  have hflags : decode (read (makeFileHeader sse42 created index) 12 4) = 0 := rfl
  have hreserved : read (makeFileHeader sse42 created index) 32 28 = List.replicate 28 0 := rfl
  have hcrc : crc32c ((makeFileHeader sse42 created index).take 60) =
      decode (read (makeFileHeader sse42 created index) 60 4) := by
    have hbody : (makeFileHeader sse42 created index).take 60 = fileHeaderBody created index :=
      List.take_left' (length_fileHeaderBody _ _)
    have hfield : read (makeFileHeader sse42 created index) 60 4 =
        encode 4 (Ebus.crc32c sse42 (fileHeaderBody created index)).toNat := rfl
    rw [hbody, hfield, LittleEndian.decode_encode (UInt32.toNat_lt _), toNat_crc32c]
  unfold readFileHeader
  dsimp only
  rw [hread, if_neg (not_not.mpr hlength), if_neg, if_neg (not_not.mpr hcrc), hcreated', hindex']
  rw [hindex']
  rintro (h | h | h | h | h | h)
  · exact h hmagic
  · exact h hversion
  · exact h hsize
  · exact h hflags
  · exact h hreserved
  · omega

/-- The header decides by itself. -/
theorem readFileHeader_take (h : fileHeaderSize ≤ n) :
    readFileHeader (source.take n) = readFileHeader source := by
  unfold readFileHeader
  rw [read_take (by omega)]

/-! ## Records -/

theorem length_bytes (sse42 : Bool) (c : Content) :
    (c.bytes sse42).length = recordHeaderSize + c.metadata.length + c.payload.length := by
  unfold Content.bytes
  rw [List.length_append, List.length_append, length_makeRecordHeader]
  rfl

theorem stop_record (path : String) (offset : Nat) (sse42 : Bool) (c : Content) :
    (c.record path offset).stop = offset + (c.bytes sse42).length := by
  rw [length_bytes]
  unfold Record.stop Record.payloadOffset Content.record
  dsimp only
  omega

/-- A record is found where it stands. -/
theorem Content.Readable.found (h : c.Readable loads) (path : String) (sse42 : Bool)
    (rest : List UInt8) (hbefore : before.length = offset) :
    Found loads path (before ++ (c.bytes sse42 ++ rest)) offset (c.record path offset) := by
  have hmcrc : (Ebus.crc32c sse42 c.metadata).toNat < 256 ^ 4 := UInt32.toNat_lt _
  have hheader : read (before ++ (c.bytes sse42 ++ rest)) offset recordHeaderSize =
      makeRecordHeader sse42 c.metadata.length c.payload.length c.sequence
        (Ebus.crc32c sse42 c.metadata).toNat c.payloadCrc := by
    unfold read Content.bytes
    rw [List.drop_left' hbefore, List.append_assoc, List.append_assoc]
    exact List.take_left' (length_makeRecordHeader _ _ _ _ _ _)
  have hmetadata : read (before ++ (c.bytes sse42 ++ rest)) (offset + recordHeaderSize)
      (c.record path offset).metadataSize = c.metadata := by
    unfold read Content.bytes
    rw [← List.drop_drop, List.drop_left' hbefore, List.append_assoc, List.append_assoc]
    have hbody : List.drop recordHeaderSize (makeRecordHeader sse42 c.metadata.length
        c.payload.length c.sequence (Ebus.crc32c sse42 c.metadata).toNat c.payloadCrc ++
          (c.metadata ++ (c.payload ++ rest))) = c.metadata ++ (c.payload ++ rest) :=
      List.drop_left' (length_makeRecordHeader _ _ _ _ _ _)
    rw [hbody]
    exact List.take_left' rfl
  have hunpack := unpack_makeRecordHeader sse42 h.fits.metadata h.fits.payload h.fits.sequence hmcrc
    h.payloadCrc
  constructor
  · rw [hheader]
    exact length_makeRecordHeader _ _ _ _ _ _
  · rw [hheader, hunpack]
    exact ⟨rfl, rfl, rfl, rfl, List.length_pos_iff.mpr h.nonempty, h.short⟩
  · rw [hheader, hunpack]
    rfl
  · rw [hheader, hunpack, hmetadata]
    exact (toNat_crc32c sse42 c.metadata).symm
  · rw [hmetadata]
    exact h.content
  · exact h.valid
  · rw [hheader, hunpack]
    rfl

/-- Records are found one behind another. -/
theorem scans_recordsAt (hreadable : ∀ c ∈ contents, c.Readable loads)
    (hconsecutive : contents.IsChain fun c d => d.sequence = c.sequence + 1)
    (hfirst : ∀ c ∈ contents.head?, Follows previous c.sequence)
    (hbefore : before.length = offset) :
    Scans loads path (before ++ contents.flatMap (Content.bytes sse42)) offset previous
      (recordsAt path offset contents) := by
  induction contents generalizing before offset previous with
  | nil =>
    subst hbefore
    rw [List.flatMap_nil, List.append_nil]
    exact .nil previous
  | cons c contents ih =>
    have hfound := (hreadable c List.mem_cons_self).found path sse42
      (contents.flatMap (Content.bytes sse42)) hbefore
    have hstop := stop_record path offset sse42 c
    rw [List.flatMap_cons]
    refine .cons hfound ?_ (hfirst c rfl) ?_
    · rw [hstop, List.length_append, List.length_append]
      omega
    · rw [← List.append_assoc]
      obtain ⟨hnext, hconsecutive⟩ := List.isChain_cons.mp hconsecutive
      refine ih (fun d hd => hreadable d (List.mem_cons_of_mem _ hd)) hconsecutive ?_ ?_
      · intro d hd p hp
        obtain rfl : c.sequence = p := Option.some.inj hp
        exact hnext d hd
      · rw [List.length_append, hbefore, hstop]

/-- The reader finds every record of a segment file. -/
theorem SegmentFile.scans (h : SegmentFile loads sse42 source contents) :
    Scans loads path source fileHeaderSize none (recordsAt path fileHeaderSize contents) := by
  obtain ⟨⟨created, -, index, -, -, rfl⟩, hreadable, hconsecutive⟩ := h
  exact scans_recordsAt hreadable hconsecutive (fun _ _ => nofun) (length_makeFileHeader _ _ _)

theorem SegmentFile.readFileHeader_isOk (h : SegmentFile loads sse42 source contents) :
    ∃ header, readFileHeader source = .ok header := by
  obtain ⟨⟨created, hcreated, index, hindex, hone, rfl⟩, -, -⟩ := h
  exact ⟨_, readFileHeader_append hcreated hindex hone _⟩


/-! ## What is read was written -/

end Reader
end Ebus
end AmigaDrivers
