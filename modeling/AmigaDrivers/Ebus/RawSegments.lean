import AmigaDrivers.Ebus.RawFormat

/-!
# The records in a segment file

A segment file is a header and records one behind another.  A record says how long it is, so the
records can be told apart, and a record that was cut off can be told from one that is complete.

* `Entry`: what a record holds.
* `entriesIn`: the complete records at the start of some bytes.
* `entriesIn_append`: complete records are found, and what is left of another one is not.
-/

namespace AmigaDrivers
namespace Ebus

open LittleEndian (encode decode)

/-- What a record holds. -/
structure Entry where
  sequence : Nat
  metadata : List UInt8
  payload : List UInt8
  deriving DecidableEq

namespace Entry

/-- The header in front of the metadata and the payload. -/
def header (sse42 : Bool) (x : Entry) : List UInt8 :=
  makeRecordHeader sse42 x.metadata.length x.payload.length x.sequence
    (crc32c sse42 x.metadata).toNat (crc32c sse42 x.payload).toNat

/-- A record. -/
def bytes (sse42 : Bool) (x : Entry) : List UInt8 := x.header sse42 ++ x.metadata ++ x.payload

/-- The sizes and the number fit the fields of the header. -/
structure Fits (x : Entry) : Prop where
  metadata : x.metadata.length < 256 ^ 4
  payload : x.payload.length < 256 ^ 8
  sequence : x.sequence < 256 ^ 8

variable {sse42 : Bool} {x y : Entry}

@[simp] theorem length_header (sse42 : Bool) (x : Entry) :
    (x.header sse42).length = kRecordHeaderSize := length_makeRecordHeader _ _ _ _ _ _

theorem length_bytes (sse42 : Bool) (x : Entry) :
    (x.bytes sse42).length = kRecordHeaderSize + x.metadata.length + x.payload.length := by
  unfold bytes
  rw [List.length_append, List.length_append, length_header]

/-- A part of the header, where it stands. -/
theorem part_of_header {before part rest : List UInt8} {sse42 : Bool} {x : Entry}
    (h : x.header sse42 = before ++ part ++ rest) {i width : Nat} (hi : before.length = i)
    (hwidth : part.length = width) : ((x.header sse42).drop i).take width = part := by
  rw [h, List.append_assoc, List.drop_left' hi, List.take_left' hwidth]

/-- What the fields of a header say. -/
theorem fields_of_header (sse42 : Bool) (h : x.Fits) :
    decode (((x.header sse42).drop 8).take 4) = x.metadata.length ∧
      decode (((x.header sse42).drop 16).take 8) = x.payload.length ∧
        decode (((x.header sse42).drop 24).take 8) = x.sequence := by
  let start : List UInt8 := ByteUtil.ascii "EBFR" ++ encode 4 kRecordHeaderSize
  let crcs : List UInt8 := encode 4 (crc32c sse42 x.metadata).toNat ++
    encode 4 (crc32c sse42 x.payload).toNat
  let tail : List UInt8 :=
    encode 4 (crc32c sse42 (recordHeaderBody x.metadata.length x.payload.length x.sequence
      (crc32c sse42 x.metadata).toNat (crc32c sse42 x.payload).toNat)).toNat ++ encode 4 0
  have hstart : start.length = 8 := rfl
  have hmetadata : x.header sse42 = start ++ encode 4 x.metadata.length ++
      (encode 4 0 ++ encode 8 x.payload.length ++ encode 8 x.sequence ++ crcs ++ tail) := by
    simp only [header, makeRecordHeader, recordHeaderBody, start, crcs, tail, List.append_assoc]
  have hpayload : x.header sse42 = (start ++ encode 4 x.metadata.length ++ encode 4 0) ++
      encode 8 x.payload.length ++ (encode 8 x.sequence ++ crcs ++ tail) := by
    simp only [header, makeRecordHeader, recordHeaderBody, start, crcs, tail, List.append_assoc]
  have hsequence : x.header sse42 = (start ++ encode 4 x.metadata.length ++ encode 4 0 ++
      encode 8 x.payload.length) ++ encode 8 x.sequence ++ (crcs ++ tail) := by
    simp only [header, makeRecordHeader, recordHeaderBody, start, crcs, tail, List.append_assoc]
  have h16 : (start ++ encode 4 x.metadata.length ++ encode 4 0).length = 16 := by
    simp only [List.length_append, hstart, LittleEndian.length_encode]
  have h24 : (start ++ encode 4 x.metadata.length ++ encode 4 0 ++
      encode 8 x.payload.length).length = 24 := by
    simp only [List.length_append, hstart, LittleEndian.length_encode]
  refine ⟨?_, ?_, ?_⟩
  · rw [part_of_header hmetadata hstart (LittleEndian.length_encode 4 _)]
    exact LittleEndian.decode_encode h.metadata
  · rw [part_of_header hpayload h16 (LittleEndian.length_encode 8 _)]
    exact LittleEndian.decode_encode h.payload
  · rw [part_of_header hsequence h24 (LittleEndian.length_encode 8 _)]
    exact LittleEndian.decode_encode h.sequence

/-- The first record that the fields of a header speak of, complete or not. -/
def first (bytes : List UInt8) : Entry :=
  let body := bytes.drop kRecordHeaderSize
  let metadataSize := decode ((bytes.drop 8).take 4)
  { sequence := decode ((bytes.drop 24).take 8)
    metadata := body.take metadataSize
    payload := (body.drop metadataSize).take (decode ((bytes.drop 16).take 8)) }

theorem take_drop_append (i n : Nat) {bytes rest : List UInt8} (h : i + n ≤ bytes.length) :
    ((bytes ++ rest).drop i).take n = (bytes.drop i).take n := by
  rw [List.drop_append_of_le_length (by omega), List.take_append_of_le_length]
  rw [List.length_drop]
  omega

/-- The first record, behind its header. -/
theorem first_header (h : x.Fits) (body : List UInt8) :
    first (x.header sse42 ++ body) = ⟨x.sequence, body.take x.metadata.length,
      (body.drop x.metadata.length).take x.payload.length⟩ := by
  have hlength := length_header sse42 x
  obtain ⟨hmetadata, hpayload, hsequence⟩ := fields_of_header sse42 h
  unfold kRecordHeaderSize at hlength
  unfold first
  dsimp only
  rw [take_drop_append 24 8 (by omega), take_drop_append 8 4 (by omega),
    take_drop_append 16 8 (by omega), hmetadata, hpayload, hsequence, List.drop_left' (length_header sse42 x)]

theorem first_bytes (h : x.Fits) (rest : List UInt8) : first (x.bytes sse42 ++ rest) = x := by
  unfold bytes
  rw [List.append_assoc, List.append_assoc, first_header h, List.take_left, List.drop_left,
    List.take_left]

end Entry

/-- The complete records at the start of some bytes. -/
def entriesIn (sse42 : Bool) (bytes : List UInt8) : List Entry :=
  if h : ((Entry.first bytes).bytes sse42).isPrefixOf bytes = true then
    Entry.first bytes :: entriesIn sse42 (bytes.drop ((Entry.first bytes).bytes sse42).length)
  else []
termination_by bytes.length
decreasing_by
  have hlength := Entry.length_bytes sse42 (Entry.first bytes)
  have hle := (List.isPrefixOf_iff_prefix.mp h).length_le
  rw [List.length_drop]
  unfold kRecordHeaderSize at hlength
  omega

/-- The complete records of a segment file. -/
def segmentEntries (sse42 : Bool) (bytes : List UInt8) : List Entry :=
  entriesIn sse42 (bytes.drop kFileHeaderSize)

variable {sse42 : Bool} {x : Entry}

/-- A complete record is the first one. -/
theorem entriesIn_cons (h : x.Fits) (rest : List UInt8) :
    entriesIn sse42 (x.bytes sse42 ++ rest) = x :: entriesIn sse42 rest := by
  rw [entriesIn]
  rw [Entry.first_bytes h, dif_pos (List.isPrefixOf_iff_prefix.mpr (List.prefix_append _ _)),
    List.drop_left]

/-- What is left of a record when its end is cut off is not a record. -/
theorem entriesIn_torn (h : x.Fits) {n : Nat} (hn : n < (x.bytes sse42).length) :
    entriesIn sse42 ((x.bytes sse42).take n) = [] := by
  rw [entriesIn]
  rw [dif_neg]
  intro hprefix
  have hprefix := List.isPrefixOf_iff_prefix.mp hprefix
  generalize hy : Entry.first ((x.bytes sse42).take n) = y at hprefix
  have hle := hprefix.length_le
  rw [List.length_take] at hle
  have hlength := Entry.length_bytes sse42 y
  -- the header is all there, so it is the header of `x`
  have hthere : kRecordHeaderSize ≤ n := by omega
  have htake : (x.bytes sse42).take n =
      x.header sse42 ++ (x.metadata ++ x.payload).take (n - kRecordHeaderSize) := by
    unfold Entry.bytes
    rw [List.append_assoc, List.take_append, Entry.length_header,
      List.take_of_length_le (by rwa [Entry.length_header])]
  have hheader : x.header sse42 = y.header sse42 := by
    have hx : (x.header sse42) <+: (x.bytes sse42).take n := htake ▸ List.prefix_append _ _
    have hy : (y.header sse42) <+: (x.bytes sse42).take n := by
      refine List.IsPrefix.trans ?_ hprefix
      unfold Entry.bytes
      rw [List.append_assoc]
      exact List.prefix_append _ _
    exact (List.prefix_of_prefix_length_le hx hy (by simp)).eq_of_length (by simp)
  -- so both say how long they are
  have hfirst : y = ⟨x.sequence, ((x.metadata ++ x.payload).take (n - kRecordHeaderSize)).take
      x.metadata.length, (((x.metadata ++ x.payload).take (n - kRecordHeaderSize)).drop
        x.metadata.length).take x.payload.length⟩ := by
    rw [← hy, htake, Entry.first_header h]
  have hfits : y.Fits := by
    have hmetadata := h.metadata
    have hpayload := h.payload
    rw [hfirst]
    refine ⟨?_, ?_, h.sequence⟩
    · rw [List.length_take]
      omega
    · rw [List.length_take]
      omega
  obtain ⟨hmetadata, hpayload, -⟩ := Entry.fields_of_header sse42 h
  obtain ⟨hmetadata', hpayload', -⟩ := Entry.fields_of_header sse42 hfits
  rw [hheader] at hmetadata hpayload
  have hsame : (y.bytes sse42).length = (x.bytes sse42).length := by
    rw [Entry.length_bytes, Entry.length_bytes, ← hmetadata, ← hmetadata', ← hpayload, ← hpayload']
  omega

/-- **The complete records are found, and what is left of another one is not.** -/
theorem entriesIn_append {entries : List Entry} (hentries : ∀ x ∈ entries, x.Fits)
    {torn : List UInt8} (htorn : entriesIn sse42 torn = []) :
    entriesIn sse42 (entries.flatMap (Entry.bytes sse42) ++ torn) = entries := by
  induction entries with
  | nil => exact htorn
  | cons x entries ih =>
    rw [List.flatMap_cons, List.append_assoc, entriesIn_cons (hentries x List.mem_cons_self),
      ih fun y hy => hentries y (List.mem_cons_of_mem x hy)]

theorem entriesIn_nil (sse42 : Bool) : entriesIn sse42 [] = [] := by
  rw [entriesIn]
  rw [dif_neg]
  intro hprefix
  have hle := (List.isPrefixOf_iff_prefix.mp hprefix).length_le
  have hlength := Entry.length_bytes sse42 (Entry.first [])
  rw [List.length_nil] at hle
  unfold kRecordHeaderSize at hlength
  omega

/-- A file whose header is cut off holds no records. -/
theorem segmentEntries_of_short {bytes : List UInt8} (h : bytes.length ≤ kFileHeaderSize) :
    segmentEntries sse42 bytes = [] := by
  unfold segmentEntries
  rw [List.drop_eq_nil_of_le h, entriesIn_nil]

/-- The records behind a file header. -/
theorem segmentEntries_append {entries : List Entry} (hentries : ∀ x ∈ entries, x.Fits)
    {torn : List UInt8} (htorn : entriesIn sse42 torn = []) (created index : Nat) :
    segmentEntries sse42 (makeFileHeader sse42 created index ++
      entries.flatMap (Entry.bytes sse42) ++ torn) = entries := by
  unfold segmentEntries
  rw [List.append_assoc, List.drop_left' (length_makeFileHeader _ _ _)]
  exact entriesIn_append hentries htorn

end Ebus
end AmigaDrivers
