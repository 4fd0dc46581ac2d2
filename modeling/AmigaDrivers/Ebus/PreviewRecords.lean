import AmigaDrivers.Ebus.TornTail
import AmigaDrivers.Foundation.BoundedDeque
import AmigaDrivers.Foundation.SlidingWindow
import Mathlib.Algebra.BigOperators.Group.List.Basic

/-!
# The records of a live preview

`latest_records` looks through the newest two segments of a recording that may still be going on, and
keeps the last valid frames, so many of them and so much metadata.

* `segmentPaths`, `latestRecords`: the selection.
* `Admissible`: what may be kept.
* `latest_records_longest`: **it keeps the longest suffix** of the valid frames that may be kept.
-/

namespace AmigaDrivers
namespace Ebus
namespace Reader

open SlidingWindow (Longest Hereditary trim)

/-- `MAX_PREVIEW_RECORDS`. -/
def maxPreviewRecords : Nat := 4096

/-- `MAX_PREVIEW_METADATA_BYTES`. -/
def maxPreviewMetadataBytes : Nat := 8 * 1024 * 1024

/-- `MAX_PREVIEW_SCAN_RECORDS`. -/
def maxPreviewScanRecords : Nat := 100000

/-- `MAX_PREVIEW_SCAN_METADATA_BYTES`. -/
def maxPreviewScanMetadataBytes : Nat := 64 * 1024 * 1024

/-- `Record.valid_frame`. -/
def Record.validFrame (r : Record) : Bool := flag r.metadata "valid_frame"

/-- The name of a file, and what it holds. -/
abbrev NamedFile : Type := String × List UInt8

/-- What `*` stands for, where a name matches `seg_*.raw`. -/
def segmentStem (name : String) : Option String :=
  let chars := name.toList
  if 8 ≤ chars.length ∧ chars.take 4 = "seg_".toList ∧
      chars.drop (chars.length - 4) = ".raw".toList then
    some (String.ofList ((chars.drop 4).take (chars.length - 8)))
  else none

/-- `segment_paths`.  `toInt` is `int` of a text, with what its exception says. -/
def segmentPaths (toInt : String → Except String Int) (directory : List NamedFile) :
    Except String (List NamedFile) := do
  let numbered ← (directory.filterMap fun file =>
    (segmentStem file.1).map fun stem => (stem, file)).mapM fun entry => do
      let number ← toInt entry.1
      pure (number, entry.2)
  pure ((numbered.mergeSort fun a b => a.1 ≤ b.1).map Prod.snd)

/-- The variables of `latest_records`. -/
structure Selection where
  selected : List Record := []
  metadataBytes : Nat := 0
  scanned : Nat := 0
  scannedBytes : Nat := 0

/-- The inner loop of `latest_records`: `popleft` while there is too much. -/
def popWhile (limit : Nat) : List Record → Nat → List Record × Nat
  | [], bytes => ([], bytes)
  | r :: rest, bytes =>
    if limit < (r :: rest).length ∨ maxPreviewMetadataBytes < bytes then
      popWhile limit rest (bytes - r.metadataSize)
    else (r :: rest, bytes)

/-- The body of the loop over the records. -/
def selectRecord (limit : Nat) (s : Selection) (r : Record) : Except String Selection :=
  let scanned := s.scanned + 1
  let scannedBytes := s.scannedBytes + r.metadataSize
  if maxPreviewScanRecords < scanned ∨ maxPreviewScanMetadataBytes < scannedBytes then
    .error "Recent raw segments exceed the interactive preview metadata scan budget"
  else if r.validFrame then
    let (selected, metadataBytes) :=
      popWhile limit (s.selected ++ [r]) (s.metadataBytes + r.metadataSize)
    .ok { selected, metadataBytes, scanned, scannedBytes }
  else .ok { s with scanned, scannedBytes }

/-- The loop over a segment. -/
def selectSegment (loads : Loads) (limit : Nat) (s : Selection) (file : NamedFile) :
    Except String Selection := do
  let (records, result) := iterRecords loads file.1 file.2 true
  let s ← records.foldlM (selectRecord limit) s
  result
  pure s

/-- The number of records that `latest_records` keeps. -/
def previewLimit (limit : Int) : Nat := (min (max 1 limit) maxPreviewRecords).toNat

/-- `latest_records`. -/
def latestRecords (loads : Loads) (toInt : String → Except String Int)
    (directory : List NamedFile) (limit : Int) : Except String (List Record) := do
  let paths ← segmentPaths toInt directory
  let s ← (keepLast 2 paths).foldlM (selectSegment loads (previewLimit limit)) {}
  pure s.selected

/-! ## What may be kept -/

/-- The bytes of metadata of some records. -/
def metadataBytes (records : List Record) : Nat := (records.map Record.metadataSize).sum

/-- So many records, and so much metadata, may be kept. -/
def Admissible (limit : Int) (records : List Record) : Prop :=
  records.length ≤ limit ∧ metadataBytes records ≤ maxPreviewMetadataBytes

instance (limit : Int) : DecidablePred (Admissible limit) := fun records =>
  inferInstanceAs (Decidable (records.length ≤ limit ∧
    metadataBytes records ≤ maxPreviewMetadataBytes))

theorem metadataBytes_append (records more : List Record) :
    metadataBytes (records ++ more) = metadataBytes records + metadataBytes more := by
  unfold metadataBytes
  rw [List.map_append, List.sum_append]

theorem metadataBytes_cons (r : Record) (records : List Record) :
    metadataBytes (r :: records) = r.metadataSize + metadataBytes records := rfl

/-- What is left of records that may be kept may be kept. -/
theorem hereditary_admissible {limit : Int} (hlimit : 0 ≤ limit) : Hereditary (Admissible limit) where
  nil := ⟨hlimit, Nat.zero_le _⟩
  tail {r records} h := by
    obtain ⟨hlength, hbytes⟩ := h
    rw [List.length_cons] at hlength
    rw [metadataBytes_cons] at hbytes
    constructor <;> omega
  init {r records} h := by
    obtain ⟨hlength, hbytes⟩ := h
    rw [List.length_append, List.length_singleton] at hlength
    rw [metadataBytes_append] at hbytes
    constructor <;> omega

/-- **The inner loop drops what must not be kept.** -/
theorem popWhile_eq (limit : Nat) (records : List Record) :
    popWhile limit records (metadataBytes records) =
      (trim (Admissible limit) records, metadataBytes (trim (Admissible limit) records)) := by
  induction records with
  | nil => rfl
  | cons r records ih =>
    rw [popWhile, trim]
    by_cases h : Admissible limit (r :: records)
    · obtain ⟨hlength, hbytes⟩ := h
      rw [if_neg (by omega), if_pos ⟨hlength, hbytes⟩]
    · have hmuch : limit < (r :: records).length ∨
          maxPreviewMetadataBytes < metadataBytes (r :: records) := by
        by_contra hnot
        exact h ⟨by omega, by omega⟩
      rw [if_pos hmuch, if_neg h, ← ih, metadataBytes_cons, Nat.add_sub_cancel_left]

/-! ## The selection -/

variable {limit : Nat} {s : Selection} {records more : List Record}

/-- What the variables are, once some records have been looked at. -/
structure Selected (limit : Nat) (records : List Record) (s : Selection) : Prop where
  longest : Longest (Admissible limit) (records.filter Record.validFrame) s.selected
  metadataBytes : s.metadataBytes = Reader.metadataBytes s.selected
  scanned : s.scanned = records.length
  scannedBytes : s.scannedBytes = Reader.metadataBytes records

theorem selected_nil : Selected limit [] {} where
  longest := SlidingWindow.longest_nil (hereditary_admissible (Int.natCast_nonneg _))
  metadataBytes := rfl
  scanned := rfl
  scannedBytes := rfl

/-- Some records are within the scan budget. -/
def WithinBudget (records : List Record) : Prop :=
  records.length ≤ maxPreviewScanRecords ∧ metadataBytes records ≤ maxPreviewScanMetadataBytes

/-- **One more record.** -/
theorem Selected.selectRecord (h : Selected limit records s) (r : Record)
    (hbudget : WithinBudget (records ++ [r])) :
    ∃ t, selectRecord limit s r = .ok t ∧ Selected limit (records ++ [r]) t := by
  obtain ⟨hlength, hbytes⟩ := hbudget
  have hscanned : s.scanned + 1 = (records ++ [r]).length := by
    rw [h.scanned, List.length_append, List.length_singleton]
  have hscannedBytes : s.scannedBytes + r.metadataSize =
      Reader.metadataBytes (records ++ [r]) := by
    rw [h.scannedBytes, metadataBytes_append]
    rfl
  unfold Reader.selectRecord
  dsimp only
  rw [if_neg (by omega)]
  by_cases hvalid : r.validFrame = true
  · have hfilter : (records ++ [r]).filter Record.validFrame =
        records.filter Record.validFrame ++ [r] := by
      rw [List.filter_append, List.filter_cons_of_pos hvalid]
      rfl
    have hsum : s.metadataBytes + r.metadataSize =
        Reader.metadataBytes (s.selected ++ [r]) := by
      rw [h.metadataBytes, metadataBytes_append]
      rfl
    rw [if_pos hvalid, hsum, popWhile_eq]
    refine ⟨_, rfl, ?_, rfl, hscanned, hscannedBytes⟩
    rw [hfilter]
    exact h.longest.push (hereditary_admissible (Int.natCast_nonneg _)) r
  · have hfilter : (records ++ [r]).filter Record.validFrame =
        records.filter Record.validFrame := by
      rw [List.filter_append, List.filter_cons_of_neg hvalid]
      exact List.append_nil _
    rw [if_neg hvalid]
    exact ⟨_, rfl, hfilter ▸ h.longest, h.metadataBytes, hscanned, hscannedBytes⟩

theorem WithinBudget.of_append (h : WithinBudget (records ++ more)) : WithinBudget records := by
  obtain ⟨hlength, hbytes⟩ := h
  rw [List.length_append] at hlength
  rw [metadataBytes_append] at hbytes
  constructor <;> omega

/-- Some more records. -/
theorem Selected.foldlM (h : Selected limit records s) (hbudget : WithinBudget (records ++ more)) :
    ∃ t, more.foldlM (Reader.selectRecord limit) s = .ok t ∧
      Selected limit (records ++ more) t := by
  induction more generalizing records s with
  | nil => exact ⟨s, rfl, (List.append_nil records).symm ▸ h⟩
  | cons r more ih =>
    have hsplit : records ++ r :: more = records ++ [r] ++ more := by
      rw [List.append_assoc]
      rfl
    rw [hsplit] at hbudget ⊢
    obtain ⟨u, hu, hselected⟩ := h.selectRecord r hbudget.of_append
    obtain ⟨t, ht, hall⟩ := ih hselected hbudget
    refine ⟨t, ?_, hall⟩
    rw [List.foldlM_cons, hu]
    exact ht

section Segments

variable {loads : Loads} {sse42 : Bool} {toInt : String → Except String Int}

/-- The beginning of a segment file, at least its header, and the records that are all there. -/
def CutSegment (loads : Loads) (sse42 : Bool) (file : NamedFile) (records : List Record) : Prop :=
  ∃ whole contents n, SegmentFile loads sse42 whole contents ∧ fileHeaderSize ≤ n ∧
    n ≤ whole.length ∧ file.2 = whole.take n ∧
    records = within n (recordsAt file.1 fileHeaderSize contents)

/-- A segment, of which the end may be missing. -/
theorem Selected.selectSegment (h : Selected limit records s) {file : NamedFile}
    (hfile : CutSegment loads sse42 file more) (hbudget : WithinBudget (records ++ more)) :
    ∃ t, selectSegment loads limit s file = .ok t ∧ Selected limit (records ++ more) t := by
  obtain ⟨whole, contents, n, hwhole, hheader, hn, hsource, hmore⟩ := hfile
  obtain ⟨hread, -⟩ := torn_tail hwhole file.1 hheader hn
  obtain ⟨t, ht, hselected⟩ := h.foldlM hbudget
  refine ⟨t, ?_, hselected⟩
  unfold Reader.selectSegment
  rw [hsource, hread, ← hmore]
  dsimp only
  rw [ht]
  rfl

/-- Some segments. -/
theorem Selected.segments (h : Selected limit records s) {files : List NamedFile}
    {segments : List (List Record)} (hfiles : List.Forall₂ (CutSegment loads sse42) files segments)
    (hbudget : WithinBudget (records ++ segments.flatten)) :
    ∃ t, files.foldlM (Reader.selectSegment loads limit) s = .ok t ∧
      Selected limit (records ++ segments.flatten) t := by
  induction hfiles generalizing records s with
  | nil => exact ⟨s, rfl, (List.append_nil records).symm ▸ h⟩
  | cons hfile _ ih =>
    rw [List.flatten_cons, ← List.append_assoc] at hbudget ⊢
    obtain ⟨u, hu, hselected⟩ := h.selectSegment hfile hbudget.of_append
    obtain ⟨t, ht, hall⟩ := ih hselected hbudget
    refine ⟨t, ?_, hall⟩
    rw [List.foldlM_cons, hu]
    exact ht

theorem previewLimit_eq (limit : Int) :
    (previewLimit limit : Int) = min (max 1 limit) maxPreviewRecords := by
  unfold previewLimit maxPreviewRecords
  omega

/-- What the selection ends with is returned. -/
theorem latestRecords_eq {directory paths : List NamedFile} {limit : Int}
    (hpaths : segmentPaths toInt directory = .ok paths)
    (hs : (keepLast 2 paths).foldlM (selectSegment loads (previewLimit limit)) {} = .ok s) :
    latestRecords loads toInt directory limit = .ok s.selected := by
  unfold latestRecords
  rw [hpaths]
  show ((keepLast 2 paths).foldlM (Reader.selectSegment loads (previewLimit limit)) {} >>=
    fun s => pure s.selected) = _
  rw [hs]
  rfl

/-- **The longest suffix is kept**, of the valid frames of the newest two segments, that has at most
`min(max(1, limit), 4096)` records and at most 8 MiB of metadata; a record that is cut off at the end
of a segment is not among them. -/
theorem latest_records_longest {directory paths : List NamedFile} {segments : List (List Record)}
    (limit : Int) (hpaths : segmentPaths toInt directory = .ok paths)
    (hsegments : List.Forall₂ (CutSegment loads sse42) (keepLast 2 paths) segments)
    (hbudget : WithinBudget segments.flatten) :
    ∃ result, latestRecords loads toInt directory limit = .ok result ∧
      Longest (Admissible (min (max 1 limit) maxPreviewRecords))
        (segments.flatten.filter Record.validFrame) result := by
  have hnil : Selected (previewLimit limit) [] {} := selected_nil
  obtain ⟨t, ht, hselected⟩ := hnil.segments hsegments hbudget
  exact ⟨t.selected, latestRecords_eq hpaths ht, previewLimit_eq limit ▸ hselected.longest⟩

end Segments

namespace ValidFile

/-- A frame that came in whole. -/
def document : Json := .object
  [("record_kind", .str "buffer"), ("block_id", .int 1), ("device_timestamp_raw", .int 9),
    ("host_realtime_ns", .int 18), ("host_monotonic_ns", .int 12), ("acquired_size", .int 1),
    ("payload_type", .int 0), ("operation_result", .int 0), ("operation_ok", .bool true),
    ("operation_name", .str "OK"), ("chunk_count", .int 0), ("valid_frame", .bool true),
    ("block_id_anomaly", .bool false), ("gap_before", .int 0),
    ("image", .object [("pixel_format", .int 17301505), ("width", .int 1), ("height", .int 1),
      ("offset_x", .int 0), ("offset_y", .int 0), ("padding_x", .int 0), ("padding_y", .int 0),
      ("image_size", .int 1), ("effective_image_size", .int 1), ("payload_offset", .int 0),
      ("partial_line_missing", .bool false), ("full_line_missing", .bool false),
      ("data_overrun", .bool false)])]

/-- Its text. -/
def metadata : List UInt8 := document.dump (-1)

/-- A reader of this text. -/
def loads : Loads := fun raw => if raw = metadata then .ok document else .error "Expecting value"

/-- Its record. -/
def content : Content :=
  { sequence := 0
    metadata
    payload := [7]
    document
    payloadCrc := (Ebus.crc32c true [7]).toNat }

/-- A file with this record in it. -/
def source : List UInt8 := makeFileHeader true 0 1 ++ [content].flatMap (Content.bytes true)

/-- A directory with this file in it. -/
def directory : List NamedFile := [("seg_00001.raw", source)]

theorem length_metadata : metadata.length = 524 := by decide +kernel

theorem readable : content.Readable loads where
  fits := ⟨length_metadata.trans_lt (by decide), by decide, by decide⟩
  payloadCrc := UInt32.toNat_lt _
  nonempty := List.ne_nil_of_length_eq_add_one length_metadata
  short := length_metadata.trans_le (by decide)
  content := if_pos rfl
  valid := rfl

theorem segmentFile : SegmentFile loads true source [content] where
  layout := ⟨0, by decide, 1, by decide, by decide, rfl⟩
  readable := List.forall_mem_singleton.mpr readable
  consecutive := .singleton _

theorem length_source : source.length = fileHeaderSize + (content.bytes true).length := by
  rw [source, List.length_append, length_makeFileHeader, List.flatMap_singleton]
  exact congrArg (· + (content.bytes true).length) (show kFileHeaderSize = fileHeaderSize from rfl)

/-- Its record, where it stands. -/
def record : Record := content.record "seg_00001.raw" fileHeaderSize

theorem metadataBytes_record : metadataBytes [record] = 524 := by
  have hsize : record.metadataSize = 524 := length_metadata
  rw [metadataBytes_cons, hsize]
  rfl

/-- All of the file is there. -/
theorem cutSegment : CutSegment loads true ("seg_00001.raw", source) [record] := by
  refine ⟨source, [content], source.length, segmentFile, ?_, le_rfl, ?_, ?_⟩
  · rw [length_source]
    exact Nat.le_add_right _ _
  · exact (List.take_length (l := source)).symm
  · have hstop : record.stop ≤ source.length := by
      rw [length_source]
      exact (stop_record _ _ true content).le
    exact (List.filter_eq_self.mpr fun r hr => by
      rw [List.mem_singleton.mp hr, decide_eq_true_eq]
      exact hstop).symm

theorem segments : List.Forall₂ (CutSegment loads true) (keepLast 2 directory) [[record]] :=
  .cons cutSegment .nil

theorem withinBudget : WithinBudget [[record]].flatten :=
  ⟨by decide, metadataBytes_record.trans_le (by decide)⟩

theorem segmentPaths_directory : segmentPaths (fun _ => .ok 1) directory = .ok directory := by
  have hstem : segmentStem "seg_00001.raw" = some "00001" := by decide +kernel
  unfold segmentPaths directory
  simp only [List.filterMap_cons, hstem, Option.map_some, List.filterMap_nil, List.mapM_cons,
    List.mapM_nil, bind_pure_comp, map_pure]
  show Except.ok (([((1 : Int), ("seg_00001.raw", source))].mergeSort _).map Prod.snd) = _
  rw [List.mergeSort_singleton]
  rfl

theorem valid_record : [[record]].flatten.filter Record.validFrame = [record] := rfl

end ValidFile

section

open ValidFile

/-- A directory with one segment, and one record. -/
theorem latest_records_longest_of_one :
    ∃ result, latestRecords loads (fun _ => .ok 1) directory 1 = .ok result ∧
      Longest (Admissible 1) [record] result := by
  obtain ⟨result, hresult, hlongest⟩ :=
    latest_records_longest 1 segmentPaths_directory segments withinBudget
  exact ⟨result, hresult, valid_record ▸ hlongest⟩

/-- A record is returned where none was asked for. -/
theorem latest_records_zero :
    ∃ result, latestRecords loads (fun _ => .ok 1) directory 0 = .ok result ∧
      ¬Longest (Admissible 0) ([[record]].flatten.filter Record.validFrame) result := by
  have hnil : Selected (previewLimit 0) [] {} := selected_nil
  obtain ⟨t, ht, hselected⟩ := hnil.segments segments withinBudget
  refine ⟨t.selected, latestRecords_eq segmentPaths_directory ht, fun hlongest => ?_⟩
  have hadmissible : Admissible (previewLimit 0) [record] :=
    ⟨by decide, metadataBytes_record.trans_le (by decide)⟩
  have hkept := hselected.longest.longest [record] (List.suffix_refl _) hadmissible
  have hnone := hlongest.admissible.1
  have hone := hkept.length_le
  rw [List.length_singleton] at hone
  omega

end

end Reader
end Ebus
end AmigaDrivers
