import AmigaDrivers.Ebus.RawRecorderLayout
import AmigaDrivers.Ebus.SegmentFile

/-!
# A segment file whose end is cut off

What the reader makes of the beginning of a segment file, as it finds it while the file is still
being written or after a crash.

* `torn_tail`: it finds the records that are all there, and none of the others.
* `segmentFile_of_reachable`: the files of the recorder are files of this kind.
-/

namespace AmigaDrivers
namespace Ebus
namespace Reader

section

variable {loads : Loads} {sse42 : Bool} {source : List UInt8} {n : Nat} {contents : List Content}

/-- **The beginning of a segment file**, its header included, as the reader sees it: a live reader
gives out the records that are all there, in order, and ends; a strict one gives out the same and
then raises, unless the file ends where a record ends, or right behind the header. -/
theorem torn_tail (h : SegmentFile loads sse42 source contents) (path : String)
    (hheader : fileHeaderSize ≤ n) (hn : n ≤ source.length) :
    iterRecords loads path (source.take n) true =
        (within n (recordsAt path fileHeaderSize contents), .ok ()) ∧
      ∃ result, iterRecords loads path (source.take n) false =
          (within n (recordsAt path fileHeaderSize contents), result) ∧
        (result = .ok () ↔ n = fileHeaderSize ∨
          ∃ r ∈ recordsAt path fileHeaderSize contents, r.stop = n) := by
  obtain ⟨header, hread⟩ := h.readFileHeader_isOk
  have hlength : (source.take n).length = n := List.length_take_of_le hn
  unfold iterRecords
  rw [readFileHeader_take hheader, hread, hlength]
  exact h.scans.scan_take hheader hn

end

namespace CutFile

/-- A buffer that came in incomplete. -/
def document : Json := .object
  [("record_kind", .str "buffer"), ("block_id", .int 1), ("device_timestamp_raw", .int 9),
    ("host_realtime_ns", .int 18), ("host_monotonic_ns", .int 12), ("acquired_size", .int 3),
    ("payload_type", .int 0), ("operation_result", .int 7), ("operation_ok", .bool false),
    ("operation_name", .str "INCOMPLETE"), ("chunk_count", .int 0), ("valid_frame", .bool false),
    ("block_id_anomaly", .bool false), ("gap_before", .int 0), ("image", .null)]

/-- Its text. -/
def metadata : List UInt8 := document.dump (-1)

/-- A reader of this text. -/
def loads : Loads := fun raw => if raw = metadata then .ok document else .error "Expecting value"

/-- Its record. -/
def content : Content :=
  { sequence := 0
    metadata
    payload := ByteUtil.ascii "BAD"
    document
    payloadCrc := (Ebus.crc32c true (ByteUtil.ascii "BAD")).toNat }

/-- A file with this record in it. -/
def source : List UInt8 := makeFileHeader true 0 1 ++ [content].flatMap (Content.bytes true)

theorem length_metadata : metadata.length = 303 := by decide +kernel

theorem readable : content.Readable loads where
  fits := ⟨length_metadata.trans_lt (by decide), by decide, by decide⟩
  payloadCrc := UInt32.toNat_lt _
  nonempty := List.ne_nil_of_length_eq_add_one length_metadata
  short := length_metadata.trans_le (by decide)
  content := if_pos rfl
  valid := rfl

theorem segmentFile : SegmentFile loads true source [content] where
  layout := ⟨0, by decide, 1, by decide, by decide, rfl⟩
  readable := List.forall_mem_singleton.mpr readable
  consecutive := .singleton _

theorem length_content : (content.bytes true).length = 354 := by
  have hmetadata : content.metadata.length = 303 := length_metadata
  have hpayload : content.payload.length = 3 := rfl
  rw [length_bytes, hmetadata, hpayload]
  rfl

theorem length_source : source.length = 418 := by
  unfold source
  rw [List.length_append, length_makeFileHeader, List.flatMap_singleton, length_content]
  rfl

end CutFile

/-- A file that was cut off a hundred bytes behind its header. -/
theorem torn_tail_in_metadata :
    iterRecords CutFile.loads "seg_00001.raw" (CutFile.source.take 164) true = ([], .ok ()) ∧
      ∃ result, iterRecords CutFile.loads "seg_00001.raw" (CutFile.source.take 164) false =
        ([], result) ∧ result ≠ .ok () := by
  obtain ⟨hlive, result, hstrict, hresult⟩ := torn_tail CutFile.segmentFile "seg_00001.raw"
    (show fileHeaderSize ≤ 164 by decide) (by rw [CutFile.length_source]; decide)
  have hstop : ¬(CutFile.content.record "seg_00001.raw" fileHeaderSize).stop ≤ 164 := by
    rw [stop_record _ _ true, CutFile.length_content]
    decide
  have hnone : within 164 (recordsAt "seg_00001.raw" fileHeaderSize [CutFile.content]) = [] :=
    List.filter_cons_of_neg (by rwa [decide_eq_true_eq])
  rw [hnone] at hlive hstrict
  refine ⟨hlive, result, hstrict, fun hok => ?_⟩
  rcases hresult.mp hok with h | ⟨r, hr, hend⟩
  · exact absurd h (by decide)
  · obtain rfl := List.mem_singleton.mp hr
    exact hstop hend.le

/-! ## What the recorder writes -/

section

variable {loads : Loads} {sse42 : Bool}

/-- The reader can read what the metadata of a record says. -/
structure Legible (loads : Loads) (x : Entry) : Prop where
  nonempty : x.metadata ≠ []
  short : x.metadata.length ≤ maxMetadataBytes
  content : ∃ document, loads x.metadata = .ok document ∧
    validateMetadata document x.payload.length = .ok ()

/-- A record of the recorder, as it is in the file. -/
def contentOf (loads : Loads) (sse42 : Bool) (x : Entry) : Content where
  toEntry := x
  document := (loads x.metadata).toOption.getD .null
  payloadCrc := (Ebus.crc32c sse42 x.payload).toNat

theorem readable_contentOf {x : Entry} (hfits : x.Fits) (h : Legible loads x) :
    (contentOf loads sse42 x).Readable loads := by
  obtain ⟨document, hload, hvalid⟩ := h.content
  have hdocument : (contentOf loads sse42 x).document = document :=
    congrArg (fun result => result.toOption.getD .null) hload
  refine ⟨hfits, UInt32.toNat_lt _, h.nonempty, h.short, ?_, ?_⟩
  · rw [hdocument]
    exact hload
  · rw [hdocument]
    exact hvalid

/-- **A segment of the recorder** is a segment file, as long as its records are numbered without
starting again and the reader can read their metadata. -/
theorem segmentFile_of_segmentOk {options : RecorderOptions} {number start : Nat}
    {entries : List Entry} {bytes : List UInt8}
    (h : RawRecorder.SegmentOk options sse42 number start entries bytes) (hone : 1 ≤ number)
    (hnumber : number < 2 ^ 64) (hcount : start + entries.length ≤ 2 ^ 64)
    (hlegible : ∀ x ∈ entries, Legible loads x) :
    SegmentFile loads sse42 bytes (entries.map (contentOf loads sse42)) := by
  obtain ⟨created, hcreated, hbytes⟩ := h.holds
  refine ⟨⟨created, hcreated, number, hnumber, hone, ?_⟩, ?_, ?_⟩
  · rw [hbytes, List.flatMap_map]
    rfl
  · rintro _ hc
    obtain ⟨x, hx, rfl⟩ := List.mem_map.mp hc
    exact readable_contentOf (h.fits x hx) (hlegible x hx)
  · have hnumbered : entries.map Entry.sequence = List.range' start entries.length := by
      rw [h.numbered]
      refine List.map_congr_left (fun i hi => ?_) |>.trans (List.map_id _)
      have hlt := (List.mem_range'_1.mp hi).2
      exact Nat.mod_eq_of_lt (by omega)
    have hchain : (entries.map Entry.sequence).IsChain fun i j => j = i + 1 := by
      rw [hnumbered]
      exact List.isChain_range' _ _ 1
    rw [List.isChain_map] at hchain ⊢
    exact hchain

/-- A segment among those that the recorder has laid. -/
theorem segmentOk_of_mem {options : RecorderOptions} {contents : List (List UInt8)}
    {segments : List (List Entry)} (h : RawRecorder.Laid options sse42 contents segments)
    {bytes : List UInt8} (hbytes : bytes ∈ contents) :
    ∃ number start entries, RawRecorder.SegmentOk options sse42 number start entries bytes ∧
      1 ≤ number ∧ number ≤ contents.length ∧
        start + entries.length ≤ RawRecorder.total segments := by
  induction h with
  | nil => exact nomatch hbytes
  | @cons contents segments entries latest earlier hlatest ih =>
    rw [RawRecorder.total_cons, List.length_cons]
    obtain rfl | hbytes := List.mem_cons.mp hbytes
    · exact ⟨_, _, entries, hlatest, Nat.succ_pos _, le_rfl, (Nat.add_comm _ _).le⟩
    · obtain ⟨number, start, entries, hok, hone, hnumber, hcount⟩ := ih hbytes
      exact ⟨number, start, entries, hok, hone, by omega, by omega⟩

/-- **Every recorder.**  As long as nothing has failed and the numbers have not started again, the
files are segment files, if the reader can read their metadata. -/
theorem segmentFile_of_reachable {dump : Dump} {r : RawRecorder}
    (h : (RawRecorder.system dump).Reachable r) (hfailed : r.failed = false)
    (hcount : RawRecorder.completeRecords r.sse42 r.view.contents ≤ 2 ^ 64)
    (hlegible : ∀ bytes ∈ r.view.contents, ∀ x ∈ segmentEntries r.sse42 bytes, Legible loads x)
    {bytes : List UInt8} (hbytes : bytes ∈ r.view.contents) :
    SegmentFile loads r.sse42 bytes
      ((segmentEntries r.sse42 bytes).map (contentOf loads r.sse42)) := by
  obtain ⟨segments, -, hintact⟩ := (RawRecorder.stored_of_reachable h).files
  have hintact := hintact hfailed
  have hcomplete : RawRecorder.completeRecords r.sse42 r.view.contents =
      RawRecorder.total segments := hintact.laid.completeRecords_eq
  obtain ⟨number, start, entries, hok, hone, hnumber, htotal⟩ :=
    segmentOk_of_mem hintact.laid hbytes
  have hlegible := hlegible bytes hbytes
  have hentries : segmentEntries r.sse42 bytes = entries := hok.entries_eq
  have hsegment := hintact.segment
  have hlt := hintact.segment_lt
  rw [hentries] at hlegible ⊢
  exact segmentFile_of_segmentOk hok hone (by omega) (by omega) hlegible

end

end Reader
end Ebus
end AmigaDrivers
