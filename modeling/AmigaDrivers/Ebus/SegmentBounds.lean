import AmigaDrivers.Ebus.RawRecorderRun
import AmigaDrivers.Foundation.MachineWord
import Mathlib.Algebra.BigOperators.Group.List.Basic

/-!
# The bounds of the segments

* `Words`: the sizes that `Append` computes, in 64 bits.
* `Words.Agree`: they are those of the model, so none of them wraps.
* `segment_bounds`: the segments are within their limits, and everything in them is numbered.
* `sequence_wraps`: the numbers of the records have 64 bits.
-/

namespace AmigaDrivers
namespace Ebus
namespace RawRecorder

open MachineWord

/-! ## The sizes -/

namespace Words

/-- `max_offset`. -/
def maxOffset : UInt64 := 9223372036854775807

/-- `overhead`. -/
def overhead (metadataSize : UInt64) : UInt64 := 48 + metadataSize

/-- The record exceeds the range of the offsets. -/
def exceeds (metadataSize payloadSize : UInt64) : Bool :=
  decide (payloadSize > maxOffset - 64 - overhead metadataSize)

/-- `size`. -/
def size (metadataSize payloadSize : UInt64) : UInt64 := overhead metadataSize + payloadSize

/-- The record does not go into this segment. -/
def mustRotate (segmentBytes segmentRecords offset records size : UInt64) : Bool :=
  let segmentLimit := min segmentBytes maxOffset
  records != 0 &&
    ((segmentRecords != 0 && decide (records ≥ segmentRecords)) ||
      decide (offset ≥ segmentLimit) || decide (size > segmentLimit - offset))

/-- The members are the numbers of the view, and the sums of the next record stay numbers. -/
structure Sums (v : View) (size : Nat) : Prop where
  offset : Is (.ofNat v.offset + .ofNat size) (v.offset + size)
  segmentRecords : Is (.ofNat v.segmentRecords + 1) (v.segmentRecords + 1)
  unsynced : Is (.ofNat (v.offset + size) - .ofNat v.synced) (v.offset + size - v.synced)

/-- What `Append` computes in 64 bits is what the model computes. -/
structure Agree (v : View) (metadataSize payloadSize : Nat) : Prop where
  exceeds : exceeds (.ofNat metadataSize) (.ofNat payloadSize) =
    decide (payloadSize >
      RawRecorder.maxOffset - kFileHeaderSize - (kRecordHeaderSize + metadataSize))
  /-- an admitted record has this size -/
  size : Words.exceeds (.ofNat metadataSize) (.ofNat payloadSize) = false →
    Is (size (.ofNat metadataSize) (.ofNat payloadSize))
      (kRecordHeaderSize + metadataSize + payloadSize)
  rotate : Words.exceeds (.ofNat metadataSize) (.ofNat payloadSize) = false →
    mustRotate (.ofNat v.options.segmentBytes) (.ofNat v.options.segmentRecords) (.ofNat v.offset)
        (.ofNat v.segmentRecords) (Words.size (.ofNat metadataSize) (.ofNat payloadSize)) =
      v.mustRotate (kRecordHeaderSize + metadataSize + payloadSize)
  /-- the next segment has this number -/
  segment : v.segment ≠ 2 ^ 64 - 1 → Is (.ofNat v.segment + 1) (v.segment + 1)
  /-- and the record is counted where it goes -/
  sums : Words.exceeds (.ofNat metadataSize) (.ofNat payloadSize) = false →
    ∀ v₁, v.Rotated (kRecordHeaderSize + metadataSize + payloadSize) v₁ →
      Sums v₁ (kRecordHeaderSize + metadataSize + payloadSize)

theorem is_maxOffset : Is maxOffset RawRecorder.maxOffset := rfl

variable {metadataSize payloadSize : Nat}

theorem is_overhead (hmetadata : metadataSize ≤ kMaxMetadataSize) :
    Is (overhead (.ofNat metadataSize)) (kRecordHeaderSize + metadataSize) := by
  unfold kMaxMetadataSize at hmetadata
  have hsize : Is 48 kRecordHeaderSize := rfl
  exact hsize.add (is_ofNat (by omega)) (by unfold kRecordHeaderSize; omega)

theorem exceeds_eq (hmetadata : metadataSize ≤ kMaxMetadataSize) (hpayload : payloadSize < 2 ^ 64) :
    exceeds (.ofNat metadataSize) (.ofNat payloadSize) = decide (payloadSize >
      RawRecorder.maxOffset - kFileHeaderSize - (kRecordHeaderSize + metadataSize)) := by
  have hsmall : kRecordHeaderSize + kMaxMetadataSize ≤ RawRecorder.maxOffset - kFileHeaderSize := by
    decide
  have hheader : Is 64 kFileHeaderSize := rfl
  have hroom := (is_maxOffset.sub hheader (by decide)).sub (is_overhead hmetadata) (by omega)
  unfold exceeds
  rw [decide_eq_decide]
  exact hroom.lt_iff (is_ofNat hpayload)

theorem is_size (hmetadata : metadataSize ≤ kMaxMetadataSize) (hpayload : payloadSize < 2 ^ 64)
    (hadmitted : payloadSize ≤
      RawRecorder.maxOffset - kFileHeaderSize - (kRecordHeaderSize + metadataSize)) :
    Is (size (.ofNat metadataSize) (.ofNat payloadSize))
      (kRecordHeaderSize + metadataSize + payloadSize) := by
  have hsmall : kRecordHeaderSize + kMaxMetadataSize ≤ RawRecorder.maxOffset - kFileHeaderSize := by
    decide
  have hmax : RawRecorder.maxOffset < 2 ^ 64 := by decide
  exact (is_overhead hmetadata).add (is_ofNat hpayload) (by omega)

/-- The test for another segment does not wrap. -/
theorem mustRotate_eq {v : View} {size : Nat} {w : UInt64} (hsize : Is w size)
    (hbytes : v.options.segmentBytes < 2 ^ 64) (hlimit : v.options.segmentRecords < 2 ^ 64)
    (hoffset : v.offset < 2 ^ 64) (hrecords : v.segmentRecords < 2 ^ 64) :
    mustRotate (.ofNat v.options.segmentBytes) (.ofNat v.options.segmentRecords) (.ofNat v.offset)
      (.ofNat v.segmentRecords) w = v.mustRotate size := by
  have hsegmentLimit := (is_ofNat hbytes).min is_maxOffset
  unfold mustRotate View.mustRotate
  dsimp only
  rw [Bool.eq_iff_iff]
  simp only [Bool.and_eq_true, Bool.or_eq_true, bne_iff_ne, ne_eq, decide_eq_true_eq,
    (is_ofNat hrecords).eq_zero_iff, (is_ofNat hlimit).eq_zero_iff, ge_iff_le, gt_iff_lt,
    (is_ofNat hlimit).le_iff (is_ofNat hrecords), hsegmentLimit.le_iff (is_ofNat hoffset)]
  refine and_congr_right fun _ => ?_
  by_cases hfull : min v.options.segmentBytes RawRecorder.maxOffset ≤ v.offset
  · exact ⟨fun _ => .inl (.inr hfull), fun _ => .inl (.inr hfull)⟩
  · have hroom := hsegmentLimit.sub (is_ofNat hoffset) (Nat.le_of_not_le hfull)
    exact or_congr_right (hroom.lt_iff hsize)

end Words

/-! ## The segments -/

/-- The records in the segment files, the latest file first. -/
def segments (r : RawRecorder) : List (List Entry) := r.view.contents.map (segmentEntries r.sse42)

theorem Laid.segments_eq {options : RecorderOptions} {sse42 : Bool} {contents : List (List UInt8)}
    {segments : List (List Entry)} (h : Laid options sse42 contents segments) :
    contents.map (segmentEntries sse42) = segments := by
  induction h with
  | nil => rfl
  | cons _ latest ih => rw [List.map_cons, ih, latest.entries_eq]

/-- The records are numbered through all segments. -/
theorem Laid.sequences {options : RecorderOptions} {sse42 : Bool} {contents : List (List UInt8)}
    {segments : List (List Entry)} (h : Laid options sse42 contents segments) :
    segments.reverse.flatten.map Entry.sequence =
      (List.range (total segments)).map (· % 2 ^ 64) := by
  induction h with
  | nil => rfl
  | @cons _ segments entries _ _ latest ih =>
    rw [List.reverse_cons, List.flatten_append, List.flatten_singleton, List.map_append, ih,
      latest.numbered, ← List.map_append, total_cons, Nat.add_comm, List.range_eq_range',
      List.range_eq_range', ← List.range'_append_1, Nat.zero_add]

/-- A record takes up space. -/
theorem SegmentOk.length_le {options : RecorderOptions} {sse42 : Bool} {number start : Nat}
    {entries : List Entry} {bytes : List UInt8}
    (h : SegmentOk options sse42 number start entries bytes) : entries.length ≤ bytes.length := by
  obtain ⟨created, -, rfl⟩ := h.holds
  have hentries : entries.length ≤ (entries.flatMap (Entry.bytes sse42)).length := by
    have hlengths : entries.length = (entries.map fun x => (x.bytes sse42).length).length :=
      (List.length_map _).symm
    rw [List.length_flatMap, hlengths]
    refine List.length_le_sum_of_one_le _ fun n hn => ?_
    obtain ⟨x, -, rfl⟩ := List.mem_map.mp hn
    rw [Entry.length_bytes]
    unfold kRecordHeaderSize
    omega
  rw [List.length_append]
  omega

/-- The members of a recorder without a failure. -/
theorem View.Intact.members_le {v : View} {segments : List (List Entry)} (h : v.Intact segments)
    (hne : v.contents ≠ []) :
    v.offset ≤ maxOffset ∧ v.segmentRecords ≤ maxOffset ∧ v.synced ≤ v.offset := by
  have hlaid := h.laid
  have hcounts := h.counts
  unfold View.Counts at hcounts
  generalize v.contents = contents at hlaid hcounts hne
  cases hlaid with
  | nil => exact absurd rfl hne
  | cons _ latest =>
    obtain ⟨hoffset, hrecords, hsynced⟩ := hcounts _ rfl _ rfl
    have hlength := latest.length_le
    have hoffsets := latest.offsets
    exact ⟨by omega, by omega, hsynced⟩

/-- Nothing that is computed for the next record wraps. -/
theorem View.Intact.agree {v : View} {segments : List (List Entry)} (h : v.Intact segments)
    (hne : v.contents ≠ []) (hbytes : v.options.segmentBytes < 2 ^ 64)
    (hlimit : v.options.segmentRecords < 2 ^ 64) {metadataSize payloadSize : Nat}
    (hmetadata : metadataSize ≤ kMaxMetadataSize) (hpayload : payloadSize < 2 ^ 64) :
    Words.Agree v metadataSize payloadSize := by
  have hexceeds := Words.exceeds_eq hmetadata hpayload
  have hmax : maxOffset < 2 ^ 63 := by decide
  have hsegment := h.segment_lt
  obtain ⟨hoffset, hrecords, -⟩ := h.members_le hne
  have hadmitted (h : Words.exceeds (.ofNat metadataSize) (.ofNat payloadSize) = false) :
      payloadSize ≤ maxOffset - kFileHeaderSize - (kRecordHeaderSize + metadataSize) := by
    rw [hexceeds, decide_eq_false_iff_not] at h
    exact Nat.not_lt.mp h
  have hone : Is 1 1 := rfl
  refine ⟨hexceeds, fun hfits => Words.is_size hmetadata hpayload (hadmitted hfits), fun hfits => ?_,
    fun hlast => ?_, fun hfits v₁ hrotated => ?_⟩
  · exact Words.mustRotate_eq (Words.is_size hmetadata hpayload (hadmitted hfits)) hbytes hlimit
      (by omega) (by omega)
  · exact (is_ofNat (by omega)).add hone (by omega)
  · obtain ⟨segments₁, h₁, -, hne₁, -⟩ := hrotated.intact h hne
    obtain ⟨hoffset₁, hrecords₁, hsynced₁⟩ := h₁.members_le hne₁
    have hsize := hadmitted hfits
    have hsmall : kRecordHeaderSize + kMaxMetadataSize ≤ maxOffset - kFileHeaderSize := by decide
    refine ⟨?_, ?_, ?_⟩
    · exact (is_ofNat (by omega)).add (is_ofNat (by omega)) (by omega)
    · exact (is_ofNat (by omega)).add hone (by omega)
    · exact (is_ofNat (by omega)).sub (is_ofNat (by omega)) (by omega)

/-- The segments of a recorder. -/
structure Bounds (r : RawRecorder) : Prop where
  /-- each segment has its number, and is within both limits or holds one record -/
  laid : Laid r.options r.sse42 r.view.contents r.segments
  segment : r.data.segment = r.view.contents.length
  /-- the records are numbered through all of them -/
  sequences : r.segments.reverse.flatten.map Entry.sequence =
    (List.range (total r.segments)).map (· % 2 ^ 64)
  /-- no size, offset or count of the next record wraps -/
  words : r.refuses = false → ∀ metadataSize ≤ kMaxMetadataSize, ∀ payloadSize < 2 ^ 64,
    Words.Agree r.view metadataSize payloadSize

variable {dump : Dump} {r : RawRecorder}

/-- **The bounds of the segments.**  As long as no call has failed, every segment file is within
both limits or holds exactly one record, the files and the records in them are numbered one after
another, and nothing that `Append` computes about the next record wraps. -/
theorem segment_bounds (h : (system dump).Reachable r) (hfailed : r.failed = false)
    (hbytes : r.options.segmentBytes < 2 ^ 64) (hlimit : r.options.segmentRecords < 2 ^ 64) :
    Bounds r := by
  have hstored := stored_of_reachable h
  obtain ⟨segments, -, hintact⟩ := hstored.files
  have hintact := hintact hfailed
  have hsegments : r.segments = segments := hintact.laid.segments_eq
  refine ⟨?_, hintact.segment, ?_, fun hrefuses m hm p hp => ?_⟩
  · rw [hsegments]
    exact hintact.laid
  · rw [hsegments]
    exact hintact.laid.sequences
  · exact hintact.agree (hstored.live hrefuses) hbytes hlimit hm hp

/-- Two records, with one record to a segment. -/
theorem segment_bounds_of_two :
    ∃ r, (system LongRecording.dump).exec
        { options := { directory := "raw/camera", segmentRecords := 1 } }
        [⟨.openDevice (.object [("recording_format", .str "raw")]), [], []⟩, LongRecording.append,
          LongRecording.append] = some r ∧
      r.data.segment = 2 ∧ Bounds r := by
  have hnew : (system LongRecording.dump).Reachable
      { options := { directory := "raw/camera", segmentRecords := 1 } } :=
    .init ⟨_, true, ⟨by decide, by decide⟩, rfl⟩
  have hexec : (system LongRecording.dump).exec
      { options := { directory := "raw/camera", segmentRecords := 1 } }
      [⟨.openDevice (.object [("recording_format", .str "raw")]), [], []⟩, LongRecording.append,
        LongRecording.append] = some _ := rfl
  have hreach := StepSystem.reachable_of_exec hnew hexec
  exact ⟨_, hexec, rfl, segment_bounds hreach rfl (by decide) (by decide)⟩

/-- The number of a record starts again after `2 ^ 64` of them. -/
theorem sequence_wraps :
    ∃ r, (system LongRecording.dump).Reachable r ∧ r.failed = false ∧
      r.segments.reverse.flatten.map Entry.sequence ≠ List.range (total r.segments) := by
  obtain ⟨r, hr⟩ := LongRecording.exists_after (n := 2 ^ 64 + 1) (Nat.le_refl _)
  have hfailed : r.failed = false := (Bool.or_eq_false_iff.mp hr.refuses).2
  obtain ⟨segments, -, hintact⟩ := (stored_of_reachable hr.reachable).files
  have hlaid : Laid r.options r.sse42 r.view.contents segments := (hintact hfailed).laid
  have hsegments : r.segments = segments := hlaid.segments_eq
  have htotal : total segments = 2 ^ 64 + 1 := hlaid.completeRecords_eq.symm.trans hr.complete
  refine ⟨r, hr.reachable, hfailed, fun hsequences => ?_⟩
  rw [hsegments, hlaid.sequences, htotal] at hsequences
  -- the last record has the number of the first one
  have hlast := congrArg (fun l => l[2 ^ 64]?) hsequences
  simp only [List.getElem?_map, List.getElem?_range (Nat.lt_succ_self (2 ^ 64)), Option.map_some,
    Nat.mod_self, Option.some.injEq] at hlast
  exact absurd hlast (by decide)

end RawRecorder
end Ebus
end AmigaDrivers
