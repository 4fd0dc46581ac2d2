import AmigaDrivers.Ebus.RawRecorderHonesty
import AmigaDrivers.Ebus.RawSegments

/-!
# What a record leaves in the segment files

* `View`: the bytes of the segment files, and the members that count them.
* `View.Rotated`, `View.appended`, `View.Torn`: what `Append` makes of them.
* `triple_append`: a record is there and counted, or not there and not counted, or it is torn.
-/

namespace AmigaDrivers
namespace Ebus
namespace RawRecorder

open Effect

/-- The bytes of the segment files, the latest first, and the members that count them. -/
structure View where
  options : RecorderOptions
  sse42 : Bool
  contents : List (List UInt8)
  segment : Nat
  offset : Nat
  synced : Nat
  segmentRecords : Nat
  records : Nat
  frames : Nat
  bytes : Nat

/-- The view of a recorder. -/
def view (r : RawRecorder) : View where
  options := r.options
  sse42 := r.sse42
  contents := r.data.files.map Segment.bytes
  segment := r.data.segment
  offset := r.data.offset
  synced := r.data.synced
  segmentRecords := r.data.segmentRecords
  records := r.records
  frames := r.frames
  bytes := r.bytes

namespace View

/-- The view with bytes behind the last ones of the latest file. -/
def put (v : View) (bytes : List UInt8) : View :=
  { v with contents := v.contents.modifyHead (· ++ bytes) }

/-- The view with another segment that has not been opened completely. -/
def opening (v : View) (bytes : List UInt8) (offset : Nat) : View :=
  { v with
    contents := bytes :: v.contents
    segment := v.segment + 1
    offset := offset
    synced := 0
    segmentRecords := 0 }

/-- The view with another segment. -/
def opened (v : View) (created : Nat) : View :=
  { v with
    contents := makeFileHeader v.sse42 created (v.segment + 1) :: v.contents
    segment := v.segment + 1
    offset := kFileHeaderSize
    synced := kFileHeaderSize
    segmentRecords := 0 }

/-- The next record does not go into this segment. -/
def mustRotate (v : View) (size : Nat) : Bool :=
  let segmentLimit := min v.options.segmentBytes maxOffset
  v.segmentRecords ≠ 0 &&
    ((v.options.segmentRecords ≠ 0 && v.segmentRecords ≥ v.options.segmentRecords) ||
      v.offset ≥ segmentLimit || size > segmentLimit - v.offset)

/-- Where the next record goes. -/
inductive Rotated (v : View) (size : Nat) : View → Prop
  | stays (h : v.mustRotate size = false) : Rotated v size v
  | moves (h : v.mustRotate size = true) (hsegment : v.segment ≠ 2 ^ 64 - 1) {created : Nat}
      (hcreated : created < 2 ^ 64) : Rotated v size (v.opened created)

/-- What the next record holds. -/
def entry (v : View) (metadata payload : List UInt8) : Entry := ⟨v.records, metadata, payload⟩

/-- The view with a record that is there and counted. -/
def appended (v : View) (x : Entry) (valid flushed : Bool) : View :=
  { v with
    contents := v.contents.modifyHead (· ++ x.bytes v.sse42)
    offset := v.offset + (x.bytes v.sse42).length
    synced := if flushed then v.offset + (x.bytes v.sse42).length else v.synced
    segmentRecords := v.segmentRecords + 1
    records := (v.records + 1) % 2 ^ 64
    frames := if valid then (v.frames + 1) % 2 ^ 64 else v.frames
    bytes := (v.bytes + x.payload.length) % 2 ^ 64 }

/-- A part of the record is there, and none of the members knows of it. -/
def Torn (v : View) (x : Entry) (v' : View) : Prop :=
  ∃ n, 0 < n ∧ n < (x.bytes v.sse42).length ∧ v' = v.put ((x.bytes v.sse42).take n)

/-- No record is there that was not there before, nor a part of one. -/
inductive Untouched (v : View) : View → Prop
  | same : Untouched v v
  | opening {created : Nat} (hcreated : created < 2 ^ 64) (n offset : Nat) :
      Untouched v (v.opening ((makeFileHeader v.sse42 created (v.segment + 1)).take n) offset)
  | opened {created : Nat} (hcreated : created < 2 ^ 64) : Untouched v (v.opened created)

end View

/-- The recorder has this view. -/
abbrev At (v : View) (r : RawRecorder) : Prop := r.view = v

variable {v : View} {dump : Dump}

theorem inner_at (v : View) : Inner (At v) where
  answers _ _ h := h
  clock _ _ h := h
  failed _ h := h

theorem besideEvents_at (v : View) : BesideEvents (At v) :=
  { inner_at v with events := fun _ _ h => h }

/-- What a file has besides its bytes is not seen. -/
theorem view_mark (r : RawRecorder) {f : Segment → Segment} (hf : ∀ s, (f s).bytes = s.bytes) :
    ({ r with data.files := r.data.files.modifyHead f } : RawRecorder).view = r.view := by
  have hfiles : (r.data.files.modifyHead f).map Segment.bytes = r.data.files.map Segment.bytes := by
    cases r.data.files with
    | nil => rfl
    | cons s files => exact congrArg (· :: files.map Segment.bytes) (hf s)
  show View.mk _ _ ((r.data.files.modifyHead f).map Segment.bytes) _ _ _ _ _ _ _ = _
  rw [hfiles]
  rfl

theorem keeps_syncData_at : Keeps (At v) syncData :=
  keeps_sync (inner_at v) fun r h =>
    (view_mark r (f := fun s => { s with synced := s.bytes.length }) fun _ => rfl).trans h

theorem keeps_closeData_at : Keeps (At v) closeData :=
  keeps_closeFd (inner_at v) (fun _ h => h) fun r h =>
    (view_mark r (f := fun s => { s with closed := true }) fun _ => rfl).trans h

/-- Closing a segment leaves its bytes alone. -/
theorem keeps_closeSegment_at : Keeps (At v) (closeSegment dump) := by
  refine .bind .get fun _ => .ite .pure ?_
  refine .bind (keeps_attempt (inner_at v) keeps_syncData_at) fun _ => ?_
  refine .bind (keeps_attempt (inner_at v) keeps_closeData_at) fun _ => ?_
  exact .bind (keeps_rethrow _) fun _ => .bind .get fun r => keeps_event (besideEvents_at v) dump _

theorem keeps_syncDirectory_at : Keeps (At v) syncDirectory :=
  keeps_sync (inner_at v) fun _ h => h

/-! ## Writing -/

theorem view_putData (bytes : List UInt8) (r : RawRecorder) :
    (putData bytes r).view = r.view.put bytes := by
  have hfiles : (r.data.files.modifyHead fun f => { f with bytes := f.bytes ++ bytes }).map
      Segment.bytes = (r.data.files.map Segment.bytes).modifyHead (· ++ bytes) := by
    cases r.data.files <;> rfl
  show View.mk _ _ (List.map Segment.bytes (List.modifyHead _ _)) _ _ _ _ _ _ _ = _
  rw [hfiles]
  rfl

theorem put_nil (v : View) : v.put [] = v := by
  have hsame : v.contents.modifyHead (· ++ []) = v.contents := by
    cases v.contents with
    | nil => rfl
    | cons f rest => exact congrArg (· :: rest) (List.append_nil f)
  unfold View.put
  rw [hsame]

theorem put_put (v : View) (bytes bytes' : List UInt8) :
    (v.put bytes).put bytes' = v.put (bytes ++ bytes') := by
  have hsame : (v.contents.modifyHead (· ++ bytes)).modifyHead (· ++ bytes') =
      v.contents.modifyHead (· ++ (bytes ++ bytes')) := by
    cases v.contents with
    | nil => rfl
    | cons f rest => exact congrArg (· :: rest) (List.append_assoc f bytes bytes')
  unfold View.put
  rw [hsame]

/-- A loop of writes that throws has not written everything. -/
theorem writeLoop_error {answers answers' : List Answer} {bytes : List UInt8} {written : Nat}
    {e : String} (h : writeLoop answers bytes = (written, .error e, answers')) :
    written < bytes.length := by
  induction answers, bytes using writeLoop.induct generalizing written answers' with
  | case1 answers =>
    unfold writeLoop at h
    cases h
  | case2 bytes hne =>
    rw [writeLoop.eq_2 _ hne] at h
    cases h
  | case3 answers bytes hne =>
    rw [writeLoop.eq_3 _ _ hne] at h
    cases h
  | case4 answers bytes hne ih =>
    rw [writeLoop.eq_4 _ _ hne] at h
    exact ih h
  | case5 strerror answers bytes hne =>
    rw [writeLoop.eq_5 _ _ _ hne] at h
    exact (Prod.mk.inj h).1 ▸ List.length_pos_iff.mpr hne
  | case6 answers bytes hne =>
    rw [writeLoop.eq_6 _ _ hne] at h
    exact (Prod.mk.inj h).1 ▸ List.length_pos_iff.mpr hne
  | case7 n answers bytes hne rest result hrest ih =>
    rw [writeLoop.eq_7 _ _ _ hne, hrest] at h
    obtain ⟨hwritten, hresult⟩ := Prod.mk.inj h
    rw [hresult] at hrest
    have hsome := ih hrest
    rw [List.length_drop] at hsome
    omega

/-- `WriteAll` on the segment file writes everything and returns, or not everything and throws. -/
theorem triple_putData {v : View} (bytes : List UInt8) :
    Triple (At v) (writeAll putData bytes) (fun _ => At (v.put bytes))
      (fun _ r => ∃ n < bytes.length, r.view = v.put (bytes.take n)) := by
  intro r hr
  unfold writeAll
  rw [outcome_get_bind]
  cases h : writeLoop r.answers bytes with
  | mk written rest =>
    obtain ⟨result, answers⟩ := rest
    have hview (n : Nat) : (putData (bytes.take n) { r with answers }).view =
        v.put (bytes.take n) := (view_putData _ _).trans (congrArg (View.put · _) hr)
    cases result with
    | error e => exact ⟨written, writeLoop_error h, hview written⟩
    | ok =>
      have hall := hview written
      rw [writeLoop_ok h, List.take_length] at hall
      dsimp only
      rw [writeLoop_ok h, List.take_length]
      exact hall

/-! ## Another segment -/

/-- `OpenSegment` opens a segment, or begins to. -/
theorem triple_openSegment_at (v : View) :
    Triple (At v) openSegment
      (fun _ r => v.segment ≠ 2 ^ 64 - 1 ∧ ∃ created < 2 ^ 64, r.view = v.opened created)
      (fun _ r => v.Untouched r.view) := by
  refine .get_bind fun r₀ hr₀ => .ite (fun _ => .throw ?_) fun hsegment => ?_
  · rintro r rfl
    exact hr₀ ▸ .same
  have hsegment : v.segment ≠ 2 ^ 64 - 1 := hr₀ ▸ hsegment
  refine .bind (Q := fun _ => At (v.opening [] 0)) ?_ fun _ => ?_
  · refine triple_systemCall ?_ ?_
    · rintro r answers rfl
      exact hr₀ ▸ rfl
    · rintro e r answers rfl
      exact hr₀ ▸ .same
  refine .bind (Q := fun created r => created < 2 ^ 64 ∧ r.view = v.opening [] 0) ?_ ?_
  · exact triple_realtimeNowNs fun created r clock hcreated hr => ⟨hcreated, hr⟩
  refine fun created => .get_bind fun r₁ hr₁ => ?_
  obtain ⟨hcreated, hr₁⟩ := hr₁
  have hheader : makeFileHeader r₁.sse42 created r₁.data.segment =
      makeFileHeader v.sse42 created (v.segment + 1) := by
    have hsse42 : r₁.view.sse42 = v.sse42 := by rw [hr₁]; rfl
    have hnumber : r₁.view.segment = v.segment + 1 := by rw [hr₁]; rfl
    exact congrArg₂ (fun sse42 n => makeFileHeader sse42 created n) hsse42 hnumber
  rw [hheader]
  generalize hbytes : makeFileHeader v.sse42 created (v.segment + 1) = header
  have hlength : header.length = kFileHeaderSize := hbytes ▸ length_makeFileHeader _ _ _
  have hput (bytes : List UInt8) : (v.opening [] 0).put bytes = v.opening bytes 0 := rfl
  have hbegun (n offset : Nat) : v.Untouched (v.opening (header.take n) offset) :=
    hbytes ▸ .opening hcreated n offset
  have hwhole : v.Untouched (v.opening header kFileHeaderSize) := by
    have htake : header.take kFileHeaderSize = header := List.take_of_length_le hlength.le
    exact htake ▸ hbegun kFileHeaderSize kFileHeaderSize
  refine .bind (Q := fun _ => At (v.opening header 0)) ?_ fun _ => ?_
  · refine (triple_putData header).conseq (fun r hr => hr ▸ hr₁) (fun _ r hr => hr.trans (hput _)) ?_
    rintro e r ⟨n, -, hr⟩
    exact hr ▸ hput _ ▸ hbegun n 0
  refine .bind (Q := fun _ => At (v.opening header kFileHeaderSize)) (.modify ?_) fun _ => ?_
  · intro r hr
    have hview : ({ r with data.offset := header.length } : RawRecorder).view =
        { r.view with offset := header.length } := rfl
    show _ = _
    rw [hview, hr, hlength]
    rfl
  refine .bind (Q := fun _ => At (v.opening header kFileHeaderSize)) ?_ fun _ => ?_
  · exact Triple.conseq keeps_syncData_at (fun _ hr => hr) (fun _ _ hr => hr)
      fun _ r hr => hr ▸ hwhole
  have hopened : v.opened created =
      { v.opening header kFileHeaderSize with synced := kFileHeaderSize } := by
    unfold View.opened
    rw [hbytes]
    rfl
  refine .bind (Q := fun _ => At (v.opened created)) (.modify ?_) fun _ => ?_
  · intro r hr
    have hview : ({ r with data.synced := r.data.offset } : RawRecorder).view =
        { r.view with synced := r.view.offset } := rfl
    show _ = _
    rw [hview, hr, hopened]
    rfl
  · exact Triple.conseq keeps_syncDirectory_at (fun _ hr => hr)
      (fun _ r hr => ⟨hsegment, created, hcreated, hr⟩) fun _ r hr => hr ▸ .opened hcreated

/-- `Append` goes on in the segment, or opens another. -/
theorem triple_rotate (v : View) (size : Nat) :
    Triple (At v) (rotate dump size) (fun _ r => v.Rotated size r.view)
      (fun _ r => v.Untouched r.view) := by
  refine .get_bind fun r₀ hr₀ => ?_
  have hrotate : r₀.mustRotate size = v.mustRotate size := hr₀ ▸ rfl
  rw [hrotate]
  refine .ite (fun hmust => ?_) fun hmust => .pure ?_
  · refine .bind (Q := fun _ => At v) ?_ fun _ => ?_
    · exact Triple.conseq keeps_closeSegment_at (fun r hr => hr ▸ hr₀) (fun _ _ hr => hr)
        fun _ r hr => hr ▸ .same
    · refine (triple_openSegment_at v).conseq (fun _ hr => hr) ?_ fun _ _ hr => hr
      rintro _ r ⟨hsegment, created, hcreated, hr⟩
      exact hr ▸ .moves hmust hsegment hcreated
  · rintro r rfl
    rw [hr₀]
    exact .stays (Bool.eq_false_iff.mpr hmust)

/-! ## A record -/

/-- The text of the exception of a rollback that failed. -/
def rollbackFailed : String := "raw append failed and partial-record rollback also failed"

/-- The latest segment file ends where the recorder believes it does. -/
def View.Whole (v : View) : Prop := ∃ f rest, v.contents = f :: rest ∧ v.offset = f.length

/-- Cutting the file off where the recorder believes it ends undoes a write. -/
theorem view_truncateData {v : View} (hwhole : v.Whole) {bytes : List UInt8} {r : RawRecorder}
    (hr : r.view = v.put bytes) : (truncateData r).view = v := by
  obtain ⟨f, rest, hcontents, hoffset⟩ := hwhole
  have hfiles : r.data.files.map Segment.bytes = (f ++ bytes) :: rest := by
    have hfiles : r.view.contents = v.contents.modifyHead (· ++ bytes) := congrArg View.contents hr
    rw [hcontents] at hfiles
    exact hfiles
  have hend : r.data.offset = f.length := (congrArg View.offset hr).trans hoffset
  have htake : (r.data.files.modifyHead fun s => { s with bytes := s.bytes.take r.data.offset }).map
      Segment.bytes = f :: rest := by
    cases hs : r.data.files with
    | nil =>
      rw [hs] at hfiles
      exact nomatch hfiles
    | cons s files =>
      rw [hs] at hfiles
      obtain ⟨hhead, htail⟩ := List.cons.inj hfiles
      show s.bytes.take r.data.offset :: files.map Segment.bytes = f :: rest
      rw [hhead, htail, hend, List.take_left]
  have hview : (truncateData r).view = { r.view with contents := f :: rest } := by
    unfold truncateData view
    rw [htake]
  rw [hview, hr, ← hcontents]
  rfl

/-- The three writes of a record leave all of it, nothing of it, or a part that is there to stay. -/
theorem triple_writeRecord {v : View} (hwhole : v.Whole) (header metadata payload : List UInt8) :
    Triple (At v) (writeRecord header metadata payload)
      (fun _ => At (v.put (header ++ metadata ++ payload)))
      (fun e r => r.view = v ∨ e = rollbackFailed ∧ ∃ n, 0 < n ∧
        n < (header ++ metadata ++ payload).length ∧
          r.view = v.put ((header ++ metadata ++ payload).take n)) := by
  let record := header ++ metadata ++ payload
  let part : RawRecorder → Prop := fun r => ∃ n < record.length, r.view = v.put (record.take n)
  have hpart {before bytes after : List UInt8} (hrecord : record = before ++ bytes ++ after)
      {r : RawRecorder} (hr : ∃ n < bytes.length, r.view = (v.put before).put (bytes.take n)) :
      part r := by
    obtain ⟨n, hn, hr⟩ := hr
    refine ⟨before.length + n, ?_, ?_⟩
    · rw [hrecord, List.length_append, List.length_append]
      omega
    · rw [hr, put_put, hrecord, List.append_assoc, List.take_length_add_append,
        List.take_append_of_le_length hn.le]
  refine .tryCatch (E := fun _ => part) ?_ fun e => ?_
  · refine .bind (Q := fun _ => At (v.put header)) ?_ fun _ => ?_
    · refine (triple_putData header).conseq (fun _ hr => hr) (fun _ _ hr => hr) fun _ r hr => ?_
      have hfirst : record = [] ++ header ++ (metadata ++ payload) := List.append_assoc _ _ _
      refine hpart hfirst ?_
      rw [put_nil]
      exact hr
    refine .bind (Q := fun _ => At (v.put (header ++ metadata))) ?_ fun _ => ?_
    · refine (triple_putData metadata).conseq (fun _ hr => hr) (fun _ _ hr => ?_) fun _ r hr => ?_
      · exact hr.trans (put_put v header metadata)
      · exact hpart rfl hr
    · refine (triple_putData payload).conseq (fun _ hr => hr) (fun _ _ hr => ?_) fun _ r hr => ?_
      · exact hr.trans (put_put v _ payload)
      · exact hpart (List.append_nil _).symm hr
  · refine .bind (Q := fun _ => part) (triple_answer fun _ r answers hr => hr) fun a => ?_
    cases a.error? with
    | some strerror =>
      refine .bind (Q := fun _ => part) (.modify fun _ hr => hr) fun _ => .throw ?_
      rintro r ⟨n, hn, hr⟩
      obtain rfl | hpos := n.eq_zero_or_pos
      · exact .inl (hr.trans (put_nil v))
      · exact .inr ⟨rfl, n, hpos, hn, hr⟩
    | none =>
      refine .bind (Q := fun _ => At v) (.modify ?_) fun _ => .throw fun _ hr => .inl hr
      rintro r ⟨n, -, hr⟩
      exact view_truncateData hwhole hr

/-- A record in a segment that has room is there and counted, or an exception says what is left. -/
theorem triple_appendHere_at {v : View} (hwhole : v.Whole) (metadata payload : List UInt8)
    (valid : Bool) :
    Triple (At v) (appendHere metadata payload valid)
      (fun _ r => ∃ flushed, r.view = v.appended (v.entry metadata payload) valid flushed)
      (fun e r => r.view = v ∨ r.view = v.appended (v.entry metadata payload) valid false ∨
        e = rollbackFailed ∧ v.Torn (v.entry metadata payload) r.view) := by
  refine .get_bind fun r₀ hr₀ => ?_
  have hheader : makeRecordHeader r₀.sse42 metadata.length payload.length r₀.records
      (crc32c r₀.sse42 metadata).toNat (crc32c r₀.sse42 payload).toNat =
        (v.entry metadata payload).header v.sse42 := hr₀ ▸ rfl
  dsimp only
  rw [hheader]
  generalize hx : v.entry metadata payload = x
  have hbytes : x.header v.sse42 ++ metadata ++ payload = x.bytes v.sse42 := hx ▸ rfl
  have hsize : kRecordHeaderSize + metadata.length + payload.length = (x.bytes v.sse42).length := by
    rw [Entry.length_bytes, ← hx]
    rfl
  refine .bind (Q := fun _ => At (v.put (x.bytes v.sse42))) ?_ fun _ => ?_
  · refine (triple_writeRecord hwhole _ _ _).conseq (fun r hr => hr ▸ hr₀) (fun _ r hr => ?_)
      fun e r hr => ?_
    · exact hbytes ▸ hr
    · rw [hbytes] at hr
      exact hr.imp_right .inr
  refine .bind (Q := fun _ => At (v.appended x valid false)) (.modify ?_) fun _ => ?_
  · intro r hr
    have hview : (countRecord (x.bytes v.sse42).length valid payload r).view =
        { r.view with
          offset := r.view.offset + (x.bytes v.sse42).length
          segmentRecords := r.view.segmentRecords + 1
          records := (r.view.records + 1) % 2 ^ 64
          frames := if valid then (r.view.frames + 1) % 2 ^ 64 else r.view.frames
          bytes := (r.view.bytes + payload.length) % 2 ^ 64 } := rfl
    show _ = _
    rw [hsize, hview, hr, ← hx]
    rfl
  refine .get_bind fun r₁ hr₁ => .ite (fun _ => ?_) fun _ => .pure fun r hr => ⟨false, hr ▸ hr₁⟩
  refine .bind (Q := fun _ => At (v.appended x valid false)) ?_ fun _ => .modify ?_
  · exact Triple.conseq keeps_syncData_at (fun r hr => hr ▸ hr₁) (fun _ _ hr => hr)
      fun _ _ hr => .inr (.inl hr)
  · intro r hr
    have hview : ({ r with data.synced := r.data.offset } : RawRecorder).view =
        { r.view with synced := r.view.offset } := rfl
    refine ⟨true, ?_⟩
    rw [hview, hr]
    rfl

/-- What `Append` admits, and what it writes of it. -/
structure Admitted (dump : Dump) (buffer : RawBuffer) (metadata : List UInt8) (valid : Bool) :
    Prop where
  dumped : dump (-1) buffer.metadata = .ok metadata
  metadata_le : metadata.length ≤ kMaxMetadataSize
  valid : validFrame buffer.metadata = .ok valid
  payload_le : buffer.payload.length ≤
    maxOffset - kFileHeaderSize - (kRecordHeaderSize + metadata.length)

/-- The size of a record. -/
def recordSize (metadata payload : List UInt8) : Nat :=
  kRecordHeaderSize + metadata.length + payload.length

/-- The record is there and counted. -/
def View.Written (dump : Dump) (buffer : RawBuffer) (v : View) (flushed : Bool) (v' : View) : Prop :=
  ∃ metadata valid v₁, Admitted dump buffer metadata valid ∧
    v.Rotated (recordSize metadata buffer.payload) v₁ ∧
      v' = v₁.appended (v₁.entry metadata buffer.payload) valid flushed

/-- A part of the record is there, where it was to go. -/
def View.TornRecord (dump : Dump) (buffer : RawBuffer) (v : View) (v' : View) : Prop :=
  ∃ metadata valid v₁, Admitted dump buffer metadata valid ∧
    v.Rotated (recordSize metadata buffer.payload) v₁ ∧
      v₁.Torn (v₁.entry metadata buffer.payload) v'

theorem View.Rotated.untouched {v v' : View} {size : Nat} (h : v.Rotated size v') :
    v.Untouched v' := by
  cases h with
  | stays => exact .same
  | moves _ _ hcreated => exact .opened hcreated

theorem View.Rotated.whole {v v' : View} {size : Nat} (h : v.Rotated size v') (hwhole : v.Whole) :
    v'.Whole := by
  cases h with
  | stays => exact hwhole
  | moves => exact ⟨_, _, rfl, (length_makeFileHeader _ _ _).symm⟩

/-- `Append`, up to what its handler sees. -/
theorem triple_appendRecord_at {v : View} (hwhole : v.Whole) (buffer : RawBuffer) :
    Triple (At v) (appendRecord dump buffer)
      (fun _ r => ∃ flushed, v.Written dump buffer flushed r.view)
      (fun e r => v.Untouched r.view ∨ v.Written dump buffer false r.view ∨
        e = rollbackFailed ∧ v.TornRecord dump buffer r.view) := by
  have hsame {r : RawRecorder} (hr : r.view = v) : v.Untouched r.view := hr ▸ .same
  refine .ite (fun _ => .throw fun r hr => .inl (hsame hr)) fun _ => ?_
  refine .bind (Q := fun metadata r => dump (-1) buffer.metadata = .ok metadata ∧ r.view = v)
    (.lift (fun _ _ hdump hr => ⟨hdump, hr⟩) fun _ r _ hr => .inl (hsame hr)) fun metadata => ?_
  refine .ite (fun _ => .throw fun r hr => .inl (hsame hr.2)) fun hmetadata => .of_fact fun hdump => ?_
  refine .bind (Q := fun valid r => validFrame buffer.metadata = .ok valid ∧ r.view = v)
    (.lift (fun _ _ hvalid hr => ⟨hvalid, hr⟩) fun _ r _ hr => .inl (hsame hr)) fun valid => ?_
  refine .of_fact fun hvalid => .ite (fun _ => .throw fun r hr => .inl (hsame hr)) fun hpayload => ?_
  have hadmitted : Admitted dump buffer metadata valid :=
    ⟨hdump, Nat.not_lt.mp hmetadata, hvalid, Nat.not_lt.mp hpayload⟩
  refine .bind (Q := fun _ r => v.Rotated (recordSize metadata buffer.payload) r.view) ?_
    fun _ r hrotated => ?_
  · exact (triple_rotate v _).conseq (fun _ hr => hr) (fun _ _ hr => hr) fun _ _ hr => .inl hr
  · refine ((triple_appendHere_at (hrotated.whole hwhole) metadata buffer.payload valid).conseq
      (fun _ hs => hs) ?_ ?_) r rfl
    · rintro _ s ⟨flushed, hs⟩
      exact ⟨flushed, metadata, valid, r.view, hadmitted, hrotated, hs⟩
    · rintro e s (hs | hs | ⟨he, htorn⟩)
      · exact .inl (hs ▸ hrotated.untouched)
      · exact .inr (.inl ⟨metadata, valid, r.view, hadmitted, hrotated, hs⟩)
      · exact .inr (.inr ⟨he, metadata, valid, r.view, hadmitted, hrotated, htorn⟩)

/-- `Append` takes no call: nothing was opened, everything is over, or a failure is latched. -/
def refuses (r : RawRecorder) : Bool := !r.opened || r.closed || r.failed

/-- **`Append`.**  The record is there and counted; otherwise a failure is latched, and the record
is there and counted, or nothing of it is there, or the rollback of a part of it failed. -/
theorem triple_append_at {v : View} (hwhole : v.Whole) (buffer : RawBuffer) :
    Triple (fun r => r.refuses = false ∧ r.view = v) (append dump buffer)
      (fun _ r => ∃ flushed, v.Written dump buffer flushed r.view)
      (fun e r => r.failed = true ∧ (v.Untouched r.view ∨ v.Written dump buffer false r.view ∨
        e = rollbackFailed ∧ v.TornRecord dump buffer r.view)) := by
  refine .get_bind fun r₀ hr₀ => .ite (fun hrefuses => ?_) fun _ => ?_
  · exact absurd (hr₀.1.symm.trans hrefuses) Bool.false_ne_true
  refine .tryCatch (E := fun e r => v.Untouched r.view ∨ v.Written dump buffer false r.view ∨
    e = rollbackFailed ∧ v.TornRecord dump buffer r.view) ?_ fun e => ?_
  · exact (triple_appendRecord_at hwhole buffer).conseq (fun r hr => hr ▸ hr₀.2) (fun _ _ h => h)
      fun _ _ h => h
  · refine .bind (Q := fun _ r => r.failed = true ∧ (v.Untouched r.view ∨
      v.Written dump buffer false r.view ∨ e = rollbackFailed ∧ v.TornRecord dump buffer r.view))
      (.modify fun r hr => ⟨rfl, hr⟩) fun _ => .throw fun _ hr => hr

end RawRecorder
end Ebus
end AmigaDrivers
