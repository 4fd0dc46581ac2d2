import AmigaDrivers.Ebus.RawRecorderSegments

/-!
# The segments of a recording

* `SegmentOk`: a segment file holds records one behind another, numbered on from those before it,
  and is within both limits or holds one record.
* `Laid`: every segment file does, each under its own number.
* `Disk`: the same up to what a failure has left behind.
* `Stored`: the files and the members that count them agree.
* `stored_of_reachable`: this holds whatever is called and whatever fails.
-/

namespace AmigaDrivers
namespace Ebus
namespace RawRecorder

open Effect

/-! ## The files -/

/-- The records in some segments. -/
def total (segments : List (List Entry)) : Nat := (segments.map List.length).sum

/-- A segment file under its number, with the records that follow the first `start` ones. -/
structure SegmentOk (options : RecorderOptions) (sse42 : Bool) (number start : Nat)
    (entries : List Entry) (bytes : List UInt8) : Prop where
  holds : ∃ created < 2 ^ 64,
    bytes = makeFileHeader sse42 created number ++ entries.flatMap (Entry.bytes sse42)
  fits : ∀ x ∈ entries, x.Fits
  numbered : entries.map Entry.sequence = (List.range' start entries.length).map (· % 2 ^ 64)
  within : bytes.length ≤ options.segmentBytes ∧
      (options.segmentRecords ≠ 0 → entries.length ≤ options.segmentRecords) ∨
    entries.length = 1
  offsets : bytes.length ≤ maxOffset

/-- Segment files, the latest first, and the records they hold. -/
inductive Laid (options : RecorderOptions) (sse42 : Bool) :
    List (List UInt8) → List (List Entry) → Prop
  | nil : Laid options sse42 [] []
  | cons {contents : List (List UInt8)} {segments : List (List Entry)} {entries : List Entry}
      {bytes : List UInt8} (earlier : Laid options sse42 contents segments)
      (latest : SegmentOk options sse42 (contents.length + 1) (total segments) entries bytes) :
      Laid options sse42 (bytes :: contents) (entries :: segments)

/-- Segment files of which the latest may be what a failure has left. -/
inductive Disk (options : RecorderOptions) (sse42 : Bool) :
    List (List UInt8) → List (List Entry) → Prop
  | laid {contents : List (List UInt8)} {segments : List (List Entry)}
      (h : Laid options sse42 contents segments) : Disk options sse42 contents segments
  | torn {contents : List (List UInt8)} {segments : List (List Entry)} {bytes : List UInt8}
      (h : Laid options sse42 (bytes :: contents) segments) {x : Entry} (hx : x.Fits) {n : Nat}
      (hn : n < (x.bytes sse42).length) :
      Disk options sse42 ((bytes ++ (x.bytes sse42).take n) :: contents) segments
  | opening {contents : List (List UInt8)} {segments : List (List Entry)}
      (h : Laid options sse42 contents segments) (created n : Nat) :
      Disk options sse42
        ((makeFileHeader sse42 created (contents.length + 1)).take n :: contents) segments

/-- How many records the segment files hold that are complete. -/
def completeRecords (sse42 : Bool) (contents : List (List UInt8)) : Nat :=
  (contents.map fun bytes => (segmentEntries sse42 bytes).length).sum

variable {options : RecorderOptions} {sse42 : Bool} {contents : List (List UInt8)}
  {segments : List (List Entry)} {entries : List Entry} {bytes : List UInt8} {number start : Nat}

theorem total_cons (entries : List Entry) (segments : List (List Entry)) :
    total (entries :: segments) = entries.length + total segments := rfl

/-- A segment file says what it holds, also with the rest of a record behind it. -/
theorem SegmentOk.entries_append (h : SegmentOk options sse42 number start entries bytes)
    {torn : List UInt8} (htorn : entriesIn sse42 torn = []) :
    segmentEntries sse42 (bytes ++ torn) = entries := by
  obtain ⟨created, -, rfl⟩ := h.holds
  exact segmentEntries_append h.fits htorn created number

theorem SegmentOk.entries_eq (h : SegmentOk options sse42 number start entries bytes) :
    segmentEntries sse42 bytes = entries := by
  have hall := h.entries_append (entriesIn_nil sse42)
  rwa [List.append_nil] at hall

theorem Laid.completeRecords_eq (h : Laid options sse42 contents segments) :
    completeRecords sse42 contents = total segments := by
  induction h with
  | nil => rfl
  | cons _ latest ih =>
    unfold completeRecords at ih ⊢
    rw [List.map_cons, List.sum_cons, ih, latest.entries_eq, total_cons]

/-- What a failure leaves behind is no record. -/
theorem Disk.completeRecords_eq (h : Disk options sse42 contents segments) :
    completeRecords sse42 contents = total segments := by
  cases h with
  | laid h => exact h.completeRecords_eq
  | torn h hx hn =>
    cases h with
    | cons earlier latest =>
      have hearlier := earlier.completeRecords_eq
      unfold completeRecords at hearlier ⊢
      rw [List.map_cons, List.sum_cons, hearlier, latest.entries_append (entriesIn_torn hx hn),
        total_cons]
  | @opening contents _ h created n =>
    have hearlier := h.completeRecords_eq
    have hshort : ((makeFileHeader sse42 created (contents.length + 1)).take n).length ≤
        kFileHeaderSize := by
      rw [List.length_take, length_makeFileHeader]
      exact Nat.min_le_right _ _
    unfold completeRecords at hearlier ⊢
    rw [List.map_cons, List.sum_cons, segmentEntries_of_short hshort, hearlier, List.length_nil,
      Nat.zero_add]

/-- A new segment file. -/
theorem segmentOk_new (haccepts : Accepts options) {created : Nat} (hcreated : created < 2 ^ 64)
    (number start : Nat) :
    SegmentOk options sse42 number start [] (makeFileHeader sse42 created number) where
  holds := ⟨created, hcreated, (List.append_nil _).symm⟩
  fits := nofun
  numbered := rfl
  within := .inl ⟨by rw [length_makeFileHeader]; exact haccepts.2.le, fun _ => Nat.zero_le _⟩
  offsets := by
    rw [length_makeFileHeader]
    decide

/-- One record more. -/
theorem SegmentOk.snoc (h : SegmentOk options sse42 number start entries bytes) {x : Entry}
    (hx : x.Fits) (hsequence : x.sequence = (start + entries.length) % 2 ^ 64)
    (hwithin : entries ≠ [] → bytes.length + (x.bytes sse42).length ≤ options.segmentBytes ∧
      (options.segmentRecords ≠ 0 → entries.length < options.segmentRecords))
    (hoffsets : bytes.length + (x.bytes sse42).length ≤ maxOffset) :
    SegmentOk options sse42 number start (entries ++ [x]) (bytes ++ x.bytes sse42) where
  holds := by
    obtain ⟨created, hcreated, rfl⟩ := h.holds
    refine ⟨created, hcreated, ?_⟩
    rw [List.flatMap_append, List.flatMap_singleton, List.append_assoc]
  fits y hy := by
    obtain hy | hy := List.mem_append.mp hy
    · exact h.fits y hy
    · exact List.mem_singleton.mp hy ▸ hx
  numbered := by
    rw [List.map_append, h.numbered, List.length_append, List.length_singleton,
      List.range'_1_concat, List.map_append, List.map_singleton, List.map_singleton, hsequence]
  within := by
    rw [List.length_append, List.length_append, List.length_singleton]
    cases entries with
    | nil => exact .inr rfl
    | cons y entries =>
      obtain ⟨hbytes, hrecords⟩ := hwithin (List.cons_ne_nil y entries)
      exact .inl ⟨hbytes, fun hlimit => hrecords hlimit⟩
  offsets := by
    rw [List.length_append]
    exact hoffsets

/-! ## The members -/

/-- The members agree with the latest segment file. -/
def View.Counts (v : View) (segments : List (List Entry)) : Prop :=
  ∀ bytes ∈ v.contents.head?, ∀ entries ∈ segments.head?,
    v.offset = bytes.length ∧ v.segmentRecords = entries.length ∧ v.synced ≤ v.offset

/-- The files are whole, and the members agree with them. -/
structure View.Intact (v : View) (segments : List (List Entry)) : Prop where
  accepts : Accepts v.options
  laid : Laid v.options v.sse42 v.contents segments
  counts : v.Counts segments
  segment : v.segment = v.contents.length
  segment_lt : v.segment < 2 ^ 64
  records : v.records = total segments % 2 ^ 64

/-- What is left after a failure. -/
structure View.Left (v : View) (segments : List (List Entry)) : Prop where
  disk : Disk v.options v.sse42 v.contents segments
  records : v.records = total segments % 2 ^ 64

variable {v v' : View}

theorem View.Intact.left (h : v.Intact segments) : v.Left segments := ⟨.laid h.laid, h.records⟩

theorem View.Intact.whole (h : v.Intact segments) (hne : v.contents ≠ []) : v.Whole := by
  have hlaid := h.laid
  have hcounts := h.counts
  unfold View.Counts at hcounts
  unfold View.Whole
  generalize v.contents = contents at hlaid hcounts hne
  cases hlaid with
  | nil => exact absurd rfl hne
  | cons _ _ => exact ⟨_, _, rfl, (hcounts _ rfl _ rfl).1⟩

/-- A segment that opens holds no records yet. -/
theorem View.Intact.opened (h : v.Intact segments) (hsegment : v.segment ≠ 2 ^ 64 - 1)
    {created : Nat} (hcreated : created < 2 ^ 64) : (v.opened created).Intact ([] :: segments) where
  accepts := h.accepts
  laid := by
    refine .cons h.laid ?_
    rw [← h.segment]
    exact segmentOk_new h.accepts hcreated _ _
  counts := by
    rintro _ ⟨⟩ _ ⟨⟩
    exact ⟨(length_makeFileHeader _ _ _).symm, rfl, Nat.le_refl _⟩
  segment := congrArg (· + 1) h.segment
  segment_lt := by
    have hlt := h.segment_lt
    show v.segment + 1 < 2 ^ 64
    omega
  records := by
    rw [total_cons, List.length_nil, Nat.zero_add]
    exact h.records

/-- Where the next record goes, there is room for it. -/
theorem View.Rotated.intact {size : Nat} (hrotated : v.Rotated size v') (h : v.Intact segments)
    (hne : v.contents ≠ []) :
    ∃ segments', v'.Intact segments' ∧ total segments' = total segments ∧ v'.contents ≠ [] ∧
      v'.mustRotate size = false := by
  cases hrotated with
  | stays hstays => exact ⟨segments, h, rfl, hne, hstays⟩
  | moves _ hsegment hcreated =>
    refine ⟨[] :: segments, h.opened hsegment hcreated, ?_, List.cons_ne_nil _ _, rfl⟩
    rw [total_cons, List.length_nil, Nat.zero_add]

/-- There is room for a record. -/
theorem room_of_mustRotate {size : Nat} (h : v.mustRotate size = false)
    (hrecords : v.segmentRecords ≠ 0) :
    v.offset + size ≤ min v.options.segmentBytes maxOffset ∧
      (v.options.segmentRecords ≠ 0 → v.segmentRecords < v.options.segmentRecords) := by
  unfold View.mustRotate at h
  simp only [Bool.and_eq_false_iff, Bool.or_eq_false_iff, decide_eq_false_iff_not] at h
  omega

/-- What `Append` writes fits the fields of the header. -/
theorem View.Intact.entry_fits (h : v.Intact segments) {metadata payload : List UInt8}
    (hmetadata : metadata.length ≤ kMaxMetadataSize) (hpayload : payload.length ≤ maxOffset) :
    (v.entry metadata payload).Fits where
  metadata := Nat.lt_of_le_of_lt hmetadata (by decide)
  payload := Nat.lt_of_le_of_lt hpayload (by decide)
  sequence := by
    show v.records < 256 ^ 8
    rw [h.records]
    exact Nat.mod_lt _ (by decide)

/-- **A record that is written** is the last one of the latest segment. -/
theorem View.Intact.appended (h : v.Intact segments) (hne : v.contents ≠ [])
    {metadata payload : List UInt8} (hroom : v.mustRotate (recordSize metadata payload) = false)
    (hmetadata : metadata.length ≤ kMaxMetadataSize)
    (hpayload : payload.length ≤
      maxOffset - kFileHeaderSize - (kRecordHeaderSize + metadata.length)) (valid flushed : Bool) :
    ∃ segments', (v.appended (v.entry metadata payload) valid flushed).Intact segments' ∧
      total segments' = total segments + 1 := by
  obtain ⟨haccepts, hlaid, hcounts, hsegment, hsegmentLt, hrecords⟩ := id h
  have hshort : payload.length ≤ maxOffset := by omega
  have hfits := h.entry_fits hmetadata hshort
  have hsize : (Entry.bytes v.sse42 (v.entry metadata payload)).length =
      recordSize metadata payload := Entry.length_bytes _ _
  generalize hx : v.entry metadata payload = x at hfits hsize
  have hsequence : x.sequence = total segments % 2 ^ 64 := hx ▸ hrecords
  unfold View.Counts at hcounts
  cases hcontents : v.contents with
  | nil => exact absurd hcontents hne
  | cons bytes contents =>
    rw [hcontents] at hlaid hcounts
    cases hlaid with
    | @cons _ segments entries _ earlier latest =>
      obtain ⟨hoffset, hcount, hsynced⟩ := hcounts _ rfl _ rfl
      have hlong : bytes.length + (x.bytes v.sse42).length ≤ maxOffset := by
        obtain ⟨created, -, hbytes⟩ := latest.holds
        cases entries with
        | nil =>
          rw [hbytes, List.flatMap_nil, List.append_nil, length_makeFileHeader, hsize]
          have hmax : kFileHeaderSize + kRecordHeaderSize + kMaxMetadataSize ≤ maxOffset := by decide
          unfold recordSize
          omega
        | cons y entries =>
          have hroom := room_of_mustRotate hroom (hcount ▸ Nat.succ_ne_zero _)
          rw [hsize]
          omega
      have hlatest := latest.snoc hfits (hsequence.trans (by rw [total_cons, Nat.add_comm])) ?_ hlong
      · refine ⟨(entries ++ [x]) :: segments, ⟨haccepts, ?_, ?_, ?_, hsegmentLt, ?_⟩, ?_⟩
        · show Laid v.options v.sse42 (v.contents.modifyHead (· ++ x.bytes v.sse42)) _
          rw [hcontents]
          exact .cons earlier hlatest
        · intro f hf e he
          change f ∈ (v.contents.modifyHead (· ++ x.bytes v.sse42)).head? at hf
          rw [hcontents] at hf
          obtain rfl := Option.some.inj hf
          obtain rfl := Option.some.inj he
          refine ⟨?_, ?_, ?_⟩
          · show v.offset + _ = (bytes ++ x.bytes v.sse42).length
            rw [List.length_append, hoffset]
          · show v.segmentRecords + 1 = (entries ++ [x]).length
            rw [List.length_append, hcount, List.length_singleton]
          · show (if flushed then v.offset + (x.bytes v.sse42).length else v.synced) ≤
              v.offset + (x.bytes v.sse42).length
            split_ifs <;> omega
        · show v.segment = (v.contents.modifyHead (· ++ x.bytes v.sse42)).length
          rw [List.length_modifyHead]
          exact hsegment
        · show (v.records + 1) % 2 ^ 64 = _
          rw [hrecords, total_cons, total_cons, List.length_append, List.length_singleton]
          omega
        · rw [total_cons, total_cons, List.length_append, List.length_singleton]
          omega
      · intro hentries
        have hroom := room_of_mustRotate hroom
          (hcount ▸ (List.length_pos_iff.mpr hentries).ne')
        rw [hsize]
        exact ⟨by omega, fun hlimit => hcount ▸ hroom.2 hlimit⟩

/-- Where nothing was written, nothing is lost. -/
theorem View.Intact.untouched (h : v.Intact segments) (hv : v.Untouched v') : v'.Left segments := by
  cases hv with
  | same => exact h.left
  | @opening created _ n offset =>
    refine ⟨?_, h.records⟩
    show Disk v.options v.sse42 ((makeFileHeader v.sse42 created (v.segment + 1)).take n :: _) _
    rw [h.segment]
    exact .opening h.laid created n
  | @opened created _ =>
    refine ⟨?_, h.records⟩
    have hdisk := Disk.opening h.laid created kFileHeaderSize
    rw [List.take_of_length_le (length_makeFileHeader _ _ _).le, ← h.segment] at hdisk
    exact hdisk

/-- What is left of a record that was not written does not count. -/
theorem View.Intact.torn (h : v.Intact segments) (hne : v.contents ≠ []) {x : Entry} (hx : x.Fits)
    (htorn : v.Torn x v') : v'.Left segments := by
  obtain ⟨n, -, hn, rfl⟩ := htorn
  refine ⟨?_, h.records⟩
  have hlaid := h.laid
  show Disk v.options v.sse42 (v.contents.modifyHead (· ++ (x.bytes v.sse42).take n)) _
  cases hcontents : v.contents with
  | nil => exact absurd hcontents hne
  | cons bytes contents =>
    rw [hcontents] at hlaid
    exact .torn hlaid hx hn

variable {dump : Dump} {buffer : RawBuffer}

/-- A record that is written is one more. -/
theorem View.Intact.written {flushed : Bool} (h : v.Intact segments) (hne : v.contents ≠ [])
    (hwritten : v.Written dump buffer flushed v') :
    ∃ segments', v'.Intact segments' ∧ total segments' = total segments + 1 ∧ v'.contents ≠ [] := by
  obtain ⟨metadata, valid, v₁, hadmitted, hrotated, rfl⟩ := hwritten
  obtain ⟨segments₁, h₁, htotal, hne₁, hroom⟩ := hrotated.intact h hne
  obtain ⟨segments₂, h₂, htotal₂⟩ := h₁.appended hne₁ hroom hadmitted.metadata_le
    hadmitted.payload_le valid flushed
  refine ⟨segments₂, h₂, htotal₂.trans (congrArg (· + 1) htotal), fun hnil => hne₁ ?_⟩
  have hlength := congrArg List.length hnil
  change (v₁.contents.modifyHead _).length = 0 at hlength
  rw [List.length_modifyHead] at hlength
  exact List.length_eq_zero_iff.mp hlength

theorem View.Intact.tornRecord (h : v.Intact segments) (hne : v.contents ≠ [])
    (htorn : v.TornRecord dump buffer v') : ∃ segments', v'.Left segments' := by
  obtain ⟨metadata, valid, v₁, hadmitted, hrotated, htorn⟩ := htorn
  obtain ⟨segments₁, h₁, -, hne₁, -⟩ := hrotated.intact h hne
  have hpayload := hadmitted.payload_le
  exact ⟨segments₁, h₁.torn hne₁ (h₁.entry_fits hadmitted.metadata_le (by omega)) htorn⟩

/-! ## The methods -/

/-- What holds of the segment files between calls. -/
structure Stored (r : RawRecorder) : Prop where
  files : ∃ segments, r.view.Left segments ∧ (r.failed = false → r.view.Intact segments)
  fresh : r.opened = false → r.closed = false → r.view.Intact []
  live : r.refuses = false → r.view.contents ≠ []

theorem keeps_close_at (v : View) (complete : Bool) (reason : String) :
    Keeps (At v) (close dump complete reason) := by
  have hinner := inner_at v
  have hevents := besideEvents_at v
  refine triple_close (At v) (At v) (At v) (At v) (fun _ h _ => h) (fun _ h _ => h)
    (triple_latched hinner keeps_closeSegment_at) (fun _ h _ => h)
    (triple_latched hinner keeps_syncDirectory_at)
    (triple_latched hinner (keeps_closeDirectory hinner fun _ _ h => h)) (fun _ h => h)
    (triple_latched hinner ?_) (triple_latched hinner (keeps_closeEvents hevents.toBesideRows))
  exact .bind .get fun r => .bind (keeps_realtimeNowNs hinner) fun now => keeps_event hevents dump _

/-- `Open` that goes through has opened one segment. -/
theorem triple_openFiles_at (v : View) (device : Json) :
    Triple (At v) (openFiles dump device)
      (fun _ r => v.segment ≠ 2 ^ 64 - 1 ∧ (∃ created < 2 ^ 64, r.view = v.opened created) ∧
        r.opened = true)
      (fun _ r => v.Untouched r.view) := by
  have hbefore {α : Type} {x : Io α} (hx : Keeps (At v) x) :
      Triple (At v) x (fun _ => At v) (fun _ r => v.Untouched r.view) :=
    Triple.conseq hx (fun _ h => h) (fun _ _ h => h) fun _ _ h => h ▸ .same
  let Begun : RawRecorder → Prop := fun r => v.segment ≠ 2 ^ 64 - 1 ∧
    (∃ created < 2 ^ 64, r.view = v.opened created) ∧ r.opened = true
  have hafter {x : Io Unit} (hx : Keeps Begun x) :
      Triple Begun x (fun _ => Begun) (fun _ r => v.Untouched r.view) := by
    refine Triple.conseq hx (fun _ h => h) (fun _ _ h => h) fun _ r h => ?_
    obtain ⟨-, ⟨created, hcreated, hr⟩, -⟩ := h
    exact hr ▸ .opened hcreated
  have hbegun : BesideEvents Begun :=
    { answers := fun _ _ h => h
      clock := fun _ _ h => h
      failed := fun _ h => h
      events := fun _ _ h => h }
  have hopened : BesideFiles fun r => r.opened = true :=
    { answers := fun _ _ h => h
      clock := fun _ _ h => h
      failed := fun _ h => h
      data := fun _ _ h => h
      synced := fun _ _ h => h }
  unfold openFiles
  split
  · rename_i format _
    refine .bind (Q := fun _ => At v) (.modify fun _ h => h) fun _ =>
      .ite (fun _ => .throw fun _ h => h ▸ .same) fun _ => ?_
    refine .bind (hbefore (.bind .get fun _ => .ite ?_ .pure)) fun _ => ?_
    · exact keeps_systemCall (inner_at v) fun _ h => h
    refine .bind (hbefore (keeps_createDirectory (inner_at v))) fun _ => ?_
    refine .bind (hbefore (keeps_systemCall (inner_at v) fun _ h => h)) fun _ => ?_
    refine .bind (hbefore (keeps_publishDevice (inner_at v) (fun _ _ h => h) dump device)) fun _ => ?_
    refine .bind (Q := fun _ r => r.view = v ∧ r.opened = true) ?_ fun _ => ?_
    · exact triple_systemCall (fun _ _ h => ⟨h, rfl⟩) fun _ _ _ h => h ▸ .same
    refine .bind (Q := fun _ => Begun) ?_ fun _ => ?_
    · exact ((triple_openSegment_at v).and (keeps_openSegment hopened)).conseq (fun _ h => h)
        (fun _ _ h => ⟨h.1.1, h.1.2, h.2⟩) fun _ _ h => h.1
    refine .bind (hafter (keeps_sync hbegun.toInner fun _ h => h)) fun _ => ?_
    refine .bind (hafter (keeps_syncParent hbegun.toInner)) fun _ => ?_
    refine .bind (Q := fun _ => Begun) ?_ fun now => hafter (keeps_event hbegun dump _)
    exact triple_realtimeNowNs fun _ _ _ _ h => h
  · exact .throw fun _ h => h ▸ .same

/-- `Open` that throws ends the recording. -/
theorem triple_openDevice_at (v : View) (device : Json) :
    Triple (fun r => (r.opened || r.closed) = false ∧ r.view = v) (openDevice dump device)
      (fun _ r => v.segment ≠ 2 ^ 64 - 1 ∧ (∃ created < 2 ^ 64, r.view = v.opened created) ∧
        r.opened = true)
      (fun _ r => (v.Untouched r.view ∧ r.failed = true) ∧ r.closed = true) := by
  refine .get_bind fun r₀ hr₀ => .ite (fun hused => ?_) fun _ => ?_
  · exact absurd (hr₀.1.symm.trans hused) Bool.false_ne_true
  refine .tryCatch (E := fun _ r => v.Untouched r.view) ?_ fun e => ?_
  · exact (triple_openFiles_at v device).conseq (fun r hr => hr ▸ hr₀.2) (fun _ _ h => h)
      fun _ _ h => h
  have hclose : Triple (fun r => v.Untouched r.view ∧ r.failed = true)
      (close dump false "recorder initialization failed")
      (fun _ r => (v.Untouched r.view ∧ r.failed = true) ∧ r.closed = true)
      (fun _ r => (v.Untouched r.view ∧ r.failed = true) ∧ r.closed = true) := by
    refine ((Triple.and (Effect.Keeps.of_state fun r hr => ?_) (keeps_close_failed _ _)).and
      (triple_close_closed _ _)).conseq (fun _ h => ⟨h, trivial⟩) (fun _ _ h => h) fun _ _ h => h
    exact (keeps_close_at r.view _ _).state rfl ▸ hr
  refine .bind (Q := fun _ r => v.Untouched r.view ∧ r.failed = true)
    (.modify fun _ h => ⟨h, rfl⟩) fun _ => ?_
  refine .bind (Q := fun _ r => (v.Untouched r.view ∧ r.failed = true) ∧ r.closed = true) ?_
    fun _ => .throw fun _ h => h
  exact .tryCatch hclose fun _ => .pure fun _ h => h

/-- A predicate on the view and the flags that an event does not touch. -/
theorem keeps_event_stored (e : Json) : Keeps Stored (event dump e) := by
  refine keeps_event (P := Stored) ?_ dump e
  exact
    { answers := fun _ _ h => ⟨h.files, h.fresh, h.live⟩
      clock := fun _ _ h => ⟨h.files, h.fresh, h.live⟩
      failed := fun r h =>
        ⟨h.files.imp fun _ hfiles => ⟨hfiles.1, nofun⟩, h.fresh, fun hrefuses =>
          nomatch (Bool.or_true _).symm.trans hrefuses⟩
      events := fun _ _ h => ⟨h.files, h.fresh, h.live⟩ }

theorem keeps_close_stored (complete : Bool) (reason : String) :
    Keeps Stored (close dump complete reason) := by
  refine .of_state fun r hr => ?_
  have hview : ((close dump complete reason).outcome r).2.view = r.view :=
    (keeps_close_at r.view complete reason).state rfl
  have hclosed : ((close dump complete reason).outcome r).2.closed = true :=
    (triple_close_closed complete reason).state trivial
  have hlatched (hfailed : r.failed = true) :
      ((close dump complete reason).outcome r).2.failed = true :=
    (keeps_close_failed complete reason).state hfailed
  generalize ((close dump complete reason).outcome r).2 = r' at hview hclosed hlatched
  refine ⟨?_, fun _ hopen => (nomatch hclosed.symm.trans hopen), fun hrefuses => ?_⟩
  · rw [hview]
    refine hr.files.imp fun _ hfiles => ⟨hfiles.1, fun hfailed => hfiles.2 ?_⟩
    refine Bool.eq_false_iff.mpr fun h => ?_
    exact nomatch (hlatched h).symm.trans hfailed
  · unfold refuses at hrefuses
    rw [hclosed] at hrefuses
    simp at hrefuses

theorem stored_of_failed {r : RawRecorder} (hfiles : ∃ segments, r.view.Left segments)
    (hfailed : r.failed = true) (hused : r.opened = true ∨ r.closed = true) : Stored r where
  files := hfiles.imp fun _ hleft => ⟨hleft, fun hok => nomatch hfailed.symm.trans hok⟩
  fresh hopened hclosed := by
    obtain h | h := hused
    · exact nomatch h.symm.trans hopened
    · exact nomatch h.symm.trans hclosed
  live hrefuses := by
    unfold refuses at hrefuses
    rw [hfailed, Bool.or_true] at hrefuses
    exact nomatch hrefuses

theorem keeps_append_stored (buffer : RawBuffer) : Keeps Stored (append dump buffer) := by
  refine .of_state fun r hr => ?_
  cases hrefuses : r.refuses with
  | true =>
    rw [append_of_refused hrefuses]
    exact hr
  | false =>
    have hne := hr.live hrefuses
    have hflags := hrefuses
    unfold refuses at hflags
    rw [Bool.or_eq_false_iff, Bool.or_eq_false_iff, Bool.not_eq_false'] at hflags
    obtain ⟨⟨hopened, -⟩, hfailed⟩ := hflags
    obtain ⟨segments, -, hintact⟩ := hr.files
    have hintact := hintact hfailed
    have hkeeps : BesideRecords fun r => r.opened = true :=
      { answers := fun _ _ h => h
        clock := fun _ _ h => h
        failed := fun _ h => h
        data := fun _ _ h => h
        synced := fun _ _ h => h
        counters := fun _ _ _ _ h => h }
    have hevent (r : RawRecorder) : Keeps (fun r => r.opened = true) (event dump r.segmentClosed) :=
      keeps_event { hkeeps.toInner with events := fun _ _ h => h } dump _
    have hboth := (triple_append_at (hintact.whole hne) buffer).and
      (keeps_append hkeeps hevent buffer)
    refine (hboth.conseq (fun _ h => h) ?_ ?_).state ⟨⟨hrefuses, rfl⟩, hopened⟩
    · rintro _ s ⟨⟨flushed, hwritten⟩, hopened⟩
      obtain ⟨segments', hintact', -, hne'⟩ := hintact.written hne hwritten
      exact ⟨⟨segments', hintact'.left, fun _ => hintact'⟩,
        fun hfresh => (nomatch hopened.symm.trans hfresh), fun _ => hne'⟩
    · rintro e s ⟨⟨hfailed, hleft⟩, hopened⟩
      refine stored_of_failed ?_ hfailed (.inl hopened)
      obtain huntouched | hwritten | ⟨-, htorn⟩ := hleft
      · exact ⟨segments, hintact.untouched huntouched⟩
      · obtain ⟨segments', hintact', -, -⟩ := hintact.written hne hwritten
        exact ⟨segments', hintact'.left⟩
      · exact hintact.tornRecord hne htorn

theorem keeps_openDevice_stored (device : Json) : Keeps Stored (openDevice dump device) := by
  refine .of_state fun r hr => ?_
  cases hused : r.opened || r.closed with
  | true =>
    rw [openDevice_of_used hused]
    exact hr
  | false =>
    obtain ⟨hopened, hclosed⟩ := Bool.or_eq_false_iff.mp hused
    have hintact := hr.fresh hopened hclosed
    refine ((triple_openDevice_at r.view device).conseq (fun _ h => h) ?_ ?_).state ⟨hused, rfl⟩
    · rintro _ s ⟨hsegment, ⟨created, hcreated, hs⟩, hopened⟩
      have hnew := hs ▸ hintact.opened hsegment hcreated
      refine ⟨⟨_, hnew.left, fun _ => hnew⟩, fun hfresh => (nomatch hopened.symm.trans hfresh), ?_⟩
      intro _
      rw [hs]
      exact List.cons_ne_nil _ _
    · rintro e s ⟨⟨huntouched, hfailed⟩, hclosed⟩
      exact stored_of_failed ⟨[], hintact.untouched huntouched⟩ hfailed (.inr hclosed)

/-- **One call.** -/
theorem stored_step {r : RawRecorder} (h : Stored r) (c : RecorderCall) :
    Stored (step dump r c) := by
  have hrun : Keeps Stored (run dump c.method) := by
    cases c.method with
    | openDevice device => exact keeps_openDevice_stored device
    | append buffer => exact keeps_append_stored buffer
    | event e => exact keeps_event_stored e
    | close complete reason => exact keeps_close_stored complete reason
  exact hrun.state ⟨h.files, h.fresh, h.live⟩

theorem stored_new {options : RecorderOptions} (haccepts : Accepts options) (sse42 : Bool) :
    Stored { options, sse42 } := by
  have hintact : View.Intact (view { options, sse42 }) [] :=
    { accepts := haccepts
      laid := .nil
      counts := nofun
      segment := rfl
      segment_lt := Nat.two_pow_pos 64
      records := rfl }
  exact ⟨⟨[], hintact.left, fun _ => hintact⟩, fun _ _ => hintact, nofun⟩

/-- **Every recorder.**  Whatever is called and whatever fails. -/
theorem stored_of_reachable {r : RawRecorder} (h : (system dump).Reachable r) : Stored r := by
  refine h.invariant ?_ ?_
  · rintro _ ⟨options, sse42, haccepts, rfl⟩
    exact stored_new haccepts sse42
  · rintro s c _ hs ⟨⟩
    exact stored_step hs c

end RawRecorder
end Ebus
end AmigaDrivers
