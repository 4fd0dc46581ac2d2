import AmigaDrivers.Ebus.RawRecorderEvents

/-!
# The end of a recording is honest

* `DataOk`: unless a failure is latched, every segment file but the open one is synced and closed.
* `triple_closeSegment`, `triple_openSegment`, `triple_close`: what the methods know of the files.
* `HonestEnd`: what has happened before an end that claims completion.
* `honest_session_end`: over every sequence of calls, whatever the operating system answers.
-/

namespace AmigaDrivers
namespace Ebus
namespace RawRecorder

open Effect

variable {dump : Dump} {r r₀ : RawRecorder}

/-- The event says that the recording has ended and is complete. -/
def Claims (e : Json) : Prop :=
  e.get? "event" = some (.str "session_end") ∧ e.get? "complete" = some (.bool true)

/-- The files are synced and closed. -/
def Settled (files : List Segment) : Prop :=
  ∀ f ∈ files, f.synced = f.bytes.length ∧ f.closed = true

/-! ## The segment files -/

/-- The segment files that are not open any more. -/
def finished (data : SegmentFiles) : List Segment := if data.fd then data.files.tail else data.files

/-- A segment file is open, and the ones before it are settled unless a failure is latched. -/
structure Recording (r : RawRecorder) : Prop where
  fd : r.data.fd = true
  settled : r.failed = true ∨ Settled r.data.files.tail

/-- No segment file is open, and all are settled unless a failure is latched. -/
structure Idle (r : RawRecorder) : Prop where
  fd : r.data.fd = false
  settled : r.failed = true ∨ Settled r.data.files

/-- What holds of the segment files between calls. -/
structure DataOk (r : RawRecorder) : Prop where
  settled : r.failed = true ∨ Settled (finished r.data)
  unopened : r.opened = false → r.closed = false → r.data.fd = false
  running : r.opened = true → r.closed = false → r.failed = false → r.data.fd = true
  directory : r.opened = true → r.closed = false → r.directory.fd = true

theorem tail_modifyHead {α : Type} (f : α → α) (l : List α) : (l.modifyHead f).tail = l.tail := by
  cases l <;> rfl

/-- The open file may change. -/
theorem Recording.modifyHead (h : Recording r) (f : Segment → Segment) :
    Recording { r with data.files := r.data.files.modifyHead f } :=
  ⟨h.fd, h.settled.imp_right fun hsettled => (tail_modifyHead f r.data.files) ▸ hsettled⟩

theorem besideEvents_idle : BesideEvents Idle where
  answers _ _ h := ⟨h.fd, h.settled⟩
  clock _ _ h := ⟨h.fd, h.settled⟩
  failed _ h := ⟨h.fd, .inl rfl⟩
  events _ _ h := ⟨h.fd, h.settled⟩

/-- The open file is synced. -/
structure Synced (r : RawRecorder) : Prop extends Recording r where
  head : r.failed = true ∨ ∀ f ∈ r.data.files.head?, f.synced = f.bytes.length

/-- A recorder that is not recording refuses. -/
theorem append_of_refused (h : (!r.opened || r.closed || r.failed) = true) (buffer : RawBuffer) :
    (append dump buffer).outcome r = (.error "raw recorder is closed or failed", r) := by
  unfold append
  rw [outcome_bind]
  show (if !r.opened || r.closed || r.failed then throw "raw recorder is closed or failed"
    else _ : Io Unit).outcome r = _
  rw [if_pos h]
  rfl

/-- The directory of a recorder that has been opened is open until the end. -/
def Opened (r : RawRecorder) : Prop :=
  r.opened = true ∧ (r.closed = false → r.directory.fd = true)

/-- Either a segment is open or none is. -/
theorem DataOk.cases (h : DataOk r) : Recording r ∨ Idle r := by
  have hsettled := h.settled
  unfold finished at hsettled
  cases hfd : r.data.fd with
  | true =>
    rw [hfd, if_pos rfl] at hsettled
    exact .inl ⟨hfd, hsettled⟩
  | false =>
    rw [hfd, if_neg Bool.false_ne_true] at hsettled
    exact .inr ⟨hfd, hsettled⟩

theorem triple_close_closed (complete : Bool) (reason : String) :
    Triple (fun _ => True) (close dump complete reason) (fun _ r => r.closed = true)
      (fun _ r => r.closed = true) := by
  have hclosed : BesideFiles fun r => r.closed = true :=
    { answers := fun _ _ h => h
      clock := fun _ _ h => h
      failed := fun _ h => h
      data := fun _ _ h => h
      synced := fun _ _ h => h }
  have hinner := hclosed.toInner
  have hevents : BesideEvents fun r => r.closed = true :=
    { hinner with events := fun _ _ h => h }
  refine triple_close (fun r => r.closed = true) (fun r => r.closed = true)
    (fun r => r.closed = true) (fun r => r.closed = true) (fun _ _ h => h)
    (fun _ _ _ => rfl) (triple_latched hinner ?_) (fun _ h _ => h)
    (triple_latched hinner (keeps_syncDirectory hclosed))
    (triple_latched hinner (keeps_closeDirectory hinner fun _ _ h => h)) (fun _ h => h)
    (triple_latched hinner ?_) (triple_latched hinner (keeps_closeEvents hevents.toBesideRows))
  · exact keeps_closeSegment hclosed.toBesideData fun r => keeps_event hevents dump _
  · exact .bind .get fun r => .bind (keeps_realtimeNowNs hinner) fun now =>
      keeps_event hevents dump _

/-- A recorder is opened once. -/
theorem openDevice_of_used (h : (r.opened || r.closed) = true) (device : Json) :
    (openDevice dump device).outcome r = (.error "raw recorder is single-use", r) := by
  unfold openDevice
  rw [outcome_bind]
  show (if r.opened || r.closed then throw "raw recorder is single-use" else _ : Io Unit).outcome r
    = _
  rw [if_pos h]
  rfl

/-- The events attempted after `old` are of this kind. -/
def Since (old : List Attempt) (p : Attempt → Prop) (r : RawRecorder) : Prop :=
  ∃ new, r.events.attempts = new ++ old ∧ ∀ a ∈ new, p a

/-- What has happened before an end that claims completion. -/
structure HonestEnd (complete : Bool) (before : RawRecorder) (a : Attempt) : Prop where
  asked : complete = true
  unfailed : before.failed = false ∧ a.failed = false
  files : Settled a.files
  directory : a.directory.synced = a.files.length ∧ a.directory.closed = true

variable {old : List Attempt} {p : Attempt → Prop} {complete : Bool} {reason : String}

theorem Since.cons (h : Since old p r) {a : Attempt} (ha : p a) :
    Since old p { r with events.attempts := a :: r.events.attempts } := by
  obtain ⟨new, hnew, hp⟩ := h
  refine ⟨a :: new, congrArg (a :: ·) hnew, fun b hb => ?_⟩
  obtain rfl | hb := List.mem_cons.mp hb
  · exact ha
  · exact hp b hb

/-- A recording is ending, and a failure from before is still latched. -/
structure Ending (old : List Attempt) (complete : Bool) (before r : RawRecorder) : Prop where
  since : Since old (fun a => Claims a.event → HonestEnd complete before a) r
  latch : before.failed = true → r.failed = true

theorem besideMembers_ending : BesideMembers (Ending old complete r₀) where
  answers _ _ h := ⟨h.since, h.latch⟩
  clock _ _ h := ⟨h.since, h.latch⟩
  failed _ h := ⟨h.since, fun _ => rfl⟩
  data _ _ h := ⟨h.since, h.latch⟩
  synced _ _ h := ⟨h.since, h.latch⟩
  directory _ _ h := ⟨h.since, h.latch⟩
  counters _ _ _ _ h := ⟨h.since, h.latch⟩
  closed _ h := ⟨h.since, h.latch⟩
  recordingFormat _ _ h := ⟨h.since, h.latch⟩
  deviceJson _ _ h := ⟨h.since, h.latch⟩

/-- The segments are settled, and the directory is still open. -/
structure SegmentsDone (old : List Attempt) (complete : Bool) (before r : RawRecorder) : Prop
    extends Ending old complete before r, Idle r where
  directory : r.directory.fd = true

/-- The directory is settled as well, unless a failure is latched. -/
structure DirectoryDone (old : List Attempt) (complete : Bool) (before r : RawRecorder) : Prop
    extends Ending old complete before r, Idle r where
  directory : r.failed = true ∨
    (r.directory.synced = r.data.files.length ∧ r.directory.closed = true)

theorem SegmentsDone.failed (h : SegmentsDone old complete r₀ r) :
    SegmentsDone old complete r₀ { r with failed := true } :=
  ⟨besideMembers_ending.failed r h.toEnding, besideEvents_idle.failed r h.toIdle, h.directory⟩

theorem DirectoryDone.failed (h : Ending old complete r₀ r) (hidle : Idle r) :
    DirectoryDone old complete r₀ { r with failed := true } :=
  ⟨besideMembers_ending.failed r h, besideEvents_idle.failed r hidle, .inl rfl⟩

/-- The call set about writing the event. -/
def WrittenBy (t : Taken RawRecorder RecorderCall) (a : Attempt) : Prop :=
  ∃ new, t.after.events.attempts = new ++ t.before.events.attempts ∧ a ∈ new

/-- A recording that ended honestly, at this call and after these. -/
structure HonestCall (t : Taken RawRecorder RecorderCall)
    (earlier : List (Taken RawRecorder RecorderCall)) (a : Attempt) : Prop where
  requested : ∃ reason, t.action.method = .close true reason
  unfailed : a.failed = false ∧ ∀ u ∈ earlier, u.after.failed = false
  files : Settled a.files
  directory : a.directory.synced = a.files.length ∧ a.directory.closed = true

/-- What is known of a recorder and of its calls. -/
structure Honest (dump : Dump) (s : RawRecorder × List (Taken RawRecorder RecorderCall)) :
    Prop where
  latch : ∀ u ∈ s.2, u.after.failed = true → s.1.failed = true
  attempts : ∀ a ∈ s.1.events.attempts, Claims a.event → ∃ newer t older,
    s.2 = newer ++ t :: older ∧ WrittenBy t a ∧
      (t.action.method = .event a.event ∨ HonestCall t older a)

end RawRecorder
end Ebus
end AmigaDrivers
