import AmigaDrivers.Ebus.RawFormat
import AmigaDrivers.Foundation.Effect
import AmigaDrivers.Foundation.History
import AmigaDrivers.Foundation.Json

/-!
# The recorder of a camera

`ebus_driver::RawRecorder` writes segment files, a stream of events beside them, and a directory
that holds both.  A method is a computation that may throw, over the members and the files; what
the operating system answers to each call, and what the clock reads, is given beforehand, so a
statement about every recorder is one about every failure.

* `writeAll`, `sync`, `closeFd`: the loops around the system calls.
* `openSegment`, `append`, `event`, `closeSegment`, `close`: the methods.
* `RecorderCall`, `system`: the methods in any order.
-/

namespace AmigaDrivers
namespace Ebus

/-! ## Files -/

/-- A segment file.  `synced` counts the bytes that were there when it was last synced, and
`closed` says that its descriptor was closed without an error. -/
structure Segment where
  bytes : List UInt8 := []
  synced : Nat := 0
  closed : Bool := false
  deriving DecidableEq

/-- `data_fd_` with its bookkeeping, and the files behind it, the latest first. -/
structure SegmentFiles where
  fd : Bool := false
  segment : Nat := 0
  offset : Nat := 0
  synced : Nat := 0
  segmentRecords : Nat := 0
  files : List Segment := []
  deriving DecidableEq

/-- `directory_fd_`.  `synced` counts the segment files that were there when the directory was
last synced, and `closed` says that the descriptor was closed without an error. -/
structure Directory where
  fd : Bool := false
  synced : Nat := 0
  closed : Bool := false
  deriving DecidableEq

/-- An event whose line the recorder sets about writing, and what it has done by then. -/
structure Attempt where
  event : Json
  failed : Bool
  files : List Segment
  directory : Directory

/-- `events_fd_`, and the file behind it.  `unrepaired` says that a rollback has failed. -/
structure EventFile where
  fd : Bool := false
  bytes : List UInt8 := []
  pos : Nat := 0
  unrepaired : Bool := false
  attempts : List Attempt := []

/-- `RecorderOptions`.  `parent` is the directory's parent path. -/
structure RecorderOptions where
  directory : String
  parent : String := ""
  segmentBytes : Nat := 2048 * 1024 * 1024
  segmentRecords : Nat := 0
  flushBytes : Nat := 64 * 1024 * 1024

/-- `RawBuffer`. -/
structure RawBuffer where
  metadata : Json
  payload : List UInt8

/-- What the operating system answers to a call.  `short n` is a write of `n` bytes. -/
inductive Answer
  | done
  | short (n : Nat)
  | interrupted
  | failed (strerror : String)

/-- `RawRecorder`, its files, and what its surroundings will say. -/
structure RawRecorder where
  options : RecorderOptions
  sse42 : Bool := true
  recordingFormat : String := ""
  deviceJson : Option (List UInt8) := none
  data : SegmentFiles := {}
  directory : Directory := {}
  events : EventFile := {}
  records : Nat := 0
  frames : Nat := 0
  bytes : Nat := 0
  failed : Bool := false
  opened : Bool := false
  closed : Bool := false
  answers : List Answer := []
  clock : List UInt64 := []

/-- The error of a call that is made once. -/
def Answer.error? : Answer → Option String
  | .done | .short _ => none
  | .interrupted => some "Interrupted system call"
  | .failed strerror => some strerror

/-- `dump`, with its indentation. -/
abbrev Dump : Type := Int → Json → Except String (List UInt8)

namespace RawRecorder

open Effect (lift)

/-- A method. -/
abbrev Io : Type → Type := Effect RawRecorder String

/-! ## System calls -/

/-- The answer to the next call. -/
def answer : Io Answer := do
  let r ← get
  match r.answers with
  | [] => pure .done
  | a :: answers =>
    set { r with answers }
    pure a

/-- A call that is made once, and what it does when it succeeds. -/
def systemCall (action : String) (effect : RawRecorder → RawRecorder) : Io Unit := do
  let a ← answer
  match a.error? with
  | some strerror => throw (action ++ ": " ++ strerror)
  | none => modify effect

/-- The loop of `WriteAll`: how many bytes it writes, how it ends, and the answers left. -/
def writeLoop : List Answer → List UInt8 → Nat × Except String Unit × List Answer
  | answers, [] => (0, .ok (), answers)
  | [], bytes => (bytes.length, .ok (), [])
  | .done :: answers, bytes => (bytes.length, .ok (), answers)
  | .interrupted :: answers, bytes => writeLoop answers bytes
  | .failed strerror :: answers, _ => (0, .error ("raw write: " ++ strerror), answers)
  | .short 0 :: answers, _ => (0, .error "raw write made no progress", answers)
  | .short (n + 1) :: answers, bytes =>
    let (written, result) := writeLoop answers (bytes.drop (n + 1))
    (min (n + 1) bytes.length + written, result)

/-- `WriteAll`: `put` is what the bytes written do to the file. -/
def writeAll (put : List UInt8 → RawRecorder → RawRecorder) (bytes : List UInt8) : Io Unit := do
  let r ← get
  let (written, result, answers) := writeLoop r.answers bytes
  set (put (bytes.take written) { r with answers })
  lift result

/-- The loop of `Sync`: how it ends, and the answers left. -/
def syncLoop (action : String) : List Answer → Except String Unit × List Answer
  | [] => (.ok (), [])
  | .done :: answers | .short _ :: answers => (.ok (), answers)
  | .interrupted :: answers => syncLoop action answers
  | .failed strerror :: answers => (.error (action ++ ": " ++ strerror), answers)

/-- `Sync`: `mark` is what a sync that succeeds says of the file. -/
def sync (action : String) (mark : RawRecorder → RawRecorder) : Io Unit := do
  let r ← get
  let (result, answers) := syncLoop action r.answers
  set { r with answers }
  lift result
  modify mark

/-- `CloseFd` on a descriptor that is open: `release` gives it up, which no error prevents. -/
def closeFd (release mark : RawRecorder → RawRecorder) : Io Unit := do
  modify release
  systemCall "raw close" mark

/-- `RealtimeNowNs`. -/
def realtimeNowNs : Io Nat := do
  let r ← get
  match r.clock with
  | [] => pure 0
  | t :: clock =>
    set { r with clock }
    pure t.toNat

/-- `Fail`. -/
def fail : Io Unit := modify fun r => { r with failed := true }

/-! ## The descriptors -/

/-- Bytes behind the last ones of the segment file. -/
def putData (bytes : List UInt8) (r : RawRecorder) : RawRecorder :=
  { r with data.files := r.data.files.modifyHead fun f => { f with bytes := f.bytes ++ bytes } }

/-- The segment file is cut off at `offset_`. -/
def truncateData (r : RawRecorder) : RawRecorder :=
  { r with
    data.files := r.data.files.modifyHead fun f => { f with bytes := f.bytes.take r.data.offset } }

/-- `Sync(data_fd_)`. -/
def syncData : Io Unit :=
  sync "raw data sync" fun r =>
    { r with data.files := r.data.files.modifyHead fun f => { f with synced := f.bytes.length } }

/-- `CloseFd(data_fd_)`. -/
def closeData : Io Unit :=
  closeFd (fun r => { r with data.fd := false }) fun r =>
    { r with data.files := r.data.files.modifyHead fun f => { f with closed := true } }

/-- `Sync(directory_fd_, true)`. -/
def syncDirectory : Io Unit :=
  sync "raw directory sync" fun r => { r with directory.synced := r.data.files.length }

/-- `CloseFd(directory_fd_)`. -/
def closeDirectory : Io Unit := do
  let r ← get
  if !r.directory.fd then pure ()
  else
    closeFd (fun r => { r with directory.fd := false }) fun r => { r with directory.closed := true }

/-- Bytes at the position of the event file; a gap before them is zeros. -/
def putEvents (bytes : List UInt8) (r : RawRecorder) : RawRecorder :=
  let file := r.events.bytes ++ List.replicate (r.events.pos - r.events.bytes.length) 0
  { r with
    events.bytes := file.take r.events.pos ++ bytes ++ file.drop (r.events.pos + bytes.length)
    events.pos := r.events.pos + bytes.length }

/-- `Sync(events_fd_)`. -/
def syncEvents : Io Unit := sync "raw data sync" id

/-- `CloseFd(events_fd_)`. -/
def closeEvents : Io Unit := do
  let r ← get
  if !r.events.fd then pure ()
  else closeFd (fun r => { r with events.fd := false }) id

/-! ## Events -/

/-- The rollback of an event that was not written. -/
def rollback (before : Nat) : Io Unit := do
  systemCall "raw partial-row rollback" fun r =>
    { r with events.bytes := r.events.bytes.take before }
  systemCall "raw partial-row rollback" fun r => { r with events.pos := before }
  syncEvents

/-- What `Event` does about an event whose line was not written. -/
def rescueEvent (before : Nat) (error : String) : Io Unit := do
  fail
  tryCatch (rollback before) fun _ => do
    -- an unrepairable suffix must never receive more events
    modify fun r => { r with events.unrepaired := true }
    tryCatch closeEvents fun _ => pure ()
    throw "raw event write and partial-row rollback failed"
  throw error

/-- `Event`, with the stream open. -/
def writeEvent (dump : Dump) (e : Json) : Io Unit := do
  let text ← lift (dump (-1) e)
  systemCall "raw event offset" id
  let r ← get
  modify fun r =>
    { r with
      events.attempts := ⟨e, r.failed, r.data.files, r.directory⟩ :: r.events.attempts }
  tryCatch (do
      writeAll putEvents (text ++ [10])
      syncEvents)
    (rescueEvent r.events.pos)

/-- `Event`. -/
def event (dump : Dump) (e : Json) : Io Unit := do
  let r ← get
  if !r.events.fd then throw "raw event stream is not open"
  else
    tryCatch (writeEvent dump e) fun error => do
      fail
      throw error

/-! ## Segments -/

/-- `SegmentName`: the number in five digits or more. -/
def segmentName (number : Nat) : String :=
  let digits := toString number
  "seg_" ++ String.ofList (List.replicate (5 - digits.length) '0') ++ digits ++ ".raw"

/-- `OpenSegment`. -/
def openSegment : Io Unit := do
  let r ← get
  if r.data.segment = 2 ^ 64 - 1 then throw "raw segment index exhausted"
  else
    systemCall "create raw segment" fun r =>
      { r with data := { fd := true, segment := r.data.segment + 1, files := {} :: r.data.files } }
    let created ← realtimeNowNs
    let r ← get
    let header := makeFileHeader r.sse42 created r.data.segment
    writeAll putData header
    modify fun r => { r with data.offset := header.length }
    syncData
    modify fun r => { r with data.synced := r.data.offset }
    syncDirectory

/-- `attempt` of `Close`, and the same of `CloseSegment`: an exception is kept for later. -/
def attempt (action : Io Unit) : Io (Option String) :=
  tryCatch (do
      action
      pure none)
    fun error => do
      fail
      pure (some error)

/-- `attempt` under a condition of `Close`. -/
def attemptIf (condition : Bool) (action : Io Unit) : Io (Option String) :=
  if condition then attempt action else pure none

/-- The first exception that was kept is thrown after all. -/
def rethrow (errors : List (Option String)) : Io Unit :=
  match errors.findSome? id with
  | some error => throw error
  | none => pure ()

/-- The event of a segment that is closed. -/
def segmentClosed (r : RawRecorder) : Json :=
  .object [("event", .str "segment_closed"), ("file", .str (segmentName r.data.segment)),
    ("bytes", .int r.data.offset), ("records", .int r.data.segmentRecords),
    ("closed_clean", .bool !r.failed)]

/-- `CloseSegment`. -/
def closeSegment (dump : Dump) : Io Unit := do
  let r ← get
  if !r.data.fd then pure ()
  else
    let syncError ← attempt syncData
    let closeError ← attempt closeData
    rethrow [syncError, closeError]
    let r ← get
    event dump r.segmentClosed

/-! ## Records -/

/-- The largest file offset. -/
def maxOffset : Nat := 2 ^ 63 - 1

/-- `value("valid_frame", false)`. -/
def validFrame (metadata : Json) : Except String Bool :=
  match metadata.get? "valid_frame" with
  | none => .ok false
  | some (.bool b) => .ok b
  | some _ => .error "type must be boolean"

/-- The next record does not go into this segment. -/
def mustRotate (r : RawRecorder) (size : Nat) : Bool :=
  let segmentLimit := min r.options.segmentBytes maxOffset
  r.data.segmentRecords ≠ 0 &&
    ((r.options.segmentRecords ≠ 0 && r.data.segmentRecords ≥ r.options.segmentRecords) ||
      r.data.offset ≥ segmentLimit || size > segmentLimit - r.data.offset)

/-- `Append` moves on to another segment where it must. -/
def rotate (dump : Dump) (size : Nat) : Io Unit := do
  let r ← get
  if r.mustRotate size then
    closeSegment dump
    openSegment
  else pure ()

/-- The three writes of a record, undone together. -/
def writeRecord (header metadata payload : List UInt8) : Io Unit :=
  tryCatch (do
      writeAll putData header
      writeAll putData metadata
      writeAll putData payload)
    fun error => do
      let a ← answer
      match a.error? with
      | some _ =>
        fail
        throw "raw append failed and partial-record rollback also failed"
      | none =>
        modify truncateData
        throw error

/-- `Append` counts a record that is written. -/
def countRecord (size : Nat) (valid : Bool) (payload : List UInt8) (r : RawRecorder) :
    RawRecorder :=
  { r with
    data.offset := r.data.offset + size
    data.segmentRecords := r.data.segmentRecords + 1
    records := (r.records + 1) % 2 ^ 64
    frames := if valid then (r.frames + 1) % 2 ^ 64 else r.frames
    bytes := (r.bytes + payload.length) % 2 ^ 64 }

/-- `Append` in a segment that has room. -/
def appendHere (metadata payload : List UInt8) (valid : Bool) : Io Unit := do
  let r ← get
  let header := makeRecordHeader r.sse42 metadata.length payload.length r.records
    (crc32c r.sse42 metadata).toNat (crc32c r.sse42 payload).toNat
  writeRecord header metadata payload
  modify (countRecord (kRecordHeaderSize + metadata.length + payload.length) valid payload)
  let r ← get
  if r.options.flushBytes ≠ 0 ∧ r.data.offset - r.data.synced ≥ r.options.flushBytes then
    syncData
    modify fun r => { r with data.synced := r.data.offset }
  else pure ()

/-- `Append`, up to what its handler sees. -/
def appendRecord (dump : Dump) (buffer : RawBuffer) : Io Unit := do
  if !buffer.metadata.isObject then throw "raw buffer metadata must be an object"
  else
    let metadata ← lift (dump (-1) buffer.metadata)
    if metadata.length > kMaxMetadataSize then throw "raw metadata exceeds 1 MiB"
    else
      let valid ← lift (validFrame buffer.metadata)
      let overhead := kRecordHeaderSize + metadata.length
      if buffer.payload.length > maxOffset - kFileHeaderSize - overhead then
        throw "raw record exceeds file offset range"
      else
        rotate dump (overhead + buffer.payload.length)
        appendHere metadata buffer.payload valid

/-- `Append`. -/
def append (dump : Dump) (buffer : RawBuffer) : Io Unit := do
  let r ← get
  if !r.opened || r.closed || r.failed then throw "raw recorder is closed or failed"
  else
    tryCatch (appendRecord dump buffer) fun error => do
      fail
      throw error

/-! ## The end -/

/-- `Summary`. -/
def summary (r : RawRecorder) : Json :=
  .object [("format", .str r.recordingFormat), ("directory", .str r.options.directory),
    ("records_written", .int r.records), ("frames_written", .int r.frames),
    ("valid_frames_written", .int r.frames), ("payload_bytes_written", .int r.bytes),
    ("segments_created", .int r.data.segment), ("failed", .bool r.failed),
    ("count_semantics", .str ("records include flagged SDK buffers; frames count valid_frame " ++
      "records only; written is not a per-record durability claim"))]

/-- The event of a recording that ends. -/
def sessionEnd (r : RawRecorder) (complete : Bool) (reason : String) (now : Nat) : Json :=
  (((r.summary.set "event" (.str "session_end")).set "complete"
    (.bool (complete && !r.failed))).set "reason" (.str reason)).set "host_realtime_ns" (.int now)

/-- `Close` writes the end of the recording. -/
def endSession (dump : Dump) (complete : Bool) (reason : String) : Io Unit := do
  let r ← get
  let now ← realtimeNowNs
  event dump (r.sessionEnd complete reason now)

/-- `Close`. -/
def close (dump : Dump) (complete : Bool) (reason : String) : Io Unit := do
  let r ← get
  if r.closed then pure ()
  else
    modify fun r => { r with closed := true }
    let e₁ ← attempt (closeSegment dump)
    let r ← get
    -- whatever can still fail comes before the completion marker
    let e₂ ← attemptIf r.directory.fd syncDirectory
    let e₃ ← attempt closeDirectory
    let r ← get
    let e₄ ← attemptIf r.events.fd (endSession dump complete reason)
    let e₅ ← attempt closeEvents
    rethrow [e₁, e₂, e₃, e₄, e₅]

/-! ## The beginning -/

/-- A descriptor that only `Open` uses is closed when an exception passes. -/
def closingOnError {α : Type} (action : Io α) : Io α :=
  tryCatch action fun error => do
    let _ ← answer
    throw error

/-- `Open` publishes the metadata of the device. -/
def publishDevice (dump : Dump) (device : Json) : Io Unit := do
  systemCall "create device metadata" id
  -- the temporary file; nothing but this reads it
  let text ← closingOnError do
    let text ← lift (dump 2 device)
    writeAll (fun _ r => r) (text ++ [10])
    sync "raw data sync" id
    pure (text ++ [10])
  closeFd id id
  systemCall "publish device metadata" fun r => { r with deviceJson := some text }
  systemCall "remove metadata temporary name" id

/-- `Open` syncs the directory above. -/
def syncParent : Io Unit := do
  systemCall "open raw parent directory" id
  closingOnError (sync "raw directory sync" id)
  closeFd id id

/-- `Open` creates the directories above. -/
def createParent : Io Unit := do
  let r ← get
  if r.options.parent ≠ "" then systemCall "create_directories" id else pure ()

/-- `Open` creates the directory, and never takes one that is there. -/
def createDirectory : Io Unit := do
  let r ← get
  let a ← answer
  match a.error? with
  | some _ => throw ("refusing to reuse raw camera directory: " ++ r.options.directory)
  | none => pure ()

/-- The first event of a recording. -/
def sessionStart (format : String) (now : Nat) : Json :=
  .object [("event", .str "session_start"), ("format", .str format), ("host_realtime_ns", .int now)]

/-- `Open`, up to what its handler sees. -/
def openFiles (dump : Dump) (device : Json) : Io Unit := do
  match device.get? "recording_format" with
  | some (.str format) =>
    modify fun r => { r with recordingFormat := format }
    if format = "" then throw "raw device metadata recording_format must not be empty"
    else
      createParent
      createDirectory
      systemCall "open raw camera directory" fun r => { r with directory.fd := true }
      publishDevice dump device
      systemCall "create raw events" fun r => { r with events.fd := true, opened := true }
      openSegment
      syncDirectory
      syncParent
      let now ← realtimeNowNs
      event dump (sessionStart format now)
  | _ => throw "raw device metadata requires a recording_format string"

/-- `Open`. -/
def openDevice (dump : Dump) (device : Json) : Io Unit := do
  let r ← get
  if r.opened || r.closed then throw "raw recorder is single-use"
  else
    tryCatch (openFiles dump device) fun error => do
      fail
      tryCatch (close dump false "recorder initialization failed") fun _ => pure ()
      throw error

end RawRecorder

/-! ## Calls -/

/-- A call of a method. -/
inductive RecorderMethod
  | openDevice (device : Json)
  | append (buffer : RawBuffer)
  | event (e : Json)
  | close (complete : Bool) (reason : String)

/-- A call, with what the operating system answers to it and what the clock reads. -/
structure RecorderCall where
  method : RecorderMethod
  answers : List Answer
  clock : List UInt64

namespace RawRecorder

/-- The computation of a method. -/
def run (dump : Dump) : RecorderMethod → Io Unit
  | .openDevice device => openDevice dump device
  | .append buffer => append dump buffer
  | .event e => event dump e
  | .close complete reason => close dump complete reason

/-- The recorder after a call, however that ends. -/
def step (dump : Dump) (r : RawRecorder) (c : RecorderCall) : RawRecorder :=
  ((run dump c.method).outcome { r with answers := c.answers, clock := c.clock }).2

/-- The constructor accepts its options. -/
def Accepts (options : RecorderOptions) : Prop :=
  options.directory ≠ "" ∧ kFileHeaderSize < options.segmentBytes

/-- A recorder from its construction on, its methods called in any order. -/
def system (dump : Dump) : StepSystem RawRecorder RecorderCall where
  Init r := ∃ options sse42, Accepts options ∧ r = { options, sse42 }
  step r c := some (step dump r c)

end RawRecorder
end Ebus
end AmigaDrivers
