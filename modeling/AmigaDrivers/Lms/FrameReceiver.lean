import AmigaDrivers.Common.ByteUtil

/-!
# The CoLa B frame receiver

`lms4xxx::FrameReceiver` splits the TCP byte stream into length-delimited CoLa B
frames: `STX STX STX STX`, a four-byte big-endian length, the data and one XOR
checksum byte.  Bytes between frames are reported as garbage, a length that is
zero or above `max_frame_size` as a rejected candidate, and the search for the
next start resumes one byte after the rejected start.

The buffer below holds exactly the first `write_pos` bytes of the source's
preallocated vector; what lies behind `write_pos` is never read.  The callbacks
are recorded in `events` in the order in which they are made.  `streamOffset` is
the number of bytes `Compact` has dropped so far.  No branch reads it: it only
turns the positions of a report into positions in the stream.
-/

namespace AmigaDrivers
namespace Lms

/-- `ColaBCodec::ComputeChecksum`: XOR of all bytes. -/
def computeChecksum (data : List UInt8) : UInt8 :=
  data.foldl (fun cs b => cs ^^^ b) 0

/-- `kStxSize`. -/
def stxSize : Nat := 4

/-- `kHeaderSize`: STX(4) and Length(4). -/
def headerSize : Nat := stxSize + 4

/-- `FrameReceiver::FrameError`. -/
inductive FrameError
  | lengthOutOfRange
  | checksumMismatch
  | garbage
  | incomplete
  deriving DecidableEq, Repr

/-- `RawFrame` without its host time stamp, which is read from the clock when the
frame is handed over. -/
structure RawFrame where
  data : List UInt8
  checksumValid : Bool
  deriving DecidableEq, Repr

/-- A callback of the receiver.  A frame carries the stream position of its first
byte.  An error carries the stream positions `[first, last)` it accounts for and
the `consecutive` argument of `ErrorCallback`. -/
inductive FrameEvent
  | frame (first : Nat) (frame : RawFrame)
  | error (error : FrameError) (first last : Nat) (consecutive : Nat)
  deriving DecidableEq, Repr

/-- `FrameReceiver::Impl`. -/
structure FrameReceiver where
  maxFrameSize : Nat
  buffer : List UInt8 := []
  errorCoveredUntil : Nat := 0
  consecutiveFramingErrors : Nat := 0
  streamOffset : Nat := 0
  events : List FrameEvent := []
  deriving DecidableEq, Repr

namespace FrameReceiver

/-- `write_pos`. -/
abbrev writePos (r : FrameReceiver) : Nat := r.buffer.length

/-- `ReportFramingError`, for the buffer positions `[first, last)`. -/
def reportFramingError (r : FrameReceiver) (error : FrameError) (first last : Nat) :
    FrameReceiver :=
  { r with
    consecutiveFramingErrors := r.consecutiveFramingErrors + 1
    events := r.events ++
      [.error error (r.streamOffset + first) (r.streamOffset + last)
        (r.consecutiveFramingErrors + 1)] }

/-- `ReportGarbage`. -/
def reportGarbage (r : FrameReceiver) (first last : Nat) : FrameReceiver :=
  let unaccountedFirst := max first r.errorCoveredUntil
  if last > unaccountedFirst then r.reportFramingError .garbage unaccountedFirst last else r

/-- The four start bytes stand at the head of the list. -/
def startsWithStx (bytes : List UInt8) : Bool :=
  bytes.take stxSize == [0x02, 0x02, 0x02, 0x02]

/-- The loop of `FindStx` over the bytes from its offset on. -/
def stxIndex : List UInt8 → Option Nat
  | [] => none
  | b :: bytes =>
      if startsWithStx (b :: bytes) then some 0 else (stxIndex bytes).map (· + 1)

/-- `FindStx`: the first STX at or after `offset`; `write_pos` when none. -/
def findStx (r : FrameReceiver) (offset : Nat) : Nat :=
  if r.writePos < offset + stxSize then
    r.writePos
  else
    match stxIndex (r.buffer.drop offset) with
    | some i => offset + i
    | none => r.writePos

/-- `Compact`: drop the consumed bytes `[0, offset)`. -/
def compact (r : FrameReceiver) (offset : Nat) : FrameReceiver :=
  if offset = 0 then
    r
  else
    { r with
      errorCoveredUntil :=
        if r.errorCoveredUntil > offset then r.errorCoveredUntil - offset else 0
      buffer := r.buffer.drop offset
      streamOffset := r.streamOffset + min offset r.writePos }

/-- `TryExtractFrame`: the bytes consumed by the frame at `pos`; zero while it is
incomplete. -/
def tryExtractFrame (r : FrameReceiver) (pos : Nat) : FrameReceiver × Nat :=
  let available := r.writePos - pos
  if available < headerSize then
    (r, 0)
  else
    let dataLen := ByteUtil.loadBigU32 (r.buffer.drop (pos + stxSize))
    if dataLen = 0 ∨ dataLen > r.maxFrameSize then
      -- a length that is out of range vouches for its header only; behind a
      -- zero length stands the checksum byte of the empty telegram
      let rejectedEnd := pos + headerSize + (if dataLen = 0 then 1 else 0)
      let r := { r with errorCoveredUntil := max r.errorCoveredUntil rejectedEnd }
      (r.reportFramingError .lengthOutOfRange pos rejectedEnd, 1)
    else
      let totalFrameSize := headerSize + dataLen + 1
      if available < totalFrameSize then
        (r, 0)
      else
        let data := (r.buffer.drop (pos + headerSize)).take dataLen
        let receivedCs := r.buffer.getD (pos + headerSize + dataLen) 0
        let checksumValid := computeChecksum data == receivedCs
        let r :=
          if checksumValid then
            { r with consecutiveFramingErrors := 0 }
          else
            r.reportFramingError .checksumMismatch pos (pos + totalFrameSize)
        let frame : RawFrame :=
          { data := (r.buffer.drop pos).take totalFrameSize, checksumValid := checksumValid }
        ({ r with
            errorCoveredUntil := 0
            events := r.events ++ [.frame (r.streamOffset + pos) frame] },
          totalFrameSize)

/-- The loop of `Feed`.  Every iteration that goes on advances the scan position,
so one unit of fuel per buffered byte is enough (`scanned_scan`). -/
def scan : Nat → FrameReceiver → Nat → FrameReceiver × Nat
  | 0, r, scanPos => (r, scanPos)
  | fuel + 1, r, scanPos =>
      if scanPos < r.writePos then
        let stxPos := r.findStx scanPos
        if stxPos = r.writePos then
          if r.writePos > 3 then
            let keepFrom := max scanPos (r.writePos - 3)
            (r.reportGarbage scanPos keepFrom, keepFrom)
          else
            (r, scanPos)
        else
          let r := if stxPos > scanPos then r.reportGarbage scanPos stxPos else r
          match r.tryExtractFrame stxPos with
          | (r, 0) => (r, stxPos)
          | (r, consumed + 1) => scan fuel r (stxPos + (consumed + 1))
      else
        (r, scanPos)

/-- `Feed`. -/
def feed (r : FrameReceiver) (data : List UInt8) : FrameReceiver :=
  if data = [] then
    r
  else
    let r := { r with buffer := r.buffer ++ data }
    let (r, scanPos) := scan (r.writePos + 1) r 0
    r.compact scanPos

/-- `Finish`: report an unfinished tail once, then clear it. -/
def finish (r : FrameReceiver) : FrameReceiver :=
  let pending := r.writePos
  if pending ≠ 0 then
    let r := r.reportFramingError .incomplete 0 pending
    { r with
      buffer := []
      errorCoveredUntil := 0
      streamOffset := r.streamOffset + pending }
  else
    r

/-- A receiver as its constructor leaves it. -/
def new (maxFrameSize : Nat) : FrameReceiver := { maxFrameSize := maxFrameSize }

end FrameReceiver
end Lms
end AmigaDrivers
