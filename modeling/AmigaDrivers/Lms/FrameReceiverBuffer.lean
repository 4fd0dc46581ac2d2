import Mathlib.Data.List.Induction
import AmigaDrivers.Lms.FrameReceiverChunking

/-!
# The buffer of the frame receiver

`lms4xxx::FrameReceiver` keeps its bytes in a vector that the constructor sizes for two frames.
`Feed` appends its chunk, takes out what is complete, and moves the rest to the front; it resizes
the vector only if the chunk does not fit.  Here the receiver is paired with the size of that
vector, and `ReceiveLoop` with the reads it feeds.

* `retained_of_wait`: how much a look that has to wait leaves.
* `writePos_feedAll_le`: what is kept after any calls of `Feed`.
* `buffer_never_grows`: so the receive loop never makes the vector grow.
-/

namespace AmigaDrivers
namespace Lms

open FrameReceiver

/-! ## The vector -/

/-- `FrameReceiver::Impl` with `buffer.size()`. -/
structure BufferedReceiver where
  receiver : FrameReceiver
  bufferSize : Nat
  deriving DecidableEq, Repr

namespace BufferedReceiver

/-- The constructor: room for two frames. -/
def new (maxFrameSize : Nat) : BufferedReceiver where
  receiver := .new maxFrameSize
  bufferSize := maxFrameSize * 2 + headerSize + 1

/-- The chunk fits behind the bytes that are kept. -/
def HasRoom (b : BufferedReceiver) (data : List UInt8) : Prop :=
  b.receiver.writePos + data.length ≤ b.bufferSize

/-- `buffer.resize` in `Feed`. -/
def resize (b : BufferedReceiver) (data : List UInt8) : Nat :=
  if b.receiver.writePos + data.length > b.bufferSize then
    b.receiver.writePos + data.length + b.receiver.maxFrameSize
  else
    b.bufferSize

/-- `Feed`. -/
def feed (b : BufferedReceiver) (data : List UInt8) : BufferedReceiver :=
  if data = [] then
    b
  else
    { receiver := b.receiver.feed data
      bufferSize := b.resize data }

/-- Calls of `Feed`, one after another. -/
def feedAll (b : BufferedReceiver) (chunks : List (List UInt8)) : BufferedReceiver :=
  chunks.foldl feed b

end BufferedReceiver

/-! ## The receive loop -/

/-- `kReadBufferSize`. -/
def readBufferSize : Nat := 16 * 1024

/-- `CommandChannel::kMaxFrameBytes`, the limit the driver gives to its receiver. -/
def maxFrameBytes : Nat := 64 * 1024

/-- What one `ReadSome` into the buffer of `ReceiveLoop` returns. -/
structure SocketRead where
  data : List UInt8
  fits : data.length ≤ readBufferSize

/-- `ReceiveLoop`: every read that returns bytes is fed. -/
def receiveLoop (reads : List SocketRead) : BufferedReceiver :=
  (BufferedReceiver.new maxFrameBytes).feedAll (reads.map SocketRead.data)

/-! ## What a look that has to wait leaves -/

theorem candidateToken_wait_length {maxFrameSize skip : Nat} {bytes : List UInt8}
    (h : candidateToken maxFrameSize bytes = .wait skip) :
    bytes.length ≤ maxFrameSize + headerSize := by
  unfold candidateToken at h
  dsimp only at h
  split at h
  · omega
  · split at h
    · exact nomatch h
    · split at h
      · omega
      · exact nomatch h

/-- Whatever has to wait for more bytes is shorter than the longest frame. -/
theorem retained_of_wait {maxFrameSize skip : Nat} {bytes : List UInt8}
    (h : nextToken maxFrameSize bytes = .wait skip) :
    bytes.length - skip ≤ maxFrameSize + headerSize := by
  unfold nextToken at h
  cases hi : stxIndex bytes with
  | none =>
    rw [hi] at h
    obtain rfl := Token.wait.inj h
    unfold headerSize
    omega
  | some i =>
    rw [hi] at h
    obtain ⟨skip', hskip, rfl⟩ := Token.shift_eq_wait h
    have hlength := candidateToken_wait_length hskip
    rw [List.length_drop] at hlength
    omega

/-- What draining keeps is what its last look left. -/
theorem Drains.retained {maxFrameSize covered covered' : Nat} {bytes rest : List UInt8}
    {report : Report} (h : Drains maxFrameSize bytes covered report rest covered') :
    rest.length ≤ maxFrameSize + headerSize := by
  induction h with
  | wait h =>
    rw [List.length_drop]
    exact retained_of_wait h
  | reject _ _ ih => exact ih
  | frame _ _ ih => exact ih

/-! ## What is kept between calls -/

theorem writePos_feedAll_le (maxFrameSize : Nat) (chunks : List (List UInt8)) :
    ((FrameReceiver.new maxFrameSize).feedAll chunks).writePos ≤ maxFrameSize + headerSize :=
  (drained_feedAll (drained_new maxFrameSize) chunks).drains.retained

namespace BufferedReceiver

theorem feed_append (b : BufferedReceiver) (chunks : List (List UInt8)) (data : List UInt8) :
    b.feedAll (chunks ++ [data]) = (b.feedAll chunks).feed data := by
  unfold feedAll
  rw [List.foldl_append]
  rfl

theorem receiver_feed (b : BufferedReceiver) (data : List UInt8) :
    (b.feed data).receiver = b.receiver.feed data := by
  unfold feed
  split
  · next h => rw [FrameReceiver.feed, if_pos h]
  · rfl

theorem receiver_feedAll (b : BufferedReceiver) (chunks : List (List UInt8)) :
    (b.feedAll chunks).receiver = b.receiver.feedAll chunks := by
  induction chunks generalizing b with
  | nil => rfl
  | cons chunk chunks ih => exact (ih (b.feed chunk)).trans (by rw [receiver_feed]; rfl)

/-- A chunk that fits leaves the vector as it is. -/
theorem bufferSize_feed_of_hasRoom {b : BufferedReceiver} {data : List UInt8} (h : b.HasRoom data) :
    (b.feed data).bufferSize = b.bufferSize := by
  unfold feed
  split
  · rfl
  · exact if_neg (Nat.not_lt.mpr h)

/-- Whatever is fed, the bytes of the chunk are copied into the vector. -/
theorem le_resize (b : BufferedReceiver) (data : List UInt8) :
    b.receiver.writePos + data.length ≤ b.resize data := by
  unfold resize
  split
  · exact Nat.le_add_right _ _
  · next h => exact Nat.not_lt.mp h

end BufferedReceiver

/-- A read fits behind what a run of the loop keeps. -/
theorem hasRoom_receiveLoop {reads : List SocketRead}
    (hsize : (receiveLoop reads).bufferSize = (BufferedReceiver.new maxFrameBytes).bufferSize)
    (next : SocketRead) : (receiveLoop reads).HasRoom next.data := by
  have hkept := writePos_feedAll_le maxFrameBytes (reads.map SocketRead.data)
  have hnext := next.fits
  have hreceiver : (receiveLoop reads).receiver =
      (FrameReceiver.new maxFrameBytes).feedAll (reads.map SocketRead.data) :=
    BufferedReceiver.receiver_feedAll _ _
  unfold BufferedReceiver.HasRoom
  rw [hsize, hreceiver]
  simp only [BufferedReceiver.new, maxFrameBytes, readBufferSize] at hkept hnext ⊢
  omega

/-- A run of the loop leaves the vector as the constructor made it. -/
theorem bufferSize_receiveLoop (reads : List SocketRead) :
    (receiveLoop reads).bufferSize = (BufferedReceiver.new maxFrameBytes).bufferSize := by
  induction reads using List.reverseRecOn with
  | nil => rfl
  | append_singleton reads next ih =>
    have hstep : receiveLoop (reads ++ [next]) = (receiveLoop reads).feed next.data := by
      unfold receiveLoop
      rw [List.map_append]
      exact BufferedReceiver.feed_append _ _ _
    rw [hstep, BufferedReceiver.bufferSize_feed_of_hasRoom (hasRoom_receiveLoop ih next), ih]

/-- **The buffer is bounded.**  After any calls of `Feed` at most a header and the data of the
longest frame are kept, whatever the bytes are; so no read of the receive loop makes the vector
grow, and each is copied into the vector the constructor made. -/
theorem buffer_never_grows :
    (∀ (maxFrameSize : Nat) (chunks : List (List UInt8)),
      ((BufferedReceiver.new maxFrameSize).feedAll chunks).receiver.writePos ≤ maxFrameSize + 8) ∧
    (∀ reads : List SocketRead,
      (receiveLoop reads).bufferSize = 2 * maxFrameBytes + 9 ∧
        ∀ next : SocketRead, (receiveLoop reads).HasRoom next.data) := by
  refine ⟨fun maxFrameSize chunks => ?_, fun reads => ?_⟩
  · rw [BufferedReceiver.receiver_feedAll]
    exact writePos_feedAll_le maxFrameSize chunks
  · exact ⟨bufferSize_receiveLoop reads, hasRoom_receiveLoop (bufferSize_receiveLoop reads)⟩

end Lms
end AmigaDrivers
