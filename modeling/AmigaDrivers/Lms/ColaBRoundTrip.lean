import AmigaDrivers.Lms.ColaBCodec
import AmigaDrivers.Lms.FrameReceiverBuffer
import AmigaDrivers.Lms.FrameReceiverStreams

/-!
# From the encoder through the framer to the decoder

`ColaBCodec::Encode` makes the bytes of a message, `FrameReceiver` takes them out of the stream,
and `ColaBCodec::Decode` and `ParamsOf` read them.  The receiver takes frames up to a limit only.

* `ofMessage`: the encoded bytes are a frame with a right checksum.
* `paramsOf_encode`: where the parameters of an encoded frame stand.
* `encode_round_trip`: a message within the limit comes back as it was sent.
* `encode_too_long`: a longer one does not.
-/

namespace AmigaDrivers
namespace Lms

open FrameReceiver

namespace ColaBCodec

/-! ## The encoded frame -/

section Encode

variable (commandType commandName params : List UInt8)

theorem messageData_nil : messageData commandType commandName [] =
    commandType ++ [colaBSpace] ++ commandName := by
  unfold messageData
  rw [if_pos rfl, List.append_nil]

theorem messageData_of_ne_nil (h : params ≠ []) : messageData commandType commandName params =
    commandType ++ [colaBSpace] ++ (commandName ++ [colaBSpace] ++ params) := by
  unfold messageData
  rw [if_neg h]
  simp

/-- The encoded bytes are a frame with a right checksum. -/
def ofMessage {maxFrameSize : Nat}
    (hfits : (messageData commandType commandName params).length ≤ maxFrameSize)
    (hlength : (messageData commandType commandName params).length < 2 ^ 32) :
    ColaBFrame maxFrameSize where
  data := messageData commandType commandName params
  checksum := computeChecksum (messageData commandType commandName params)
  nonempty := by
    unfold messageData
    simp only [List.length_append, List.length_singleton]
    omega
  fits := hfits
  encodable := hlength

theorem encode_ofMessage {maxFrameSize : Nat}
    (hfits : (messageData commandType commandName params).length ≤ maxFrameSize)
    (hlength : (messageData commandType commandName params).length < 2 ^ 32) :
    (ofMessage commandType commandName params hfits hlength).encode =
      encode commandType commandName params := by
  unfold ColaBFrame.encode encode
  dsimp only [ofMessage]
  rw [Nat.mod_eq_of_lt hlength]
  simp

/-- The data of a frame, between its header and its checksum. -/
def dataOf (frame : List UInt8) : List UInt8 := (frame.drop 8).take (frame.length - 9)

theorem dataOf_encode : dataOf (encode commandType commandName params) =
    messageData commandType commandName params := by
  unfold dataOf encode
  dsimp only
  generalize messageData commandType commandName params = data
  have hlength : (List.replicate stxSize 0x02 ++ ByteUtil.storeBigU32 (data.length % 2 ^ 32) ++
      data ++ [computeChecksum data]).length - 9 = data.length := by
    simp [stxSize]
    omega
  have hdrop : (List.replicate stxSize 0x02 ++ ByteUtil.storeBigU32 (data.length % 2 ^ 32) ++
      data ++ [computeChecksum data]).drop 8 = data ++ [computeChecksum data] := rfl
  rw [hlength, hdrop, List.take_left]

/-- What `ParamsOf` finds in a frame, behind a type, a name of `nameLen` bytes and two spaces. -/
theorem paramsOf_frame {header : List UInt8} (hheader : header.length = 8) (data : List UInt8)
    (checksum : UInt8) (nameLen : Nat) :
    paramsOf (header ++ data ++ [checksum]) nameLen = data.drop (5 + nameLen) := by
  have hlength : (header ++ data ++ [checksum]).length = 8 + data.length + 1 := by
    simp only [List.length_append, hheader, List.length_singleton]
  unfold paramsOf
  dsimp only
  rw [hlength]
  split
  · exact (List.drop_eq_nil_of_le (by omega)).symm
  · have hstart : 8 + 3 + 1 + nameLen + 1 = header.length + (5 + nameLen) := by omega
    have hrest : 8 + data.length + 1 - 1 - (header.length + (5 + nameLen)) =
        (data.drop (5 + nameLen)).length := by
      rw [List.length_drop, hheader]
      omega
    have hbehind : (header ++ (data ++ [checksum])).drop (header.length + (5 + nameLen)) =
        (data ++ [checksum]).drop (5 + nameLen) := by
      rw [← List.drop_drop, List.drop_left]
    rw [hstart, hrest, List.append_assoc, hbehind, List.drop_append_of_le_length (by omega),
      List.take_left]

/-- The parameters stand behind the second space. -/
theorem paramsOf_encode (htype : commandType.length = 3) :
    paramsOf (encode commandType commandName params) commandName.length = params := by
  have hframe := @paramsOf_frame (List.replicate stxSize 0x02 ++ ByteUtil.storeBigU32
    ((messageData commandType commandName params).length % 2 ^ 32)) rfl
    (messageData commandType commandName params)
    (computeChecksum (messageData commandType commandName params)) commandName.length
  refine hframe.trans ?_
  by_cases hparams : params = []
  · subst hparams
    rw [messageData_nil]
    exact List.drop_eq_nil_of_le (by simp [htype]; omega)
  · rw [messageData_of_ne_nil _ _ _ hparams, ← List.append_assoc]
    exact List.drop_left' (by simp [htype]; omega)

end Encode

/-! ## Through the framer -/

/-- The bytes are taken out of the stream as one valid frame, which decodes to the message. -/
def Yields (maxFrameSize : Nat) (chunks : List (List UInt8))
    (commandType commandName params : List UInt8) : Prop :=
  ∃ frame : RawFrame, (deliveredFrames (receive maxFrameSize chunks).events).map Prod.snd = [frame] ∧
    frame.checksumValid = true ∧
    decode (dataOf frame.data) = .ok { commandType, commandName, payload := params } ∧
    paramsOf frame.data commandName.length = params

/-- The message can be told from its bytes. -/
structure Sendable (commandType commandName : List UInt8) : Prop where
  type : commandType.length = 3
  notError : commandType ≠ CommandType.errorAnswer
  named : commandName ≠ []
  noSpace : colaBSpace ∉ commandName

theorem decode_messageData {commandType commandName : List UInt8}
    (h : Sendable commandType commandName) (params : List UInt8) :
    decode (messageData commandType commandName params) =
      .ok { commandType, commandName, payload := params } := by
  by_cases hparams : params = []
  · subst hparams
    rw [messageData_nil]
    exact decode_name h.type h.notError h.named h.noSpace
  · rw [messageData_of_ne_nil _ _ _ hparams]
    exact decode_separated h.type h.notError h.named h.noSpace params

/-- **A message comes back as it was sent**, however its bytes are split, if its data is within
the limit of the receiver. -/
theorem encode_round_trip {maxFrameSize : Nat} {commandType commandName : List UInt8}
    (h : Sendable commandType commandName) (params : List UInt8)
    (hfits : (messageData commandType commandName params).length ≤ maxFrameSize)
    (hlength : (messageData commandType commandName params).length < 2 ^ 32)
    {chunks : List (List UInt8)}
    (hchunks : chunks.flatten = encode commandType commandName params) :
    Yields maxFrameSize chunks commandType commandName params := by
  have hstream : chunks.flatten =
      [ofMessage commandType commandName params hfits hlength].flatMap ColaBFrame.encode := by
    rw [hchunks, List.flatMap_singleton, encode_ofMessage]
  have hraw : (ofMessage commandType commandName params hfits hlength).raw =
      { data := encode commandType commandName params, checksumValid := true } := by
    unfold ColaBFrame.raw
    rw [encode_ofMessage]
    congr 1
    exact beq_iff_eq.mpr rfl
  refine ⟨_, (receive_frames hstream).1, ?_, ?_, ?_⟩
  · rw [hraw]
  · rw [hraw]
    show decode (dataOf (encode commandType commandName params)) = _
    rw [dataOf_encode]
    exact decode_messageData h params
  · rw [hraw]
    exact paramsOf_encode commandType commandName params h.type

/-- The answer to a status request, with parameters that start with a space, byte by byte. -/
theorem encode_round_trip_of_leading_space :
    Yields 64 ((encode CommandType.readAnswer (ByteUtil.ascii "SCdevicestate") [0x20, 0x02]).map
      fun b => [b]) CommandType.readAnswer (ByteUtil.ascii "SCdevicestate") [0x20, 0x02] :=
  encode_round_trip ⟨by decide, by decide, by decide, by decide⟩ [0x20, 0x02] (by decide)
    (by decide) (by decide)

end ColaBCodec

/-! ## The limit -/

theorem candidateToken_frame_size {maxFrameSize skip size : Nat} {valid : Bool}
    {bytes : List UInt8} (h : candidateToken maxFrameSize bytes = .frame skip size valid) :
    size ≤ headerSize + maxFrameSize + 1 := by
  unfold candidateToken at h
  dsimp only at h
  split at h
  · exact nomatch h
  · split at h
    · exact nomatch h
    · split at h
      · exact nomatch h
      · obtain ⟨-, rfl, -⟩ := Token.frame.inj h
        omega

/-- No frame is longer than the limit allows. -/
theorem size_of_frame {maxFrameSize skip size : Nat} {valid : Bool} {bytes : List UInt8}
    (h : nextToken maxFrameSize bytes = .frame skip size valid) :
    size ≤ headerSize + maxFrameSize + 1 := by
  obtain ⟨i, -, hshift⟩ := nextToken_eq_shift h (by simp)
  cases hc : candidateToken maxFrameSize (bytes.drop i) with
  | frame skip' size' valid' =>
    rw [hc] at hshift
    obtain ⟨-, rfl, -⟩ := Token.frame.inj hshift
    exact candidateToken_frame_size hc
  | wait skip' => simp [hc, Token.shift] at hshift
  | reject skip' extent => simp [hc, Token.shift] at hshift

theorem Drains.frames_bounded {maxFrameSize covered covered' : Nat} {bytes rest : List UInt8}
    {report : Report} (h : Drains maxFrameSize bytes covered report rest covered') :
    ∀ frame ∈ report.frames, frame.data.length ≤ headerSize + maxFrameSize + 1 := by
  induction h with
  | wait h => exact fun frame hframe => nomatch hframe
  | reject h _ ih => exact ih
  | frame h _ ih =>
    intro frame hframe
    obtain heq | hrest : frame = _ ∨ frame ∈ _ := List.mem_cons.mp hframe
    · rw [heq, List.length_take]
      exact Nat.le_trans (Nat.min_le_left _ _) (size_of_frame h)
    · exact ih frame hrest

/-- What is delivered is bounded by the limit, whatever is fed. -/
theorem deliveredFrames_bounded (maxFrameSize : Nat) (chunks : List (List UInt8)) :
    ∀ frame ∈ (deliveredFrames (receive maxFrameSize chunks).events).map Prod.snd,
      frame.data.length ≤ headerSize + maxFrameSize + 1 := by
  unfold receive
  rw [deliveredFrames_finish, ← frames_ofEvents]
  exact (drained_feedAll (drained_new maxFrameSize) chunks).drains.frames_bounded

/-- **Past the limit a message is lost**: parameters of 64 KiB do not come back from the receiver
of the driver. -/
theorem ColaBCodec.encode_too_long :
    ¬∀ commandType commandName params : List UInt8, Sendable commandType commandName →
      Yields maxFrameBytes [encode commandType commandName params] commandType commandName
        params := by
  intro h
  have hsendable : Sendable CommandType.readAnswer [0x41] :=
    ⟨by decide, by decide, by decide, by decide⟩
  obtain ⟨frame, hframes, -, -, hparams⟩ :=
    h CommandType.readAnswer [0x41] (List.replicate maxFrameBytes 0) hsendable
  have hbound := deliveredFrames_bounded maxFrameBytes _ frame
    (by rw [hframes]; exact List.mem_singleton.mpr rfl)
  have hlength := congrArg List.length hparams
  unfold paramsOf at hlength
  dsimp only at hlength
  rw [List.length_replicate] at hlength
  split at hlength
  · exact absurd hlength (by decide)
  · rw [List.length_take, List.length_drop] at hlength
    simp only [headerSize, stxSize, maxFrameBytes, List.length_singleton] at hbound hlength
    omega

end Lms
end AmigaDrivers
