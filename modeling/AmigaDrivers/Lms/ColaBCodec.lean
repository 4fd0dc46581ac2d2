import AmigaDrivers.Lms.FrameReceiver
import AmigaDrivers.Lms.ScanDataParser

/-!
# CoLa B messages

`lms4xxx::ColaBCodec::Encode` makes a frame of a command type, a command name and parameters;
`Decode` splits the data of a frame into a command type of three bytes, a command name and a
payload, and `ParamsOf` finds the parameters of a frame whose name is known.  Where `Decode` fails
it leaves a half-filled message behind, which no caller reads.

* `commandType_of_decode`: where the command type of a decoded message comes from.
* `decode_separated`, `decode_name`: what a type, a name and parameters decode to.
-/

namespace AmigaDrivers
namespace Lms

open ByteUtil (ascii)

/-- `kColaBSpace`. -/
def colaBSpace : UInt8 := 0x20

namespace CommandType

/-- `kReadAnswer`. -/
def readAnswer : List UInt8 := ascii "sRA"

/-- `kMethodAnswer`. -/
def methodAnswer : List UInt8 := ascii "sAN"

/-- `kEventAnswer`. -/
def eventAnswer : List UInt8 := ascii "sEA"

/-- `kEventNotify`. -/
def eventNotify : List UInt8 := ascii "sSN"

/-- `kErrorAnswer`. -/
def errorAnswer : List UInt8 := ascii "sFA"

end CommandType

/-- `ColaBMessage`. -/
structure ColaBMessage where
  commandType : List UInt8
  commandName : List UInt8
  payload : List UInt8
  deriving DecidableEq, Repr

/-- `IsScanMessage`. -/
def isScanMessage (message : ColaBMessage) : Bool :=
  message.commandName = ascii "LMDscandata" &&
    (message.commandType = CommandType.eventNotify || message.commandType = CommandType.readAnswer)

namespace ColaBCodec

/-- The data of a message: `CommandType 0x20 CommandName [0x20 Params]`. -/
def messageData (commandType commandName params : List UInt8) : List UInt8 :=
  commandType ++ [colaBSpace] ++ commandName ++
    if params = [] then [] else [colaBSpace] ++ params

/-- `Encode`. -/
def encode (commandType commandName params : List UInt8) : List UInt8 :=
  let data := messageData commandType commandName params
  List.replicate stxSize 0x02 ++ ByteUtil.storeBigU32 (data.length % 2 ^ 32) ++ data ++
    [computeChecksum data]

/-- `ParamsOf`. -/
def paramsOf (frame : List UInt8) (nameLen : Nat) : List UInt8 :=
  let start := 8 + 3 + 1 + nameLen + 1
  if frame.length < 2 ∨ start ≥ frame.length - 1 then
    []
  else
    (frame.drop start).take (frame.length - 1 - start)

/-- `Decode`. -/
def decode (data : List UInt8) : Except ErrorCode ColaBMessage :=
  if data.length < 4 then
    .error .frameTooShort
  else if data.getD 3 0 ≠ colaBSpace then
    .error .protocolError
  else
    let commandType := data.take 3
    let rest := data.drop 4
    if commandType = CommandType.errorAnswer then
      .ok { commandType, commandName := [], payload := rest }
    else
      -- the name runs to the next space or the end
      let commandName := rest.takeWhile (· ≠ colaBSpace)
      if commandName = [] then
        .error .protocolError
      else
        .ok { commandType, commandName, payload := (rest.drop commandName.length).drop 1 }

end ColaBCodec

/-- The command type of a decoded message is the first three bytes of the data. -/
theorem ColaBCodec.commandType_of_decode {data : List UInt8} {message : ColaBMessage}
    (h : decode data = .ok message) : message.commandType = data.take 3 := by
  unfold decode at h
  split at h
  · exact nomatch h
  · split at h
    · exact nomatch h
    · dsimp only at h
      split at h
      · rw [← Except.ok.inj h]
      · split at h
        · exact nomatch h
        · rw [← Except.ok.inj h]

namespace ColaBCodec

/-- What decides about data that start with a type and a space. -/
theorem decode_type {commandType : List UInt8} (htype : commandType.length = 3)
    (herror : commandType ≠ CommandType.errorAnswer) (rest : List UInt8) :
    decode (commandType ++ [colaBSpace] ++ rest) =
      if rest.takeWhile (· ≠ colaBSpace) = [] then
        .error .protocolError
      else
        .ok
          { commandType
            commandName := rest.takeWhile (· ≠ colaBSpace)
            payload := (rest.drop (rest.takeWhile (· ≠ colaBSpace)).length).drop 1 } := by
  obtain ⟨a, b, c, rfl⟩ := List.length_eq_three.mp htype
  have hlength : ¬([a, b, c] ++ [colaBSpace] ++ rest).length < 4 := by
    simp
  have hspace : ¬([a, b, c] ++ [colaBSpace] ++ rest).getD 3 0 ≠ colaBSpace := by
    simp
  unfold decode
  rw [if_neg hlength, if_neg hspace]
  exact if_neg herror

section Name

variable {commandType commandName : List UInt8} (htype : commandType.length = 3)
  (herror : commandType ≠ CommandType.errorAnswer) (hname : commandName ≠ [])
  (hspace : colaBSpace ∉ commandName)

include htype herror hname hspace

/-- Behind a second space stands the payload. -/
theorem decode_separated (params : List UInt8) :
    decode (commandType ++ [colaBSpace] ++ (commandName ++ [colaBSpace] ++ params)) =
      .ok { commandType, commandName, payload := params } := by
  have hall : ∀ b ∈ commandName, decide (b ≠ colaBSpace) = true :=
    fun b hb => decide_eq_true fun heq => hspace (heq ▸ hb)
  have htake : (commandName ++ [colaBSpace] ++ params).takeWhile (· ≠ colaBSpace) = commandName := by
    rw [List.append_assoc, List.takeWhile_append_of_pos hall]
    simp
  rw [decode_type htype herror, htake, if_neg hname]
  simp

/-- Without it there is none. -/
theorem decode_name :
    decode (commandType ++ [colaBSpace] ++ commandName) =
      .ok { commandType, commandName, payload := [] } := by
  have hall : ∀ b ∈ commandName, decide (b ≠ colaBSpace) = true :=
    fun b hb => decide_eq_true fun heq => hspace (heq ▸ hb)
  have htake : commandName.takeWhile (· ≠ colaBSpace) = commandName := by
    have happend : (commandName ++ []).takeWhile (· ≠ colaBSpace) =
        commandName ++ [].takeWhile (· ≠ colaBSpace) := List.takeWhile_append_of_pos hall
    simpa using happend
  rw [decode_type htype herror, htake, if_neg hname, List.drop_length]
  rfl

end Name

end ColaBCodec

end Lms
end AmigaDrivers
