import AmigaDrivers.Foundation.Effect
import AmigaDrivers.Lms.ColaBCodec

/-!
# Commands and their answers

`lms4xxx::CommandChannel` writes a command to the sensor and reads one frame back.  The bytes still
to come are arbitrary, and so is what the socket does: it may deliver a part only, fail, or be
silent until the deadline.  An exchange that does not end with a proper frame leaves the channel
uncertain; only `Reset` clears that, behind a new connection.

* `TcpLink`: the connection, as far as the channel sees it.
* `sendAndReceive`, `readVariable`, `callMethod`: the exchanges.
* `call_outcome`: a call takes one frame, which is its answer, or it leaves the channel uncertain.
* `replies_paired`: so it is in every sequence of calls.
-/

namespace AmigaDrivers
namespace Lms

open ByteUtil (ascii)

/-! ## The connection -/

/-- `TcpError`, as far as reads and writes return it. -/
inductive TcpError
  | connectionFailed
  | connectionLost
  | responseTimeout
  | notConnected
  | receiveShutdown
  deriving DecidableEq, Repr

/-- How the socket goes on: the bytes it delivers before an error, or at once where some are asked
for, and the error. -/
structure TcpAnswer where
  delivered : Nat := 0
  error : Option TcpError := none
  deriving DecidableEq, Repr

/-- `TcpClient`.  `incoming` are the bytes still to come, and `written` the frames that have been
sent.  A null pointer is a link that is not connected. -/
structure TcpLink where
  connected : Bool := true
  incoming : List UInt8 := []
  written : List (List UInt8) := []
  answers : List TcpAnswer := []
  deriving DecidableEq, Repr

namespace TcpLink

/-- What the socket does next. -/
def answer (l : TcpLink) : TcpAnswer × TcpLink :=
  match l.answers with
  | [] => ({ error := some .connectionLost }, l)
  | a :: answers => (a, { l with answers })

/-- Take bytes off the wire. -/
def take (l : TcpLink) (n : Nat) : List UInt8 × TcpLink :=
  (l.incoming.take n, { l with incoming := l.incoming.drop n })

/-- A connection that is lost is no longer connected. -/
def afterError (l : TcpLink) (e : TcpError) : TcpLink :=
  if e = .connectionLost then { l with connected := false } else l

/-- `Read`: all of `len` bytes before the deadline, or an error and the bytes until then. -/
def read (len : Nat) (timeoutMs : Int) (l : TcpLink) : (List UInt8 × Option TcpError) × TcpLink :=
  if !l.connected then
    (([], some .notConnected), l)
  else if timeoutMs ≤ 0 then
    (([], some .responseTimeout), l)
  else
    let (a, l) := l.answer
    match a.error with
    | some e =>
      let (bytes, l) := l.take (min a.delivered len)
      ((bytes, some e), l.afterError e)
    | none =>
      let (bytes, l) := l.take len
      -- the stream ends before: the deadline passes
      if bytes.length < len then ((bytes, some .responseTimeout), l) else ((bytes, none), l)

/-- `ReadSome`: what there is, up to `maxLen` bytes; none when the wait times out. -/
def readSome (maxLen : Nat) (l : TcpLink) : (List UInt8 × Option TcpError) × TcpLink :=
  if !l.connected then
    (([], some .notConnected), l)
  else
    let (a, l) := l.answer
    match a.error with
    | some .responseTimeout => (([], none), l)
    | some e => (([], some e), l.afterError e)
    | none =>
      let (bytes, l) := l.take (min a.delivered maxLen)
      ((bytes, none), l)

/-- `Write`. -/
def write (frame : List UInt8) (l : TcpLink) : Option TcpError × TcpLink :=
  if !l.connected then
    (some .notConnected, l)
  else
    let (a, l) := l.answer
    match a.error with
    -- a partial command cannot be retried on the same stream
    | some e => (some e, { l with connected := false })
    | none => (none, { l with written := l.written ++ [frame] })

/-- `kMaxDrain`. -/
def maxDrain : Nat := 64 * 1024

/-- The loop of `DrainStaleBytes`. -/
def drainStaleBytes (dropped : Nat) (l : TcpLink) : TcpLink :=
  if dropped < maxDrain then
    let ((bytes, ec), l) := l.readSome 1024
    if ec ≠ none then
      l
    else if bytes.length = 0 then
      l
    else
      drainStaleBytes (dropped + bytes.length) l
  else
    l
termination_by maxDrain - dropped

end TcpLink

/-! ## The channel -/

/-- The error codes of an exchange. -/
inductive CommandError
  | tcp (e : TcpError)
  /-- `kProtocolError`, `kFrameTooShort` -/
  | frame (e : ErrorCode)
  | crcError
  | unexpectedResponse
  | frameTooLong
  | accessDenied
  | commandRejected
  | sopasError
  | notConnected
  deriving DecidableEq, Repr

/-- `CommandChannel` with its client, and the message an exchange has filled in. -/
structure CommandChannel where
  responseTimeoutMs : Int
  uncertain : Bool := false
  link : TcpLink := {}
  response : Option ColaBMessage := none
  deriving DecidableEq, Repr

namespace CommandType

/-- `kReadByName`. -/
def readByName : List UInt8 := ascii "sRN"

end CommandType

namespace CommandChannel

/-- `kMaxFrameBytes`. -/
def maxFrameBytes : Nat := 64 * 1024

/-- `MethodTimeout`. -/
def methodTimeout (responseTimeoutMs : Int) (name : List UInt8) : Int :=
  max responseTimeoutMs (if name = ascii "LMCstartmeas" then 60000 else 5000)

/-- An exchange, or a part of one. -/
abbrev Exchange (α : Type) : Type := Effect CommandChannel CommandError α

/-- A call of the client. -/
def onLink {α : Type} (f : TcpLink → α × TcpLink) : Exchange α := do
  let s ← get
  set { s with link := (f s.link).2 }
  pure (f s.link).1

/-- `failed`: an error that leaves the channel uncertain. -/
def failed {α : Type} (ec : CommandError) : Exchange α := do
  modify fun s => { s with uncertain := true }
  throw ec

/-- `DrainStaleBytes`. -/
def drainStaleBytes : Exchange Unit := onLink fun l => ((), l.drainStaleBytes 0)

/-- The end of `SendAndReceive`: a checksum, a message, and whether it is an error of the
device. -/
def accept (data : List UInt8) (receivedCs : UInt8) : Exchange Unit :=
  if computeChecksum data ≠ receivedCs then
    failed .crcError
  else
    match ColaBCodec.decode data with
    | .error e => failed (.frame e)
    | .ok response => do
      modify fun s => { s with response := some response }
      if response.commandType = CommandType.errorAnswer then
        let code := if response.payload.length ≥ 2 then ByteUtil.loadBigU16 response.payload else 0xFFFF
        throw (if code = 1 then .accessDenied else .sopasError)
      else
        pure ()

/-- `SendAndReceive` behind the header. -/
def receiveBody (dataLen : Nat) (timeoutMs : Int) : Exchange Unit :=
  if dataLen > maxFrameBytes then do
    drainStaleBytes
    failed .frameTooLong
  else do
    let (dataAndCs, ec) ← onLink (TcpLink.read (dataLen + 1) timeoutMs)
    match ec with
    | some ec => do
      if dataAndCs.length > 0 ∧ dataAndCs.length < dataLen + 1 then drainStaleBytes else pure ()
      failed (.tcp ec)
    | none =>
      if dataAndCs.length < dataLen + 1 then
        failed (.frame .frameTooShort)
      else
        accept (dataAndCs.take dataLen) (dataAndCs.getD dataLen 0)

/-- `SendAndReceive` behind the write. -/
def receive (timeoutMs : Int) : Exchange Unit := do
  let (header, ec) ← onLink (TcpLink.read headerSize timeoutMs)
  match ec with
  | some ec => do
    -- a partial read leaves the stream in the middle of a frame
    if header.length > 0 then drainStaleBytes else pure ()
    failed (.tcp ec)
  | none =>
    if header.length < headerSize then
      failed (.frame .frameTooShort)
    else if ¬FrameReceiver.startsWithStx header then do
      drainStaleBytes
      failed (.frame .protocolError)
    else
      receiveBody (ByteUtil.loadBigU32 (header.drop stxSize)) timeoutMs

/-- `SendAndReceive`. -/
def sendAndReceive (frame : List UInt8) (timeoutMs : Int) : Exchange Unit := do
  let s ← get
  if ¬s.link.connected then
    failed .notConnected
  else
    match ← onLink (TcpLink.write frame) with
    | some ec => failed (.tcp ec)
    | none => receive timeoutMs

/-- The message of the caller, which is empty until it is filled in. -/
def reply : Exchange ColaBMessage := do
  let s ← get
  pure (s.response.getD ⟨[], [], []⟩)

/-- `ValidateResponse`. -/
def validateResponse (msg : ColaBMessage) (expectedType expectedName : List UInt8) :
    Exchange Unit :=
  if msg.commandType ≠ expectedType then
    failed .unexpectedResponse
  else if msg.commandName ≠ expectedName then
    failed .unexpectedResponse
  else
    pure ()

/-- `SendAndReceive` and, where the caller expects an answer, its `ValidateResponse`. -/
def transact (frame : List UInt8) (timeoutMs : Int) (expected : Option (List UInt8 × List UInt8)) :
    Exchange ColaBMessage := do
  sendAndReceive frame timeoutMs
  let r ← reply
  match expected with
  | none => pure ()
  | some (expectedType, expectedName) => validateResponse r expectedType expectedName
  pure r

/-- `BuildReadVariable`. -/
def buildReadVariable (name : List UInt8) : List UInt8 :=
  ColaBCodec.encode CommandType.readByName name []

/-- `ReadVariable`: the payload. -/
def readVariable (name : List UInt8) (timeoutMs : Int) : Exchange (List UInt8) := do
  let r ← transact (buildReadVariable name) timeoutMs (some (CommandType.readAnswer, name))
  pure r.payload

/-- `CallMethod`. -/
def callMethod (frame name : List UInt8) (okByte : Option UInt8) : Exchange Unit := do
  let s ← get
  let r ← transact frame (methodTimeout s.responseTimeoutMs name)
    (some (CommandType.methodAnswer, name))
  match okByte with
  | none => pure ()
  | some ok => if r.payload.head? ≠ some ok then throw .commandRejected else pure ()

/-! ## Sequences of calls -/

/-- A call of an exchange. -/
inductive Call
  /-- `SendAndReceive`, and the answer its caller validates, if it does -/
  | sendAndReceive (frame : List UInt8) (timeoutMs : Int)
      (expected : Option (List UInt8 × List UInt8))
  | readVariable (name : List UInt8) (timeoutMs : Int)
  | callMethod (frame name : List UInt8) (okByte : Option UInt8)
  deriving DecidableEq

namespace Call

/-- The command that is sent. -/
def frame : Call → List UInt8
  | .sendAndReceive frame _ _ => frame
  | .readVariable name _ => buildReadVariable name
  | .callMethod frame _ _ => frame

/-- The answer that is expected: its type and its name. -/
def expected : Call → Option (List UInt8 × List UInt8)
  | .sendAndReceive _ _ expected => expected
  | .readVariable name _ => some (CommandType.readAnswer, name)
  | .callMethod _ name _ => some (CommandType.methodAnswer, name)

/-- What the call does; the values it returns are left out. -/
def perform : Call → Exchange Unit
  | .sendAndReceive frame timeoutMs expected => do
    let _ ← transact frame timeoutMs expected
    pure ()
  | .readVariable name timeoutMs => do
    let _ ← CommandChannel.readVariable name timeoutMs
    pure ()
  | .callMethod frame name okByte => CommandChannel.callMethod frame name okByte

end Call

/-- What happens to a channel. -/
inductive Action
  | call (c : Call)
  | reset
  /-- another connection, or something else that happens to it -/
  | elsewhere (f : TcpLink → TcpLink)

/-- A call, with a fresh message for the answer. -/
def call (s : CommandChannel) (c : Call) : Except CommandError Unit × CommandChannel :=
  c.perform.outcome { s with response := none }

/-- `Reset`. -/
def reset (s : CommandChannel) : CommandChannel := { s with uncertain := false }

/-- The channel after an action. -/
def step (s : CommandChannel) : Action → CommandChannel
  | .call c => (s.call c).2
  | .reset => s.reset
  | .elsewhere f => { s with link := f s.link }

/-- The channel after some actions. -/
def run (s : CommandChannel) (actions : List Action) : CommandChannel := actions.foldl step s

/-- The calls among some actions, each with the channel it finds. -/
def calls : CommandChannel → List Action → List (CommandChannel × Call)
  | _, [] => []
  | s, .call c :: actions => (s, c) :: calls (s.step (.call c)) actions
  | s, a :: actions => calls (s.step a) actions

/-! ## What an exchange does -/

open Effect

/-- The bytes of a frame with a right checksum. -/
def frameOf (data : List UInt8) : List UInt8 :=
  List.replicate stxSize 0x02 ++ ByteUtil.storeBigU32 data.length ++ data ++ [computeChecksum data]

/-- From `s₀` to `s` one command has been written and one frame has been taken, which is the
message. -/
structure Received (s₀ : CommandChannel) (frame : List UInt8) (message : ColaBMessage)
    (s : CommandChannel) : Prop where
  written : s.link.written = s₀.link.written ++ [frame]
  taken : ∃ data, data.length ≤ maxFrameBytes ∧
    s₀.link.incoming = frameOf data ++ s.link.incoming ∧ ColaBCodec.decode data = .ok message
  response : s.response = some message
  uncertain : s.uncertain = s₀.uncertain

/-- The frame that has been taken is an error of the device, or the answer to the command. -/
def Paired (s₀ : CommandChannel) (frame : List UInt8) (expected : Option (List UInt8 × List UInt8))
    (s : CommandChannel) : Prop :=
  ∃ message, Received s₀ frame message s ∧ (message.commandType = CommandType.errorAnswer ∨
    ∀ expectedType expectedName, expected = some (expectedType, expectedName) →
      message.commandType = expectedType ∧ message.commandName = expectedName)

section Triples

variable {P : CommandChannel → Prop} {α : Type}

theorem triple_onLink {f : TcpLink → α × TcpLink} {Q : α → CommandChannel → Prop}
    {E : CommandError → CommandChannel → Prop}
    (hQ : ∀ s, P s → Q (f s.link).1 { s with link := (f s.link).2 }) :
    Triple P (onLink f) Q E := hQ

/-- A failure leaves the channel uncertain. -/
theorem triple_failed {ec : CommandError} {Q : α → CommandChannel → Prop}
    {E : CommandError → CommandChannel → Prop} (hE : ∀ s, s.uncertain = true → E ec s) :
    Triple P (failed ec : Exchange α) Q E :=
  fun _ _ => hE _ rfl

/-- So does one behind a drain. -/
theorem triple_drain_failed {ec : CommandError} {Q : α → CommandChannel → Prop}
    {E : CommandError → CommandChannel → Prop} (hE : ∀ s, s.uncertain = true → E ec s) :
    Triple P (do drainStaleBytes; failed ec : Exchange α) Q E :=
  .bind (Q := fun _ _ => True) (triple_onLink fun _ _ => trivial) fun _ => triple_failed hE

end Triples

/-- A read that does not fail takes what it returns off the wire. -/
theorem read_of_no_error {len : Nat} {timeoutMs : Int} {l : TcpLink}
    (h : (l.read len timeoutMs).1.2 = none) :
    l.incoming = (l.read len timeoutMs).1.1 ++ (l.read len timeoutMs).2.incoming ∧
      (l.read len timeoutMs).1.1.length = len ∧ (l.read len timeoutMs).2.written = l.written := by
  have hanswer : l.answer.2.incoming = l.incoming ∧ l.answer.2.written = l.written := by
    unfold TcpLink.answer
    split
    · exact ⟨rfl, rfl⟩
    · exact ⟨rfl, rfl⟩
  unfold TcpLink.read at h ⊢
  split_ifs at h ⊢ with hconnected htimeout
  dsimp only [TcpLink.take] at h ⊢
  cases herror : l.answer.1.error with
  | some e =>
    rw [herror] at h
    exact nomatch h
  | none =>
    rw [herror] at h
    dsimp only at h ⊢
    split_ifs at h ⊢ with hshort
    refine ⟨?_, ?_, hanswer.2⟩
    · dsimp only
      rw [List.take_append_drop, hanswer.1]
    · dsimp only
      rw [List.length_take] at hshort ⊢
      omega

/-- A write that does not fail has written its frame. -/
theorem write_of_no_error {frame : List UInt8} {l : TcpLink} (h : (l.write frame).1 = none) :
    (l.write frame).2.incoming = l.incoming ∧
      (l.write frame).2.written = l.written ++ [frame] := by
  unfold TcpLink.write TcpLink.answer at h ⊢
  split_ifs at h ⊢ with hconnected
  cases hanswers : l.answers with
  | nil =>
    rw [hanswers] at h
    exact nomatch h
  | cons a answers =>
    rw [hanswers] at h
    dsimp only at h ⊢
    cases herror : a.error with
    | some e =>
      rw [herror] at h
      exact nomatch h
    | none => exact ⟨rfl, rfl⟩

section Exchange

variable (s₀ : CommandChannel) (frame : List UInt8)

/-- The command has been written, and some bytes have been taken. -/
structure Underway (bytes : List UInt8) (s : CommandChannel) : Prop where
  written : s.link.written = s₀.link.written ++ [frame]
  taken : s₀.link.incoming = bytes ++ s.link.incoming
  uncertain : s.uncertain = s₀.uncertain

/-- An exchange that fails: it has received an error of the device, or the channel is uncertain. -/
def Refused (s : CommandChannel) : Prop :=
  s.uncertain = true ∨
    ∃ message, Received s₀ frame message s ∧ message.commandType = CommandType.errorAnswer

variable {s₀ frame}

theorem triple_accept {data : List UInt8} {receivedCs : UInt8} (hfits : data.length ≤ maxFrameBytes) :
    Triple
      (Underway s₀ frame
        (List.replicate stxSize 0x02 ++ ByteUtil.storeBigU32 data.length ++ data ++ [receivedCs]))
      (accept data receivedCs) (fun _ s => ∃ message, Received s₀ frame message s)
      (fun _ => Refused s₀ frame) := by
  unfold accept
  refine .ite (fun _ => triple_failed fun _ => .inl) fun hchecksum => ?_
  obtain rfl := Decidable.not_not.mp hchecksum
  cases hdecode : ColaBCodec.decode data with
  | error e => exact triple_failed fun _ => .inl
  | ok response =>
    refine .bind (Q := fun _ => Received s₀ frame response) (.modify fun s hs => ?_) fun _ => ?_
    · exact ⟨hs.written, ⟨data, hfits, hs.taken, hdecode⟩, rfl, hs.uncertain⟩
    · refine .ite (fun herror => .throw fun s hs => ?_) fun _ => .pure fun s hs => ?_
      · exact .inr ⟨response, hs, herror⟩
      · exact ⟨response, hs⟩

theorem triple_read {bytes : List UInt8} {len : Nat} {timeoutMs : Int}
    {E : CommandError → CommandChannel → Prop} :
    Triple (Underway s₀ frame bytes) (onLink (TcpLink.read len timeoutMs))
      (fun r s => r.2 = none → r.1.length = len ∧ Underway s₀ frame (bytes ++ r.1) s) E := by
  refine triple_onLink fun s hs hnone => ?_
  obtain ⟨htaken, hlength, hwritten⟩ := read_of_no_error hnone
  refine ⟨hlength, hwritten.trans hs.written, ?_, hs.uncertain⟩
  rw [hs.taken, List.append_assoc]
  exact congrArg (bytes ++ ·) htaken

/-- A load of the last `dataLen + 1` bytes splits them into data and checksum. -/
theorem take_append_getD {dataLen : Nat} {bytes : List UInt8} (h : bytes.length = dataLen + 1) :
    bytes.take dataLen ++ [bytes.getD dataLen 0] = bytes := by
  have hlt : dataLen < bytes.length := by omega
  rw [List.getD_eq_getElem _ _ hlt, ← List.take_succ_eq_append_getElem hlt, ← h, List.take_length]

theorem triple_receiveBody (dataLen : Nat) (timeoutMs : Int) :
    Triple (Underway s₀ frame (List.replicate stxSize 0x02 ++ ByteUtil.storeBigU32 dataLen))
      (receiveBody dataLen timeoutMs) (fun _ s => ∃ message, Received s₀ frame message s)
      (fun _ => Refused s₀ frame) := by
  unfold receiveBody
  refine .ite (fun _ => triple_drain_failed fun _ => .inl) fun hfits => .bind triple_read ?_
  rintro ⟨dataAndCs, ec⟩
  cases ec with
  | some ec =>
    exact .ite (fun _ => triple_drain_failed fun _ => .inl) fun _ => triple_failed fun _ => .inl
  | none =>
    refine .ite (fun _ => triple_failed fun _ => .inl) fun _ s hs => ?_
    obtain ⟨hlength, hunderway⟩ := hs rfl
    have htake : (dataAndCs.take dataLen).length = dataLen := by
      rw [List.length_take, hlength]
      exact Nat.min_eq_left (Nat.le_succ _)
    refine triple_accept (by omega) s ?_
    rw [htake, List.append_assoc, take_append_getD hlength]
    exact hunderway

theorem triple_receive (timeoutMs : Int) :
    Triple (Underway s₀ frame []) (receive timeoutMs)
      (fun _ s => ∃ message, Received s₀ frame message s) (fun _ => Refused s₀ frame) := by
  refine .bind triple_read ?_
  rintro ⟨header, ec⟩
  cases ec with
  | some ec =>
    exact .ite (fun _ => triple_drain_failed fun _ => .inl) fun _ => triple_failed fun _ => .inl
  | none =>
    refine .ite (fun _ => triple_failed fun _ => .inl) fun _ => ?_
    refine .ite (fun _ => triple_drain_failed fun _ => .inl) fun hstx s hs => ?_
    obtain ⟨hlength, hunderway⟩ := hs rfl
    refine triple_receiveBody _ timeoutMs s ?_
    have hheader : List.replicate stxSize 0x02 ++
        ByteUtil.storeBigU32 (ByteUtil.loadBigU32 (header.drop stxSize)) = header := by
      have hdrop : (header.drop stxSize).length = 4 := by
        rw [List.length_drop, hlength]
        rfl
      have htake : header.take stxSize = List.replicate stxSize 0x02 :=
        beq_iff_eq.mp (Decidable.not_not.mp hstx)
      rw [ByteUtil.storeBigU32_loadBigU32 hdrop, ← htake, List.take_append_drop]
    rw [hheader]
    exact hunderway

/-- **`SendAndReceive` takes one frame**, or it leaves the channel uncertain. -/
theorem triple_sendAndReceive (timeoutMs : Int) :
    Triple (· = s₀) (sendAndReceive frame timeoutMs)
      (fun _ s => ∃ message, Received s₀ frame message s) (fun _ => Refused s₀ frame) := by
  refine .get_bind fun s₁ hs₁ => .ite (fun _ => triple_failed fun _ => .inl) fun _ => ?_
  subst hs₁
  refine .bind (Q := fun r s => r = none → Underway s₁ frame [] s) ?_ fun r => ?_
  · refine triple_onLink ?_
    rintro s rfl hnone
    obtain ⟨hincoming, hwritten⟩ := write_of_no_error hnone
    exact ⟨hwritten, hincoming.symm, rfl⟩
  · cases r with
    | some ec => exact triple_failed fun _ => .inl
    | none =>
      exact (triple_receive timeoutMs).conseq (fun s hs => hs rfl) (fun _ _ h => h) fun _ _ h => h

/-- A message that does not answer the command leaves the channel uncertain. -/
theorem triple_validateResponse {message : ColaBMessage} {expectedType expectedName : List UInt8} :
    Triple (Received s₀ frame message) (validateResponse message expectedType expectedName)
      (fun _ s => Received s₀ frame message s ∧ message.commandType = expectedType ∧
        message.commandName = expectedName)
      (fun _ => Refused s₀ frame) := by
  refine .ite (fun _ => triple_failed fun _ => .inl) fun htype => ?_
  refine .ite (fun _ => triple_failed fun _ => .inl) fun hname => .pure fun s hs => ?_
  exact ⟨hs, Decidable.not_not.mp htype, Decidable.not_not.mp hname⟩

/-- A command, its answer, and what its caller expects of it. -/
theorem triple_transact (timeoutMs : Int) (expected : Option (List UInt8 × List UInt8)) :
    Triple (· = s₀) (transact frame timeoutMs expected) (fun _ => Paired s₀ frame expected)
      (fun _ => Refused s₀ frame) := by
  refine .bind (triple_sendAndReceive timeoutMs) fun _ => ?_
  refine .bind (Q := Received s₀ frame) (.get_bind ?_) fun message => ?_
  · rintro s ⟨message, hs⟩
    refine .pure ?_
    rintro t rfl
    rw [hs.response]
    exact hs
  · cases expected with
    | none => exact .pure fun s hs => ⟨message, hs, .inr nofun⟩
    | some names =>
      refine .bind triple_validateResponse fun _ => .pure ?_
      rintro s ⟨hs, htype, hname⟩
      refine ⟨message, hs, .inr ?_⟩
      rintro _ _ ⟨⟩
      exact ⟨htype, hname⟩

/-- How a call ends: it is paired, or it has failed and left the channel uncertain. -/
theorem triple_perform (c : Call) :
    Triple (· = s₀) c.perform (fun _ => Paired s₀ c.frame c.expected)
      (fun _ s => Paired s₀ c.frame c.expected s ∨ s.uncertain = true) := by
  have hrefused : ∀ s, Refused s₀ c.frame s →
      Paired s₀ c.frame c.expected s ∨ s.uncertain = true := by
    rintro s (huncertain | ⟨message, hs, herror⟩)
    · exact .inr huncertain
    · exact .inl ⟨message, hs, .inl herror⟩
  cases c with
  | sendAndReceive frame timeoutMs expected =>
    refine .bind ?_ fun _ => .pure fun _ hs => hs
    exact (triple_transact timeoutMs expected).conseq (fun _ h => h) (fun _ _ h => h)
      fun _ => hrefused
  | readVariable name timeoutMs =>
    refine .bind (.bind ?_ fun _ => .pure fun _ hs => hs) fun _ => .pure fun _ hs => hs
    exact (triple_transact timeoutMs _).conseq (fun _ h => h) (fun _ _ h => h) fun _ => hrefused
  | callMethod frame name okByte =>
    refine .get_bind fun s₁ hs₁ => .bind
      (Q := fun _ => Paired s₀ frame (some (CommandType.methodAnswer, name))) ?_ fun _ => ?_
    · subst hs₁
      exact (triple_transact _ _).conseq (fun _ h => h) (fun _ _ h => h) fun _ => hrefused
    · cases okByte with
      | none => exact .pure fun _ hs => hs
      | some ok => exact .ite (fun _ => .throw fun _ hs => .inl hs) fun _ => .pure fun _ hs => hs

end Exchange

/-! ## What holds in every sequence -/

/-- The message of the caller is fresh. -/
theorem Paired.of_fresh {s t : CommandChannel} {frame : List UInt8}
    {expected : Option (List UInt8 × List UInt8)}
    (h : Paired { s with response := none } frame expected t) : Paired s frame expected t := by
  obtain ⟨message, hs, hmessage⟩ := h
  exact ⟨message, ⟨hs.written, hs.taken, hs.response, hs.uncertain⟩, hmessage⟩

/-- **A call takes one frame, which is its answer, or it fails and leaves the channel
uncertain.** -/
theorem call_outcome (s : CommandChannel) (c : Call) :
    Paired s c.frame c.expected (s.call c).2 ∨
      (∃ ec, (s.call c).1 = .error ec) ∧ (s.call c).2.uncertain = true := by
  have hcall := triple_perform c { s with response := none } rfl
  unfold call
  cases hresult : c.perform.outcome { s with response := none } with
  | mk result after =>
    rw [hresult] at hcall
    cases result with
    | ok _ => exact .inl (Paired.of_fresh hcall)
    | error ec => exact hcall.imp Paired.of_fresh fun huncertain => ⟨⟨ec, rfl⟩, huncertain⟩

/-- An uncertain channel stays so, whatever is called. -/
theorem uncertain_call {s : CommandChannel} (h : s.uncertain = true) (c : Call) :
    (s.call c).2.uncertain = true := by
  rcases call_outcome s c with ⟨message, hs, _⟩ | ⟨_, huncertain⟩
  · exact hs.uncertain.trans h
  · exact huncertain

/-- Only `Reset` clears a channel. -/
theorem uncertain_run {s : CommandChannel} (h : s.uncertain = true) {actions : List Action}
    (hreset : Action.reset ∉ actions) : (s.run actions).uncertain = true := by
  unfold run
  induction actions generalizing s with
  | nil => exact h
  | cons action actions ih =>
    have hrest : Action.reset ∉ actions := fun hmem => hreset (List.mem_cons_of_mem _ hmem)
    rw [List.foldl_cons]
    cases action with
    | call c => exact ih (uncertain_call h c) hrest
    | reset => exact absurd List.mem_cons_self hreset
    | elsewhere f => exact ih (s := { s with link := f s.link }) h hrest

end CommandChannel

/-- **No reply is taken for another.**  In every sequence of calls, over every stream: a call behind
which the channel is not uncertain has taken one frame with a right checksum, which is an error of
the device or the answer that was expected, and so has a call that succeeds; and a channel that is
uncertain stays so until it is reset. -/
theorem replies_paired (s : CommandChannel) (actions : List CommandChannel.Action) :
    (∀ before c, (before, c) ∈ s.calls actions →
      (before.call c).2.uncertain = false ∨ (before.call c).1 = .ok () →
        CommandChannel.Paired before c.frame c.expected (before.call c).2) ∧
    (s.uncertain = true → CommandChannel.Action.reset ∉ actions →
      (s.run actions).uncertain = true) := by
  refine ⟨fun before c _ hgood => ?_, fun h hreset => CommandChannel.uncertain_run h hreset⟩
  rcases CommandChannel.call_outcome before c with hpaired | ⟨⟨ec, herror⟩, huncertain⟩
  · exact hpaired
  · rw [huncertain, herror] at hgood
    exact nomatch hgood

/-- The answer to a variable, behind which the answer to another one is left. -/
theorem replies_paired_of_status :
    let ask : CommandChannel.Call := .readVariable (ByteUtil.ascii "A") 1000
    let s : CommandChannel :=
      { responseTimeoutMs := 1000
        link :=
          { incoming :=
              CommandChannel.frameOf (ByteUtil.ascii "sRA A 1") ++
                CommandChannel.frameOf (ByteUtil.ascii "sRA B 2")
            answers := [{}, {}, {}] } }
    (s.call ask).2.uncertain = false ∧
      CommandChannel.Paired s ask.frame ask.expected (s.call ask).2 := by
  intro ask s
  have hcertain : (s.call ask).2.uncertain = false := by decide
  exact ⟨hcertain, (replies_paired s [.call ask]).1 s ask List.mem_cons_self (.inl hcertain)⟩

end Lms
end AmigaDrivers
