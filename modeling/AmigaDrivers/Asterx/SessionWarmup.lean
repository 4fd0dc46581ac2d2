import AmigaDrivers.Asterx.SbfWriteQueueCalls
import AmigaDrivers.Asterx.SessionFailFast

/-!
# The warm-up gate

What a session does about its warm-up gate, and what the gate therefore knows when it opens.

* `firstAccepted`, `lastStatus`: the block the recording time counts from, and the receiver
  status the gate has seen since the configuration was completed, read off the history.
* `GateMove`, `gate_step`: what one step does to the gate.
* `GateSound`: what the gate knows; every step keeps it.
* `gate_sound`: `Configured` is emitted only through an open gate.
-/

namespace AmigaDrivers
namespace Asterx
namespace Session

open SbfWriteQueue (Inner EnqueueCall)

/-! ## What the gate is about -/

/-- The receiver is configured. -/
def warm : SessionState → Bool
  | .warmingUp | .recording => true
  | .idle | .connecting | .waitingDescriptor | .configuring | .backoff | .stopping => false

/-- The time of the first block the queue has accepted; it accepts no empty block. -/
def firstAccepted : SessionHistory → Option Nat
  | [] => none
  | t :: history =>
    (firstAccepted history).or (if t.after.writer.accepted = [] then none else some t.after.clock)

/-- The step completes the configuration. -/
def completes (t : Taken Session SessionAction) : Bool := !warm t.before.state && warm t.after.state

/-- The receiver status a step of a configured session parses. -/
def parsedStatus (L : CommandLayer) (t : Taken Session SessionAction) : Option ReceiverStatus :=
  match t.action, t.before.pc with
  | .resume, .waiting (.enqueue block) =>
    if t.before.writer.returned = some true ∧ warm t.before.state = true then
      L.receiverStatus block.bytes
    else
      none
  | _, _ => none

/-- The receiver status parsed last, since the configuration was last completed. -/
def lastStatus (L : CommandLayer) : SessionHistory → Option ReceiverStatus
  | [] => none
  | t :: history => if completes t then none else (parsedStatus L t).or (lastStatus L history)

/-- The status says FINETIME. -/
def saysFinetime : Option ReceiverStatus → Bool
  | none => false
  | some status => status.rxStatus &&& WarmupGate.fineTime ≠ 0

/-- How often `Configured` has been emitted. -/
def configuredCount (s : Session) : Nat := s.notifications.count .configured

/-- The handler is in a call of `Enqueue`. -/
def inEnqueue : SessionPc → Bool
  | .waiting (.enqueue _) => true
  | .ready | .gateCheck | .backingOff | .calling _ | .waiting .start | .waiting (.close _) => false

/-! ## Handlers that leave the gate alone -/

variable {L : CommandLayer} {s s' t : Session} {history : SessionHistory}

/-- What no handler touches. -/
structure Frame (s s' : Session) : Prop where
  writer : s'.writer = s.writer
  clock : s'.clock = s.clock
  pc : inEnqueue s'.pc = true → s'.pc = s.pc

/-- Nothing happens to the gate, and `Configured` is not emitted. -/
structure Still (s s' : Session) : Prop extends Frame s s' where
  warmup : s'.warmup = s.warmup
  quiet : s'.configuredCount = s.configuredCount
  warm : warm s'.state = true → warm s.state = true

theorem Frame.trans (h : Frame s t) (h' : Frame t s') : Frame s s' where
  writer := h'.writer.trans h.writer
  clock := h'.clock.trans h.clock
  pc hpc := (h'.pc hpc).trans (h.pc (h'.pc hpc ▸ hpc))

theorem Still.refl (s : Session) : Still s s := ⟨⟨rfl, rfl, fun _ => rfl⟩, rfl, rfl, id⟩

theorem Still.trans (h : Still s t) (h' : Still t s') : Still s s' where
  toFrame := h.toFrame.trans h'.toFrame
  warmup := h'.warmup.trans h.warmup
  quiet := h'.quiet.trans h.quiet
  warm := h.warm ∘ h'.warm

/-- A handler that changes nothing the gate is about. -/
theorem Still.of_same
    (h : (s'.writer, s'.clock, s'.pc, s'.warmup, s'.notifications, s'.state) =
      (s.writer, s.clock, s.pc, s.warmup, s.notifications, s.state)) : Still s s' := by
  simp only [Prod.mk.injEq] at h
  obtain ⟨hwriter, hclock, hpc, hwarmup, hnotifications, hstate⟩ := h
  refine ⟨⟨hwriter, hclock, fun _ => hpc⟩, hwarmup, ?_, fun hwarm => hstate ▸ hwarm⟩
  unfold configuredCount
  rw [hnotifications]

/-- An error is counted. -/
theorem still_counted (s : Session) : Still s { s with recordingErrors := s.recordingErrors + 1 } :=
  .of_same rfl

theorem configuredCount_emit_fatalError (s : Session) :
    (s.emit .fatalError).configuredCount = s.configuredCount := by
  show (s.notifications ++ [Notification.fatalError]).count .configured = _
  rw [List.count_append]
  rfl

theorem still_emit_fatalError (s : Session) : Still s (s.emit .fatalError) :=
  ⟨⟨rfl, rfl, fun _ => rfl⟩, rfl, configuredCount_emit_fatalError s, id⟩

theorem still_shutdown (s : Session) (fatal : Bool) : Still s (s.shutdown fatal) := by
  unfold shutdown
  split_ifs
  · exact still_emit_fatalError s
  · exact .refl s
  · exact ⟨⟨rfl, rfl, nofun⟩, rfl, rfl, nofun⟩

theorem still_failStartup (s : Session) : Still s s.failStartup := by
  unfold failStartup
  split_ifs
  · exact .refl s
  · exact still_shutdown s true

theorem still_handleFailure (s : Session) : Still s s.handleFailure := by
  unfold handleFailure
  split
  · exact .refl s
  · have hcounted := still_counted s
    dsimp only
    split
    · exact hcounted.trans (still_failStartup _)
    · split
      · exact hcounted.trans (still_shutdown _ true)
      · exact ⟨⟨rfl, rfl, nofun⟩, rfl, rfl, nofun⟩

theorem still_onStreamDamage (s : Session) : Still s s.onStreamDamage := by
  unfold onStreamDamage
  split
  · exact .refl s
  · have hcounted := still_counted s
    dsimp only
    split
    · exact hcounted
    · exact hcounted.trans (still_shutdown _ true)

theorem still_onWriteFailed (s : Session) : Still s s.onWriteFailed := by
  unfold onWriteFailed
  split
  · exact .refl s
  · exact (still_counted s).trans (still_shutdown _ true)

theorem still_onCommunicationError (s : Session) (message : String) :
    Still s (s.onCommunicationError message) := by
  unfold onCommunicationError
  split_ifs
  · exact .refl s
  · have hcounted : Still s { s with lengthErrors := s.lengthErrors + 1 } := .of_same rfl
    exact hcounted.trans (still_onStreamDamage _)
  · exact still_handleFailure s

theorem still_onSbfBlock (s : Session) (block : QByteArray) : Still s (s.onSbfBlock block) := by
  unfold onSbfBlock
  split_ifs
  · exact .of_same rfl
  · exact .refl s
  · exact ⟨⟨rfl, rfl, nofun⟩, rfl, rfl, id⟩

theorem still_onFormattedInformationBlock (s : Session) (contents : String) :
    Still s (s.onFormattedInformationBlock contents) := by
  unfold onFormattedInformationBlock
  split
  · exact .refl s
  · exact .of_same rfl

theorem still_onReturn_close (cfg : SessionConfig) (s : Session) (fatal : Bool) :
    Still s (s.onReturn cfg (.close fatal)) := by
  have hready : Still s { s with pc := .ready } := ⟨⟨rfl, rfl, nofun⟩, rfl, rfl, id⟩
  have hfailed := hready.trans ((still_counted _).trans (still_emit_fatalError _))
  dsimp only [onReturn]
  split_ifs
  · exact hready.trans (still_emit_fatalError _)
  · exact hfailed.trans (still_emit_fatalError _)
  · exact hready
  · exact hfailed

/-! ## The moves of the gate -/

/-- The gate behind an accepted block. -/
def acceptedBlock (s : Session) (block : QByteArray) : WarmupGate :=
  if block.bytes = [] then s.warmup else s.warmup.startRecording s.clock

/-- What one step does to the gate. -/
inductive GateMove (cfg : SessionConfig) (s : Session) (a : SessionAction) (s' : Session) : Prop
  | still (hparsed : parsedStatus cfg.layer ⟨s, a, s'⟩ = none) (h : Still s s')
  | outside (hparsed : parsedStatus cfg.layer ⟨s, a, s'⟩ = none)
      (hsame : (s'.state, s'.warmup, s'.notifications) = (s.state, s.warmup, s.notifications))
      (hclock : s.clock ≤ s'.clock)
      (hcall : inEnqueue s'.pc = true →
        s'.pc = s.pc ∧ (s'.writer = s.writer ∨ Inner s.writer s'.writer) ∨
          ∃ block, s'.pc = .waiting (.enqueue block) ∧
            s.writer.step (.call (.enqueue block)) = some s'.writer)
      (haccepted : s.writer.accepted <+: s'.writer.accepted)
  | start (ha : a = .event .start) (h : s' = s.start cfg)
  | reset (hparsed : parsedStatus cfg.layer ⟨s, a, s'⟩ = none) (hframe : Frame s s')
      (hcold : warm s'.state = true → warm s.state = false)
      (hwarmup : s'.warmup = s.warmup.resetReceiverStatus)
      (hcount : s'.configuredCount = s.configuredCount ∨
        s.rx = true ∧ s.writer.failed = false ∧ s'.warmup.ready s.clock = true)
  | record (hparsed : parsedStatus cfg.layer ⟨s, a, s'⟩ = none) (hframe : Frame s s')
      (hwarm : s.state = .warmingUp) (hwarmup : s'.warmup = s.warmup)
      (hready : s.warmup.ready s.clock = true) (hfailed : s.writer.failed = false)
  | accept {block : QByteArray} (ha : a = .resume) (hpc : s.pc = .waiting (.enqueue block))
      (hidle : s.writer.ownerPc = .idle) (hqueued : s.writer.returned = some true)
      (hframe : Frame s s') (hcount : s'.configuredCount = s.configuredCount)
      (hwarm : warm s'.state = true → warm s.state = true)
      (hwarmup : s'.warmup =
        if warm s.state then
          match cfg.layer.receiverStatus block.bytes with
          | none => s.acceptedBlock block
          | some status => ((s.acceptedBlock block).observe status.upTime status.rxStatus).1
        else s.acceptedBlock block)

/-- `EnterRecording` behind a gate that is ready. -/
theorem gateMove_enterRecording {cfg : SessionConfig} {a : SessionAction}
    (hparsed : ∀ u, parsedStatus cfg.layer ⟨s, a, u⟩ = none) (h : Still s t)
    (hstate : t.state = s.state) (hwarm : s.state = .warmingUp)
    (hready : s.warmup.ready s.clock = true) : GateMove cfg s a t.enterRecording := by
  unfold enterRecording
  rw [if_neg (not_not.mpr (hstate.trans hwarm))]
  split
  · exact .still (hparsed _) (h.trans (still_onWriteFailed t))
  · rename_i hfailed
    rw [Bool.not_eq_true, h.writer] at hfailed
    exact .record (hparsed _) ⟨h.writer, h.clock, h.pc⟩ hwarm h.warmup hready hfailed

/-- `SendCurrentCommand` of a session that is not configured yet. -/
theorem gateMove_sendCurrentCommand {cfg : SessionConfig} {a : SessionAction}
    (hparsed : ∀ u, parsedStatus cfg.layer ⟨s, a, u⟩ = none) (hrx : s.rx = true) (h : Still s t)
    (hcold : warm s.state = false) : GateMove cfg s a t.sendCurrentCommand := by
  unfold sendCurrentCommand
  split
  · have hframe (u : Session) (hu : Frame t u) : Frame s u := h.toFrame.trans hu
    have hwarmup : t.warmup.resetReceiverStatus = s.warmup.resetReceiverStatus := by rw [h.warmup]
    unfold enterWarmup
    dsimp only
    split
    · rename_i hready
      unfold enterRecording
      rw [if_neg (not_not.mpr rfl)]
      split
      · have hfailure := still_onWriteFailed
          { t with
            state := .warmingUp
            everConfigured := true
            timers := { t.timers with command := none, watchdog := some t.clock }
            warmup := t.warmup.resetReceiverStatus }
        refine .reset (hparsed _) (hframe _ ?_) (fun _ => hcold) (hfailure.warmup.trans hwarmup)
          (.inl (hfailure.quiet.trans h.quiet))
        exact ⟨hfailure.writer, hfailure.clock, hfailure.pc⟩
      · rename_i hfailed
        rw [Bool.not_eq_true] at hfailed
        refine .reset (hparsed _) (hframe _ ⟨rfl, rfl, fun _ => rfl⟩) (fun _ => hcold) hwarmup
          (.inr ⟨hrx, h.writer ▸ hfailed, h.clock ▸ hready⟩)
    · exact .reset (hparsed _) (hframe _ ⟨rfl, rfl, fun _ => rfl⟩) (fun _ => hcold) hwarmup
        (.inl h.quiet)
  · exact .still (hparsed _) (h.trans (.of_same rfl))

theorem rx_of_enabled {e : SessionEvent} (h : s.enabled e = true) (hnested : s.nested e = false)
    (hpending : s.pending e = s.rx) : s.rx = true := by
  have hready := ready_of_enabled h hnested
  unfold enabled at h
  rw [hready] at h
  exact hpending ▸ h

theorem gateMove_onConnectionDescriptor {cfg : SessionConfig} {d : String}
    (h : s.enabled (.newConnectionDescriptor d) = true) :
    GateMove cfg s (.event (.newConnectionDescriptor d)) (onConnectionDescriptor cfg.layer s d) := by
  have hsame : Still s { s with descriptor := d } := .of_same rfl
  unfold onConnectionDescriptor
  dsimp only
  split
  · exact .still rfl hsame
  · rename_i hstate
    rw [not_not] at hstate
    split
    · exact .still rfl (hsame.trans (still_failStartup _))
    · refine gateMove_sendCurrentCommand (fun _ => rfl) (rx_of_enabled h rfl rfl) ?_ ?_
      · exact ⟨⟨rfl, rfl, fun _ => rfl⟩, rfl, rfl, nofun⟩
      · rw [hstate]
        rfl

theorem gateMove_handleCommandReply {cfg : SessionConfig} {reply : String} {error : Bool}
    (h : s.enabled (.newCommandReply reply error) = true) :
    GateMove cfg s (.event (.newCommandReply reply error))
      (handleCommandReply cfg.layer s reply error) := by
  have hstopped : Still s { s with timers := { s.timers with command := none } } := .of_same rfl
  have hfailed := hstopped.trans (still_handleFailure _)
  unfold handleCommandReply
  split
  · exact .still rfl (.refl s)
  · rename_i hstate
    rw [not_not] at hstate
    split
    · exact .still rfl (.refl s)
    · dsimp only
      split
      · exact .still rfl (.refl s)
      · split
        · exact .still rfl hfailed
        · split
          · exact .still rfl hfailed
          · split
            · exact .still rfl (.of_same rfl)
            · split
              · exact .still rfl hfailed
              · refine gateMove_sendCurrentCommand (fun _ => rfl) (rx_of_enabled h rfl rfl)
                  (.of_same rfl) ?_
                rw [hstate]
                rfl

theorem gateMove_onPrompt {cfg : SessionConfig} (h : s.enabled .newPrompt = true) :
    GateMove cfg s (.event .newPrompt) (onPrompt cfg.layer s) := by
  unfold onPrompt
  split
  · rename_i hlisting
    split
    · exact .still rfl (.refl s)
    · unfold completeListCommand
      dsimp only
      split
      · have hstopped : Still s { s with timers := { s.timers with command := none } } :=
          .of_same rfl
        exact .still rfl (hstopped.trans (still_handleFailure _))
      · refine gateMove_sendCurrentCommand (fun _ => rfl) (rx_of_enabled h rfl rfl)
          (.of_same rfl) ?_
        rw [hlisting.1]
        rfl
  · exact .still rfl (.refl s)

theorem gateMove_onTimeout {cfg : SessionConfig} (s : Session) (timer : SessionTimer) :
    GateMove cfg s (.event (.timeout timer)) (s.onTimeout timer) := by
  have hfired : Still s { s with timers := s.timers.fire timer } := .of_same rfl
  unfold onTimeout
  dsimp only
  cases timer with
  | connect =>
    dsimp only
    split
    · exact .still rfl (hfired.trans (still_handleFailure _))
    · exact .still rfl hfired
  | retry =>
    dsimp only
    split
    · exact .reset rfl ⟨rfl, rfl, fun _ => rfl⟩ nofun rfl (.inl rfl)
    · exact .still rfl hfired
  | recovery => exact .still rfl (hfired.trans (still_failStartup _))
  | watchdog =>
    dsimp only [onWatchdog]
    split
    · exact .still rfl hfired
    · exact .still rfl (hfired.trans (still_handleFailure _))
  | command =>
    dsimp only [onCommandTimeout]
    split
    · exact .still rfl hfired
    · exact .still rfl (hfired.trans (still_handleFailure _))
  | stats => exact .still rfl hfired
  | warmupLog =>
    dsimp only
    split
    · rename_i hready
      exact gateMove_enterRecording (fun _ => rfl) hfired rfl hready.1 hready.2
    · exact .still rfl hfired

theorem gateMove_handle (cfg : SessionConfig) {e : SessionEvent} (h : s.enabled e = true) :
    GateMove cfg s (.event e) (s.handle cfg e) := by
  cases e with
  | start => exact .start rfl rfl
  | shutdown => exact .still rfl (still_shutdown s false)
  | connected => exact .still rfl ⟨⟨rfl, rfl, fun _ => rfl⟩, rfl, rfl, nofun⟩
  | newConnectionDescriptor d => exact gateMove_onConnectionDescriptor h
  | newCommandReply reply error => exact gateMove_handleCommandReply h
  | newFormattedInformationBlock contents =>
    exact .still rfl (still_onFormattedInformationBlock s contents)
  | newPrompt => exact gateMove_onPrompt h
  | newSBFBlock block => exact .still rfl (still_onSbfBlock s block)
  | sbfCRCError =>
    have hcounted : Still s { s with crcErrors := s.crcErrors + 1 } := .of_same rfl
    exact .still rfl (hcounted.trans (still_onStreamDamage _))
  | discardedBytes n => exact .still rfl (.of_same rfl)
  | communicationError message => exact .still rfl (still_onCommunicationError s message)
  | connectionClosed => exact .still rfl (still_handleFailure s)
  | timeout timer => exact gateMove_onTimeout s timer
  | writeFailed =>
    have htaken : Still s { s with posted := s.posted - 1 } := .of_same rfl
    exact .still rfl (htaken.trans (still_onWriteFailed _))

/-- A block that has been accepted is looked at. -/
theorem onReceiverStatus_gate (L : CommandLayer) (s : Session) (block : QByteArray) :
    Frame s (onReceiverStatus L s block) ∧
      (onReceiverStatus L s block).configuredCount = s.configuredCount ∧
      (warm (onReceiverStatus L s block).state = true → warm s.state = true) ∧
      (onReceiverStatus L s block).warmup =
        match L.receiverStatus block.bytes with
        | none => s.warmup
        | some status => (s.warmup.observe status.upTime status.rxStatus).1 := by
  unfold onReceiverStatus
  cases L.receiverStatus block.bytes with
  | none => exact ⟨⟨rfl, rfl, fun _ => rfl⟩, rfl, id, rfl⟩
  | some status =>
    dsimp only
    split
    · split_ifs <;> exact ⟨⟨rfl, rfl, fun _ => rfl⟩, rfl, id, rfl⟩
    · split
      · have hstop := still_shutdown
          { s with
            warmup := (s.warmup.observe status.upTime status.rxStatus).1
            recordingErrors := s.recordingErrors + 1 } true
        exact ⟨⟨hstop.writer, hstop.clock, hstop.pc⟩, hstop.quiet, hstop.warm, hstop.warmup⟩
      · exact ⟨⟨rfl, rfl, fun _ => rfl⟩, rfl, id, rfl⟩

theorem gateMove_onEnqueued (cfg : SessionConfig) {block : QByteArray}
    (hpc : s.pc = .waiting (.enqueue block)) (hidle : s.writer.ownerPc = .idle) :
    GateMove cfg s .resume (s.onReturn cfg (.enqueue block)) := by
  have hready : Still s { s with pc := .ready } := ⟨⟨rfl, rfl, nofun⟩, rfl, rfl, id⟩
  dsimp only [onReturn]
  unfold onEnqueued
  by_cases hqueued : s.writer.returned = some true
  · rw [if_neg (by simp [hqueued])]
    have hgate : Frame s
        { s with
          pc := .gateCheck
          warmup := s.acceptedBlock block } := ⟨rfl, rfl, nofun⟩
    dsimp only
    split
    · rename_i hstate
      have hwarm : warm s.state = true := by
        obtain hstate | hstate := hstate <;> rw [hstate] <;> rfl
      obtain ⟨hframe, hcount, hwarm', hwarmup⟩ := onReceiverStatus_gate cfg.layer
        { s with
          pc := .gateCheck
          warmup := s.acceptedBlock block
          timers := { s.timers with watchdog := some s.clock } } block
      refine .accept rfl hpc hidle hqueued ?_ hcount hwarm' ?_
      · exact hgate.trans ⟨hframe.writer, hframe.clock, hframe.pc⟩
      · rw [if_pos hwarm]
        exact hwarmup
    · rename_i hstate
      have hcold : warm s.state = false := by
        rw [not_or] at hstate
        generalize s.state = state at hstate
        cases state <;> first | rfl | exact absurd rfl hstate.1 | exact absurd rfl hstate.2
      refine .accept rfl hpc hidle hqueued hgate rfl id ?_
      rw [hcold]
      rfl
  · rw [if_pos (by simp [hqueued])]
    refine .still ?_ (hready.trans ((still_counted _).trans (still_shutdown _ true)))
    dsimp only [parsedStatus]
    rw [hpc]
    exact if_neg fun h => hqueued h.1

theorem gateMove_resume (cfg : SessionConfig) (h : s.resume cfg = some s') :
    GateMove cfg s .resume s' := by
  have hparsed (hpc : ∀ block, s.pc ≠ .waiting (.enqueue block)) (u : Session) :
      parsedStatus cfg.layer ⟨s, .resume, u⟩ = none := by
    dsimp only [parsedStatus]
    split
    · rename_i block _ hwaiting
      exact absurd hwaiting (hpc block)
    · rfl
  unfold resume at h
  split at h
  case h_1 => exact nomatch h
  case h_2 c hcalling =>
    obtain ⟨writer, hcall, rfl⟩ := Option.map_eq_some_iff.mp h
    refine .outside (hparsed (by rw [hcalling]; exact fun _ => nofun) _) rfl (Nat.le_refl _) ?_ ?_
    · intro hin
      cases c with
      | enqueue block => exact .inr ⟨block, rfl, hcall⟩
      | start | close => exact nomatch hin
    · exact SbfWriteQueue.accepted_prefix (.of_step hcall)
  case h_3 c hwaiting =>
    split_ifs at h with hidle
    obtain rfl := Option.some.inj h
    cases c with
    | start =>
      refine .reset (hparsed (by rw [hwaiting]; exact fun _ => nofun) _) ⟨rfl, rfl, nofun⟩ nofun rfl
        (.inl rfl)
    | enqueue block => exact gateMove_onEnqueued cfg hwaiting hidle
    | close fatal =>
      exact .still (hparsed (by rw [hwaiting]; exact fun _ => nofun) _)
        (still_onReturn_close cfg s fatal)
  case h_4 hgate =>
    obtain rfl := Option.some.inj h
    have hnone := hparsed (by rw [hgate]; exact fun _ => nofun)
    have hready : Still s { s with pc := .ready } := ⟨⟨rfl, rfl, nofun⟩, rfl, rfl, id⟩
    unfold askGate
    dsimp only
    split
    · rename_i hopen
      exact gateMove_enterRecording hnone hready rfl hopen.1 hopen.2
    · exact .still (hnone _) hready
  case h_5 hback =>
    obtain rfl := Option.some.inj h
    refine .still (hparsed (by rw [hback]; exact fun _ => nofun) _) ?_
    exact ⟨⟨rfl, rfl, nofun⟩, rfl, rfl, id⟩

/-- **What one step does to the gate.** -/
theorem gate_step (cfg : SessionConfig) {a : SessionAction} (h : step cfg s a = some s') :
    GateMove cfg s a s' := by
  cases a with
  | event e =>
    dsimp only [step] at h
    split_ifs at h with henabled
    exact Option.some.inj h ▸ gateMove_handle cfg henabled
  | resume => exact gateMove_resume cfg h
  | queueOwner r =>
    dsimp only [step] at h
    split at h
    · obtain ⟨writer, hwriter, rfl⟩ := Option.map_eq_some_iff.mp h
      refine .outside rfl rfl (Nat.le_refl _) (fun _ => .inl ⟨rfl, .inr (.owner hwriter)⟩) ?_
      exact SbfWriteQueue.accepted_prefix (.of_step hwriter)
    · exact nomatch h
  | queueWriter r =>
    obtain ⟨writer, hwriter, rfl⟩ := Option.map_eq_some_iff.mp h
    refine .outside rfl rfl (Nat.le_refl _) (fun _ => .inl ⟨rfl, .inr (.writer hwriter)⟩) ?_
    exact SbfWriteQueue.accepted_prefix (.of_step hwriter)
  | tick elapsed =>
    obtain rfl := Option.some.inj h
    exact .outside rfl rfl (Nat.le_add_right _ _) (fun _ => .inl ⟨rfl, .inl rfl⟩) List.prefix_rfl

/-! ## A session that has not been started -/

/-- Nothing but a `Shutdown` has happened. -/
structure Untouched (s : Session) : Prop where
  rx : s.rx = false
  state : s.state = .idle ∨ s.state = .stopping
  pc : s.pc = .ready ∨ ∃ fatal, s.pc = .calling (.close fatal) ∨ s.pc = .waiting (.close fatal)

theorem Untouched.of_same (hs : s.Untouched)
    (h : (s'.rx, s'.state, s'.pc) = (s.rx, s.state, s.pc)) : s'.Untouched := by
  simp only [Prod.mk.injEq] at h
  obtain ⟨hrx, hstate, hpc⟩ := h
  refine ⟨?_, ?_, ?_⟩
  · rw [hrx, hs.rx]
  · rw [hstate]
    exact hs.state
  · rw [hpc]
    exact hs.pc

theorem Untouched.shutdown (hs : s.Untouched) (fatal : Bool) : (s.shutdown fatal).Untouched := by
  unfold Session.shutdown
  split_ifs
  · exact hs.of_same rfl
  · exact hs
  · exact ⟨hs.rx, .inr rfl, .inr ⟨fatal, .inl rfl⟩⟩

theorem Untouched.onTimeout (hs : s.Untouched) (timer : SessionTimer) :
    (s.onTimeout timer).Untouched := by
  have hnot (state : SessionState) (h : state ≠ .idle ∧ state ≠ .stopping) : s.state ≠ state := by
    obtain hstate | hstate := hs.state <;> rw [hstate]
    · exact h.1.symm
    · exact h.2.symm
  have hfired : ({ s with timers := s.timers.fire timer } : Session).Untouched := hs.of_same rfl
  unfold Session.onTimeout
  cases timer with
  | connect =>
    dsimp only
    rw [if_neg (hnot .connecting (by decide))]
    exact hfired
  | retry =>
    dsimp only
    rw [if_neg (hnot .backoff (by decide))]
    exact hfired
  | recovery =>
    dsimp only [failStartup]
    split
    · exact hfired
    · exact hfired.shutdown true
  | watchdog =>
    dsimp only [onWatchdog]
    rw [if_pos ⟨hnot .recording (by decide), hnot .warmingUp (by decide)⟩]
    exact hfired
  | command =>
    dsimp only [onCommandTimeout]
    rw [if_pos ⟨hnot .configuring (by decide), hnot .waitingDescriptor (by decide)⟩]
    exact hfired
  | stats => exact hfired
  | warmupLog =>
    dsimp only
    rw [if_neg fun h => hnot .warmingUp (by decide) h.1]
    exact hfired

theorem Untouched.handle {cfg : SessionConfig} {e : SessionEvent} (hs : s.Untouched)
    (he : e ≠ .start) (h : s.enabled e = true) : (s.handle cfg e).Untouched := by
  have hpending : s.pending e = true ∨ s.nested e = true := by
    unfold enabled at h
    split at h
    · exact .inl h
    · exact .inr h
    · exact .inr h
    · exact nomatch h
  have hsilent (h : s.pending e = s.rx) (h' : s.nested e = s.rx ∨ s.nested e = false) : False := by
    rw [h, hs.rx] at hpending
    obtain h' | h' := h' <;> rw [h'] at hpending
    · rw [hs.rx] at hpending
      obtain h | h := hpending <;> exact nomatch h
    · obtain h | h := hpending <;> exact nomatch h
  cases e with
  | start => exact absurd rfl he
  | shutdown => exact hs.shutdown false
  | timeout timer => exact hs.onTimeout timer
  | writeFailed =>
    dsimp only [Session.handle, onWriteFailed]
    split
    · exact hs.of_same rfl
    · have hcounted : ({ s with
          posted := s.posted - 1
          recordingErrors := s.recordingErrors + 1 } : Session).Untouched := hs.of_same rfl
      exact hcounted.shutdown true
  | communicationError | connectionClosed => exact (hsilent rfl (.inl rfl)).elim
  | _ => exact (hsilent rfl (.inr rfl)).elim

theorem Untouched.step {cfg : SessionConfig} {a : SessionAction} (hs : s.Untouched)
    (ha : a ≠ .event .start) (h : step cfg s a = some s') : s'.Untouched := by
  cases a with
  | event e =>
    unfold Session.step at h
    dsimp only at h
    split_ifs at h with henabled
    exact Option.some.inj h ▸ hs.handle (fun he => ha (he ▸ rfl)) henabled
  | resume =>
    change resume cfg s = some s' at h
    unfold resume at h
    obtain hpc | ⟨fatal, hpc | hpc⟩ := hs.pc <;> rw [hpc] at h
    · exact nomatch h
    · obtain ⟨writer, -, rfl⟩ := Option.map_eq_some_iff.mp h
      exact ⟨hs.rx, hs.state, .inr ⟨fatal, .inr rfl⟩⟩
    · dsimp only at h
      split_ifs at h
      obtain rfl := Option.some.inj h
      dsimp only [onReturn]
      split_ifs <;> exact ⟨hs.rx, hs.state, .inl rfl⟩
  | queueOwner r =>
    unfold Session.step at h
    dsimp only at h
    split at h
    · obtain ⟨writer, -, rfl⟩ := Option.map_eq_some_iff.mp h
      exact hs.of_same rfl
    · exact nomatch h
  | queueWriter r =>
    obtain ⟨writer, -, rfl⟩ := Option.map_eq_some_iff.mp h
    exact hs.of_same rfl
  | tick elapsed =>
    obtain rfl := Option.some.inj h
    exact hs.of_same rfl

/-! ## What the gate knows -/

theorem firstAccepted_cons {t₀ : Nat} (h : firstAccepted history = some t₀)
    (t : Taken Session SessionAction) : firstAccepted (t :: history) = some t₀ := by
  rw [firstAccepted, h]
  rfl

/-- What the gate and its surroundings know. -/
structure GateSound (cfg : SessionConfig) (s : Session) (history : SessionHistory) : Prop where
  settings : startCalled history = true →
    s.warmup.minRecordingS = cfg.minRecordingS ∧ s.warmup.requireFinetime = cfg.requireFinetime
  untouched : startCalled history = false → s.Untouched
  past : ∀ t₀, firstAccepted history = some t₀ → t₀ ≤ s.clock
  accepted : s.writer.accepted ≠ [] → ∃ t₀, firstAccepted history = some t₀
  call : ∀ block, s.pc = .waiting (.enqueue block) → ∃ before, EnqueueCall before block s.writer
  started : ∀ r, s.warmup.recordingStarted = some r → ∃ t₀, firstAccepted history = some t₀ ∧ t₀ ≤ r
  finetime : warm s.state = true → s.warmup.finetime = true →
    saysFinetime (lastStatus cfg.layer history) = true

variable {cfg : SessionConfig} {a : SessionAction}

theorem GateMove.clock_le (h : GateMove cfg s a s') : s.clock ≤ s'.clock := by
  cases h with
  | still _ h => exact Nat.le_of_eq h.clock.symm
  | outside _ _ hclock => exact hclock
  | start _ h => exact h ▸ Nat.le_refl _
  | reset _ hframe | record _ hframe | accept _ _ _ _ hframe => exact Nat.le_of_eq hframe.clock.symm

theorem GateMove.accepted (h : GateMove cfg s a s') : s.writer.accepted <+: s'.writer.accepted := by
  cases h with
  | still _ h => exact h.writer ▸ List.prefix_rfl
  | outside _ _ _ _ haccepted => exact haccepted
  | start _ h => exact h ▸ List.prefix_rfl
  | reset _ hframe | record _ hframe | accept _ _ _ _ hframe => exact hframe.writer ▸ List.prefix_rfl

/-- The settings of the gate change only in `Start`. -/
theorem GateMove.settings (h : GateMove cfg s a s') (ha : a ≠ .event .start) :
    s'.warmup.minRecordingS = s.warmup.minRecordingS ∧
      s'.warmup.requireFinetime = s.warmup.requireFinetime := by
  cases h with
  | still _ h => exact h.warmup ▸ ⟨rfl, rfl⟩
  | outside _ hsame =>
    simp only [Prod.mk.injEq] at hsame
    exact hsame.2.1 ▸ ⟨rfl, rfl⟩
  | start h => exact absurd h ha
  | reset _ _ _ hwarmup => exact hwarmup ▸ ⟨rfl, rfl⟩
  | record _ _ _ hwarmup => exact hwarmup ▸ ⟨rfl, rfl⟩
  | @accept block _ _ _ _ _ _ _ hwarmup =>
    have haccepted : (s.acceptedBlock block).minRecordingS = s.warmup.minRecordingS ∧
        (s.acceptedBlock block).requireFinetime = s.warmup.requireFinetime := by
      unfold acceptedBlock WarmupGate.startRecording
      split_ifs
      · exact ⟨rfl, rfl⟩
      · split <;> exact ⟨rfl, rfl⟩
    rw [hwarmup]
    split
    · split <;> exact haccepted
    · exact haccepted

/-- In `Enqueue`, the queue is in that call. -/
theorem GateSound.call_step (hs : GateSound cfg s history) (h : GateMove cfg s a s')
    (block : QByteArray) (hpc : s'.pc = .waiting (.enqueue block)) :
    ∃ before, EnqueueCall before block s'.writer := by
  have hin : inEnqueue s'.pc = true := hpc ▸ rfl
  have hframe (hframe : Frame s s') : ∃ before, EnqueueCall before block s'.writer := by
    rw [hframe.writer]
    exact hs.call block (hframe.pc hin ▸ hpc)
  cases h with
  | still _ h => exact hframe h.toFrame
  | outside _ _ _ hcall =>
    obtain ⟨hsame, hwriter⟩ | ⟨block', hpc', hcall⟩ := hcall hin
    · obtain ⟨before, hbefore⟩ := hs.call block (hsame ▸ hpc)
      obtain hwriter | hinner := hwriter
      · exact ⟨before, hwriter ▸ hbefore⟩
      · exact ⟨before, hbefore.step hinner⟩
    · rw [hpc] at hpc'
      cases hpc'
      exact ⟨s.writer.accepted, .of_call hcall⟩
  | start _ h =>
    rw [h] at hpc
    exact nomatch hpc
  | reset _ h | record _ h | accept _ _ _ _ h => exact hframe h

/-- The recording time counts from a block that has been accepted. -/
theorem GateSound.started_step (hs : GateSound cfg s history) (h : GateMove cfg s a s') (r : Nat)
    (hr : s'.warmup.recordingStarted = some r) :
    s.warmup.recordingStarted = some r ∨ s.writer.accepted ≠ [] ∧ r = s.clock := by
  cases h with
  | still _ h => exact .inl (h.warmup ▸ hr)
  | outside _ hsame =>
    simp only [Prod.mk.injEq] at hsame
    exact .inl (hsame.2.1 ▸ hr)
  | start _ h =>
    rw [h] at hr
    cases hr
  | reset _ _ _ hwarmup =>
    rw [hwarmup] at hr
    exact .inl hr
  | record _ _ _ hwarmup => exact .inl (hwarmup ▸ hr)
  | @accept block _ hpc hidle hqueued _ _ _ hwarmup =>
    have hblock : (s.acceptedBlock block).recordingStarted = some r := by
      rw [hwarmup] at hr
      split at hr
      · split at hr <;> exact hr
      · exact hr
    unfold acceptedBlock WarmupGate.startRecording at hblock
    split_ifs at hblock with hempty
    · exact .inl hblock
    · split at hblock
      · refine .inr ⟨?_, (Option.some.inj hblock).symm⟩
        obtain ⟨before, hcall⟩ := hs.call block hpc
        obtain ⟨hbusy | ⟨_, hbusy⟩, -⟩ | ⟨-, -, haccepted⟩ | ⟨-, hrefused, -⟩ := hcall
        · cases hidle.symm.trans hbusy
        · cases hidle.symm.trans hbusy
        · rw [haccepted, nonEmpty, if_neg hempty]
          exact List.append_ne_nil_of_right_ne_nil before (List.cons_ne_nil _ _)
        · cases hqueued.symm.trans hrefused
      · exact .inl hblock

/-- A step of a session that stays configured sees the statuses the gate sees. -/
theorem lastStatus_of_parsed_none (hwarm : warm s.state = true)
    (hparsed : parsedStatus L ⟨s, a, s'⟩ = none) :
    lastStatus L (⟨s, a, s'⟩ :: history) = lastStatus L history := by
  have hcompletes : completes ⟨s, a, s'⟩ = false := by
    dsimp only [completes]
    rw [hwarm]
    rfl
  rw [lastStatus, hcompletes, hparsed]
  rfl

/-- **What the gate says of FINETIME, the last status has said.** -/
theorem GateSound.finetime_step (hs : GateSound cfg s history) (h : GateMove cfg s a s')
    (hwarm : warm s'.state = true) (hfinetime : s'.warmup.finetime = true) :
    saysFinetime (lastStatus cfg.layer (⟨s, a, s'⟩ :: history)) = true := by
  cases h with
  | still hparsed h =>
    rw [lastStatus_of_parsed_none (h.warm hwarm) hparsed]
    exact hs.finetime (h.warm hwarm) (h.warmup ▸ hfinetime)
  | outside hparsed hsame =>
    simp only [Prod.mk.injEq] at hsame
    obtain ⟨hstate, hwarmup, -⟩ := hsame
    rw [hstate] at hwarm
    rw [lastStatus_of_parsed_none hwarm hparsed]
    exact hs.finetime hwarm (hwarmup ▸ hfinetime)
  | start _ h =>
    rw [h] at hfinetime
    exact nomatch hfinetime
  | reset _ _ _ hwarmup =>
    rw [hwarmup] at hfinetime
    exact nomatch hfinetime
  | record hparsed hframe hstate hwarmup =>
    have hwarm' : warm s.state = true := hstate ▸ rfl
    rw [lastStatus_of_parsed_none hwarm' hparsed]
    exact hs.finetime hwarm' (hwarmup ▸ hfinetime)
  | @accept block ha hpc hidle hqueued hframe hcount hwarm' hwarmup =>
    have hwarmed := hwarm' hwarm
    have hcompletes : completes ⟨s, a, s'⟩ = false := by
      dsimp only [completes]
      rw [hwarmed]
      rfl
    have hparsed : parsedStatus cfg.layer ⟨s, a, s'⟩ = cfg.layer.receiverStatus block.bytes := by
      subst ha
      dsimp only [parsedStatus]
      rw [hpc]
      exact if_pos ⟨hqueued, hwarmed⟩
    have hblock : (s.acceptedBlock block).finetime = s.warmup.finetime := by
      unfold acceptedBlock WarmupGate.startRecording
      split_ifs
      · rfl
      · split <;> rfl
    rw [lastStatus, hcompletes, hparsed]
    rw [hwarmup, if_pos hwarmed] at hfinetime
    cases hstatus : cfg.layer.receiverStatus block.bytes with
    | none =>
      rw [hstatus] at hfinetime
      exact hs.finetime hwarmed (hblock ▸ hfinetime)
    | some status =>
      rw [hstatus] at hfinetime
      exact hfinetime

theorem startCalled_cons_of_ne (ha : a ≠ .event .start) :
    startCalled (⟨s, a, s'⟩ :: history) = startCalled history := by
  rw [startCalled_cons]
  dsimp only
  split
  · exact absurd rfl ha
  · rfl

/-- **Every step keeps what the gate knows.** -/
theorem GateSound.step (hs : GateSound cfg s history) (h : Session.step cfg s a = some s') :
    GateSound cfg s' (⟨s, a, s'⟩ :: history) := by
  have hmove := gate_step cfg h
  have hclock := hmove.clock_le
  have hpast (t₀ : Nat) (ht₀ : firstAccepted (⟨s, a, s'⟩ :: history) = some t₀) : t₀ ≤ s'.clock := by
    rw [firstAccepted] at ht₀
    cases hfirst : firstAccepted history with
    | some t₁ =>
      rw [hfirst] at ht₀
      exact Option.some.inj ht₀ ▸ Nat.le_trans (hs.past t₁ hfirst) hclock
    | none =>
      rw [hfirst] at ht₀
      dsimp only [Option.or] at ht₀
      split_ifs at ht₀
      exact Nat.le_of_eq (Option.some.inj ht₀).symm
  refine ⟨?_, ?_, hpast, ?_, hs.call_step hmove, ?_, hs.finetime_step hmove⟩
  · intro hcalled
    by_cases ha : a = .event .start
    · subst ha
      unfold Session.step at h
      dsimp only at h
      split_ifs at h
      exact Option.some.inj h ▸ ⟨rfl, rfl⟩
    · rw [startCalled_cons_of_ne ha] at hcalled
      obtain ⟨hmin, hfinetime⟩ := hmove.settings ha
      rw [hmin, hfinetime]
      exact hs.settings hcalled
  · intro hnone
    have ha : a ≠ .event .start := by
      rintro rfl
      exact nomatch hnone
    rw [startCalled_cons_of_ne ha] at hnone
    exact (hs.untouched hnone).step ha h
  · intro haccepted
    rw [firstAccepted]
    cases firstAccepted history with
    | some t₁ => exact ⟨t₁, rfl⟩
    | none => exact ⟨s'.clock, if_neg haccepted⟩
  · intro r hr
    obtain hr | ⟨haccepted, rfl⟩ := hs.started_step hmove r hr
    · obtain ⟨t₀, ht₀, hle⟩ := hs.started r hr
      exact ⟨t₀, firstAccepted_cons ht₀ _, hle⟩
    · obtain ⟨t₀, ht₀⟩ := hs.accepted haccepted
      exact ⟨t₀, firstAccepted_cons ht₀ _, hs.past t₀ ht₀⟩

theorem gateSound_of_reachable {x : Session × SessionHistory}
    (h : (system cfg).recorded.Reachable x) : GateSound cfg x.1 x.2 := by
  refine h.invariant (P := fun x => GateSound cfg x.1 x.2) ?_ ?_
  · rintro ⟨s, history⟩ ⟨rfl, rfl⟩
    exact ⟨nofun, fun _ => ⟨rfl, .inl rfl, .inl rfl⟩, nofun, fun h => absurd rfl h, nofun, nofun,
      nofun⟩
  · rintro ⟨s, history⟩ a ⟨s', history'⟩ hs hstep
    obtain ⟨hstep, hhistory⟩ := StepSystem.recorded_step hstep
    dsimp only at hhistory
    rw [hhistory]
    exact hs.step hstep

/-! ## The gate is sound -/

/-- `Configured` is emitted by a started session whose gate is ready and whose queue has not
failed; a gate that has just been reset does not know FINETIME. -/
theorem GateMove.opened (hs : GateSound cfg s history) (h : GateMove cfg s a s')
    (hcount : s.configuredCount < s'.configuredCount) :
    startCalled history = true ∧ s.writer.failed = false ∧
      ∃ gate : WarmupGate, gate.ready s.clock = true ∧
        gate.minRecordingS = s.warmup.minRecordingS ∧
        gate.requireFinetime = s.warmup.requireFinetime ∧
        gate.recordingStarted = s.warmup.recordingStarted ∧
        (gate.finetime = true → warm s.state = true ∧ s.warmup.finetime = true) := by
  have hcalled (h : ¬ s.Untouched) : startCalled history = true := by
    cases hnone : startCalled history with
    | true => rfl
    | false => exact absurd (hs.untouched hnone) h
  cases h with
  | still _ h => exact absurd h.quiet (Nat.ne_of_gt hcount)
  | outside _ hsame =>
    simp only [Prod.mk.injEq] at hsame
    unfold configuredCount at hcount
    rw [hsame.2.2] at hcount
    exact absurd hcount (Nat.lt_irrefl _)
  | start _ h =>
    rw [h] at hcount
    exact absurd hcount (Nat.lt_irrefl _)
  | reset _ _ _ hwarmup hopened =>
    obtain hquiet | ⟨hrx, hfailed, hready⟩ := hopened
    · exact absurd hquiet (Nat.ne_of_gt hcount)
    · rw [hwarmup] at hready
      have hstarted := hcalled fun h => nomatch h.rx.symm.trans hrx
      exact ⟨hstarted, hfailed, _, hready, rfl, rfl, rfl, nofun⟩
  | record _ _ hwarm _ hready hfailed =>
    refine ⟨hcalled fun h => ?_, hfailed, _, hready, rfl, rfl, rfl, fun h => ⟨hwarm ▸ rfl, h⟩⟩
    obtain hstate | hstate := h.state <;> exact nomatch hwarm.symm.trans hstate
  | accept _ _ _ _ _ hquiet => exact absurd hquiet (Nat.ne_of_gt hcount)

/-- **The warm-up gate is sound.**  Whenever a step emits `Configured`, the queue has not failed;
the recording time has passed since the queue accepted its first block; and the receiver status
parsed last since the configuration was completed says FINETIME, where that is required. -/
theorem gate_sound (cfg : SessionConfig) (s s' : Session) (history : SessionHistory)
    (a : SessionAction) (h : (system cfg).recorded.Reachable (s, history))
    (hstep : Session.step cfg s a = some s')
    (hconfigured : s.notifications.count .configured < s'.notifications.count .configured) :
    s.writer.failed = false ∧
      (0 < cfg.minRecordingS → ∃ t₀, firstAccepted history = some t₀ ∧
        cfg.minRecordingS * 10 ^ 9 ≤ (s.clock : Int) - t₀) ∧
      (cfg.requireFinetime = true → ∃ status, lastStatus cfg.layer history = some status ∧
        status.rxStatus &&& WarmupGate.fineTime ≠ 0) := by
  have hs : GateSound cfg s history := gateSound_of_reachable h
  obtain ⟨hcalled, hfailed, gate, hready, hmin, hrequire, hstarted, hfinetime⟩ :=
    (gate_step cfg hstep).opened hs hconfigured
  obtain ⟨hsetting, hsetting'⟩ := hs.settings hcalled
  rw [hsetting] at hmin
  rw [hsetting'] at hrequire
  unfold WarmupGate.ready at hready
  rw [Bool.and_eq_true, Bool.or_eq_true, hmin, hrequire, decide_eq_true_eq] at hready
  obtain ⟨hduration, hstatus⟩ := hready
  refine ⟨hfailed, ?_, ?_⟩
  · intro hpositive
    have helapsed := hduration.resolve_left (Int.not_le.mpr hpositive)
    split at helapsed
    · exact nomatch helapsed
    · rename_i r hr
      obtain ⟨t₀, ht₀, hle⟩ := hs.started r (hstarted ▸ hr)
      refine ⟨t₀, ht₀, ?_⟩
      have hr' := of_decide_eq_true helapsed
      omega
  · intro hrequired
    rw [hrequired] at hstatus
    obtain ⟨hwarm, hsays⟩ := hfinetime hstatus
    have hlast := hs.finetime hwarm hsays
    cases hstatus' : lastStatus cfg.layer history with
    | none =>
      rw [hstatus'] at hlast
      exact nomatch hlast
    | some status =>
      rw [hstatus'] at hlast
      exact ⟨status, rfl, of_decide_eq_true hlast⟩

/-- A session that needs one second and FINETIME. -/
theorem gate_sound_of_one_second :
    ∃ cfg s history, (system cfg).recorded.Reachable (s, history) ∧ s.clock = 1000000000 ∧
      ∃ t₀, firstAccepted history = some t₀ ∧ (1000000000 : Int) ≤ (s.clock : Int) - t₀ := by
  let done : StreamResult := ⟨true, 0⟩
  let opened : OpenResult := ⟨done, done, true, done, done, done⟩
  let r : WriteResult := ⟨⟨opened, opened, done, false, opened⟩, done, done⟩
  let actions : List SessionAction :=
    [.event .start, .resume, .queueOwner r, .resume, .event .connected,
      .event (.newConnectionDescriptor "IP10"), .event (.newSBFBlock ⟨[36, 64], by decide⟩),
      .resume, .queueOwner r, .resume, .resume, .tick 1000000000]
  -- a receiver that needs no command, and every block of which is a status
  let layer : CommandLayer :=
    { buildCommandList := fun _ => .ok []
      driverCommandWhitelist := fun _ => []
      commandNameOf := id
      equalsCi := fun a b => a == b
      parseReceiverCapabilitiesReply := fun _ => .error "no capabilities"
      verifyFirstFields := fun _ _ _ => .error "no field"
      parseAntennaOverview := fun _ => []
      verifyAntennaTypes := fun _ => .ok ()
      parseConfigFileListing := fun _ => []
      verifyConfigListing := fun _ _ => .ok ()
      receiverStatus := fun _ => some ⟨5, 64⟩ }
  let cfg : SessionConfig := ⟨⟨1024, 0, 16, by decide⟩, 1, true, layer⟩
  have hrun : ((system cfg).recorded.exec (new cfg, []) actions).map (fun x =>
      (x.1.clock, (step cfg x.1 (.event (.timeout .warmupLog))).map fun s' =>
        decide (x.1.notifications.count .configured < s'.notifications.count .configured))) =
      some (1000000000, some true) := by decide +kernel
  obtain ⟨⟨s, history⟩, hexec, hs⟩ := Option.map_eq_some_iff.mp hrun
  obtain ⟨hclock, hlast⟩ := Prod.mk.inj hs
  obtain ⟨s', hstep, hconfigured⟩ := Option.map_eq_some_iff.mp hlast
  have hreach : (system cfg).recorded.Reachable (s, history) :=
    StepSystem.reachable_of_exec (s := (new cfg, [])) (.init ⟨rfl, rfl⟩) hexec
  obtain ⟨-, helapsed, -⟩ :=
    gate_sound cfg s s' history _ hreach hstep (of_decide_eq_true hconfigured)
  exact ⟨cfg, s, history, hreach, hclock, helapsed (by decide)⟩

end Session
end Asterx
end AmigaDrivers
