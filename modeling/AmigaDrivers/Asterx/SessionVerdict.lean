import AmigaDrivers.Asterx.SessionLedger

/-!
# The verdict of a session

* `ledger_step`: a step of the session is a sequence of moves of its ledger, so what these
  keep holds in every state a session can be in.
* `no_loss`: a session that has shut down and does not report its recording incomplete has
  every block on disk.
-/

namespace AmigaDrivers
namespace Asterx

/-! ## A step of the session -/

namespace Session

open Ledger (Move Moves)

variable {s s' : Session}

/-- What a handler does from a state, after moves that lead there. -/
theorem moves_trans {l : Ledger} {t : Session} {f : Session → Session}
    (hf : ∀ s, Moves s.ledger (f s).ledger) (h : Moves l t.ledger) : Moves l (f t).ledger :=
  h.trans (hf t)

/-- `Shutdown`, called behind a counted error. -/
theorem shutdown_ledger {l : Ledger} {t : Session} {state : SessionState} {pc : SessionPc}
    (fatal : Bool) (h : t.ledger = { l with state, pc, errors := l.errors + 1 }) :
    Moves l (t.shutdown fatal).ledger := by
  unfold shutdown
  split
  · have hfault : Moves l t.ledger := h ▸ .single (.fault state pc 0)
    split <;> exact hfault
  · have hclose : ({ t with
        state := .stopping, timers := {}, pc := .calling (.close fatal) } : Session).ledger =
        { l with state := .stopping, pc := .calling (.close fatal), errors := l.errors + 1 } :=
      congrArg (fun l' : Ledger => { l' with state := .stopping, pc := .calling (.close fatal) }) h
    exact hclose ▸ .single (.fault .stopping (.calling (.close fatal)) 0)

/-- `Shutdown`, called by the wrapper or by `FailStartup`, between two handlers. -/
theorem shutdown_ledger_of_ready (hready : s.pc = .ready) (fatal : Bool) :
    Moves s.ledger (s.shutdown fatal).ledger := by
  unfold shutdown
  split
  · split <;> exact .refl
  · exact .single (.shut fatal hready)

theorem failStartup_ledger (hready : s.pc = .ready) : Moves s.ledger s.failStartup.ledger := by
  unfold failStartup
  split
  · exact .refl
  · exact shutdown_ledger_of_ready hready true

theorem handleFailure_ledger (s : Session) : Moves s.ledger s.handleFailure.ledger := by
  unfold handleFailure
  dsimp only
  split
  · exact .refl
  · split
    · unfold failStartup
      split
      · exact .single (.fault s.state s.pc 0)
      · exact shutdown_ledger true rfl
    · split
      · exact shutdown_ledger true rfl
      · exact .single (.fault .backoff .backingOff 0)

theorem onStreamDamage_ledger (s : Session) : Moves s.ledger s.onStreamDamage.ledger := by
  unfold onStreamDamage
  dsimp only
  split
  · exact .refl
  · split
    · exact .single (.fault s.state s.pc 0)
    · exact shutdown_ledger true rfl

theorem onWriteFailed_ledger (s : Session) : Moves s.ledger s.onWriteFailed.ledger := by
  unfold onWriteFailed
  split
  · exact .refl
  · exact shutdown_ledger true rfl

theorem onCommunicationError_ledger (s : Session) (message : String) :
    Moves s.ledger (s.onCommunicationError message).ledger := by
  unfold onCommunicationError
  split
  · exact .refl
  · split
    · exact onStreamDamage_ledger { s with lengthErrors := s.lengthErrors + 1 }
    · exact handleFailure_ledger s

theorem enterRecording_ledger (s : Session) : Moves s.ledger s.enterRecording.ledger := by
  unfold enterRecording
  split
  · exact .refl
  · split
    · exact onWriteFailed_ledger s
    · exact .single (.phase nofun nofun)

theorem enterWarmup_ledger (s : Session) : Moves s.ledger s.enterWarmup.ledger := by
  unfold enterWarmup
  dsimp only
  have hphase : Moves s.ledger { s.ledger with state := .warmingUp } :=
    .single (.phase nofun nofun)
  split
  · exact moves_trans enterRecording_ledger hphase
  · exact hphase

theorem startConnect_ledger (s : Session) : Moves s.ledger s.startConnect.ledger :=
  .single (.phase nofun nofun)

theorem sendCurrentCommand_ledger (s : Session) : Moves s.ledger s.sendCurrentCommand.ledger := by
  unfold sendCurrentCommand
  split
  · exact enterWarmup_ledger s
  · exact .refl

theorem onConnectionDescriptor_ledger (L : CommandLayer) (hready : s.pc = .ready) (d : String) :
    Moves s.ledger (onConnectionDescriptor L s d).ledger := by
  unfold onConnectionDescriptor
  dsimp only
  split
  · exact .refl
  · split
    · exact failStartup_ledger (s := { s with descriptor := d }) hready
    · have hphase : Moves s.ledger { s.ledger with state := .configuring } :=
        .single (.phase nofun nofun)
      exact moves_trans sendCurrentCommand_ledger hphase

theorem handleCommandReply_ledger (L : CommandLayer) (s : Session) (reply : String) (error : Bool) :
    Moves s.ledger (handleCommandReply L s reply error).ledger := by
  unfold handleCommandReply
  dsimp only
  split
  · exact .refl
  · split
    · exact .refl
    · split
      · exact .refl
      · split
        · exact handleFailure_ledger { s with timers := { s.timers with command := none } }
        · split
          · exact handleFailure_ledger { s with timers := { s.timers with command := none } }
          · split
            · exact .refl
            · split
              · exact handleFailure_ledger { s with timers := { s.timers with command := none } }
              · exact sendCurrentCommand_ledger
                  { s with
                    timers := { s.timers with command := none }
                    cmdIndex := s.cmdIndex + 1 }

theorem completeListCommand_ledger (L : CommandLayer) (s : Session) (cmd : Command) :
    Moves s.ledger (completeListCommand L s cmd).ledger := by
  unfold completeListCommand
  dsimp only
  split
  · exact handleFailure_ledger { s with timers := { s.timers with command := none } }
  · exact sendCurrentCommand_ledger
      { s with
        timers := { s.timers with command := none }
        lstReplySeen := false
        lstText := ""
        cmdIndex := s.cmdIndex + 1 }

theorem onPrompt_ledger (L : CommandLayer) (s : Session) :
    Moves s.ledger (onPrompt L s).ledger := by
  unfold onPrompt
  split
  · split
    · exact .refl
    · exact completeListCommand_ledger L s _
  · exact .refl

theorem onSbfBlock_ledger (hready : s.pc = .ready) (block : QByteArray) :
    Moves s.ledger (s.onSbfBlock block).ledger := by
  unfold onSbfBlock
  split
  · rename_i hbackoff
    exact .single (.lost block hbackoff)
  · split
    · exact .refl
    · rename_i hstopping
      exact .single (.block block hready hstopping)

theorem onReceiverStatus_ledger (L : CommandLayer) (s : Session) (block : QByteArray) :
    Moves s.ledger (onReceiverStatus L s block).ledger := by
  unfold onReceiverStatus
  split
  · exact .refl
  · dsimp only
    split
    · split
      · exact .single (.fault s.state s.pc 0)
      · exact .refl
    · split
      · exact shutdown_ledger true rfl
      · exact .refl

theorem onEnqueued_ledger (L : CommandLayer) {block : QByteArray}
    (hwaiting : s.pc = .waiting (.enqueue block)) (hidle : s.writer.ownerPc = .idle) :
    Moves s.ledger
      (onEnqueued L { s with pc := .ready } block (s.writer.returned = some true)).ledger := by
  unfold onEnqueued
  by_cases hqueued : s.writer.returned = some true
  · have hmove : Moves s.ledger { s.ledger with pc := .gateCheck } :=
      .single (.enqueued hwaiting hidle hqueued)
    simp only [hqueued, decide_true, Bool.not_true, Bool.false_eq_true, if_false]
    split
    · exact moves_trans (onReceiverStatus_ledger L · block) hmove
    · exact hmove
  · simp only [hqueued, decide_false, Bool.not_false, if_true]
    exact shutdown_ledger true rfl

theorem askGate_ledger (hgate : s.pc = .gateCheck) : Moves s.ledger s.askGate.ledger := by
  unfold askGate
  dsimp only
  have hmove : Moves s.ledger { s.ledger with pc := .ready } :=
    .single (.goOn (by change s.pc.atRest = true; rw [hgate]; rfl) rfl)
  split
  · exact moves_trans enterRecording_ledger hmove
  · exact hmove

theorem onTimeout_ledger (hready : s.pc = .ready) (timer : SessionTimer) :
    Moves s.ledger (s.onTimeout timer).ledger := by
  unfold onTimeout
  dsimp only
  cases timer with
  | connect =>
    dsimp only
    split
    · exact handleFailure_ledger { s with timers := s.timers.fire .connect }
    · exact .refl
  | retry =>
    dsimp only
    split
    · exact startConnect_ledger { s with timers := s.timers.fire .retry }
    · exact .refl
  | recovery => exact failStartup_ledger (s := { s with timers := s.timers.fire .recovery }) hready
  | watchdog =>
    dsimp only [onWatchdog]
    split
    · exact .refl
    · exact handleFailure_ledger { s with timers := s.timers.fire .watchdog }
  | command =>
    dsimp only [onCommandTimeout]
    split
    · exact .refl
    · exact handleFailure_ledger { s with timers := s.timers.fire .command }
  | stats => exact .refl
  | warmupLog =>
    dsimp only
    split
    · exact enterRecording_ledger { s with timers := s.timers.fire .warmupLog }
    · exact .refl

/-- The handler of an event moves the ledger. -/
theorem handle_ledger (cfg : SessionConfig) {e : SessionEvent} (h : s.enabled e = true) :
    Moves s.ledger (s.handle cfg e).ledger := by
  cases e with
  | start => exact .single (.start (ready_of_enabled h rfl))
  | shutdown => exact shutdown_ledger_of_ready (ready_of_enabled h rfl) false
  | connected => exact .single (.phase nofun nofun)
  | newConnectionDescriptor d =>
    exact onConnectionDescriptor_ledger cfg.layer (ready_of_enabled h rfl) d
  | newCommandReply reply error => exact handleCommandReply_ledger cfg.layer s reply error
  | newFormattedInformationBlock contents =>
    dsimp only [handle, onFormattedInformationBlock]
    split <;> exact .refl
  | newPrompt => exact onPrompt_ledger cfg.layer s
  | newSBFBlock block => exact onSbfBlock_ledger (ready_of_enabled h rfl) block
  | sbfCRCError => exact onStreamDamage_ledger { s with crcErrors := s.crcErrors + 1 }
  | discardedBytes n => exact .refl
  | communicationError message => exact onCommunicationError_ledger s message
  | connectionClosed => exact handleFailure_ledger s
  | timeout timer => exact onTimeout_ledger (ready_of_enabled h rfl) timer
  | writeFailed => exact onWriteFailed_ledger { s with posted := s.posted - 1 }

/-- Behind a call of the queue, the handler moves the ledger. -/
theorem onReturn_ledger (cfg : SessionConfig) {c : QueueCall} (hwaiting : s.pc = .waiting c)
    (hidle : s.writer.ownerPc = .idle) : Moves s.ledger (s.onReturn cfg c).ledger := by
  cases c with
  | start =>
    have hmove : Moves s.ledger { s.ledger with pc := .ready } := .single (.started hwaiting hidle)
    exact moves_trans startConnect_ledger hmove
  | enqueue block => exact onEnqueued_ledger cfg.layer hwaiting hidle
  | close fatal =>
    dsimp only [onReturn]
    by_cases hclean : s.writer.returned = some true
    · rw [if_pos hclean]
      split <;> exact .single (.closed hwaiting hidle hclean)
    · rw [if_neg hclean]
      split <;> exact .single (.fault s.state .ready 0)

theorem resume_ledger (cfg : SessionConfig) (h : s.resume cfg = some s') :
    Moves s.ledger s'.ledger := by
  unfold resume at h
  split at h
  case h_1 => exact nomatch h
  case h_2 c hcalling =>
    obtain ⟨writer, hcall, rfl⟩ := Option.map_eq_some_iff.mp h
    exact .single (.call hcalling hcall)
  case h_3 c hwaiting =>
    split at h
    · rename_i hidle
      exact Option.some.inj h ▸ onReturn_ledger cfg hwaiting hidle
    · exact nomatch h
  case h_4 hgate => exact Option.some.inj h ▸ askGate_ledger hgate
  case h_5 hback =>
    refine Option.some.inj h ▸ .single (.goOn ?_ rfl)
    change s.pc.atRest = true
    rw [hback]
    rfl

/-- **A step of the session is a sequence of moves of its ledger.** -/
theorem ledger_step (cfg : SessionConfig) {a : SessionAction} (h : step cfg s a = some s') :
    Moves s.ledger s'.ledger := by
  cases a with
  | event e =>
    dsimp only [step] at h
    split at h
    · rename_i henabled
      exact Option.some.inj h ▸ handle_ledger cfg henabled
    · exact nomatch h
  | resume => exact resume_ledger cfg h
  | queueOwner r =>
    dsimp only [step] at h
    split at h
    · rename_i c hwaiting
      obtain ⟨writer, howner, rfl⟩ := Option.map_eq_some_iff.mp h
      exact .single (.owner hwaiting howner)
    · exact nomatch h
  | queueWriter r =>
    obtain ⟨writer, hwriter, rfl⟩ := Option.map_eq_some_iff.mp h
    exact .single (.writer hwriter)
  | tick elapsed => exact Option.some.inj h ▸ .refl

/-! ## The verdict -/

variable {cfg : SessionConfig}

theorem sound_new (cfg : SessionConfig) : (new cfg).ledger.Sound cfg.queue where
  reachable := .init rfl
  counted := (nomatch ·)
  consistent _ := rfl
  verdict _ h := nomatch h

/-- The ledger of a session is sound, whatever has happened. -/
theorem sound_of_reachable (h : (system cfg).Reachable s) : s.ledger.Sound cfg.queue :=
  h.invariant (P := fun s => s.ledger.Sound cfg.queue) (fun _ hnew => hnew ▸ sound_new cfg)
    fun _ _ _ hs hstep => hs.moves (ledger_step cfg hstep)

/-- **No loss.**  When a session has shut down and does not report its recording incomplete,
the blocks delivered to it have been written one by one, in the order of their delivery, and
the files in order hold exactly these. -/
theorem no_loss (cfg : SessionConfig) (s : Session) (h : (system cfg).Reachable s)
    (hready : s.pc = .ready) (hstopped : s.state = .stopping)
    (hcomplete : s.recordingIncomplete = false) :
    s.writer.handed = s.delivered ∧
      s.writer.writer.files.flatten = payload s.delivered := by
  have hs := sound_of_reachable h
  have hzero : s.recordingErrors = 0 := by
    simpa only [recordingIncomplete, decide_eq_false_iff_not, not_not, ne_eq] using hcomplete
  have hverdict : true ∈ s.writer.closeResults :=
    hs.verdict hzero hstopped (Ledger.not_closing_of_atRest (by rw [ledger, hready]; rfl))
  have haccepted : s.writer.accepted = s.delivered :=
    (Ledger.consistent_atRest (by rw [ledger, hready]; rfl)).mp (hs.consistent hzero)
  obtain ⟨hhanded, -⟩ := SbfWriteQueue.handed_eq_accepted_of_verdict hs.reachable hverdict
  have hfiles := SbfWriteQueue.files_of_verdict hs.reachable hverdict
  exact ⟨hhanded.trans haccepted, haccepted ▸ hfiles⟩

/-- A session that connects, receives one block and is shut down. -/
theorem no_loss_of_one_block :
    ∃ cfg s, (system cfg).Reachable s ∧ s.pc = .ready ∧ s.state = .stopping ∧
      s.delivered.map QByteArray.bytes = [[36, 64]] ∧
      s.writer.handed = s.delivered ∧
      s.writer.writer.files.flatten = payload s.delivered := by
  let done : StreamResult := ⟨true, 0⟩
  let opened : OpenResult := ⟨done, done, true, done, done, done⟩
  let r : WriteResult := ⟨⟨opened, opened, done, false, opened⟩, done, done⟩
  let actions : List SessionAction :=
    [.event .start, .resume, .queueOwner r, .resume, .event .connected,
      .event (.newSBFBlock ⟨[36, 64], by decide⟩), .resume, .queueOwner r, .resume, .resume,
      .queueWriter r, .queueWriter r, .queueWriter r, .event .shutdown, .resume, .queueWriter r,
      .queueOwner r, .queueOwner r, .queueOwner r, .queueOwner r, .resume]
  -- the run ends before the descriptor arrives, so no command is built or verified
  let layer : CommandLayer :=
    { buildCommandList := fun _ => .ok []
      driverCommandWhitelist := fun _ => []
      commandNameOf := id
      equalsCi := fun a b => a == b
      parseReceiverCapabilitiesReply := fun _ => .error "no capabilities"
      verifyFirstFields := fun _ _ _ => .error "no field"
      parseAntennaOverview := fun _ => []
      verifyAntennaTypes := fun _ => .ok ()
      parseConfigFileListing := fun _ => []
      verifyConfigListing := fun _ _ => .ok ()
      receiverStatus := fun _ => none }
  let cfg : SessionConfig := ⟨⟨1024, 0, 16, by decide⟩, 0, false, layer⟩
  have hrun : ((system cfg).exec (new cfg) actions).map
      (fun s => (s.pc, s.state, s.recordingErrors, s.delivered.map QByteArray.bytes)) =
        some (.ready, .stopping, 0, [[36, 64]]) := rfl
  obtain ⟨s, hexec, hs⟩ := Option.map_eq_some_iff.mp hrun
  obtain ⟨hready, hs⟩ := Prod.mk.inj hs
  obtain ⟨hstopped, hs⟩ := Prod.mk.inj hs
  obtain ⟨hzero, hdelivered⟩ := Prod.mk.inj hs
  have hreach := StepSystem.reachable_of_exec (.init rfl) hexec
  have hcomplete : s.recordingIncomplete = false := by rw [recordingIncomplete, hzero]; rfl
  exact ⟨cfg, s, hreach, hready, hstopped, hdelivered,
    no_loss cfg s hreach hready hstopped hcomplete⟩

end Session
end Asterx
end AmigaDrivers
