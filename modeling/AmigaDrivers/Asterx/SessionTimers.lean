import AmigaDrivers.Asterx.Session

/-!
# The timers of a session

A session that waits for something is never without the timer that ends the waiting.

* `Timed`: the timers each state needs.
* `timed_step`: every handler keeps them, whatever it stops and restarts on its way.
* `never_stuck`: in every reachable state the timers of that state are active.
-/

namespace AmigaDrivers
namespace Asterx
namespace Session

/-- The timers the state needs.  `HandleFailure` arms the retry timer behind its
`closeConnection`. -/
def Timed (s : Session) : Prop :=
  match s.state with
  | .connecting => s.timers.isActive .connect = true
  | .waitingDescriptor | .configuring => s.timers.isActive .command = true
  | .warmingUp | .recording => s.timers.isActive .watchdog = true
  | .backoff =>
    s.timers.isActive .recovery = true ∧ (s.pc = .backingOff ∨ s.timers.isActive .retry = true)
  | .idle | .stopping => True

variable {s s' : Session}

theorem timed_of_stopping (h : s.state = .stopping) : s.Timed := by
  unfold Timed
  rw [h]
  trivial

/-- A handler that neither changes the state nor the timers. -/
theorem Timed.of_same (hs : s.Timed) (hsame : (s'.state, s'.timers) = (s.state, s.timers))
    (hpc : s.pc = .backingOff → s'.pc = .backingOff) : s'.Timed := by
  simp only [Prod.mk.injEq] at hsame
  obtain ⟨hstate, htimers⟩ := hsame
  unfold Timed at hs ⊢
  rw [hstate, htimers]
  generalize s.state = state at hs
  cases state with
  | backoff => exact ⟨hs.1, hs.2.imp_left hpc⟩
  | _ => exact hs

/-! ## Failures -/

theorem timed_shutdown (s : Session) (fatal : Bool) : (s.shutdown fatal).Timed := by
  unfold shutdown
  split_ifs with hstopping
  · exact timed_of_stopping hstopping
  · exact timed_of_stopping hstopping
  · exact timed_of_stopping rfl

theorem timed_failStartup (s : Session) : s.failStartup.Timed := by
  unfold failStartup
  split_ifs with hstopping
  · exact timed_of_stopping hstopping
  · exact timed_shutdown s true

/-- A failure in a state other than `Backoff` needs no timer to be active. -/
theorem timed_handleFailure (hs : s.state = .backoff → s.Timed) : s.handleFailure.Timed := by
  unfold handleFailure
  split_ifs with hrest
  · obtain hstopping | hbackoff := hrest
    · exact timed_of_stopping hstopping
    · exact hs hbackoff
  · dsimp only
    split_ifs
    · exact timed_failStartup _
    · exact timed_shutdown _ true
    · refine ⟨?_, .inl rfl⟩
      show (s.timers.recovery.or (some s.clock)).isSome = true
      cases s.timers.recovery <;> rfl

theorem timed_onStreamDamage (hs : s.Timed) : s.onStreamDamage.Timed := by
  unfold onStreamDamage
  split_ifs with hstopping
  · exact timed_of_stopping hstopping
  · dsimp only
    split_ifs
    · exact hs.of_same rfl id
    · exact timed_shutdown _ true

theorem timed_onWriteFailed (s : Session) : s.onWriteFailed.Timed := by
  unfold onWriteFailed
  split_ifs with hstopping
  · exact timed_of_stopping hstopping
  · exact timed_shutdown _ true

theorem timed_onCommunicationError (hs : s.Timed) (message : String) :
    (s.onCommunicationError message).Timed := by
  unfold onCommunicationError
  split_ifs
  · exact hs
  · exact timed_onStreamDamage (hs.of_same rfl id)
  · exact timed_handleFailure (fun _ => hs)

/-! ## From the connection to the recording -/

/-- Entering the recording restarts the watchdog; a session that cannot enter it needs its own
timers. -/
theorem timed_enterRecording (hs : s.Timed) : s.enterRecording.Timed := by
  unfold enterRecording
  split_ifs
  · exact hs
  · exact timed_onWriteFailed s
  · rfl

/-- Whatever timers were active before, the warm-up starts its watchdog. -/
theorem timed_enterWarmup (s : Session) : s.enterWarmup.Timed := by
  unfold enterWarmup
  dsimp only
  split_ifs
  · exact timed_enterRecording rfl
  · rfl

theorem timed_startConnect (s : Session) : s.startConnect.Timed := rfl

/-- Sending a command arms the command timer, and behind the last one the warm-up begins. -/
theorem timed_sendCurrentCommand (hs : s.state = .configuring) : s.sendCurrentCommand.Timed := by
  unfold sendCurrentCommand
  split
  · exact timed_enterWarmup s
  · unfold Timed
    dsimp only
    rw [hs]
    rfl

theorem timed_onConnectionDescriptor (L : CommandLayer) (hs : s.Timed) (d : String) :
    (onConnectionDescriptor L s d).Timed := by
  unfold onConnectionDescriptor
  dsimp only
  split_ifs
  · exact hs.of_same rfl id
  · split
    · exact timed_failStartup _
    · exact timed_sendCurrentCommand rfl

/-- A reply stops the command timer only to fail or to start it again. -/
theorem timed_handleCommandReply (L : CommandLayer) (hs : s.Timed) (reply : String)
    (error : Bool) : (handleCommandReply L s reply error).Timed := by
  unfold handleCommandReply
  dsimp only
  split
  · exact hs
  · rename_i hstate
    rw [ne_eq, not_not] at hstate
    have hfailed (t : Session) (ht : t.state = s.state) : t.handleFailure.Timed := by
      refine timed_handleFailure (fun hbackoff => ?_)
      rw [ht, hstate] at hbackoff
      exact nomatch hbackoff
    split
    · exact hs
    · split
      · exact hs
      · split
        · exact hfailed _ rfl
        · split
          · exact hfailed _ rfl
          · split
            · unfold Timed
              dsimp only
              rw [hstate]
              rfl
            · split
              · exact hfailed _ rfl
              · exact timed_sendCurrentCommand hstate

theorem timed_completeListCommand (L : CommandLayer) (hs : s.state = .configuring)
    (cmd : Command) : (completeListCommand L s cmd).Timed := by
  unfold completeListCommand
  dsimp only
  split
  · refine timed_handleFailure (fun hbackoff => ?_)
    exact nomatch hs.symm.trans hbackoff
  · exact timed_sendCurrentCommand hs

theorem timed_onPrompt (L : CommandLayer) (hs : s.Timed) : (onPrompt L s).Timed := by
  unfold onPrompt
  split_ifs with hlisting
  · split
    · exact hs
    · exact timed_completeListCommand L hlisting.1 _
  · exact hs

theorem timed_onFormattedInformationBlock (hs : s.Timed) (contents : String) :
    (s.onFormattedInformationBlock contents).Timed := by
  unfold onFormattedInformationBlock
  split_ifs with hstray
  · exact hs
  · rw [not_or, ne_eq, not_not] at hstray
    unfold Timed
    dsimp only
    rw [hstray.1]
    rfl

/-! ## Blocks and timers -/

theorem timed_onReceiverStatus (L : CommandLayer) (hs : s.Timed) (block : QByteArray) :
    (onReceiverStatus L s block).Timed := by
  unfold onReceiverStatus
  split
  · exact hs
  · dsimp only
    split_ifs
    · exact hs.of_same rfl id
    · exact hs.of_same rfl id
    · exact timed_shutdown _ true
    · exact hs.of_same rfl id

theorem timed_onSbfBlock (hs : s.Timed) (hready : s.pc = .ready) (block : QByteArray) :
    (s.onSbfBlock block).Timed := by
  have hpc : s.pc ≠ .backingOff := by
    rw [hready]
    exact nofun
  unfold onSbfBlock
  split_ifs
  · exact hs.of_same rfl id
  · exact hs
  · exact hs.of_same rfl (fun h => absurd h hpc)

theorem timed_onEnqueued (L : CommandLayer) (hs : s.Timed) (hready : s.pc = .ready)
    (block : QByteArray) (queued : Bool) : (onEnqueued L s block queued).Timed := by
  have hpc : s.pc ≠ .backingOff := by
    rw [hready]
    exact nofun
  unfold onEnqueued
  dsimp only
  split
  · exact timed_shutdown _ true
  · split
    · rename_i hphase
      refine timed_onReceiverStatus L ?_ block
      unfold Timed
      dsimp only
      obtain hphase | hphase := hphase <;> rw [hphase] <;> rfl
    · exact hs.of_same rfl (fun h => absurd h hpc)

theorem timed_askGate (hs : s.Timed) (hgate : s.pc = .gateCheck) : s.askGate.Timed := by
  have hs' : Timed { s with pc := .ready } := by
    refine hs.of_same rfl (fun h => ?_)
    rw [hgate] at h
    exact nomatch h
  unfold askGate
  dsimp only
  split_ifs
  · exact timed_enterRecording hs'
  · exact hs'

/-- A timer that fires leaves the state, or was not the one the state needs. -/
theorem timed_onTimeout (hs : s.Timed) (timer : SessionTimer) :
    (s.onTimeout timer).Timed := by
  unfold Timed at hs
  unfold onTimeout
  cases timer with
  | connect =>
    dsimp only
    split_ifs with hstate
    · refine timed_handleFailure (fun hbackoff => ?_)
      exact nomatch hstate.symm.trans hbackoff
    · unfold Timed
      dsimp only
      generalize s.state = state at hs hstate
      cases state with
      | connecting => exact absurd rfl hstate
      | _ => exact hs
  | retry =>
    dsimp only
    split_ifs with hstate
    · exact timed_startConnect _
    · unfold Timed
      dsimp only
      generalize s.state = state at hs hstate
      cases state with
      | backoff => exact absurd rfl hstate
      | _ => exact hs
  | recovery => exact timed_failStartup _
  | watchdog =>
    dsimp only [onWatchdog]
    split_ifs with hstate
    · unfold Timed
      dsimp only
      generalize s.state = state at hs hstate
      cases state with
      | warmingUp => exact absurd rfl hstate.2
      | recording => exact absurd rfl hstate.1
      | _ => exact hs
    · refine timed_handleFailure (fun hbackoff => absurd ?_ hstate)
      dsimp only at hbackoff
      rw [hbackoff]
      exact ⟨nofun, nofun⟩
  | command =>
    dsimp only [onCommandTimeout]
    split_ifs with hstate
    · unfold Timed
      dsimp only
      generalize s.state = state at hs hstate
      cases state with
      | waitingDescriptor => exact absurd rfl hstate.2
      | configuring => exact absurd rfl hstate.1
      | _ => exact hs
    · refine timed_handleFailure (fun hbackoff => absurd ?_ hstate)
      dsimp only at hbackoff
      rw [hbackoff]
      exact ⟨nofun, nofun⟩
  | stats => exact hs
  | warmupLog =>
    dsimp only
    split_ifs
    · exact timed_enterRecording hs
    · exact hs

/-! ## Runs -/

/-- **Every handler keeps the timers its state needs.** -/
theorem timed_handle (cfg : SessionConfig) (hs : s.Timed) {e : SessionEvent}
    (h : s.enabled e = true) : (s.handle cfg e).Timed := by
  cases e with
  | start =>
    have hready := ready_of_enabled h rfl
    refine hs.of_same rfl (fun hback => ?_)
    exact nomatch hready.symm.trans hback
  | shutdown => exact timed_shutdown s false
  | connected => rfl
  | newConnectionDescriptor d => exact timed_onConnectionDescriptor cfg.layer hs d
  | newCommandReply reply error => exact timed_handleCommandReply cfg.layer hs reply error
  | newFormattedInformationBlock contents => exact timed_onFormattedInformationBlock hs contents
  | newPrompt => exact timed_onPrompt cfg.layer hs
  | newSBFBlock block => exact timed_onSbfBlock hs (ready_of_enabled h rfl) block
  | sbfCRCError => exact timed_onStreamDamage (hs.of_same rfl id)
  | discardedBytes n => exact hs.of_same rfl id
  | communicationError message => exact timed_onCommunicationError hs message
  | connectionClosed => exact timed_handleFailure (fun _ => hs)
  | timeout timer => exact timed_onTimeout hs timer
  | writeFailed => exact timed_onWriteFailed _

theorem timed_onReturn (cfg : SessionConfig) (hs : s.Timed) {c : QueueCall}
    (hwaiting : s.pc = .waiting c) : (s.onReturn cfg c).Timed := by
  have hs' : Timed { s with pc := .ready } := by
    refine hs.of_same rfl (fun hback => ?_)
    exact nomatch hwaiting.symm.trans hback
  cases c with
  | start => exact timed_startConnect _
  | enqueue block => exact timed_onEnqueued cfg.layer hs' rfl block _
  | close fatal =>
    dsimp only [onReturn]
    split_ifs <;> exact hs'.of_same rfl id

theorem timed_resume (cfg : SessionConfig) (hs : s.Timed) (h : s.resume cfg = some s') :
    s'.Timed := by
  unfold resume at h
  split at h
  case h_1 => exact nomatch h
  case h_2 c hcalling =>
    obtain ⟨writer, -, rfl⟩ := Option.map_eq_some_iff.mp h
    refine hs.of_same rfl (fun hback => ?_)
    exact nomatch hcalling.symm.trans hback
  case h_3 c hwaiting =>
    split_ifs at h
    exact Option.some.inj h ▸ timed_onReturn cfg hs hwaiting
  case h_4 hgate => exact Option.some.inj h ▸ timed_askGate hs hgate
  case h_5 hback =>
    -- behind `closeConnection` the retry timer is armed
    obtain rfl := Option.some.inj h
    unfold Timed at hs ⊢
    dsimp only
    generalize s.state = state at hs
    cases state with
    | backoff => exact ⟨hs.1, .inr rfl⟩
    | _ => exact hs

theorem timed_step (cfg : SessionConfig) {a : SessionAction} (hs : s.Timed)
    (h : step cfg s a = some s') : s'.Timed := by
  cases a with
  | event e =>
    dsimp only [step] at h
    split_ifs at h with henabled
    exact Option.some.inj h ▸ timed_handle cfg hs henabled
  | resume => exact timed_resume cfg hs h
  | queueOwner r =>
    dsimp only [step] at h
    split at h
    · obtain ⟨writer, -, rfl⟩ := Option.map_eq_some_iff.mp h
      exact hs.of_same rfl id
    · exact nomatch h
  | queueWriter r =>
    obtain ⟨writer, -, rfl⟩ := Option.map_eq_some_iff.mp h
    exact hs.of_same rfl id
  | tick elapsed =>
    obtain rfl := Option.some.inj h
    exact hs.of_same rfl id

theorem timed_of_reachable {cfg : SessionConfig} (h : (system cfg).Reachable s) : s.Timed := by
  refine h.invariant ?_ ?_
  · rintro s rfl
    trivial
  · intro s a s' hs hstep
    exact timed_step cfg hs hstep

/-- **A session is never stuck without a timer.**  While no handler runs, the timers of its state
are active. -/
theorem never_stuck (cfg : SessionConfig) (s : Session) (h : (system cfg).Reachable s)
    (hready : s.pc = .ready) :
    (s.state = .connecting → s.timers.isActive .connect = true) ∧
      (s.state = .waitingDescriptor ∨ s.state = .configuring →
        s.timers.isActive .command = true) ∧
      (s.state = .warmingUp ∨ s.state = .recording → s.timers.isActive .watchdog = true) ∧
      (s.state = .backoff →
        s.timers.isActive .retry = true ∧ s.timers.isActive .recovery = true) := by
  have hs := timed_of_reachable h
  unfold Timed at hs
  rw [hready] at hs
  refine ⟨?_, ?_, ?_, ?_⟩
  · intro hstate
    rw [hstate] at hs
    exact hs
  · rintro (hstate | hstate) <;> rw [hstate] at hs <;> exact hs
  · rintro (hstate | hstate) <;> rw [hstate] at hs <;> exact hs
  · intro hstate
    rw [hstate] at hs
    exact ⟨hs.2.resolve_left nofun, hs.1⟩

/-- A session that loses its first connection during the warm-up. -/
theorem never_stuck_in_backoff :
    ∃ cfg s, (system cfg).Reachable s ∧ s.pc = .ready ∧ s.state = .backoff ∧
      s.timers.isActive .retry = true ∧ s.timers.isActive .recovery = true := by
  let done : StreamResult := ⟨true, 0⟩
  let opened : OpenResult := ⟨done, done, true, done, done, done⟩
  let r : WriteResult := ⟨⟨opened, opened, done, false, opened⟩, done, done⟩
  let actions : List SessionAction :=
    [.event .start, .resume, .queueOwner r, .resume, .event .connected,
      .event (.newConnectionDescriptor "IP10"), .event .connectionClosed, .resume]
  -- a receiver that needs no command
  let layer : CommandLayer :=
    { buildCommandList := fun _ => .ok []
      driverCommandWhitelist := fun _ => []
      commandNameOf := id
      equalsCi := fun a b => a == b
      parseReceiverCapabilitiesReply := fun _ => .error "no capabilities"
      verifyFirstFields := fun _ _ _ => .error "no field"
      parseAntennaOverview := fun _ => []
      verifyAntennaTypes := fun _ => .ok ()
      parseConfigFileListing := fun _ => []
      verifyConfigListing := fun _ _ => .ok ()
      receiverStatus := fun _ => none }
  let cfg : SessionConfig := ⟨⟨1024, 0, 16, by decide⟩, 90, false, layer⟩
  have hrun : ((system cfg).exec (new cfg) actions).map (fun s => (s.pc, s.state)) =
      some (.ready, .backoff) := rfl
  obtain ⟨s, hexec, hs⟩ := Option.map_eq_some_iff.mp hrun
  obtain ⟨hready, hbackoff⟩ := Prod.mk.inj hs
  have hreach := StepSystem.reachable_of_exec (.init rfl) hexec
  obtain ⟨-, -, -, htimers⟩ := never_stuck cfg s hreach hready
  exact ⟨cfg, s, hreach, hready, hbackoff, htimers hbackoff⟩

end Session
end Asterx
end AmigaDrivers
