import Mathlib.Logic.Relation
import AmigaDrivers.Asterx.SessionTimers
import AmigaDrivers.Foundation.History

/-!
# Fail-fast behind the warm-up gate

What a session does about its state, its signals and its recovery deadline.  `Start` is called
once, before anything else, and the SDK emits `connected` only for a pending connection attempt;
under these promises a session that has been recording can only stop, and says so.

* `pendingAttempt`, `promised`: the promises, over the history of a run.
* `Phase`, `Phase.Move`: the part of a session that matters here, and its moves.
* `phase_step`: a step of the session is a sequence of moves.
* `fail_fast`: the signals, the states behind `Recording`, and the recovery deadline.
-/

namespace AmigaDrivers
namespace Asterx

/-- The steps a session has taken, the latest first. -/
abbrev SessionHistory := List (Taken Session SessionAction)

namespace Session

/-! ## What the surroundings promise -/

/-- The step calls `connectTcp`, in `StartConnect`. -/
def startsAttempt (t : Taken Session SessionAction) : Bool :=
  match t.action with
  | .resume => t.before.pc = .waiting .start
  | .event (.timeout .retry) => t.before.state = .backoff
  | _ => false

/-- The step ends the connection attempt: by `connected`, or by `closeConnection`. -/
def endsAttempt (t : Taken Session SessionAction) : Bool :=
  match t.action, t.after.pc with
  | .event .connected, _ => true
  | _, .backingOff => true
  | _, .calling (.close _) => true
  | _, _ => false

/-- A connection attempt of the SDK is pending. -/
def pendingAttempt : SessionHistory → Bool
  | [] => false
  | t :: history => startsAttempt t || (!endsAttempt t && pendingAttempt history)

/-- `Start` has been called. -/
def startCalled (history : SessionHistory) : Bool :=
  history.any fun t =>
    match t.action with
    | .event .start => true
    | _ => false

/-- `Start` is called once and before anything else; `connected` is emitted for a pending
attempt. -/
def promised (s : Session × SessionHistory) : SessionAction → Bool
  | .event .start => !startCalled s.2
  | .event .connected => startCalled s.2 && pendingAttempt s.2
  | .event _ => startCalled s.2
  | .resume | .queueOwner _ | .queueWriter _ | .tick _ => true

/-- A session whose surroundings keep their promises. -/
def lawful (cfg : SessionConfig) : StepSystem (Session × SessionHistory) SessionAction :=
  (system cfg).recorded.guarded promised

/-- The step is a requested `Shutdown` of a recording session. -/
def requestedStop (t : Taken Session SessionAction) : Bool :=
  match t.action with
  | .event .shutdown => t.before.state = .recording
  | _ => false

end Session

/-! ## Phases -/

/-- The part of a session that its phases are about. -/
structure Phase where
  state : SessionState
  pc : SessionPc
  notifications : List Notification
  recovery : Option Nat

def Session.phase (s : Session) : Phase where
  state := s.state
  pc := s.pc
  notifications := s.notifications
  recovery := s.timers.recovery

/-- The handler is in a `Shutdown` whose caller emits `FatalError` afterwards. -/
def SessionPc.closingFatal : SessionPc → Bool
  | .calling (.close true) | .waiting (.close true) => true
  | .ready | .gateCheck | .backingOff | .calling .start | .calling (.enqueue _)
  | .calling (.close false) | .waiting .start | .waiting (.enqueue _)
  | .waiting (.close false) => false

/-- The handler is in `Start`. -/
def SessionPc.starting : SessionPc → Bool
  | .calling .start | .waiting .start => true
  | .ready | .gateCheck | .backingOff | .calling (.enqueue _) | .calling (.close _)
  | .waiting (.enqueue _) | .waiting (.close _) => false

/-- Neither recording nor stopping. -/
def SessionState.early : SessionState → Bool
  | .idle | .connecting | .waitingDescriptor | .configuring | .warmingUp | .backoff => true
  | .recording | .stopping => false

namespace Phase

/-- A move; `requested` says that it belongs to a requested `Shutdown` of a recording session. -/
inductive Move (requested : Prop) (p : Phase) : Phase → Prop
  | go {state : SessionState} (hpc : p.pc.starting = false) (hearly : p.state.early = true)
      (hearly' : state.early = true) : Move requested p { p with state }
  | backOff (now : Nat) (hearly : p.state.early = true) :
      Move requested p
        { p with state := .backoff, recovery := p.recovery.or (some now), pc := .backingOff }
  | record (hpc : p.pc.starting = false) (hearly : p.state.early = true) :
      Move requested p
        { p with
          state := .recording
          recovery := none
          notifications := p.notifications ++ [.configured] }
  | stop {fatal : Bool} (hstate : p.state ≠ .stopping)
      (hcause : p.state = .recording → fatal = true ∨ requested) :
      Move requested p
        { p with state := .stopping, recovery := none, pc := .calling (.close fatal) }
  | complain : Move requested p { p with notifications := p.notifications ++ [.fatalError] }
  | expire (hstate : p.state = .stopping) : Move requested p { p with recovery := none }
  | goOn {pc : SessionPc} (hopen : p.pc.closingFatal = false) (hpc : pc.starting = false) :
      Move requested p { p with pc }
  | waitClose {fatal : Bool} (hpc : p.pc = .calling (.close fatal)) :
      Move requested p { p with pc := .waiting (.close fatal) }
  | closed {complaints : List Notification} (hpc : p.pc.closingFatal = true)
      (hcomplaints : complaints = [.fatalError] ∨ complaints = [.fatalError, .fatalError]) :
      Move requested p { p with pc := .ready, notifications := p.notifications ++ complaints }

/-- Any number of moves. -/
abbrev Moves (requested : Prop) : Phase → Phase → Prop := Relation.ReflTransGen (Move requested)

/-- `Configured` has been emitted. -/
def Recorded (p : Phase) : Prop := Notification.configured ∈ p.notifications

/-- `FatalError` has been emitted behind `Configured`. -/
def Complained (p : Phase) : Prop :=
  ∃ before after,
    p.notifications = before ++ Notification.configured :: after ∧ Notification.fatalError ∈ after

theorem Complained.append {p q : Phase} (h : p.Complained) {more : List Notification}
    (hmore : q.notifications = p.notifications ++ more) : q.Complained := by
  obtain ⟨before, after, hsplit, hfatal⟩ := h
  refine ⟨before, after ++ more, ?_, List.mem_append_left _ hfatal⟩
  rw [hmore, hsplit, List.append_assoc, List.cons_append]

theorem Recorded.complained {p q : Phase} (h : p.Recorded) {more : List Notification}
    (hmore : q.notifications = p.notifications ++ more)
    (hfatal : Notification.fatalError ∈ more) :
    q.Complained := by
  obtain ⟨before, after, hsplit⟩ := List.append_of_mem h
  refine ⟨before, after ++ more, ?_, List.mem_append_right _ hfatal⟩
  rw [hmore, hsplit, List.append_assoc, List.cons_append]

/-- What holds between the state and the signals. -/
structure Sound (requested : Prop) (p : Phase) : Prop where
  early : p.state.early = true → ¬ p.Recorded
  recording : p.state = .recording → p.Recorded
  once : p.notifications.count .configured ≤ 1
  stopped : p.Recorded → p.state = .stopping → p.pc.closingFatal = true ∨ requested ∨ p.Complained

variable {requested : Prop} {p q : Phase}

theorem count_complaints {complaints : List Notification}
    (h : complaints = [.fatalError] ∨ complaints = [.fatalError, .fatalError]) :
    complaints.count .configured = 0 ∧ Notification.configured ∉ complaints ∧
      Notification.fatalError ∈ complaints := by
  obtain rfl | rfl := h <;> decide

/-- **Every move keeps the signals right.** -/
theorem Sound.move (hp : p.Sound requested) (h : Move requested p q) : q.Sound requested := by
  cases h with
  | go hpc hearly hearly' =>
    refine ⟨fun _ => hp.early hearly, fun hrecording => ?_, hp.once, fun hrecorded => ?_⟩
    · dsimp only at hrecording
      rw [hrecording] at hearly'
      exact nomatch hearly'
    · exact absurd hrecorded (hp.early hearly)
  | backOff now hearly =>
    exact ⟨fun _ => hp.early hearly, nofun, hp.once, fun _ => nofun⟩
  | record hpc hearly =>
    refine ⟨nofun, fun _ => List.mem_append_right _ List.mem_cons_self, ?_, fun _ => nofun⟩
    have hzero : p.notifications.count .configured = 0 :=
      List.count_eq_zero_of_not_mem (hp.early hearly)
    show (p.notifications ++ [Notification.configured]).count .configured ≤ 1
    rw [List.count_append, hzero]
    decide
  | @stop fatal hstate hcause =>
    refine ⟨nofun, nofun, hp.once, fun hrecorded _ => ?_⟩
    have hrecording : p.state = .recording := by
      have hnot : ¬ p.state.early = true := fun hearly => hp.early hearly hrecorded
      generalize p.state = state at hstate hnot
      cases state <;> first | rfl | exact absurd rfl hstate | exact absurd rfl hnot
    obtain rfl | hrequested := hcause hrecording
    · exact .inl rfl
    · exact .inr (.inl hrequested)
  | complain =>
    have hbefore : Recorded { p with notifications := p.notifications ++ [.fatalError] } →
        p.Recorded := by
      intro hrecorded
      obtain h | h := List.mem_append.mp hrecorded
      · exact h
      · exact nomatch List.mem_singleton.mp h
    refine ⟨fun hearly hrecorded => hp.early hearly (hbefore hrecorded),
      fun hrecording => List.mem_append_left _ (hp.recording hrecording), ?_, ?_⟩
    · show (p.notifications ++ [Notification.fatalError]).count .configured ≤ 1
      rw [List.count_append]
      exact hp.once
    · intro hrecorded _
      exact .inr (.inr ((hbefore hrecorded).complained rfl List.mem_cons_self))
  | expire hstate => exact ⟨hp.early, hp.recording, hp.once, hp.stopped⟩
  | goOn hopen hpc =>
    refine ⟨hp.early, hp.recording, hp.once, fun hrecorded hstopping => ?_⟩
    obtain hclosing | h := hp.stopped hrecorded hstopping
    · exact nomatch hopen.symm.trans hclosing
    · exact .inr h
  | @waitClose fatal hpc =>
    refine ⟨hp.early, hp.recording, hp.once, fun hrecorded hstopping => ?_⟩
    obtain hclosing | h := hp.stopped hrecorded hstopping
    · rw [hpc] at hclosing
      cases fatal with
      | true => exact .inl rfl
      | false => exact nomatch hclosing
    · exact .inr h
  | @closed complaints hpc hcomplaints =>
    obtain ⟨hcount, hnot, hfatal⟩ := count_complaints hcomplaints
    have hbefore : Recorded { p with pc := .ready, notifications := p.notifications ++ complaints } →
        p.Recorded := by
      intro hrecorded
      obtain h | h := List.mem_append.mp hrecorded
      · exact h
      · exact absurd h hnot
    refine ⟨fun hearly hrecorded => hp.early hearly (hbefore hrecorded),
      fun hrecording => List.mem_append_left _ (hp.recording hrecording), ?_, ?_⟩
    · show (p.notifications ++ complaints).count .configured ≤ 1
      rw [List.count_append, hcount]
      exact hp.once
    · intro hrecorded _
      exact .inr (.inr ((hbefore hrecorded).complained rfl hfatal))

/-- More requests excuse more. -/
theorem Sound.weaken {requested' : Prop} (h : p.Sound requested)
    (hweaken : requested → requested') : p.Sound requested' :=
  ⟨h.early, h.recording, h.once, fun hrecorded hstopping =>
    (h.stopped hrecorded hstopping).imp_right (Or.imp_left hweaken)⟩

/-- What every move keeps, any number of moves keeps. -/
theorem Moves.keep {P : Phase → Prop} (hmove : ∀ {p q}, P p → Move requested p q → P q)
    (hp : P p) (h : Moves requested p q) : P q := by
  induction h with
  | refl => exact hp
  | tail _ hstep ih => exact hmove ih hstep

/-- A recovery deadline stands until the session records or stops. -/
theorem deadline_move {started : Nat}
    (hp : p.recovery = some started ∨ p.state = .stopping ∨ p.Recorded)
    (h : Move requested p q) : q.recovery = some started ∨ q.state = .stopping ∨ q.Recorded := by
  cases h with
  | go hpc hearly hearly' =>
    obtain h | h | h := hp
    · exact .inl h
    · rw [h] at hearly
      exact nomatch hearly
    · exact .inr (.inr h)
  | backOff now hearly =>
    obtain h | h | h := hp
    · refine .inl ?_
      show p.recovery.or (some now) = some started
      rw [h]
      rfl
    · rw [h] at hearly
      exact nomatch hearly
    · exact .inr (.inr h)
  | record hpc hearly => exact .inr (.inr (List.mem_append_right _ List.mem_cons_self))
  | stop => exact .inr (.inl rfl)
  | expire hstate => exact .inr (.inl hstate)
  | goOn | waitClose => exact hp
  | complain | closed => exact hp.imp_right (Or.imp_right (List.mem_append_left _))

/-- Behind `Recording` there is only `Stopping`. -/
theorem late_move (hp : p.state.early = false) (h : Move requested p q) : q.state.early = false := by
  cases h with
  | go _ hearly | backOff _ hearly => exact nomatch hp.symm.trans hearly
  | record | stop => rfl
  | _ => exact hp

/-- Only `Start` itself leads into `Start`. -/
theorem starting_move (h : Move requested p q) (hq : q.pc.starting = true) :
    p.pc.starting = true ∧ q.state = p.state := by
  cases h with
  | go hpc | record hpc => exact nomatch hpc.symm.trans hq
  | goOn hopen hpc => exact nomatch hpc.symm.trans hq
  | complain | expire => exact ⟨hq, rfl⟩
  | backOff | stop | waitClose | closed => exact nomatch hq

theorem starting_moves (h : Moves requested p q) (hq : q.pc.starting = true) :
    p.pc.starting = true ∧ q.state = p.state := by
  induction h with
  | refl => exact ⟨hq, rfl⟩
  | tail _ hmove ih =>
    obtain ⟨hpc, hstate⟩ := starting_move hmove hq
    obtain ⟨hpc', hstate'⟩ := ih hpc
    exact ⟨hpc', hstate.trans hstate'⟩

theorem recorded_move (hp : p.Recorded) (h : Move requested p q) : q.Recorded := by
  cases h with
  | record | complain | closed => exact List.mem_append_left _ hp
  | _ => exact hp

end Phase

/-! ## The handlers -/

namespace Session

open Phase (Move Moves)

variable {requested : Prop} {s s' : Session}

/-- What a handler does first, then what it does next. -/
theorem moves_after {p : Phase} {t : Session} {f : Session → Session}
    (h : ∀ u : Session, Moves requested u.phase (f u).phase) (hp : Moves requested p t.phase) :
    Moves requested p (f t).phase :=
  hp.trans (h t)

theorem phase_shutdown (s : Session) {fatal : Bool}
    (hcause : s.state = .recording → fatal = true ∨ requested) :
    Moves requested s.phase (s.shutdown fatal).phase := by
  unfold shutdown
  split_ifs with hstopping
  · exact .single .complain
  · exact .refl
  · exact .single (.stop hstopping hcause)

theorem phase_failStartup (s : Session) : Moves requested s.phase s.failStartup.phase := by
  unfold failStartup
  split_ifs
  · exact .refl
  · exact phase_shutdown s (fun _ => .inl rfl)

theorem phase_handleFailure (s : Session) : Moves requested s.phase s.handleFailure.phase := by
  unfold handleFailure
  split
  · exact .refl
  · rename_i hrest
    dsimp only
    split
    · exact phase_failStartup { s with recordingErrors := s.recordingErrors + 1 }
    · split
      · exact phase_shutdown { s with recordingErrors := s.recordingErrors + 1 }
          (fun _ => .inl rfl)
      · rename_i hrecording
        refine .single (.backOff s.clock ?_)
        rw [not_or] at hrest
        show s.state.early = true
        generalize s.state = state at hrest hrecording
        cases state <;> first | rfl | exact absurd rfl hrest.1 | exact absurd rfl hrecording

theorem phase_onStreamDamage (s : Session) : Moves requested s.phase s.onStreamDamage.phase := by
  unfold onStreamDamage
  split
  · exact .refl
  · dsimp only
    split
    · exact .refl
    · exact phase_shutdown { s with recordingErrors := s.recordingErrors + 1 } (fun _ => .inl rfl)

theorem phase_onWriteFailed (s : Session) : Moves requested s.phase s.onWriteFailed.phase := by
  unfold onWriteFailed
  split
  · exact .refl
  · exact phase_shutdown { s with recordingErrors := s.recordingErrors + 1 } (fun _ => .inl rfl)

theorem phase_onCommunicationError (s : Session) (message : String) :
    Moves requested s.phase (s.onCommunicationError message).phase := by
  unfold onCommunicationError
  split
  · exact .refl
  · split
    · exact phase_onStreamDamage { s with lengthErrors := s.lengthErrors + 1 }
    · exact phase_handleFailure s

theorem phase_enterRecording (hpc : s.pc.starting = false) :
    Moves requested s.phase s.enterRecording.phase := by
  unfold enterRecording
  split
  · exact .refl
  · rename_i hstate
    rw [ne_eq, not_not] at hstate
    split
    · exact phase_onWriteFailed s
    · refine .single (.record hpc ?_)
      show s.state.early = true
      rw [hstate]
      rfl

theorem phase_enterWarmup (hpc : s.pc.starting = false) (hearly : s.state.early = true) :
    Moves requested s.phase s.enterWarmup.phase := by
  have hgo : Moves requested s.phase { s.phase with state := .warmingUp } :=
    .single (.go hpc hearly rfl)
  unfold enterWarmup
  dsimp only
  split
  · refine hgo.trans ?_
    exact phase_enterRecording
      (s :=
        { s with
          state := .warmingUp
          everConfigured := true
          timers := { s.timers with command := none, watchdog := some s.clock }
          warmup := s.warmup.resetReceiverStatus })
      hpc
  · exact hgo

theorem phase_startConnect (hpc : s.pc.starting = false) (hearly : s.state.early = true) :
    Moves requested s.phase s.startConnect.phase :=
  .single (.go hpc hearly rfl)

theorem phase_sendCurrentCommand (hpc : s.pc.starting = false) (hearly : s.state.early = true) :
    Moves requested s.phase s.sendCurrentCommand.phase := by
  unfold sendCurrentCommand
  split
  · exact phase_enterWarmup hpc hearly
  · exact .refl

theorem phase_onConnectionDescriptor (L : CommandLayer) (hpc : s.pc.starting = false)
    (d : String) :
    Moves requested s.phase (onConnectionDescriptor L s d).phase := by
  unfold onConnectionDescriptor
  dsimp only
  split
  · exact .refl
  · rename_i hstate
    rw [ne_eq, not_not] at hstate
    split
    · exact phase_failStartup { s with descriptor := d }
    · rename_i cmds hbuilt
      have hgo : Moves requested s.phase { s.phase with state := .configuring } :=
        .single (.go hpc (by rw [show s.phase.state = s.state from rfl, hstate]; rfl) rfl)
      refine hgo.trans ?_
      exact phase_sendCurrentCommand
        (s :=
          { s with
            descriptor := d
            cmds
            whitelist := L.driverCommandWhitelist cmds
            cmdIndex := 0
            state := .configuring })
        hpc rfl

theorem phase_handleCommandReply (L : CommandLayer) (hpc : s.pc.starting = false)
    (reply : String) (error : Bool) : Moves requested s.phase (handleCommandReply L s reply error).phase := by
  unfold handleCommandReply
  dsimp only
  split
  · exact .refl
  · rename_i hstate
    rw [ne_eq, not_not] at hstate
    split
    · exact .refl
    · split
      · exact .refl
      · split
        · exact phase_handleFailure { s with timers := { s.timers with command := none } }
        · split
          · exact phase_handleFailure { s with timers := { s.timers with command := none } }
          · split
            · exact .refl
            · split
              · exact phase_handleFailure { s with timers := { s.timers with command := none } }
              · exact phase_sendCurrentCommand
                  (s :=
                    { s with
                      timers := { s.timers with command := none }
                      cmdIndex := s.cmdIndex + 1 })
                  hpc (by dsimp only; rw [hstate]; rfl)

theorem phase_completeListCommand (L : CommandLayer) (hpc : s.pc.starting = false)
    (hstate : s.state = .configuring) (cmd : Command) : Moves requested s.phase (completeListCommand L s cmd).phase := by
  unfold completeListCommand
  dsimp only
  split
  · exact phase_handleFailure { s with timers := { s.timers with command := none } }
  · exact phase_sendCurrentCommand
      (s :=
        { s with
          timers := { s.timers with command := none }
          lstReplySeen := false
          lstText := ""
          cmdIndex := s.cmdIndex + 1 })
      hpc (by dsimp only; rw [hstate]; rfl)

theorem phase_onPrompt (L : CommandLayer) (hpc : s.pc.starting = false) :
    Moves requested s.phase (onPrompt L s).phase := by
  unfold onPrompt
  split
  · rename_i hlisting
    split
    · exact .refl
    · exact phase_completeListCommand L hpc hlisting.1 _
  · exact .refl

theorem phase_onReceiverStatus (L : CommandLayer) (s : Session) (block : QByteArray) :
    Moves requested s.phase (onReceiverStatus L s block).phase := by
  unfold onReceiverStatus
  split
  · exact .refl
  · dsimp only
    split
    · split <;> exact .refl
    · split
      · exact phase_shutdown
          { s with
            warmup := _
            recordingErrors := s.recordingErrors + 1 }
          (fun _ => .inl rfl)
      · exact .refl

theorem phase_onSbfBlock (hready : s.pc = .ready) (block : QByteArray) :
    Moves requested s.phase (s.onSbfBlock block).phase := by
  unfold onSbfBlock
  split
  · exact .refl
  · split
    · exact .refl
    · exact .single (.goOn (by rw [show s.phase.pc = s.pc from rfl, hready]; rfl) rfl)

theorem phase_onEnqueued (L : CommandLayer) (hready : s.pc = .ready) (block : QByteArray)
    (queued : Bool) : Moves requested s.phase (onEnqueued L s block queued).phase := by
  have hgate : Moves requested s.phase { s.phase with pc := .gateCheck } :=
    .single (.goOn (by rw [show s.phase.pc = s.pc from rfl, hready]; rfl) rfl)
  unfold onEnqueued
  dsimp only
  split
  · exact phase_shutdown { s with recordingErrors := s.recordingErrors + 1 } (fun _ => .inl rfl)
  · split
    · exact moves_after (phase_onReceiverStatus L · block) hgate
    · exact hgate

theorem phase_askGate (hgate : s.pc = .gateCheck) : Moves requested s.phase s.askGate.phase := by
  have hready : Moves requested s.phase { s.phase with pc := .ready } :=
    .single (.goOn (by rw [show s.phase.pc = s.pc from rfl, hgate]; rfl) rfl)
  unfold askGate
  dsimp only
  split
  · refine hready.trans ?_
    exact phase_enterRecording (s := { s with pc := .ready }) rfl
  · exact hready

/-- The recovery timer only fires in vain while the session is stopping. -/
theorem phase_onTimeout (hpc : s.pc.starting = false) (timer : SessionTimer) :
    Moves requested s.phase (s.onTimeout timer).phase := by
  unfold onTimeout
  cases timer with
  | connect =>
    dsimp only
    split
    · exact phase_handleFailure { s with timers := s.timers.fire .connect }
    · exact .refl
  | retry =>
    dsimp only
    split
    · rename_i hbackoff
      exact phase_startConnect (s := { s with timers := s.timers.fire .retry }) hpc
        (by dsimp only; rw [hbackoff]; rfl)
    · exact .refl
  | recovery =>
    dsimp only [failStartup]
    split
    · rename_i hstopping
      exact .single (.expire hstopping)
    · rename_i hstopping
      dsimp only [shutdown]
      rw [if_neg hstopping]
      exact .single (.stop hstopping (fun _ => .inl rfl))
  | watchdog =>
    dsimp only [onWatchdog]
    split
    · exact .refl
    · exact phase_handleFailure { s with timers := s.timers.fire .watchdog }
  | command =>
    dsimp only [onCommandTimeout]
    split
    · exact .refl
    · exact phase_handleFailure { s with timers := s.timers.fire .command }
  | stats => exact .refl
  | warmupLog =>
    dsimp only
    split
    · exact phase_enterRecording (s := { s with timers := s.timers.fire .warmupLog }) hpc
    · exact .refl

/-- An event finds no `Start` running. -/
theorem not_starting_of_enabled {e : SessionEvent} (h : s.enabled e = true) :
    s.pc.starting = false := by
  unfold enabled at h
  split at h <;> first
    | (rename_i hpc; rw [hpc]; rfl)
    | exact nomatch h

theorem phase_handle (cfg : SessionConfig) {e : SessionEvent} (h : s.enabled e = true)
    (hstart : e ≠ .start) (hconnected : e = .connected → s.state.early = true)
    (hrequest : e = .shutdown → s.state = .recording → requested) :
    Moves requested s.phase (s.handle cfg e).phase := by
  have hpc := not_starting_of_enabled h
  cases e with
  | start => exact absurd rfl hstart
  | shutdown => exact phase_shutdown s (fun hrecording => .inr (hrequest rfl hrecording))
  | connected => exact .single (.go hpc (hconnected rfl) rfl)
  | newConnectionDescriptor d => exact phase_onConnectionDescriptor cfg.layer hpc d
  | newCommandReply reply error => exact phase_handleCommandReply cfg.layer hpc reply error
  | newFormattedInformationBlock contents =>
    dsimp only [handle, onFormattedInformationBlock]
    split <;> exact .refl
  | newPrompt => exact phase_onPrompt cfg.layer hpc
  | newSBFBlock block => exact phase_onSbfBlock (ready_of_enabled h rfl) block
  | sbfCRCError => exact phase_onStreamDamage { s with crcErrors := s.crcErrors + 1 }
  | discardedBytes n => exact .refl
  | communicationError message => exact phase_onCommunicationError s message
  | connectionClosed => exact phase_handleFailure s
  | timeout timer => exact phase_onTimeout hpc timer
  | writeFailed => exact phase_onWriteFailed { s with posted := s.posted - 1 }

/-- Behind `Close`, `Shutdown` and its caller emit `FatalError` when there is cause. -/
theorem phase_onClosed (cfg : SessionConfig) {fatal : Bool}
    (hwaiting : s.pc = .waiting (.close fatal)) :
    Moves requested s.phase (s.onReturn cfg (.close fatal)).phase := by
  dsimp only [onReturn]
  cases fatal with
  | true =>
    have hclosing : s.phase.pc.closingFatal = true := by
      rw [show s.phase.pc = s.pc from rfl, hwaiting]
      rfl
    by_cases hclean : s.writer.returned = some true
    · rw [if_pos hclean]
      exact .single (.closed hclosing (.inl rfl))
    · have hmove : Moves requested s.phase
          { s.phase with
            pc := .ready
            notifications := s.phase.notifications ++ [.fatalError, .fatalError] } :=
        .single (.closed hclosing (.inr rfl))
      rw [List.append_cons] at hmove
      rw [if_neg hclean]
      exact hmove
  | false =>
    have hgo : Moves requested s.phase { s.phase with pc := .ready } :=
      .single (.goOn (by rw [show s.phase.pc = s.pc from rfl, hwaiting]; rfl) rfl)
    by_cases hclean : s.writer.returned = some true
    · rw [if_pos hclean]
      exact hgo
    · rw [if_neg hclean]
      exact hgo.trans (.single .complain)

theorem phase_onReturn (cfg : SessionConfig) {c : QueueCall} (hwaiting : s.pc = .waiting c)
    (hstart : s.pc = .waiting .start → s.state.early = true) :
    Moves requested s.phase (s.onReturn cfg c).phase := by
  cases c with
  | start =>
    have hgo : Moves requested s.phase { s.phase with pc := .ready } :=
      .single (.goOn (by rw [show s.phase.pc = s.pc from rfl, hwaiting]; rfl) rfl)
    refine hgo.trans ?_
    exact phase_startConnect
      (s := { s with timers := { s.timers with stats := some s.clock }, pc := .ready })
      rfl (hstart hwaiting)
  | enqueue block =>
    have hgo : Moves requested s.phase { s.phase with pc := .ready } :=
      .single (.goOn (by rw [show s.phase.pc = s.pc from rfl, hwaiting]; rfl) rfl)
    refine hgo.trans ?_
    exact phase_onEnqueued cfg.layer (s := { s with pc := .ready }) rfl block _
  | close fatal => exact phase_onClosed cfg hwaiting

/-- `Start` goes from its call of the queue into that call. -/
def EntersStart (s s' : Session) : Prop :=
  s'.pc.starting = true ∧ s'.phase = { s.phase with pc := s'.pc }

theorem phase_resume (cfg : SessionConfig) (h : s.resume cfg = some s')
    (hstart : s.pc = .waiting .start → s.state.early = true) :
    Moves requested s.phase s'.phase ∨ s.pc.starting = true ∧ EntersStart s s' := by
  unfold resume at h
  split at h
  case h_1 => exact nomatch h
  case h_2 c hcalling =>
    obtain ⟨writer, -, rfl⟩ := Option.map_eq_some_iff.mp h
    cases c with
    | start => exact .inr ⟨by rw [hcalling]; rfl, rfl, rfl⟩
    | close fatal => exact .inl (.single (.waitClose hcalling))
    | enqueue =>
      exact .inl (.single (.goOn (by rw [show s.phase.pc = s.pc from rfl, hcalling]; rfl) rfl))
  case h_3 c hwaiting =>
    split_ifs at h
    exact .inl (Option.some.inj h ▸ phase_onReturn cfg hwaiting hstart)
  case h_4 hgate => exact .inl (Option.some.inj h ▸ phase_askGate hgate)
  case h_5 hback =>
    obtain rfl := Option.some.inj h
    exact .inl (.single (.goOn (by rw [show s.phase.pc = s.pc from rfl, hback]; rfl) rfl))

/-- **A step of the session is a sequence of moves of its phase**, but for the way into
`Start`. -/
theorem phase_step (cfg : SessionConfig) {a : SessionAction} (h : step cfg s a = some s')
    (hconnected : a = .event .connected → s.state.early = true)
    (hstart : s.pc = .waiting .start → s.state.early = true)
    (hrequest : a = .event .shutdown → s.state = .recording → requested) :
    Moves requested s.phase s'.phase ∨
      (a = .event .start ∨ s.pc.starting = true) ∧ EntersStart s s' := by
  cases a with
  | event e =>
    dsimp only [step] at h
    split_ifs at h with henabled
    obtain rfl := Option.some.inj h
    by_cases he : e = .start
    · subst he
      exact .inr ⟨.inl rfl, rfl, rfl⟩
    · exact .inl (phase_handle cfg henabled he (fun he => hconnected (he ▸ rfl))
        (fun he => hrequest (he ▸ rfl)))
  | resume => exact (phase_resume cfg h hstart).imp_right (And.imp_left .inr)
  | queueOwner r =>
    dsimp only [step] at h
    split at h
    · obtain ⟨writer, -, rfl⟩ := Option.map_eq_some_iff.mp h
      exact .inl .refl
    · exact nomatch h
  | queueWriter r =>
    obtain ⟨writer, -, rfl⟩ := Option.map_eq_some_iff.mp h
    exact .inl .refl
  | tick elapsed =>
    obtain rfl := Option.some.inj h
    exact .inl .refl

/-! ## The pending attempt -/

/-- The handler is inside `closeConnection`. -/
def InClose (s : Session) : Prop := s.pc = .backingOff ∨ ∃ fatal, s.pc = .calling (.close fatal)

theorem inClose_shutdown (hs : s.state ≠ .stopping) (fatal : Bool) :
    (s.shutdown fatal).InClose := by
  unfold shutdown
  rw [if_neg hs]
  exact .inr ⟨fatal, rfl⟩

theorem inClose_failStartup (hs : s.state = .connecting) : s.failStartup.InClose := by
  have hnot : s.state ≠ .stopping := by
    rw [hs]
    exact nofun
  unfold failStartup
  rw [if_neg hnot]
  exact inClose_shutdown hnot true

/-- A failure of a connection attempt closes it. -/
theorem inClose_handleFailure (hs : s.state = .connecting) : s.handleFailure.InClose := by
  have hnot : ¬ (s.state = .stopping ∨ s.state = .backoff) := by
    rw [hs]
    exact not_or.mpr ⟨nofun, nofun⟩
  unfold handleFailure
  rw [if_neg hnot]
  dsimp only
  split
  · exact inClose_failStartup (s := { s with recordingErrors := s.recordingErrors + 1 }) hs
  · split
    · rename_i hrecording
      exact nomatch hs.symm.trans hrecording
    · exact .inl rfl

/-- While the attempt is pending the session stays in `Connecting`. -/
theorem connecting_handle (cfg : SessionConfig) (hs : s.state = .connecting) {e : SessionEvent}
    (he : e ≠ .connected) : (s.handle cfg e).state = .connecting ∨ (s.handle cfg e).InClose := by
  have hdamage (t : Session) (ht : t.state = .connecting) :
      t.onStreamDamage.state = .connecting := by
    unfold onStreamDamage
    rw [if_neg (by rw [ht]; exact nofun)]
    dsimp only
    rw [if_pos (by rw [ht]; exact nofun)]
    exact ht
  cases e with
  | start | discardedBytes => exact .inl hs
  | shutdown => exact .inr (inClose_shutdown (by rw [hs]; exact nofun) false)
  | connected => exact absurd rfl he
  | newConnectionDescriptor d =>
    dsimp only [handle, onConnectionDescriptor]
    rw [if_pos (by rw [hs]; exact nofun)]
    exact .inl hs
  | newCommandReply reply error =>
    dsimp only [handle, handleCommandReply]
    rw [if_pos (by rw [hs]; exact nofun)]
    exact .inl hs
  | newFormattedInformationBlock contents =>
    dsimp only [handle, onFormattedInformationBlock]
    rw [if_pos (.inl (by rw [hs]; exact nofun))]
    exact .inl hs
  | newPrompt =>
    dsimp only [handle, onPrompt]
    rw [if_neg (by rw [hs]; exact fun h => nomatch h.1)]
    exact .inl hs
  | newSBFBlock block =>
    dsimp only [handle, onSbfBlock]
    split_ifs <;> exact .inl hs
  | sbfCRCError => exact .inl (hdamage _ hs)
  | communicationError message =>
    dsimp only [handle, onCommunicationError]
    split_ifs
    · exact .inl hs
    · exact .inl (hdamage _ hs)
    · exact .inr (inClose_handleFailure hs)
  | connectionClosed => exact .inr (inClose_handleFailure hs)
  | timeout timer =>
    have hnot : ¬ s.state = .backoff := by
      rw [hs]
      exact nofun
    dsimp only [handle, onTimeout]
    cases timer with
    | connect =>
      dsimp only
      rw [if_pos hs]
      exact .inr (inClose_handleFailure (s := { s with timers := s.timers.fire .connect }) hs)
    | retry =>
      dsimp only
      rw [if_neg hnot]
      exact .inl hs
    | recovery =>
      exact .inr (inClose_failStartup (s := { s with timers := s.timers.fire .recovery }) hs)
    | watchdog =>
      dsimp only [onWatchdog]
      rw [if_pos (by rw [hs]; exact ⟨nofun, nofun⟩)]
      exact .inl hs
    | command =>
      dsimp only [onCommandTimeout]
      rw [if_pos (by rw [hs]; exact ⟨nofun, nofun⟩)]
      exact .inl hs
    | stats => exact .inl hs
    | warmupLog =>
      dsimp only
      rw [if_neg (by rw [hs]; exact fun h => nomatch h.1)]
      exact .inl hs
  | writeFailed =>
    dsimp only [handle, onWriteFailed]
    rw [if_neg (by rw [hs]; exact nofun)]
    exact .inr (inClose_shutdown (by dsimp only; rw [hs]; exact nofun) true)

theorem connecting_resume (cfg : SessionConfig) (hs : s.state = .connecting)
    (h : s.resume cfg = some s') : s'.state = .connecting ∨ s'.InClose := by
  unfold resume at h
  split at h
  case h_1 => exact nomatch h
  case h_2 c hcalling =>
    obtain ⟨writer, -, rfl⟩ := Option.map_eq_some_iff.mp h
    exact .inl hs
  case h_3 c hwaiting =>
    split_ifs at h
    obtain rfl := Option.some.inj h
    cases c with
    | start => exact .inl rfl
    | enqueue block =>
      dsimp only [onReturn, onEnqueued]
      split
      · exact .inr (inClose_shutdown (by dsimp only; rw [hs]; exact nofun) true)
      · split
        · rename_i hphase
          rw [hs] at hphase
          obtain hphase | hphase := hphase <;> exact nomatch hphase
        · exact .inl hs
    | close fatal =>
      dsimp only [onReturn]
      split_ifs <;> exact .inl hs
  case h_4 hgate =>
    obtain rfl := Option.some.inj h
    dsimp only [askGate]
    rw [if_neg (by rw [hs]; exact fun h => nomatch h.1)]
    exact .inl hs
  case h_5 hback =>
    obtain rfl := Option.some.inj h
    exact .inl hs

theorem connecting_step (cfg : SessionConfig) {a : SessionAction} (hs : s.state = .connecting)
    (ha : a ≠ .event .connected) (h : step cfg s a = some s') :
    s'.state = .connecting ∨ s'.InClose := by
  cases a with
  | event e =>
    dsimp only [step] at h
    split_ifs at h
    obtain rfl := Option.some.inj h
    exact connecting_handle cfg hs (fun he => ha (he ▸ rfl))
  | resume => exact connecting_resume cfg hs h
  | queueOwner r =>
    dsimp only [step] at h
    split at h
    · obtain ⟨writer, -, rfl⟩ := Option.map_eq_some_iff.mp h
      exact .inl hs
    · exact nomatch h
  | queueWriter r =>
    obtain ⟨writer, -, rfl⟩ := Option.map_eq_some_iff.mp h
    exact .inl hs
  | tick elapsed =>
    obtain rfl := Option.some.inj h
    exact .inl hs

/-- A step that starts an attempt leads to `Connecting`. -/
theorem connecting_of_startsAttempt (cfg : SessionConfig) {a : SessionAction}
    (h : step cfg s a = some s') (hstarts : startsAttempt ⟨s, a, s'⟩ = true) :
    s'.state = .connecting := by
  unfold startsAttempt at hstarts
  split at hstarts
  · rename_i ha
    dsimp only at ha hstarts
    subst ha
    have hwaiting := of_decide_eq_true hstarts
    dsimp only [step, resume] at h
    rw [hwaiting] at h
    dsimp only at h
    split_ifs at h
    rw [← Option.some.inj h]
    rfl
  · rename_i ha
    dsimp only at ha hstarts
    subst ha
    have hbackoff := of_decide_eq_true hstarts
    dsimp only [step] at h
    split_ifs at h
    rw [← Option.some.inj h]
    dsimp only [handle, onTimeout]
    rw [if_pos hbackoff]
    rfl
  · exact nomatch hstarts

theorem endsAttempt_of_inClose {t : Taken Session SessionAction} (h : t.after.InClose) :
    endsAttempt t = true := by
  unfold endsAttempt
  split
  · rfl
  · rfl
  · rfl
  · rename_i hback hclose
    obtain hpc | ⟨fatal, hpc⟩ := h
    · exact absurd hpc hback
    · exact absurd hpc (hclose fatal)

/-! ## Runs -/

/-- `Shutdown` was requested while the session was recording. -/
def StopRequested (history : SessionHistory) : Prop := ∃ t ∈ history, requestedStop t = true

theorem startCalled_cons (t : Taken Session SessionAction) (history : SessionHistory) :
    startCalled (t :: history) =
      ((match t.action with
        | .event .start => true
        | _ => false) || startCalled history) := rfl

/-- What the promises give, and what follows for the signals. -/
structure Lawful (s : Session) (history : SessionHistory) : Prop where
  pending : pendingAttempt history = true → s.state = .connecting
  fresh : startCalled history = false → s.state = .idle ∧ s.pc = .ready
  starting : s.pc.starting = true → s.state = .idle
  sound : s.phase.Sound (StopRequested history)

/-- A step of a lawful session. -/
theorem lawful_inv {cfg : SessionConfig} {x x' : Session × SessionHistory} {a : SessionAction}
    (h : (lawful cfg).step x a = some x') :
    promised x a = true ∧ step cfg x.1 a = some x'.1 ∧ x'.2 = ⟨x.1, a, x'.1⟩ :: x.2 := by
  obtain ⟨hallowed, hrecorded⟩ := StepSystem.guarded_step h
  obtain ⟨hstep, hhistory⟩ := StepSystem.recorded_step hrecorded
  exact ⟨hallowed, hstep, hhistory⟩

/-- A lawful step is a sequence of moves, or leads into `Start`. -/
theorem Lawful.moves {cfg : SessionConfig} {history : SessionHistory} {a : SessionAction}
    (hs : s.Lawful history) (hallowed : promised (s, history) a = true)
    (h : step cfg s a = some s') :
    Moves (StopRequested (⟨s, a, s'⟩ :: history)) s.phase s'.phase ∨
      (a = .event .start ∨ s.pc.starting = true) ∧ EntersStart s s' := by
  refine phase_step cfg h ?_ ?_ ?_
  · rintro rfl
    rw [hs.pending ((Bool.and_eq_true _ _).mp hallowed).2]
    rfl
  · intro hpc
    rw [hs.starting (by rw [hpc]; rfl)]
    rfl
  · rintro rfl hrecording
    exact ⟨_, List.mem_cons_self, decide_eq_true hrecording⟩

theorem Lawful.step {cfg : SessionConfig} {history : SessionHistory} {a : SessionAction}
    (hs : s.Lawful history) (hallowed : promised (s, history) a = true)
    (h : step cfg s a = some s') : s'.Lawful (⟨s, a, s'⟩ :: history) := by
  have hmoves := hs.moves hallowed h
  have hidle (hstart : a = .event .start) : s.state = .idle ∧ s.pc = .ready := by
    subst hstart
    exact hs.fresh ((Bool.not_eq_true' _).mp hallowed)
  refine ⟨?_, ?_, ?_, ?_⟩
  · intro hpending
    unfold pendingAttempt at hpending
    rw [Bool.or_eq_true, Bool.and_eq_true, Bool.not_eq_true'] at hpending
    obtain hstarts | ⟨hnot, hpending⟩ := hpending
    · exact connecting_of_startsAttempt cfg h hstarts
    · have hconnected : a ≠ .event .connected := by
        rintro rfl
        exact nomatch hnot
      obtain hstate | hclose := connecting_step cfg (hs.pending hpending) hconnected h
      · exact hstate
      · rw [endsAttempt_of_inClose hclose] at hnot
        exact nomatch hnot
  · intro hnone
    rw [startCalled_cons, Bool.or_eq_false_iff] at hnone
    have hnone' : startCalled history = false := hnone.2
    obtain ⟨hstate, hpc⟩ := hs.fresh hnone'
    cases a with
    | event e =>
      cases e with
      | start => exact nomatch hnone.1
      | connected =>
        rw [promised, hnone'] at hallowed
        exact nomatch hallowed
      | _ => exact nomatch hnone'.symm.trans hallowed
    | resume =>
      change resume cfg s = some s' at h
      unfold resume at h
      rw [hpc] at h
      exact nomatch h
    | queueOwner r =>
      unfold Session.step at h
      dsimp only at h
      rw [hpc] at h
      exact nomatch h
    | queueWriter r =>
      obtain ⟨writer, -, rfl⟩ := Option.map_eq_some_iff.mp h
      exact ⟨hstate, hpc⟩
    | tick elapsed =>
      obtain rfl := Option.some.inj h
      exact ⟨hstate, hpc⟩
  · intro hpc
    obtain hmoves | ⟨hcause, -, hphase⟩ := hmoves
    · obtain ⟨hpc', hstate⟩ := Phase.starting_moves hmoves hpc
      exact hstate.trans (hs.starting hpc')
    · have hstate : s'.state = s.state := congrArg Phase.state hphase
      obtain hstart | hpc' := hcause
      · exact hstate.trans (hidle hstart).1
      · exact hstate.trans (hs.starting hpc')
  · have hsound : s.phase.Sound (StopRequested (⟨s, a, s'⟩ :: history)) :=
      hs.sound.weaken fun ⟨t, ht, hrequested⟩ => ⟨t, List.mem_cons_of_mem _ ht, hrequested⟩
    obtain hmoves | ⟨hcause, -, hphase⟩ := hmoves
    · exact Phase.Moves.keep (fun hp hmove => hp.move hmove) hsound hmoves
    · have hstate : s.state = .idle := by
        obtain hstart | hpc' := hcause
        · exact (hidle hstart).1
        · exact hs.starting hpc'
      rw [hphase]
      refine ⟨hsound.early, hsound.recording, hsound.once, fun _ hstopping => ?_⟩
      exact nomatch hstate.symm.trans hstopping

theorem lawful_of_reachable {cfg : SessionConfig} {x : Session × SessionHistory}
    (h : (lawful cfg).Reachable x) : x.1.Lawful x.2 := by
  refine h.invariant (P := fun x => x.1.Lawful x.2) ?_ ?_
  · rintro ⟨s, history⟩ ⟨rfl, rfl⟩
    exact ⟨nofun, fun _ => ⟨rfl, rfl⟩, nofun, nofun, nofun, Nat.zero_le _, nofun⟩
  · rintro ⟨s, history⟩ a ⟨s', history'⟩ hs hstep
    obtain ⟨hallowed, hstep, hhistory⟩ := lawful_inv hstep
    dsimp only at hhistory
    rw [hhistory]
    exact hs.step hallowed hstep

/-- What every move keeps, and the way into `Start` cannot hurt, a lawful run keeps. -/
theorem lawful_steps {cfg : SessionConfig} {P : Phase → Prop}
    (hmove : ∀ {requested : Prop} {p q : Phase}, P p → Move requested p q → P q)
    (hpc : ∀ {p : Phase} (pc : SessionPc), P p → P { p with pc }) {x x' : Session × SessionHistory}
    (hx : (lawful cfg).Reachable x) (hP : P x.1.phase) (hrun : (lawful cfg).Steps x x') :
    P x'.1.phase := by
  refine StepSystem.Steps.stable (P := fun x => P x.1.phase) ?_ hx hP hrun
  rintro ⟨s, history⟩ a ⟨s', history'⟩ hreach hP hstep
  obtain ⟨hallowed, hstep, -⟩ := lawful_inv hstep
  obtain hmoves | ⟨-, -, hphase⟩ := (lawful_of_reachable hreach).moves hallowed hstep
  · exact Phase.Moves.keep hmove hP hmoves
  · show P s'.phase
    rw [hphase]
    exact hpc _ hP

theorem timed_of_lawful {cfg : SessionConfig} {x : Session × SessionHistory}
    (h : (lawful cfg).Reachable x) : x.1.Timed :=
  timed_of_reachable (StepSystem.Reachable.of_recorded (StepSystem.Reachable.of_guarded h))

/-- **A session that has been recording fails fast.**  `Configured` is emitted at most once.
Behind `Recording` there is only `Stopping`, with a `FatalError` behind `Configured` unless the
stop was requested.  An outage has a recovery deadline, and whatever the session retries, that
deadline stands until the session records or stops. -/
theorem fail_fast (cfg : SessionConfig) (s : Session) (history : SessionHistory)
    (h : (lawful cfg).Reachable (s, history)) :
    s.notifications.count .configured ≤ 1 ∧
      (s.state = .recording → ∀ s' history', (lawful cfg).Steps (s, history) (s', history') →
        s'.state = .recording ∨
          s'.state = .stopping ∧
            (s'.pc = .ready → StopRequested history' ∨ s'.phase.Complained)) ∧
      (s.state = .backoff → s.timers.isActive .recovery = true) ∧
      (∀ started, s.timers.recovery = some started →
        ∀ s' history', (lawful cfg).Steps (s, history) (s', history') →
          s'.timers.recovery = some started ∨ s'.state = .stopping ∨
            Notification.configured ∈ s'.notifications) := by
  have hs := lawful_of_reachable h
  refine ⟨hs.sound.once, ?_, ?_, ?_⟩
  · intro hrecording s' history' hrun
    have hs' := lawful_of_reachable (h.steps hrun)
    have hlate : s'.state.early = false :=
      lawful_steps (P := fun p => p.state.early = false) Phase.late_move (fun _ hp => hp) h
        (by rw [phase, hrecording]; rfl) hrun
    have hrecorded : s'.phase.Recorded :=
      lawful_steps (P := Phase.Recorded) Phase.recorded_move (fun _ hp => hp) h
        (hs.sound.recording hrecording) hrun
    cases hstate : s'.state with
    | recording => exact .inl rfl
    | stopping =>
      refine .inr ⟨rfl, fun hready => ?_⟩
      obtain hclosing | hexcuse := hs'.sound.stopped hrecorded hstate
      · change s'.pc.closingFatal = true at hclosing
        rw [hready] at hclosing
        exact nomatch hclosing
      · exact hexcuse
    | _ =>
      rw [hstate] at hlate
      exact nomatch hlate
  · intro hbackoff
    have htimed := timed_of_lawful h
    unfold Timed at htimed
    dsimp only at htimed
    rw [hbackoff] at htimed
    exact htimed.1
  · intro started hstarted s' history' hrun
    exact lawful_steps
      (P := fun p => p.recovery = some started ∨ p.state = .stopping ∨ p.Recorded)
      Phase.deadline_move (fun _ hp => hp) h (.inl hstarted) hrun

/-- A recording session that loses its connection. -/
theorem fail_fast_of_lost_connection :
    ∃ cfg s history s' history', (lawful cfg).Steps (s, history) (s', history') ∧
      s.state = .recording ∧ s'.state = .stopping ∧ s'.phase.Complained := by
  let done : StreamResult := ⟨true, 0⟩
  let opened : OpenResult := ⟨done, done, true, done, done, done⟩
  let r : WriteResult := ⟨⟨opened, opened, done, false, opened⟩, done, done⟩
  let toRecording : List SessionAction :=
    [.event .start, .resume, .queueOwner r, .resume, .event .connected,
      .event (.newConnectionDescriptor "IP10")]
  let lost : List SessionAction :=
    [.event .connectionClosed, .resume, .queueWriter r, .queueOwner r, .queueOwner r,
      .queueOwner r, .queueOwner r, .resume]
  -- a receiver that needs no command, and no warm-up
  let layer : CommandLayer :=
    { buildCommandList := fun _ => .ok []
      driverCommandWhitelist := fun _ => []
      commandNameOf := id
      equalsCi := fun a b => a == b
      parseReceiverCapabilitiesReply := fun _ => .error "no capabilities"
      verifyFirstFields := fun _ _ _ => .error "no field"
      parseAntennaOverview := fun _ => []
      verifyAntennaTypes := fun _ => .ok ()
      parseConfigFileListing := fun _ => []
      verifyConfigListing := fun _ _ => .ok ()
      receiverStatus := fun _ => none }
  let cfg : SessionConfig := ⟨⟨1024, 0, 16, by decide⟩, 0, false, layer⟩
  have hrun : ((lawful cfg).exec (new cfg, []) toRecording).map
      (fun x => (x.1.state, ((lawful cfg).exec x lost).map fun x =>
        (x.1.state, x.1.pc, x.2.any requestedStop))) =
      some (.recording, some (.stopping, .ready, false)) := rfl
  obtain ⟨⟨s, history⟩, hexec, hs⟩ := Option.map_eq_some_iff.mp hrun
  obtain ⟨hrecording, hlost⟩ := Prod.mk.inj hs
  obtain ⟨⟨s', history'⟩, hexec', hs'⟩ := Option.map_eq_some_iff.mp hlost
  simp only [Prod.mk.injEq] at hs'
  obtain ⟨hstopping, hready, hnone⟩ := hs'
  have hreach : (lawful cfg).Reachable (s, history) :=
    StepSystem.reachable_of_exec (s := (new cfg, [])) (.init ⟨rfl, rfl⟩) hexec
  have hsteps := StepSystem.steps_of_exec hexec'
  obtain ⟨-, hlate, -⟩ := fail_fast cfg s history hreach
  refine ⟨cfg, s, history, s', history', hsteps, hrecording, hstopping, ?_⟩
  obtain hstate | ⟨-, hexcuse⟩ := hlate hrecording s' history' hsteps
  · exact nomatch hstate.symm.trans hstopping
  · obtain ⟨t, ht, hrequested⟩ | hcomplained := hexcuse hready
    · exact absurd hrequested (List.any_eq_false.mp hnone t ht)
    · exact hcomplained

end Session
end Asterx
end AmigaDrivers
