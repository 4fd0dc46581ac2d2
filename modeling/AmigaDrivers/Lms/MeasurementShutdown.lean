import AmigaDrivers.Foundation.StepSystem

/-!
# Stopping the measurement once

`lms4xxx::MeasurementShutdown` remembers that a measurement has been asked for and stops it once:
a login, and behind a login that succeeds the stop command.  The caller brings the transport, which
may succeed, return an error or throw; `std::error_code` is `none` where it is clear.  The second
part is the caller: `StopMeasurement` of the driver, which may have to connect again first, and
`StopScanning`, which calls it while the stream still runs and again when it has ended.

`calls` records the calls of the transport since the last `Arm`, and how they ended; `sent` the
commands that have gone to a channel.  Nothing reads them.

* `phase_of_reachable`: the three phases of a shutdown.
* `shutdown_discipline`: one login, one stop command, one result, in every run.
-/

namespace AmigaDrivers
namespace Lms

/-! ## The state machine -/

/-- The commands `Stop` gives to the transport, with the status byte that means success. -/
inductive ShutdownCommand
  | setAccessMode
  | lmcStopMeas
  deriving DecidableEq, Repr

/-- `expected_status`. -/
def ShutdownCommand.expectedStatus : ShutdownCommand → UInt8
  | .setAccessMode => 0x01
  | .lmcStopMeas => 0x00

/-- How a call of the transport ends. -/
inductive CallOutcome (ε : Type)
  | success
  | error (e : ε)
  | threw
  deriving DecidableEq, Repr

/-- The transport of a caller with a state of its own. -/
abbrev Transport (σ ε : Type) := ShutdownCommand → σ → CallOutcome ε × σ

/-- `MeasurementShutdownStatus`. -/
structure MeasurementShutdownStatus where
  measurementStartRequested : Bool := false
  cleanupAttempted : Bool := false
  stopMeasurementCommandAttempted : Bool := false
  stopMeasurementConfirmed : Bool := false
  deriving DecidableEq, Repr

/-- `MeasurementShutdown`. -/
structure MeasurementShutdown (ε : Type) where
  status : MeasurementShutdownStatus := {}
  result : Option ε := none
  deriving DecidableEq, Repr

variable {σ ε : Type}

namespace MeasurementShutdown

/-- `Arm`. -/
def arm : MeasurementShutdown ε where
  status := { measurementStartRequested := true }
  result := none

/-- `Pending`. -/
def pending (s : MeasurementShutdown ε) : Bool :=
  s.status.measurementStartRequested && !s.status.cleanupAttempted

/-- The first statement behind the test for `Pending`. -/
def attempt (s : MeasurementShutdown ε) : MeasurementShutdown ε :=
  { s with status := { s.status with cleanupAttempted := true } }

/-- `status_.stop_measurement_command_attempted = true`. -/
def attemptStop (s : MeasurementShutdown ε) : MeasurementShutdown ε :=
  { s with status := { s.status with stopMeasurementCommandAttempted := true } }

/-- The result of a call, with `io_error` for one that throws. -/
def settle (ioError : ε) (s : MeasurementShutdown ε) : CallOutcome ε → MeasurementShutdown ε
  | .success => { s with result := none }
  | .error e => { s with result := some e }
  | .threw => { s with result := some ioError }

/-- The statements behind the stop command; an exception skips them. -/
def confirm (s : MeasurementShutdown ε) : CallOutcome ε → MeasurementShutdown ε
  | .threw => s
  | .success => { s with status := { s.status with stopMeasurementConfirmed := true } }
  | .error _ => { s with status := { s.status with stopMeasurementConfirmed := false } }

/-- `Stop`, with the state of the caller and the calls that are made.  It returns the result it
leaves. -/
def stop (ioError : ε) (call : Transport σ ε) (s : MeasurementShutdown ε) (w : σ) :
    MeasurementShutdown ε × σ × List (ShutdownCommand × CallOutcome ε) :=
  if !s.pending then
    (s, w, [])
  else
    let s := s.attempt
    match call .setAccessMode w with
    | (.success, w) =>
      let s := (s.settle ioError .success).attemptStop
      let (stopped, w) := call .lmcStopMeas w
      ((s.settle ioError stopped).confirm stopped, w,
        [(.setAccessMode, .success), (.lmcStopMeas, stopped)])
    | (failed, w) => (s.settle ioError failed, w, [(.setAccessMode, failed)])

end MeasurementShutdown

/-! ## Runs -/

/-- What the owner does. -/
inductive ShutdownAction (σ ε : Type)
  | arm
  | stop (call : Transport σ ε)
  /-- something that is none of the shutdown's business -/
  | other (f : σ → σ)

/-- A shutdown with its owner, and the calls since the last `Arm`. -/
structure ShutdownRun (σ ε : Type) where
  shutdown : MeasurementShutdown ε := {}
  world : σ
  calls : List (ShutdownCommand × CallOutcome ε) := []

namespace ShutdownRun

/-- `Stop` in a run. -/
def stop (ioError : ε) (r : ShutdownRun σ ε) (call : Transport σ ε) : ShutdownRun σ ε :=
  let (shutdown, world, made) := r.shutdown.stop ioError call r.world
  { shutdown, world, calls := r.calls ++ made }

/-- An action of the owner. -/
def step (ioError : ε) (r : ShutdownRun σ ε) : ShutdownAction σ ε → ShutdownRun σ ε
  | .arm => { r with shutdown := .arm, calls := [] }
  | .stop call => r.stop ioError call
  | .other f => { r with world := f r.world }

/-- A shutdown as its constructor leaves it, in any surroundings. -/
def system (ioError : ε) : StepSystem (ShutdownRun σ ε) (ShutdownAction σ ε) where
  Init r := r.shutdown = {} ∧ r.calls = []
  step r a := some (r.step ioError a)

/-! ## The phases of a shutdown -/

/-- The result of a call that has not succeeded. -/
def errorOf (ioError : ε) : CallOutcome ε → Option ε
  | .success => none
  | .error e => some e
  | .threw => some ioError

/-- The three phases: nothing has been sent; the login has failed; the stop command has been
given. -/
inductive Phase (ioError : ε) : MeasurementShutdown ε → List (ShutdownCommand × CallOutcome ε) → Prop
  | before (requested : Bool) :
      Phase ioError ⟨⟨requested, false, false, false⟩, none⟩ []
  | refused {o : CallOutcome ε} (h : o ≠ .success) :
      Phase ioError ⟨⟨true, true, false, false⟩, errorOf ioError o⟩ [(.setAccessMode, o)]
  | commanded (o : CallOutcome ε) :
      Phase ioError ⟨⟨true, true, true, o matches .success⟩, errorOf ioError o⟩
        [(.setAccessMode, .success), (.lmcStopMeas, o)]

/-- What `Stop` does in each phase. -/
theorem phase_stop {ioError : ε} {r : ShutdownRun σ ε} (h : Phase ioError r.shutdown r.calls)
    (call : Transport σ ε) :
    Phase ioError (r.stop ioError call).shutdown (r.stop ioError call).calls := by
  obtain ⟨shutdown, world, calls⟩ := r
  dsimp only at h
  unfold stop MeasurementShutdown.stop
  cases h with
  | before requested =>
    cases requested with
    | false => exact .before false
    | true =>
      dsimp only [MeasurementShutdown.pending]
      rcases call .setAccessMode world with ⟨_ | e | _, w⟩
      · dsimp only
        rcases call .lmcStopMeas w with ⟨_ | e | _, w'⟩
        · exact .commanded .success
        · exact .commanded (.error e)
        · exact .commanded .threw
      · exact .refused (o := .error e) nofun
      · exact .refused (o := .threw) nofun
  | refused h => exact .refused h
  | commanded o => exact .commanded o

/-- **Every reachable state is in one of the phases.** -/
theorem phase_of_reachable {ioError : ε} {r : ShutdownRun σ ε}
    (h : (system ioError).Reachable r) : Phase ioError r.shutdown r.calls := by
  refine h.invariant (P := fun r => Phase ioError r.shutdown r.calls) ?_ ?_
  · rintro r ⟨hshutdown, hcalls⟩
    rw [hshutdown, hcalls]
    exact .before false
  · intro r a r' hr hstep
    obtain rfl := Option.some.inj hstep
    cases a with
    | arm => exact .before true
    | stop call => exact phase_stop hr call
    | other f => exact hr

/-- Behind a `Stop` nothing is pending. -/
theorem pending_stop (ioError : ε) (r : ShutdownRun σ ε) (call : Transport σ ε) :
    (r.stop ioError call).shutdown.pending = false := by
  unfold stop MeasurementShutdown.stop
  cases hpending : r.shutdown.pending with
  | false => exact hpending
  | true =>
    dsimp only
    rcases call .setAccessMode r.world with ⟨_ | e | _, w⟩
    · dsimp only
      rcases call .lmcStopMeas w with ⟨_ | e | _, w'⟩ <;>
        exact Bool.and_false _
    · exact Bool.and_false _
    · exact Bool.and_false _

/-- A `Stop` with nothing pending does nothing. -/
theorem stop_of_not_pending {ioError : ε} {r : ShutdownRun σ ε} (h : r.shutdown.pending = false)
    (call : Transport σ ε) : r.stop ioError call = r := by
  unfold stop MeasurementShutdown.stop
  rw [h]
  simp

/-- Until the next `Arm` a shutdown with nothing pending stays as it is. -/
theorem run_of_not_pending (ioError : ε) {actions : List (ShutdownAction σ ε)}
    (harm : ShutdownAction.arm ∉ actions) {r : ShutdownRun σ ε}
    (h : r.shutdown.pending = false) :
    (actions.foldl (step ioError) r).shutdown = r.shutdown ∧
      (actions.foldl (step ioError) r).calls = r.calls := by
  induction actions generalizing r with
  | nil => exact ⟨rfl, rfl⟩
  | cons action actions ih =>
    have hrest : ShutdownAction.arm ∉ actions := fun hmem => harm (List.mem_cons_of_mem _ hmem)
    rw [List.foldl_cons]
    cases action with
    | arm => exact absurd List.mem_cons_self harm
    | stop call =>
      rw [show r.step ioError (.stop call) = r from stop_of_not_pending h call]
      exact ih hrest h
    | other f =>
      have hother : (r.step ioError (.other f)).shutdown.pending = false := h
      exact ih hrest hother

/-! ## The discipline of a shutdown -/

/-- What holds of the calls since the last `Arm`. -/
structure Discipline (ioError : ε) (r : ShutdownRun σ ε) : Prop where
  /-- at most one login -/
  logins : (r.calls.map Prod.fst).count .setAccessMode ≤ 1
  /-- at most one stop command -/
  stops : (r.calls.map Prod.fst).count .lmcStopMeas ≤ 1
  /-- the stop command comes behind a login that has succeeded -/
  login_first : ∀ before o after, r.calls = before ++ (.lmcStopMeas, o) :: after →
    (.setAccessMode, .success) ∈ before
  /-- confirmed means that both have succeeded -/
  confirmed_iff : r.shutdown.status.stopMeasurementConfirmed = true ↔
    (.setAccessMode, .success) ∈ r.calls ∧ (.lmcStopMeas, .success) ∈ r.calls
  /-- so does a clear result, once the cleanup has been attempted -/
  clear_iff : r.shutdown.status.cleanupAttempted = true → (r.shutdown.result = none ↔
    (.setAccessMode, .success) ∈ r.calls ∧ (.lmcStopMeas, .success) ∈ r.calls)
  /-- behind a `Stop`, and until the next `Arm`, every `Stop` returns its result and does nothing -/
  repeated : ∀ (call : Transport σ ε) (actions : List (ShutdownAction σ ε)),
      ShutdownAction.arm ∉ actions →
    let first := r.stop ioError call
    let later := actions.foldl (step ioError) first
    later.shutdown = first.shutdown ∧ later.calls = first.calls ∧
      ∀ again, later.stop ioError again = later

/-- The result is clear for a call that has succeeded only. -/
theorem errorOf_eq_none (ioError : ε) (o : CallOutcome ε) :
    errorOf ioError o = none ↔ o = .success := by
  cases o <;> simp [errorOf]

/-- Each phase keeps the discipline. -/
theorem discipline_of_phase {ioError : ε} {r : ShutdownRun σ ε}
    (h : Phase ioError r.shutdown r.calls) : Discipline ioError r := by
  have hrepeated : ∀ (call : Transport σ ε) (actions : List (ShutdownAction σ ε)),
      ShutdownAction.arm ∉ actions →
      let first := r.stop ioError call
      let later := actions.foldl (step ioError) first
      later.shutdown = first.shutdown ∧ later.calls = first.calls ∧
        ∀ again, later.stop ioError again = later := by
    intro call actions harm first later
    have hpending : first.shutdown.pending = false := pending_stop ioError r call
    obtain ⟨hshutdown, hcalls⟩ := run_of_not_pending ioError harm hpending
    refine ⟨hshutdown, hcalls, fun again => stop_of_not_pending ?_ again⟩
    rw [show later.shutdown = first.shutdown from hshutdown]
    exact hpending
  obtain ⟨shutdown, world, calls⟩ := r
  dsimp only at h
  cases h with
  | before requested =>
    exact ⟨Nat.zero_le 1, Nat.zero_le 1, by simp, by simp, by simp, hrepeated⟩
  | @refused o hfailed =>
    have hresult : errorOf ioError o ≠ none := mt (errorOf_eq_none ioError o).1 hfailed
    refine ⟨by simp, by simp, ?_, by simp, by simp [hresult], hrepeated⟩
    intro before o' after heq
    simp [List.cons_eq_append_iff] at heq
  | commanded o =>
    refine ⟨by simp, by simp, ?_, ?_, ?_, hrepeated⟩
    · intro before o' after heq
      cases before with
      | nil => simp at heq
      | cons first before =>
        obtain rfl := (List.cons.inj heq).1
        exact List.mem_cons_self
    · cases o <;> simp
    · intro _
      rw [errorOf_eq_none]
      cases o <;> simp

/-- **Every run keeps the discipline.** -/
theorem discipline_of_reachable {ioError : ε} {r : ShutdownRun σ ε}
    (h : (system ioError).Reachable r) : Discipline ioError r :=
  discipline_of_phase (phase_of_reachable h)

end ShutdownRun

/-! ## The driver -/

/-- What `StopMeasurement` works with: whether it has made its connection, and the commands that
have gone to a channel since the last `Arm`. -/
structure DriverLink (σ : Type) where
  surroundings : σ
  connectionPrepared : Bool := false
  sent : List ShutdownCommand := []

/-- What the transport of the driver calls. -/
structure DriverPorts (σ ε : Type) where
  /-- a new client, its `Connect` and `commands.Reset` -/
  connect : σ → CallOutcome ε × σ
  /-- `CallMethod` of the command channel -/
  callMethod : ShutdownCommand → UInt8 → σ → CallOutcome ε × σ
  /-- `CallMethodStreaming`; `none` if it throws -/
  callMethodStreaming : ShutdownCommand → UInt8 → σ → Option Bool × σ
  /-- `kStopMeasurementUnconfirmed` -/
  unconfirmed : ε

namespace DriverPorts

/-- `if (reconnect && !connection_prepared)`. -/
def prepare (ports : DriverPorts σ ε) (reconnect : Bool) (link : DriverLink σ) :
    CallOutcome ε × DriverLink σ :=
  if reconnect && !link.connectionPrepared then
    match ports.connect link.surroundings with
    | (.success, s) => (.success, { link with surroundings := s, connectionPrepared := true })
    | (failed, s) => (failed, { link with surroundings := s })
  else
    (.success, link)

/-- The command itself, through the receive worker or through the command channel. -/
def send (ports : DriverPorts σ ε) (streaming : Bool) (command : ShutdownCommand)
    (link : DriverLink σ) : CallOutcome ε × DriverLink σ :=
  let sent := link.sent ++ [command]
  if streaming then
    match ports.callMethodStreaming command command.expectedStatus link.surroundings with
    | (some true, s) => (.success, { link with surroundings := s, sent })
    | (some false, s) => (.error ports.unconfirmed, { link with surroundings := s, sent })
    | (none, s) => (.threw, { link with surroundings := s, sent })
  else
    let (outcome, s) := ports.callMethod command command.expectedStatus link.surroundings
    (outcome, { link with surroundings := s, sent })

/-- The function `StopMeasurement` gives to `Stop`. -/
def transport (ports : DriverPorts σ ε) (streaming reconnect : Bool) :
    Transport (DriverLink σ) ε := fun command link =>
  match ports.prepare reconnect link with
  | (.success, link) => ports.send streaming command link
  | (failed, link) => (failed, link)

end DriverPorts

/-- What the owner of the driver does. -/
inductive DriverAction (σ ε : Type)
  /-- `Configure` is about to ask for the measurement -/
  | arm
  /-- `fail` of `Configure` -/
  | fail (ports : DriverPorts σ ε) (reconnect : Bool)
  /-- `StopScanning`, itself or from `StartScanning`, `Disconnect` and the destructor: `idle`
  without workers and scan, `receiving` while a worker can hear the answers -/
  | stopScanning (ports : DriverPorts σ ε) (idle reconnect receiving : Bool) (writeStop join : σ → σ)
  | other (f : σ → σ)

/-- A driver with its shutdown. -/
abbrev DriverRun (σ ε : Type) := ShutdownRun (DriverLink σ) ε

namespace DriverRun

/-- `StopMeasurement`. -/
def stopMeasurement (ioError : ε) (ports : DriverPorts σ ε) (streaming reconnect : Bool)
    (r : DriverRun σ ε) : DriverRun σ ε :=
  ShutdownRun.stop ioError { r with world := { r.world with connectionPrepared := false } }
    (ports.transport streaming reconnect)

/-- Something else happens around the driver. -/
def elsewhere (f : σ → σ) (r : DriverRun σ ε) : DriverRun σ ε :=
  { r with world := { r.world with surroundings := f r.world.surroundings } }

/-- `StopScanning`. -/
def stopScanning (ioError : ε) (ports : DriverPorts σ ε) (idle reconnect receiving : Bool)
    (writeStop join : σ → σ) (r : DriverRun σ ε) : DriverRun σ ε :=
  if idle then
    r.stopMeasurement ioError ports false reconnect
  else
    let r := r.elsewhere writeStop
    let r := if receiving then r.stopMeasurement ioError ports true false else r
    (r.elsewhere join).stopMeasurement ioError ports false true

/-- An action of the owner. -/
def step (ioError : ε) (r : DriverRun σ ε) : DriverAction σ ε → DriverRun σ ε
  | .arm => { r with shutdown := .arm, calls := [], world := { r.world with sent := [] } }
  | .fail ports reconnect => r.stopMeasurement ioError ports false reconnect
  | .stopScanning ports idle reconnect receiving writeStop join =>
    r.stopScanning ioError ports idle reconnect receiving writeStop join
  | .other f => r.elsewhere f

/-- A driver from its construction on. -/
def system (ioError : ε) : StepSystem (DriverRun σ ε) (DriverAction σ ε) where
  Init r := r.shutdown = {} ∧ r.calls = [] ∧ r.world.sent = []
  step r a := some (r.step ioError a)

/-- What holds of a driver: its shutdown is in one of the phases, and it has sent no more than the
shutdown has asked for. -/
structure Disciplined (ioError : ε) (r : DriverRun σ ε) : Prop where
  phase : ShutdownRun.Phase ioError r.shutdown r.calls
  sent : r.world.sent.Sublist (r.calls.map Prod.fst)

/-- A connection sends nothing. -/
theorem prepare_sent (ports : DriverPorts σ ε) (reconnect : Bool) (link : DriverLink σ) :
    (ports.prepare reconnect link).2.sent = link.sent := by
  unfold DriverPorts.prepare
  split
  · rcases ports.connect link.surroundings with ⟨_ | e | _, s⟩ <;> rfl
  · rfl

/-- A command is sent once. -/
theorem send_sent (ports : DriverPorts σ ε) (streaming : Bool) (command : ShutdownCommand)
    (link : DriverLink σ) :
    (ports.send streaming command link).2.sent = link.sent ++ [command] := by
  unfold DriverPorts.send
  split
  · rcases ports.callMethodStreaming command command.expectedStatus link.surroundings with
      ⟨_ | _ | _, s⟩ <;> rfl
  · rfl

/-- A call of the transport sends its command or nothing. -/
theorem transport_sent (ports : DriverPorts σ ε) (streaming reconnect : Bool)
    (command : ShutdownCommand) (link : DriverLink σ) :
    ((ports.transport streaming reconnect command link).2.sent).Sublist
      (link.sent ++ [command]) := by
  have hprepare := prepare_sent ports reconnect link
  have hnothing := List.sublist_append_left link.sent [command]
  unfold DriverPorts.transport
  generalize ports.prepare reconnect link = outcome at hprepare
  obtain ⟨_ | e | _, prepared⟩ := outcome <;> dsimp only at hprepare ⊢
  · rw [send_sent, hprepare]
  · rwa [hprepare]
  · rwa [hprepare]

/-- A stop sends no more than it asks for. -/
theorem stop_sent {ioError : ε} {r : DriverRun σ ε} (ports : DriverPorts σ ε)
    (streaming reconnect : Bool) (h : r.world.sent.Sublist (r.calls.map Prod.fst)) :
    let after := ShutdownRun.stop ioError r (ports.transport streaming reconnect)
    after.world.sent.Sublist (after.calls.map Prod.fst) := by
  unfold ShutdownRun.stop MeasurementShutdown.stop
  cases r.shutdown.pending with
  | false => simpa using h
  | true =>
    dsimp only
    have hlogin := transport_sent ports streaming reconnect .setAccessMode r.world
    generalize ports.transport streaming reconnect .setAccessMode r.world = login at hlogin
    obtain ⟨_ | e | _, link⟩ := login <;> dsimp only at hlogin ⊢
    · have hstop := transport_sent ports streaming reconnect .lmcStopMeas link
      generalize ports.transport streaming reconnect .lmcStopMeas link = stopped at hstop
      obtain ⟨o, link'⟩ := stopped
      have hboth : link'.sent.Sublist (r.world.sent ++ [.setAccessMode] ++ [.lmcStopMeas]) :=
        hstop.trans (hlogin.append (List.Sublist.refl _))
      rw [List.append_assoc] at hboth
      simpa using hboth.trans (h.append (List.Sublist.refl _))
    · simpa using hlogin.trans (h.append (List.Sublist.refl _))
    · simpa using hlogin.trans (h.append (List.Sublist.refl _))

/-- `StopMeasurement` keeps the discipline. -/
theorem Disciplined.stopMeasurement {ioError : ε} {r : DriverRun σ ε} (h : Disciplined ioError r)
    (ports : DriverPorts σ ε) (streaming reconnect : Bool) :
    Disciplined ioError (r.stopMeasurement ioError ports streaming reconnect) where
  phase := by
    unfold DriverRun.stopMeasurement
    refine ShutdownRun.phase_stop ?_ _
    exact h.phase
  sent := stop_sent ports streaming reconnect h.sent

/-- So does `StopScanning`. -/
theorem Disciplined.stopScanning {ioError : ε} {r : DriverRun σ ε} (h : Disciplined ioError r)
    (ports : DriverPorts σ ε) (idle reconnect receiving : Bool) (writeStop join : σ → σ) :
    Disciplined ioError
      (r.stopScanning ioError ports idle reconnect receiving writeStop join) := by
  unfold DriverRun.stopScanning
  split
  · exact h.stopMeasurement ports false reconnect
  · have hwrite : Disciplined ioError (r.elsewhere writeStop) := ⟨h.phase, h.sent⟩
    dsimp only
    split
    · have hstreaming := hwrite.stopMeasurement ports true false
      have hjoin : Disciplined ioError
          (((r.elsewhere writeStop).stopMeasurement ioError ports true false).elsewhere join) :=
        ⟨hstreaming.phase, hstreaming.sent⟩
      exact hjoin.stopMeasurement ports false true
    · have hjoin : Disciplined ioError ((r.elsewhere writeStop).elsewhere join) :=
        ⟨hwrite.phase, hwrite.sent⟩
      exact hjoin.stopMeasurement ports false true

/-- **Every run of the driver keeps the discipline.** -/
theorem disciplined_of_reachable {ioError : ε} {r : DriverRun σ ε}
    (h : (system ioError).Reachable r) : Disciplined ioError r := by
  refine h.invariant (P := Disciplined ioError) ?_ ?_
  · rintro r ⟨hshutdown, hcalls, hsent⟩
    refine ⟨?_, ?_⟩
    · rw [hshutdown, hcalls]
      exact .before false
    · rw [hsent]
      exact List.nil_sublist _
  · intro r a r' hr hstep
    obtain rfl := Option.some.inj hstep
    cases a with
    | arm => exact ⟨.before true, List.nil_sublist _⟩
    | fail ports reconnect => exact hr.stopMeasurement ports false reconnect
    | stopScanning ports idle reconnect receiving writeStop join =>
      exact hr.stopScanning ports idle reconnect receiving writeStop join
    | other f => exact ⟨hr.phase, hr.sent⟩

end DriverRun

/-- **A measurement is stopped once.**  For every sequence of `Arm` and `Stop` and every outcome of
the actions the discipline holds; so it does in the driver, which sends a login at most, and a stop
command behind it. -/
theorem shutdown_discipline (ioError : ε) :
    (∀ r : ShutdownRun σ ε, (ShutdownRun.system ioError).Reachable r → r.Discipline ioError) ∧
    ∀ r : DriverRun σ ε, (DriverRun.system ioError).Reachable r → r.Discipline ioError ∧
      r.world.sent.Sublist (r.calls.map Prod.fst) := by
  refine ⟨fun r h => ShutdownRun.discipline_of_reachable h, fun r h => ?_⟩
  have hdriver := DriverRun.disciplined_of_reachable h
  exact ⟨ShutdownRun.discipline_of_phase hdriver.phase, hdriver.sent⟩

/-- A stop while the stream runs whose login fails; the stop behind it does nothing more. -/
theorem shutdown_discipline_of_refused_login :
    let ports : DriverPorts Unit Nat :=
      ⟨fun s => (.success, s), fun _ _ s => (.success, s), fun _ _ s => (some false, s), 505⟩
    let r : DriverRun Unit Nat :=
      ⟨⟨⟨true, true, false, false⟩, some 505⟩, ⟨(), false, [.setAccessMode]⟩,
        [(.setAccessMode, .error 505)]⟩
    (DriverRun.system 5).exec ⟨{}, ⟨(), false, []⟩, []⟩
        [.arm, .stopScanning ports false true true id id] = some r ∧
      r.Discipline 5 ∧ r.world.sent.Sublist (r.calls.map Prod.fst) := by
  intro ports r
  have hinit : (DriverRun.system (5 : Nat)).Reachable
      (⟨{}, ⟨(), false, []⟩, []⟩ : DriverRun Unit Nat) := .init ⟨rfl, rfl, rfl⟩
  have hrun : (DriverRun.system 5).exec ⟨{}, ⟨(), false, []⟩, []⟩
      [.arm, .stopScanning ports false true true id id] = some r := rfl
  exact ⟨hrun, (shutdown_discipline 5).2 r (StepSystem.reachable_of_exec hinit hrun)⟩

end Lms
end AmigaDrivers
