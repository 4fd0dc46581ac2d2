import AmigaDrivers.Common.SessionRunnerSteps

/-!
# The life of the drivers in a session

* `BringUp`: which drivers have been initialised, and that only these have a thread.
* `Teardown`: which drivers `Cleanup::Stop` has still to shut down, and which threads it has
  still to join.
* `Collected`: which results have been published.
* `driver_lifecycle`: `Run` behind a successful `Init` only, one `Shutdown` for every driver in
  reverse order behind the join of all threads, and one result for every driver.
-/

namespace AmigaDrivers
namespace Common

/-- The thread exists and has not been joined. -/
def ThreadState.active : ThreadState → Bool
  | .none | .joined => false
  | .spawned | .running | .ended | .finished => true

/-- How far the teardown is: `Cleanup::Stop` not yet entered, joining the thread of a driver,
with some drivers left to shut down, or behind it. -/
inductive Stage
  | before
  | joining (i : Nat)
  | shuttingDown (left : Nat)
  | after
  deriving DecidableEq

namespace Stage

/-- The drivers still to be shut down, in this order. -/
def left (n : Nat) : Stage → List Nat
  | .before | .joining _ => (List.range n).reverse
  | .shuttingDown i => (List.range i).reverse
  | .after => []

/-- The threads below this index have been joined. -/
def joinedBelow (n : Nat) : Stage → Nat
  | .before => 0
  | .joining i => i
  | .shuttingDown _ | .after => n

end Stage

/-- The stage of the teardown at a place of the coordinator. -/
def RunnerPc.stage : RunnerPc → Stage
  | .preflight | .publishing .first | .publishing (.ready _) | .publishing .running
  | .publishing .stop | .initCheck _ | .initializing _ | .spawning _ | .entering | .monitor
  | .diskCheck | .watchdog | .stopping | .terminating _ | .finalizing _ _ .destructor => .before
  | .joining i _ => .joining i
  | .shuttingDown i _ => .shuttingDown i
  | .publishing .stopped | .publishing .collected | .disarming | .collecting _ _
  | .collectingFailed _ _ | .deciding | .finalizing _ _ .execute | .finalizing _ _ .handler
  | .done _ => .after

/-- How many drivers the bring-up has behind it, where it is under way. -/
def RunnerPc.broughtUp : RunnerPc → Option Nat
  | .preflight | .publishing .first => some 0
  | .publishing (.ready i) => some (i + 1)
  | .initCheck i | .initializing i => some i
  | _ => none

/-- The results below this index have been published. -/
def RunnerPc.publishedBelow (n : Nat) : RunnerPc → Nat
  | .collecting i _ => min i n
  | .collectingFailed i _ => min (i + 1) n
  | .publishing .collected | .deciding | .finalizing _ _ .execute | .finalizing _ _ .handler
  | .done _ => n
  | _ => 0

/-- The coordinator is on its way out behind the disk check. -/
def RunnerPc.leaving : RunnerPc → Bool
  | .finalizing _ _ .destructor | .terminating .destructor | .joining _ .destructor
  | .shuttingDown _ .destructor => true
  | _ => false

namespace Runner

/-- The drivers `Shutdown` has been called on, in this order. -/
def shutdowns (trace : List RunEvent) : List Nat :=
  trace.filterMap fun
    | .shutdown i => some i
    | _ => none

theorem shutdowns_append (trace : List RunEvent) (e : RunEvent) :
    shutdowns (trace ++ [e]) = shutdowns trace ++ shutdowns [e] := List.filterMap_append

/-- An event of another kind adds nothing. -/
theorem mem_of_log {trace : List RunEvent} {e e' : RunEvent} (h : e ∈ trace ++ [e'])
    (hne : e ≠ e') : e ∈ trace :=
  (List.mem_append.mp h).resolve_right fun hmem => hne (List.mem_singleton.mp hmem)

/-- A thread that has a new state had one before. -/
theorem thread_of_set {thread : Nat → ThreadState} {i : Nat} {t : ThreadState}
    (hthread : thread i ≠ .none) (j : Nat) (h : set thread i t j ≠ .none) : thread j ≠ .none := by
  by_cases hij : j = i
  · exact hij ▸ hthread
  · exact set_of_ne thread t hij ▸ h

variable {slots : List DriverSlot} {s s' : Runner}

/-! ## Bring-up -/

/-- Only drivers whose `Init` has returned true have a thread or have been run. -/
structure BringUp (n : Nat) (s : Runner) : Prop where
  index : ∀ i, s.pc.broughtUp = some i → s.initialized = i
  calling : ∀ i, s.pc = .initializing i → i < n
  bound : s.initialized ≤ n
  ready : ∀ i, i < s.initialized → RunEvent.initReturned i .ready ∈ s.trace
  thread : ∀ i, s.thread i ≠ .none → RunEvent.initReturned i .ready ∈ s.trace
  run : ∀ i, RunEvent.runCalled i ∈ s.trace → RunEvent.initReturned i .ready ∈ s.trace

theorem broughtUp_afterPublication (p : Publication) :
    (afterPublication p).broughtUp = (RunnerPc.publishing p).broughtUp := by
  cases p <;> rfl

/-- Steps that initialise no driver and start none. -/
theorem BringUp.of_same (hs : BringUp slots.length s)
    (hpc : ∀ i, s'.pc.broughtUp = some i → s.pc.broughtUp = some i)
    (hcalling : ∀ i, s'.pc = .initializing i → i < slots.length)
    (hinitialized : s'.initialized = s.initialized)
    (hthread : ∀ i, s'.thread i ≠ .none → s.thread i ≠ .none)
    (htrace : s'.trace = s.trace ∨
      ∃ e, s'.trace = s.trace ++ [e] ∧ ∀ i, RunEvent.runCalled i ≠ e) : BringUp slots.length s' := by
  have hmem : ∀ e, e ∈ s.trace → e ∈ s'.trace := fun e he => by
    obtain htrace | ⟨e', htrace, -⟩ := htrace <;> rw [htrace]
    · exact he
    · exact List.mem_append_left _ he
  have hrun : ∀ i, RunEvent.runCalled i ∈ s'.trace → RunEvent.runCalled i ∈ s.trace := fun i hi => by
    obtain htrace | ⟨e, htrace, hne⟩ := htrace <;> rw [htrace] at hi
    · exact hi
    · exact mem_of_log hi (hne i)
  refine ⟨fun i hi => ?_, hcalling, ?_, fun i hi => ?_, fun i hi => ?_, fun i hi => ?_⟩
  · rw [hinitialized]
    exact hs.index i (hpc i hi)
  · rw [hinitialized]
    exact hs.bound
  · rw [hinitialized] at hi
    exact hmem _ (hs.ready i hi)
  · exact hmem _ (hs.thread i (hthread i hi))
  · exact hmem _ (hs.run i (hrun i hi))

theorem BringUp.step (hs : BringUp slots.length s) (h : Step slots s s') :
    BringUp slots.length s' := by
  cases h with
  | @publish p hpc w | @publishFailed p hpc w =>
    refine hs.of_same (by rw [hpc]; exact fun i h => broughtUp_afterPublication p ▸ h) ?_ rfl
      (fun _ => id) (.inr ⟨_, rfl, nofun⟩)
    cases p <;> exact nofun
  | @finish status exitCode c hpc w =>
    refine hs.of_same ?_ ?_ rfl (fun _ => id) (.inr ⟨_, rfl, nofun⟩) <;> cases c <;> exact nofun
  | raiseStopped hraise hpast | raise hraise hpast =>
    exact hs.of_same nofun nofun rfl (fun _ => id) (.inr ⟨_, rfl, nofun⟩)
  | initCall hpc hi =>
    refine hs.of_same (by rw [hpc]; exact fun _ => id) (fun j hj => ?_) rfl (fun _ => id)
      (.inr ⟨_, rfl, nofun⟩)
    exact RunnerPc.initializing.inj hj ▸ hi
  | @initReady i hpc =>
    obtain rfl : s.initialized = i := hs.index i (by rw [hpc]; rfl)
    have hlt := hs.calling _ hpc
    refine ⟨fun j hj => Option.some.inj hj, nofun, hlt, fun j hj => ?_, fun j hj => ?_,
      fun j hj => ?_⟩
    · obtain hj | rfl := Nat.lt_succ_iff_lt_or_eq.mp hj
      · exact List.mem_append_left _ (hs.ready j hj)
      · exact List.mem_append_right _ (List.mem_singleton.mpr rfl)
    · exact List.mem_append_left _ (hs.thread j hj)
    · exact List.mem_append_left _ (hs.run j (mem_of_log hj nofun))
  | @spawn i hpc hi =>
    refine ⟨nofun, nofun, hs.bound, hs.ready, fun j hj => ?_, hs.run⟩
    by_cases hij : j = i
    · exact hij ▸ hs.ready i hi
    · exact hs.thread j (set_of_ne s.thread _ hij ▸ hj)
  | @runCalled i hthread =>
    have hready := hs.thread i (by rw [hthread]; exact nofun)
    refine ⟨hs.index, hs.calling, hs.bound, fun j hj => List.mem_append_left _ (hs.ready j hj),
      fun j hj => List.mem_append_left _ ?_, fun j hj => List.mem_append_left _ ?_⟩
    · by_cases hij : j = i
      · exact hij ▸ hready
      · exact hs.thread j (set_of_ne s.thread _ hij ▸ hj)
    · obtain hj | hj := List.mem_append.mp hj
      · exact hs.run j hj
      · obtain rfl : j = i := RunEvent.runCalled.inj (List.mem_singleton.mp hj)
        exact hready
  | runEnded hthread _ =>
    exact hs.of_same (fun _ => id) hs.calling rfl (thread_of_set (by rw [hthread]; exact nofun))
      (.inr ⟨_, rfl, nofun⟩)
  | threadEnd hthread =>
    exact hs.of_same (fun _ => id) hs.calling rfl (thread_of_set (by rw [hthread]; exact nofun))
      (.inl rfl)
  | join hpc _ hthread =>
    exact hs.of_same nofun nofun rfl (thread_of_set (by rw [hthread]; exact nofun))
      (.inr ⟨_, rfl, nofun⟩)
  | flags _ => exact hs.of_same (fun _ => id) hs.calling rfl (fun _ => id) (.inl rfl)
  | preflightStop _ | initFailed _ _ _ _ | diskStop _ | watchdogStop _ _ | shutdown _ _
  | collect _ _ _ _ _ _ | collectedFailed _ _ | collectedFine _ _ =>
    exact hs.of_same nofun nofun rfl (fun _ => id) (.inr ⟨_, rfl, nofun⟩)
  | preflightPass hpc =>
    exact hs.of_same (by rw [hpc]; exact fun _ => id) nofun rfl (fun _ => id) (.inl rfl)
  | _ => exact hs.of_same nofun nofun rfl (fun _ => id) (.inl rfl)

/-! ## Teardown -/

/-- The drivers are shut down in reverse, behind the join of every thread. -/
structure Teardown (n : Nat) (s : Runner) : Prop where
  stopped : s.stopped = decide (s.pc.stage ≠ .before)
  order : shutdowns s.trace ++ s.pc.stage.left n = (List.range n).reverse
  active : ∀ i, (s.thread i).active = true → s.pc.stage.joinedBelow n ≤ i ∧ i < n

theorem stage_afterPublication (p : Publication) :
    (afterPublication p).stage = (RunnerPc.publishing p).stage := by
  cases p <;> rfl

/-- An exception finds the teardown either not begun or done. -/
theorem stage_of_mayRaise {pc : RunnerPc} (h : mayRaise pc = true) :
    pc.stage = .before ∨ pc.stage = .after := by
  cases pc with
  | publishing p => cases p <;> first | exact .inl rfl | exact .inr rfl
  | _ => first | exact .inl rfl | exact .inr rfl | exact nomatch h

/-- Another event is no shutdown. -/
theorem order_log {trace : List RunEvent} {left all : List Nat} {e : RunEvent}
    (he : shutdowns [e] = []) (h : shutdowns trace ++ left = all) :
    shutdowns (trace ++ [e]) ++ left = all := by
  rw [shutdowns_append, he, List.append_nil, h]

/-- A thread that goes on stays as active as it was. -/
theorem active_set {thread : Nat → ThreadState} {i : Nat} {t : ThreadState} {below n : Nat}
    (hactive : ∀ j, (thread j).active = true → below ≤ j ∧ j < n) (hi : below ≤ i ∧ i < n) :
    ∀ j, (set thread i t j).active = true → below ≤ j ∧ j < n := by
  intro j hj
  by_cases hij : j = i
  · exact hij ▸ hi
  · exact hactive j (set_of_ne thread t hij ▸ hj)

theorem Teardown.step (hb : BringUp slots.length s) (hs : Teardown slots.length s)
    (h : Step slots s s') : Teardown slots.length s' := by
  have hbound := hb.bound
  obtain ⟨hstopped, horder, hactive⟩ := hs
  cases h with
  | @publish p hpc w | @publishFailed p hpc w =>
    rw [hpc, ← stage_afterPublication] at hstopped horder hactive
    exact ⟨hstopped, order_log rfl horder, hactive⟩
  | @finish status exitCode c hpc w =>
    rw [hpc] at hstopped horder hactive
    cases c <;> exact ⟨hstopped, order_log rfl horder, hactive⟩
  | raiseStopped hraise hpast =>
    rcases stage_of_mayRaise hraise with hstage | hstage <;> rw [hstage] at hstopped horder hactive
    · exact nomatch hstopped.symm.trans hpast
    · exact ⟨hpast, order_log rfl horder, hactive⟩
  | raise hraise hpast =>
    rcases stage_of_mayRaise hraise with hstage | hstage <;> rw [hstage] at hstopped horder hactive
    · exact ⟨hpast, order_log rfl horder, hactive⟩
    · exact nomatch hstopped.symm.trans hpast
  | stopFlags hpc =>
    rw [hpc] at horder hactive
    exact ⟨rfl, horder, hactive⟩
  | @joinSkip i c hpc hi hthread =>
    rw [hpc] at hstopped horder hactive
    refine ⟨hstopped, horder, fun j hj => ?_⟩
    obtain ⟨hij, hjn⟩ := hactive j hj
    -- the thread of driver `i` is not active, so an active one comes behind it
    have hne : i ≠ j := fun hij => by
      subst hij
      rcases hthread with hnone | hjoined
      · rw [hnone] at hj; exact nomatch hj
      · rw [hjoined] at hj; exact nomatch hj
    exact ⟨Nat.lt_of_le_of_ne hij hne, hjn⟩
  | @join i c hpc hi hthread =>
    rw [hpc] at hstopped horder hactive
    refine ⟨hstopped, order_log rfl horder, fun j hj => ?_⟩
    dsimp only at hj
    by_cases hij : j = i
    · rw [hij, set_self] at hj
      exact nomatch hj
    · rw [set_of_ne _ _ hij] at hj
      obtain ⟨hle, hjn⟩ := hactive j hj
      exact ⟨Nat.lt_of_le_of_ne hle (Ne.symm hij), hjn⟩
  | @joinEnd i c hpc hi =>
    rw [hpc] at hstopped horder hactive
    refine ⟨hstopped, horder, fun j hj => ?_⟩
    obtain ⟨hle, hjn⟩ := hactive j hj
    exact absurd hjn (Nat.not_lt.mpr (Nat.le_trans hi hle))
  | @shutdown i c hpc failed terminateFlag hkeep =>
    rw [hpc] at hstopped horder hactive
    refine ⟨hstopped, ?_, hactive⟩
    rw [← horder, shutdowns_append]
    change (shutdowns s.trace ++ [i]) ++ (List.range i).reverse =
      shutdowns s.trace ++ (List.range (i + 1)).reverse
    rw [List.range_succ, List.reverse_append, List.append_assoc]
    rfl
  | @spawn i hpc hi =>
    rw [hpc] at hstopped horder hactive
    exact ⟨hstopped, horder, active_set hactive ⟨Nat.zero_le _, Nat.lt_of_lt_of_le hi hbound⟩⟩
  | runCalled hthread =>
    exact ⟨hstopped, order_log rfl horder,
      active_set hactive (hactive _ (by rw [hthread]; rfl))⟩
  | runEnded hthread hkeep =>
    exact ⟨hstopped, order_log rfl horder,
      active_set hactive (hactive _ (by rw [hthread]; rfl))⟩
  | threadEnd hthread =>
    exact ⟨hstopped, horder, active_set hactive (hactive _ (by rw [hthread]; rfl))⟩
  | flags hkeep => exact ⟨hstopped, horder, hactive⟩
  | _ =>
    have hpc := ‹s.pc = _›
    rw [hpc] at hstopped horder hactive
    first
      | exact ⟨hstopped, horder, hactive⟩
      | exact ⟨hstopped, order_log rfl horder, hactive⟩

/-! ## Results -/

/-- Each result is published once, and all are, unless the disk check has ended the run. -/
structure Collected (n : Nat) (s : Runner) : Prop where
  flag : ∀ i, s.trace.count (.published i) = if s.published i then 1 else 0
  progress : ∀ i, i < s.pc.publishedBelow n →
    RunEvent.preflightStop ∈ s.trace ∨ s.published i = true
  leaving : s.pc.leaving = true → RunEvent.preflightStop ∈ s.trace

theorem publishedBelow_afterPublication (n : Nat) (p : Publication) :
    (afterPublication p).publishedBelow n = (RunnerPc.publishing p).publishedBelow n := by
  cases p <;> rfl

theorem count_log {trace : List RunEvent} {e : RunEvent} (he : ∀ i, e ≠ .published i) (i : Nat) :
    (trace ++ [e]).count (.published i) = trace.count (.published i) := by
  rw [List.count_append, List.count_singleton, if_neg (by simpa using he i), Nat.add_zero]

theorem count_published {trace : List RunEvent} {published : Nat → Bool} {i : Nat}
    (hflag : ∀ j, trace.count (RunEvent.published j) = if published j then 1 else 0)
    (hpub : published i = false) (j : Nat) :
    (trace ++ [RunEvent.published i]).count (RunEvent.published j) =
      if set published i true j then 1 else 0 := by
  rw [List.count_append, hflag j]
  by_cases hij : j = i
  · rw [hij, hpub, set_self, List.count_singleton_self]
    rfl
  · have hother : (RunEvent.published i == RunEvent.published j) = false := by
      simpa using fun h => hij h.symm
    rw [set_of_ne _ _ hij, List.count_singleton, hother]
    rfl

theorem Collected.step (hs : Collected slots.length s) (h : Step slots s s') :
    Collected slots.length s' := by
  obtain ⟨hflag, hprogress, hleaving⟩ := hs
  have hlog : ∀ {e : RunEvent}, (∀ i, e ≠ .published i) → ∀ i,
      (s.trace ++ [e]).count (.published i) = if s.published i then 1 else 0 :=
    fun he i => (count_log he i).trans (hflag i)
  have hmore : ∀ (e : RunEvent) (i : Nat), i < s.pc.publishedBelow slots.length →
      RunEvent.preflightStop ∈ s.trace ++ [e] ∨ s.published i = true :=
    fun e i hi => (hprogress i hi).imp_left (List.mem_append_left _)
  have hleave : ∀ (e : RunEvent), s.pc.leaving = true → RunEvent.preflightStop ∈ s.trace ++ [e] :=
    fun e hl => List.mem_append_left _ (hleaving hl)
  cases h with
  | preflightStop hpc =>
    exact ⟨hlog nofun, nofun, fun _ => List.mem_append_right _ (List.mem_singleton.mpr rfl)⟩
  | @publish p hpc w | @publishFailed p hpc w =>
    rw [hpc, ← publishedBelow_afterPublication] at hmore
    refine ⟨hlog nofun, hmore _, ?_⟩
    cases p <;> exact nofun
  | @finish status exitCode c hpc w =>
    rw [hpc] at hmore hleave
    cases c with
    | destructor => exact ⟨hlog nofun, nofun, hleave _⟩
    | handler | execute => exact ⟨hlog nofun, hmore _, nofun⟩
  | stopEndDestructor hpc =>
    rw [hpc] at hleaving
    exact ⟨hflag, fun _ _ => .inl (hleaving rfl), nofun⟩
  | stopEndHandler hpc | disarm hpc =>
    exact ⟨hflag, fun i hi => absurd hi (by simp [RunnerPc.publishedBelow]), nofun⟩
  | raiseStopped hraise hpast =>
    exact ⟨hlog nofun, fun i hi => absurd hi (by simp [RunnerPc.publishedBelow]), nofun⟩
  | raise hraise hpast => exact ⟨hlog nofun, nofun, nofun⟩
  | @collectSkip i caught hpc hi hpub =>
    rw [hpc] at hprogress
    refine ⟨hflag, fun j hj => ?_, nofun⟩
    by_cases hij : j = i
    · exact .inr (hij ▸ hpub)
    · exact hprogress j (by simp only [RunnerPc.publishedBelow] at hj ⊢; omega)
  | @collect i caught hpc hi hpub failed terminateFlag hkeep name result =>
    rw [hpc] at hmore
    refine ⟨count_published hflag hpub, fun j hj => ?_, nofun⟩
    by_cases hij : j = i
    · exact .inr (hij ▸ set_self _ _ _)
    · exact (hmore _ j (by simp only [RunnerPc.publishedBelow] at hj ⊢; omega)).imp_right
        (set_of_ne _ _ hij).trans
  | @collectedFailed i caught hpc hfailed | @collectedFine i caught hpc hfine =>
    rw [hpc] at hmore
    exact ⟨hlog nofun, hmore _, nofun⟩
  | collectEndHandler hpc hi | collectEnd hpc hi =>
    rw [hpc] at hprogress
    refine ⟨hflag, fun j hj => hprogress j ?_, nofun⟩
    simp only [RunnerPc.publishedBelow] at hj ⊢
    omega
  | runCalled hspawned | runEnded hrunning hkeep | threadEnd hended =>
    refine ⟨?_, ?_, ?_⟩
    · first | exact hflag | exact hlog nofun
    · first | exact hprogress | exact hmore _
    · first | exact hleaving | exact hleave _
  | flags hkeep => exact ⟨hflag, hprogress, hleaving⟩
  | @stopFlags c hpc | @joinSkip _ c hpc hi hthread | @joinEnd _ c hpc hi =>
    rw [hpc] at hleaving
    refine ⟨hflag, nofun, ?_⟩
    cases c <;> exact hleaving
  | @join _ c hpc hi hfinished | @shutdown _ c hpc _ _ hkeep =>
    rw [hpc] at hleave
    refine ⟨hlog nofun, nofun, ?_⟩
    cases c <;> exact hleave _
  | _ =>
    have hpc := ‹s.pc = _›
    rw [hpc] at hprogress hmore hleaving hleave
    refine ⟨?_, ?_, ?_⟩
    · first | exact hflag | exact hlog nofun
    · first | exact hprogress | exact hmore _
    · first | exact hleaving | exact hleave _

/-! ## The whole run -/

section Reachable

theorem bringUp_of_reachable (h : (system slots).Reachable s) : BringUp slots.length s := by
  refine h.invariant (fun s hinit => ?_) fun _ _ _ hs hstep => hs.step (.of_step hstep)
  obtain ⟨doc, hasControl, control, terminate, signal, -, rfl⟩ := hinit
  exact ⟨fun i hi => Option.some.inj hi, nofun, Nat.zero_le _, nofun, fun i hi => absurd rfl hi,
    nofun⟩

theorem teardown_of_reachable (h : (system slots).Reachable s) : Teardown slots.length s := by
  refine h.invariant_of (fun _ => bringUp_of_reachable) (fun s hinit => ?_)
    fun _ _ _ hb hs hstep => hs.step hb (.of_step hstep)
  obtain ⟨doc, hasControl, control, terminate, signal, -, rfl⟩ := hinit
  exact ⟨rfl, rfl, nofun⟩

theorem collected_of_reachable (h : (system slots).Reachable s) : Collected slots.length s := by
  refine h.invariant (fun s hinit => ?_) fun _ _ _ hs hstep => hs.step (.of_step hstep)
  obtain ⟨doc, hasControl, control, terminate, signal, -, rfl⟩ := hinit
  exact ⟨fun _ => rfl, nofun, nofun⟩

end Reachable

/-- **The life of the drivers**, in every run and whatever each of them does.  `Run` is called
only on a driver whose own `Init` has returned true.  `Shutdown` is called on the drivers in
reverse order, and as soon as it is called on one no thread is left to join; a run that has
ended has called it once on each.  A result is published at most once, and a run that has
ended has published all, unless the disk check stopped it before the bring-up. -/
theorem driver_lifecycle (slots : List DriverSlot) (s : Runner) (h : (system slots).Reachable s) :
    (∀ i, RunEvent.runCalled i ∈ s.trace → RunEvent.initReturned i .ready ∈ s.trace) ∧
    shutdowns s.trace <+: (List.range slots.length).reverse ∧
    (shutdowns s.trace ≠ [] → ∀ i, s.thread i = .none ∨ s.thread i = .joined) ∧
    (∀ i, s.trace.count (.published i) ≤ 1) ∧
    ∀ exitCode, s.pc = .done exitCode →
      shutdowns s.trace = (List.range slots.length).reverse ∧
        (∀ i, s.thread i = .none ∨ s.thread i = .joined) ∧
        (RunEvent.preflightStop ∉ s.trace → ∀ i < slots.length, s.trace.count (.published i) = 1) := by
  have ht := teardown_of_reachable h
  have hc := collected_of_reachable h
  have hjoined : s.pc.stage.joinedBelow slots.length = slots.length →
      ∀ i, s.thread i = .none ∨ s.thread i = .joined := fun hall i => by
    by_contra hnot
    have hactive : (s.thread i).active = true := by
      cases hthread : s.thread i <;> simp_all [ThreadState.active]
    obtain ⟨hle, hlt⟩ := ht.active i hactive
    omega
  refine ⟨(bringUp_of_reachable h).run, ⟨_, ht.order⟩, fun hne => hjoined ?_, fun i => ?_, ?_⟩
  · -- before the first shutdown none has been called, so the stage is past the joins
    have horder := ht.order
    cases hstage : s.pc.stage with
    | before | joining i =>
      rw [hstage] at horder
      exact absurd (List.append_left_eq_self.mp horder) hne
    | shuttingDown i | after => rfl
  · rw [hc.flag i]
    split <;> omega
  · intro exitCode hpc
    have horder := ht.order
    have hprogress := hc.progress
    rw [hpc] at horder hprogress
    refine ⟨(List.append_nil _).symm.trans horder, hjoined (by rw [hpc]; rfl), fun hstop i hi => ?_⟩
    rw [hc.flag i, (hprogress i hi).resolve_left hstop]
    rfl

/-- The steps of a session with one driver that runs and ends on its own; `w` is the last
write of the manifest. -/
def ownEnd (w : ManifestWrite) : List RunnerAction :=
  let calm : Answers := ⟨false, .ready, true, none, none, false, false, ⟨.done, .done⟩⟩
  List.replicate 10 (.coordinator calm) ++ List.replicate 3 (.thread 0 false) ++
    [.coordinator { calm with terminated := some 0 }] ++ List.replicate 14 (.coordinator calm) ++
    [.coordinator { calm with write := w }]

/-- The life of a driver that ends on its own. -/
theorem driver_lifecycle_of_one :
    ∃ s, (system [⟨"AsteRx", "asterx"⟩]).Reachable s ∧ s.pc = .done 0 ∧
      RunEvent.runCalled 0 ∈ s.trace ∧ RunEvent.initReturned 0 .ready ∈ s.trace ∧
      shutdowns s.trace = [0] ∧ s.trace.count (.published 0) = 1 := by
  let slots : List DriverSlot := [⟨"AsteRx", "asterx"⟩]
  let start : Runner := { manifest := { canonical := some {} } }
  have hrun : ((system slots).exec start (ownEnd ⟨.done, .done⟩)).map
      (fun s => (s.pc, s.trace.contains .preflightStop, s.trace.contains (.runCalled 0))) =
        some (.done 0, false, true) := by
    decide +kernel
  obtain ⟨s, hexec, hs⟩ := Option.map_eq_some_iff.mp hrun
  obtain ⟨hpc, hs⟩ := Prod.mk.inj hs
  obtain ⟨hstop, hcalled⟩ := Prod.mk.inj hs
  have hreach : (system slots).Reachable s :=
    StepSystem.reachable_of_exec (.init ⟨{}, false, none, false, 0, rfl, rfl⟩) hexec
  obtain ⟨hinit, -, -, -, hdone⟩ := driver_lifecycle slots s hreach
  obtain ⟨hshutdowns, -, hpublished⟩ := hdone 0 hpc
  have hmem : RunEvent.runCalled 0 ∈ s.trace := by simpa using hcalled
  exact ⟨s, hreach, hpc, hmem, hinit 0 hmem, hshutdowns,
    hpublished (by simpa using hstop) 0 Nat.one_pos⟩

end Runner
end Common
end AmigaDrivers
