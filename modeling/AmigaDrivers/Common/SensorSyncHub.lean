import AmigaDrivers.Foundation.History
import Mathlib.Algebra.Ring.Int.Defs
import Mathlib.Algebra.Ring.Nat
import Mathlib.Data.List.Induction
import Mathlib.Data.List.Pairwise

/-!
# The shared trigger board

`common::SensorSyncHub`: the participants register with the one board, arm it, and end its
session.  Every method holds the mutex over its calls of the backend, so each is one step; what
the backend answers is part of the action.

* `Registry`: what the checks of `Register` keep of the participants.
* `plannedRates_pair`: the planned rates are those of the pairs.
* `Discipline`: what the hub knows of the calls the board has had; every step keeps it.
* `start_stop_discipline`: when the board is started and stopped, over every run.
-/

namespace AmigaDrivers

/-- `kChannelCount`. -/
def kChannelCount : Nat := 4

/-- What the header of the board's firmware says of the trigger groups. -/
structure TriggerGroups (Rate : Type) where
  /-- `GROUP_COUNT` -/
  groupCount : Nat
  /-- `Group::FX` -/
  fx : Int
  /-- `validRate` -/
  validRate : Int → Rate → Bool
  /-- `name` -/
  name : Int → String

/-- `SensorSyncHub::Participant`. -/
structure Participant (Rate : Type) where
  owner : String
  channel : Int
  pulseHz : Rate
  armed : Bool

/-- `static_cast<unsigned>(p.channel / 2)`. -/
def Participant.pair {Rate : Type} (p : Participant Rate) : Nat := (p.channel / 2).toNat

/-- `SensorSyncHub`. -/
structure SensorSyncHub (Rate : Type) where
  logPath : String
  port : String
  opened : Bool := false
  started : Bool := false
  ended : Bool := false
  failed : Bool := false
  lastError : String := ""
  participants : List (Participant Rate) := []
  startedRates : List (Int × Rate) := []

/-- A call of `SensorSyncBackend` and its answer; an error is a `SensorSyncError`. -/
inductive BackendCall (Rate : Type)
  | openPort (port : String) (answer : Except String Unit)
  | start (logPath : String) (rates : List (Int × Rate)) (answer : Except String Unit)
  | stop
  | ok (answer : Bool)

namespace BackendCall

variable {Rate : Type}

/-- A `Start` that succeeded. -/
def isStarted : BackendCall Rate → Bool
  | .start _ _ (.ok ()) => true
  | .start _ _ (.error _) | .openPort _ _ | .stop | .ok _ => false

/-- A `Stop`. -/
def isStop : BackendCall Rate → Bool
  | .stop => true
  | .start _ _ _ | .openPort _ _ | .ok _ => false

end BackendCall

namespace SensorSyncHub

/-- What a method leaves behind: the hub, the calls of the backend in order, and its result. -/
structure Outcome (Rate α : Type) where
  hub : SensorSyncHub Rate
  calls : List (BackendCall Rate)
  result : Except String α

variable {Rate : Type} [BEq Rate] [Zero Rate] [ToString Rate]

/-! ## Methods -/

/-- `FailLocked`. -/
def failLocked (hub : SensorSyncHub Rate) (what : String) : SensorSyncHub Rate :=
  { hub with
    failed := true
    lastError := if hub.lastError = "" then what else hub.lastError }

/-- The inner loop of `PlannedRatesLocked`: the last participant of the pair has its say. -/
def groupRate (participants : List (Participant Rate)) (g : Nat) : Rate :=
  participants.foldl (fun hz p => if p.pair = g then p.pulseHz else hz) 0

/-- `PlannedRatesLocked`. -/
def plannedRates (groups : TriggerGroups Rate) (hub : SensorSyncHub Rate) : List (Int × Rate) :=
  (List.range groups.groupCount).map fun g : Nat => (2 * (g : Int), groupRate hub.participants g)

/-- What the loop of `Register` finds against a new participant. -/
def conflict (groups : TriggerGroups Rate) (owner : String) (channel : Int) (pulseHz : Rate)
    (p : Participant Rate) : Option String :=
  if p.owner = owner then some s!"[TriggerLog] '{owner}' is already registered"
  else if p.channel = channel then
    some s!"[TriggerLog] '{owner}' and '{p.owner}' both claim SensorSync channel {channel}"
  else if p.channel / 2 = channel / 2 ∧ (p.pulseHz != pulseHz) = true then
    some (s!"[TriggerLog] '{owner}' asks the SensorSync {groups.name (channel / 2)} pair for " ++
      s!"{pulseHz} Hz but '{p.owner}' already asked for {p.pulseHz} Hz; both outputs of a pair " ++
      "share one rate")
  else none

/-- The checks of `Register`, up to the call of the backend. -/
def refusal (groups : TriggerGroups Rate) (hub : SensorSyncHub Rate) (owner : String)
    (channel : Int) (pulseHz : Rate) : Option String :=
  if owner = "" then some "[TriggerLog] SensorSync participant needs a name"
  else if hub.port = "" then
    some (s!"[TriggerLog] '{owner}' needs the SensorSync board but no serial port is " ++
      "configured: set 'Sensor Trigger: Port' in config-main.yaml (a /dev/serial/by-id/... path)")
  else if hub.started || hub.ended then
    some (s!"[TriggerLog] '{owner}' registered after the SensorSync session " ++
      (if hub.ended then "ended" else "started") ++ "; participants register during bring-up")
  else if channel < 0 ∨ channel ≥ kChannelCount then
    some (s!"[TriggerLog] '{owner}': SensorSync channel {channel} is outside 0..3 (0/1 = FX " ++
      "pair, 2/3 = JAI pair)")
  else if !groups.validRate (channel / 2) pulseHz then
    some (s!"[TriggerLog] '{owner}': pulse rate {pulseHz} Hz is not valid for the SensorSync " ++
      s!"{groups.name (channel / 2)} group (" ++
      (if channel / 2 = groups.fx then "0 or >= 20 Hz" else "0 or 1..10 Hz") ++ ")")
  else if hub.participants.length ≥ kChannelCount then
    some s!"[TriggerLog] '{owner}': the board has only 4 channels"
  else hub.participants.findSome? (conflict groups owner channel pulseHz)

/-- `Register`. -/
def register (groups : TriggerGroups Rate) (hub : SensorSyncHub Rate) (owner : String)
    (channel : Int) (pulseHz : Rate) (answer : Except String Unit) : Outcome Rate Unit :=
  let participants := hub.participants ++ [⟨owner, channel, pulseHz, false⟩]
  match refusal groups hub owner channel pulseHz with
  | some what => ⟨hub, [], .error what⟩
  | none =>
    if hub.opened then ⟨{ hub with participants }, [], .ok ()⟩
    else
      match answer with
      | .error what => ⟨hub.failLocked what, [.openPort hub.port answer], .error what⟩
      | .ok () => ⟨{ hub with opened := true, participants }, [.openPort hub.port answer], .ok ()⟩

/-- `it->armed = true` for the first participant of that name. -/
def armFirst (owner : String) : List (Participant Rate) → List (Participant Rate)
  | [] => []
  | p :: ps => if p.owner = owner then { p with armed := true } :: ps else p :: armFirst owner ps

/-- `Registered`. -/
def registered (hub : SensorSyncHub Rate) (owner : String) : Bool :=
  hub.participants.any fun p => p.owner = owner

/-- `Arm`. -/
def arm (groups : TriggerGroups Rate) (hub : SensorSyncHub Rate) (owner : String)
    (answer : Except String Unit) : Outcome Rate Bool :=
  if !hub.registered owner then
    ⟨hub, [], .error s!"[TriggerLog] '{owner}' armed without registering"⟩
  else if hub.ended then
    ⟨hub, [], .error s!"[TriggerLog] '{owner}' armed after the SensorSync session ended; no restart"⟩
  else if hub.failed then
    ⟨hub, [], .error s!"[TriggerLog] '{owner}' armed after a SensorSync failure: {hub.lastError}"⟩
  else
    let hub := { hub with participants := armFirst owner hub.participants }
    if hub.started then ⟨hub, [], .ok true⟩
    else if !hub.participants.all (·.armed) then ⟨hub, [], .ok false⟩
    else
      let hub := { hub with startedRates := hub.plannedRates groups }
      let call := .start hub.logPath hub.startedRates answer
      match answer with
      | .error what => ⟨hub.failLocked what, [call], .error what⟩
      | .ok () => ⟨{ hub with started := true }, [call], .ok true⟩

/-- `Disarm`. -/
def disarm (hub : SensorSyncHub Rate) (boardOk : Bool) : Outcome Rate Unit :=
  if hub.ended then ⟨hub, [], .ok ()⟩
  else
    let hub := { hub with ended := true }
    if !hub.started then ⟨hub, [], .ok ()⟩
    else if !boardOk then
      ⟨hub.failLocked ("timing session failed integrity checks at stop (see the [TriggerLog] " ++
        "lines above)"), [.stop, .ok boardOk], .ok ()⟩
    else ⟨hub, [.stop, .ok boardOk], .ok ()⟩

/-- `Ok`. -/
def ok (hub : SensorSyncHub Rate) (boardOk : Bool) : Outcome Rate Bool :=
  if hub.failed then ⟨hub, [], .ok false⟩
  else if !hub.started then ⟨hub, [], .ok true⟩
  else ⟨hub, [.ok boardOk], .ok boardOk⟩

end SensorSyncHub

/-! ## Runs -/

/-- A call of the hub, with what the backend answers.  `destroy` is the destructor. -/
inductive HubAction (Rate : Type)
  | register (owner : String) (channel : Int) (pulseHz : Rate) (answer : Except String Unit)
  | arm (owner : String) (answer : Except String Unit)
  | disarm (owner : String) (boardOk : Bool)
  | ok (boardOk : Bool)
  | destroy (boardOk : Bool)

/-- A hub and the calls its board has had, the latest first. -/
structure HubRun (Rate : Type) where
  hub : SensorSyncHub Rate
  board : List (BackendCall Rate) := []
  destroyed : Bool := false

/-- The call ends the session. -/
def HubAction.ends {Rate : Type} : HubAction Rate → Bool
  | .disarm _ _ | .destroy _ => true
  | .register _ _ _ _ | .arm _ _ | .ok _ => false

namespace SensorSyncHub

variable {Rate : Type} [BEq Rate] [Zero Rate] [ToString Rate]

/-- The hub after a call, and the calls of the backend it makes. -/
def perform (groups : TriggerGroups Rate) (hub : SensorSyncHub Rate) :
    HubAction Rate → SensorSyncHub Rate × List (BackendCall Rate)
  | .register owner channel pulseHz answer =>
    let o := hub.register groups owner channel pulseHz answer
    (o.hub, o.calls)
  | .arm owner answer =>
    let o := hub.arm groups owner answer
    (o.hub, o.calls)
  | .disarm _ boardOk | .destroy boardOk =>
    let o := hub.disarm boardOk
    (o.hub, o.calls)
  | .ok boardOk =>
    let o := hub.ok boardOk
    (o.hub, o.calls)

end SensorSyncHub

namespace HubRun

variable {Rate : Type} [BEq Rate] [Zero Rate] [ToString Rate]

/-- One call; none comes after the destructor. -/
def step (groups : TriggerGroups Rate) (s : HubRun Rate) (a : HubAction Rate) :
    Option (HubRun Rate) :=
  if s.destroyed then none
  else
    let (hub, calls) := s.hub.perform groups a
    some
      { hub
        board := calls.reverse ++ s.board
        destroyed := match a with
          | .destroy _ => true
          | .register _ _ _ _ | .arm _ _ | .disarm _ _ | .ok _ => false }

/-- A hub from its construction on, used in any order. -/
def system (groups : TriggerGroups Rate) : StepSystem (HubRun Rate) (HubAction Rate) where
  Init s := ∃ logPath port, s = { hub := { logPath, port } }
  step := step groups

end HubRun

namespace SensorSyncHub

variable {Rate : Type} {groups : TriggerGroups Rate} {hub : SensorSyncHub Rate}

/-! ## The participants -/

section Registry

variable [BEq Rate]

/-- The two participants do not get in each other's way; `p` registered first. -/
structure Compatible (p q : Participant Rate) : Prop where
  owner : p.owner ≠ q.owner
  channel : p.channel ≠ q.channel
  rate : p.channel / 2 = q.channel / 2 → (p.pulseHz == q.pulseHz) = true

/-- What the checks of `Register` keep. -/
structure Registry (participants : List (Participant Rate)) : Prop where
  bounded : participants.length ≤ kChannelCount
  channels : ∀ p ∈ participants, 0 ≤ p.channel ∧ p.channel < kChannelCount
  compatible : participants.Pairwise Compatible

/-- A participant as it registered. -/
def unarmed (p : Participant Rate) : Participant Rate := { p with armed := false }

/-- `Register` passes its loop. -/
theorem compatible_of_conflict [ToString Rate] {owner : String} {channel : Int} {pulseHz : Rate}
    {p : Participant Rate} (h : conflict groups owner channel pulseHz p = none) :
    Compatible p ⟨owner, channel, pulseHz, false⟩ := by
  unfold conflict at h
  split_ifs at h with howner hchannel hrate
  refine ⟨howner, hchannel, fun hpair => ?_⟩
  have hne := not_and.mp hrate hpair
  rwa [Bool.not_eq_true, bne, Bool.not_eq_false'] at hne

/-- `Register` passes its checks. -/
structure Admits (hub : SensorSyncHub Rate) (owner : String) (channel : Int) (pulseHz : Rate) :
    Prop where
  started : hub.started = false
  ended : hub.ended = false
  inside : 0 ≤ channel ∧ channel < kChannelCount
  room : hub.participants.length < kChannelCount
  compatible : ∀ p ∈ hub.participants, Compatible p ⟨owner, channel, pulseHz, false⟩

theorem admits_of_refusal [ToString Rate] {owner : String} {channel : Int} {pulseHz : Rate}
    (h : refusal groups hub owner channel pulseHz = none) :
    Admits hub owner channel pulseHz := by
  unfold refusal at h
  split_ifs at h with howner hport hstate hchannel hrate hroom
  rw [Bool.or_eq_true, not_or, Bool.not_eq_true, Bool.not_eq_true] at hstate
  rw [List.findSome?_eq_none_iff] at h
  refine ⟨hstate.1, hstate.2, by omega, by omega, fun p hp => compatible_of_conflict (h p hp)⟩

theorem Registry.register {owner : String} {channel : Int} {pulseHz : Rate}
    (h : Registry hub.participants) (hadmits : Admits hub owner channel pulseHz) :
    Registry (hub.participants ++ [⟨owner, channel, pulseHz, false⟩]) where
  bounded := by
    rw [List.length_append]
    exact hadmits.room
  channels p hp := by
    rw [List.mem_append, List.mem_singleton] at hp
    obtain hp | rfl := hp
    · exact h.channels p hp
    · exact hadmits.inside
  compatible := by
    refine List.pairwise_append.mpr ⟨h.compatible, List.pairwise_singleton _ _, ?_⟩
    intro p hp q hq
    exact List.mem_singleton.mp hq ▸ hadmits.compatible p hp

omit [BEq Rate] in
/-- Arming leaves the registrations alone. -/
theorem map_unarmed_armFirst (owner : String) (ps : List (Participant Rate)) :
    (armFirst owner ps).map unarmed = ps.map unarmed := by
  induction ps with
  | nil => rfl
  | cons p ps ih =>
    unfold armFirst
    split_ifs
    · rfl
    · rw [List.map_cons, List.map_cons, ih]

/-- The registry is about the registrations. -/
theorem registry_map_unarmed {ps : List (Participant Rate)} :
    Registry (ps.map unarmed) ↔ Registry ps := by
  constructor
  · intro h
    refine ⟨by simpa using h.bounded, ?_, ?_⟩
    · intro p hp
      exact h.channels (unarmed p) (List.mem_map_of_mem hp)
    · exact (List.pairwise_map.mp h.compatible).imp fun h => ⟨h.owner, h.channel, h.rate⟩
  · intro h
    refine ⟨by simpa using h.bounded, ?_, ?_⟩
    · intro p hp
      obtain ⟨q, hq, rfl⟩ := List.mem_map.mp hp
      exact h.channels q hq
    · exact List.pairwise_map.mpr (h.compatible.imp fun h => ⟨h.owner, h.channel, h.rate⟩)

theorem Registry.armFirst {ps : List (Participant Rate)} (h : Registry ps) (owner : String) :
    Registry (armFirst owner ps) := by
  rw [← registry_map_unarmed, map_unarmed_armFirst, registry_map_unarmed]
  exact h

end Registry

/-! ## The rates -/

section Rates

variable [Zero Rate]

/-- The rates are about the registrations. -/
theorem groupRate_map_unarmed (ps : List (Participant Rate)) (g : Nat) :
    groupRate (ps.map unarmed) g = groupRate ps g :=
  List.foldl_map

theorem plannedRates_armFirst (owner : String) :
    plannedRates groups { hub with participants := armFirst owner hub.participants } =
      plannedRates groups hub := by
  have hrates (g : Nat) :
      groupRate (armFirst owner hub.participants) g = groupRate hub.participants g := by
    rw [← groupRate_map_unarmed, map_unarmed_armFirst, groupRate_map_unarmed]
  unfold plannedRates
  exact List.map_congr_left fun g _ => congrArg _ (hrates g)

/-- The rate of a pair: no pulses without a participant, else what its participants asked for. -/
def IsPairRate [BEq Rate] (ps : List (Participant Rate)) (g : Nat) (hz : Rate) : Prop :=
  (∀ p ∈ ps, p.pair ≠ g) ∧ hz = 0 ∨
    ∃ q ∈ ps, q.pair = g ∧ hz = q.pulseHz ∧
      ∀ p ∈ ps, p.pair = g → p = q ∨ (p.pulseHz == hz) = true

theorem isPairRate_groupRate [BEq Rate] {ps : List (Participant Rate)} (h : Registry ps) (g : Nat) :
    IsPairRate ps g (groupRate ps g) := by
  obtain ⟨-, hchannels, hcompatible⟩ := h
  induction ps using List.reverseRecOn with
  | nil => exact .inl ⟨nofun, rfl⟩
  | append_singleton ps r ih =>
    obtain ⟨hcompatible, -, hlast⟩ := List.pairwise_append.mp hcompatible
    have hrate : groupRate (ps ++ [r]) g = if r.pair = g then r.pulseHz else groupRate ps g := by
      unfold groupRate
      rw [List.foldl_append]
      rfl
    have hr : r ∈ ps ++ [r] := List.mem_append_right ps (List.mem_singleton_self r)
    rw [hrate]
    split_ifs with hpair
    · -- the last participant is of this pair, and every earlier one of it agrees with it
      refine .inr ⟨r, hr, hpair, rfl, fun p hp hpair' => ?_⟩
      rw [List.mem_append, List.mem_singleton] at hp
      obtain hp | rfl := hp
      · refine .inr ((hlast p hp r (List.mem_singleton_self r)).rate ?_)
        have hpos := (hchannels p (List.mem_append_left _ hp)).1
        have hpos' := (hchannels r hr).1
        unfold Participant.pair at hpair hpair'
        omega
      · exact .inl rfl
    · obtain ⟨hnone, hzero⟩ | ⟨q, hq, hqpair, hqrate, hall⟩ :=
        ih (fun p hp => hchannels p (List.mem_append_left _ hp)) hcompatible
      · refine .inl ⟨fun p hp => ?_, hzero⟩
        rw [List.mem_append, List.mem_singleton] at hp
        obtain hp | rfl := hp
        · exact hnone p hp
        · exact hpair
      · refine .inr ⟨q, List.mem_append_left _ hq, hqpair, hqrate, fun p hp hp' => ?_⟩
        rw [List.mem_append, List.mem_singleton] at hp
        obtain hp | rfl := hp
        · exact hall p hp hp'
        · exact absurd hp' hpair

/-- The planned rates are those of the pairs, in channel order. -/
theorem plannedRates_pair [BEq Rate] (groups : TriggerGroups Rate) {hub : SensorSyncHub Rate}
    (h : Registry hub.participants) :
    (hub.plannedRates groups).length = groups.groupCount ∧
      ∀ g < groups.groupCount, ∃ hz, (hub.plannedRates groups)[g]? = some (2 * (g : Int), hz) ∧
        IsPairRate hub.participants g hz := by
  unfold plannedRates
  refine ⟨by rw [List.length_map, List.length_range], fun g hg => ?_⟩
  refine ⟨_, ?_, isPairRate_groupRate h g⟩
  rw [List.getElem?_map, List.getElem?_range hg]
  rfl

end Rates

/-! ## What a call does -/

/-- What a call does to the hub, and the calls of the backend it makes.  The first argument says
whether the call ends the session. -/
inductive HubMove [BEq Rate] [Zero Rate] (groups : TriggerGroups Rate) (hub : SensorSyncHub Rate) :
    Bool → SensorSyncHub Rate → List (BackendCall Rate) → Prop
  | keep {ends : Bool} (hends : ends = true → hub.ended = true) : HubMove groups hub ends hub []
  | ask (boardOk : Bool) (hstarted : hub.started = true) :
      HubMove groups hub false hub [.ok boardOk]
  | openFailed (what : String) (hopened : hub.opened = false) (hstarted : hub.started = false) :
      HubMove groups hub false (hub.failLocked what) [.openPort hub.port (.error what)]
  | register {owner : String} {channel : Int} {pulseHz : Rate}
      (hadmits : Admits hub owner channel pulseHz) (hopened : hub.opened = true) :
      HubMove groups hub false
        { hub with participants := hub.participants ++ [⟨owner, channel, pulseHz, false⟩] } []
  | openBoard {owner : String} {channel : Int} {pulseHz : Rate}
      (hadmits : Admits hub owner channel pulseHz) (hopened : hub.opened = false) :
      HubMove groups hub false
        { hub with
          opened := true
          participants := hub.participants ++ [⟨owner, channel, pulseHz, false⟩] }
        [.openPort hub.port (.ok ())]
  | armed {owner : String} (hregistered : hub.participants ≠ []) :
      HubMove groups hub false { hub with participants := armFirst owner hub.participants } []
  | start {owner : String} (answer : Except String Unit) (hregistered : hub.participants ≠ [])
      (hended : hub.ended = false) (hfailed : hub.failed = false) (hstarted : hub.started = false)
      (harmed : ∀ p ∈ armFirst owner hub.participants, p.armed = true) :
      HubMove groups hub false
        (let hub' := { hub with
          participants := armFirst owner hub.participants
          startedRates := hub.plannedRates groups }
        match answer with
        | .error what => hub'.failLocked what
        | .ok () => { hub' with started := true })
        [.start hub.logPath (hub.plannedRates groups) answer]
  | endIdle (hended : hub.ended = false) (hstarted : hub.started = false) :
      HubMove groups hub true { hub with ended := true } []
  | stop (boardOk : Bool) (hended : hub.ended = false) (hstarted : hub.started = true) :
      HubMove groups hub true
        (if boardOk then { hub with ended := true }
        else { hub with ended := true }.failLocked ("timing session failed integrity checks at " ++
          "stop (see the [TriggerLog] lines above)"))
        [.stop, .ok boardOk]

section Moves

variable [BEq Rate] [Zero Rate]

theorem move_register [ToString Rate] (owner : String) (channel : Int) (pulseHz : Rate)
    (answer : Except String Unit) :
    HubMove groups hub false (hub.register groups owner channel pulseHz answer).hub
      (hub.register groups owner channel pulseHz answer).calls := by
  unfold register
  dsimp only
  split
  · exact .keep nofun
  · rename_i hrefusal
    have hadmits := admits_of_refusal hrefusal
    split_ifs with hopened
    · exact .register hadmits hopened
    · rw [Bool.not_eq_true] at hopened
      split
      · exact .openFailed _ hopened hadmits.started
      · exact .openBoard hadmits hopened

omit [BEq Rate] [Zero Rate] in
theorem participants_ne_nil {owner : String} (h : ¬(!hub.registered owner) = true) :
    hub.participants ≠ [] := by
  rintro hnil
  unfold registered at h
  rw [hnil] at h
  exact h rfl

theorem move_arm (owner : String) (answer : Except String Unit) :
    HubMove groups hub false (hub.arm groups owner answer).hub
      (hub.arm groups owner answer).calls := by
  unfold arm
  dsimp only
  split_ifs with hregistered hended hfailed hstarted harmed
  · exact .keep nofun
  · exact .keep nofun
  · exact .keep nofun
  · exact .armed (participants_ne_nil hregistered)
  · exact .armed (participants_ne_nil hregistered)
  · rw [Bool.not_eq_true] at hended hfailed hstarted
    rw [Bool.not_eq_true, Bool.not_eq_false', List.all_eq_true] at harmed
    have hmove : HubMove groups hub false _ _ :=
      .start answer (participants_ne_nil hregistered) hended hfailed hstarted harmed
    rw [← plannedRates_armFirst owner] at hmove
    cases answer <;> exact hmove

theorem move_disarm (boardOk : Bool) :
    HubMove groups hub true (hub.disarm boardOk).hub (hub.disarm boardOk).calls := by
  unfold disarm
  dsimp only
  split_ifs with hended hstarted hok
  · exact .keep fun _ => hended
  · rw [Bool.not_eq_true] at hended
    exact .endIdle hended ((Bool.not_eq_true' _).mp hstarted)
  · rw [Bool.not_eq_true] at hended
    rw [Bool.not_eq_true, Bool.not_eq_false'] at hstarted
    have hmove : HubMove groups hub true _ _ := .stop boardOk hended hstarted
    rwa [(Bool.not_eq_true' _).mp hok] at hmove ⊢
  · rw [Bool.not_eq_true] at hended
    rw [Bool.not_eq_true, Bool.not_eq_false'] at hstarted hok
    have hmove : HubMove groups hub true _ _ := .stop boardOk hended hstarted
    rwa [hok] at hmove ⊢

theorem move_ok (boardOk : Bool) :
    HubMove groups hub false (hub.ok boardOk).hub (hub.ok boardOk).calls := by
  unfold ok
  split_ifs with hfailed hstarted
  · exact .keep nofun
  · exact .keep nofun
  · rw [Bool.not_eq_true, Bool.not_eq_false'] at hstarted
    exact .ask boardOk hstarted

/-- Every call is one of the moves. -/
theorem move_perform [ToString Rate] (a : HubAction Rate) :
    HubMove groups hub a.ends (hub.perform groups a).1 (hub.perform groups a).2 := by
  cases a with
  | register owner channel pulseHz answer => exact move_register owner channel pulseHz answer
  | arm owner answer => exact move_arm owner answer
  | disarm _ boardOk => exact move_disarm boardOk
  | ok boardOk => exact move_ok boardOk
  | destroy boardOk => exact move_disarm boardOk

end Moves

/-! ## What the hub knows of its board -/

variable {hub' : SensorSyncHub Rate} {board calls : List (BackendCall Rate)} {ends : Bool}

/-- Calls that are no `P` add none to the board's. -/
theorem countP_of_none {P : BackendCall Rate → Bool} (h : calls.countP P = 0) :
    (calls.reverse ++ board).countP P = board.countP P := by
  rw [List.countP_append, List.countP_reverse, h, Nat.zero_add]

/-- Calls that are no `P` bring the board none. -/
theorem mem_of_none {P : BackendCall Rate → Bool} {c : BackendCall Rate}
    (h : calls.countP P = 0) (hc : P c = true) (hmem : c ∈ calls.reverse ++ board) : c ∈ board := by
  rw [List.mem_append, List.mem_reverse] at hmem
  obtain hmem | hmem := hmem
  · exact absurd hc (List.countP_eq_zero.mp h c hmem)
  · exact hmem

/-- A single `P` among the calls is one more for the board. -/
theorem countP_of_one {P : BackendCall Rate → Bool} (h : calls.countP P = 1) :
    (calls.reverse ++ board).countP P = 1 + board.countP P := by
  rw [List.countP_append, List.countP_reverse, h]

variable [BEq Rate] [Zero Rate]

/-- What the hub knows of the calls its board has had. -/
structure Discipline (groups : TriggerGroups Rate) (hub : SensorSyncHub Rate)
    (board : List (BackendCall Rate)) : Prop where
  registry : Registry hub.participants
  opened : hub.participants ≠ [] → hub.opened = true
  fresh : hub.started = false → hub.failed = false →
    board = if hub.opened then [.openPort hub.port (.ok ())] else []
  starts : board.countP BackendCall.isStarted = hub.started.toNat
  stops : board.countP BackendCall.isStop = (hub.started && hub.ended).toNat
  running : ∀ logPath rates, .start logPath rates (.ok ()) ∈ board →
    hub.started = true ∧ rates = hub.plannedRates groups

/-- Whether the session has ended after a call. -/
theorem HubMove.ended (h : HubMove groups hub ends hub' calls) :
    hub'.ended = (ends || hub.ended) := by
  cases h with
  | keep hends =>
    cases ends with
    | false => rfl
    | true => exact hends rfl
  | start answer =>
    cases answer with
    | error _ => rfl
    | ok _ => rfl
  | stop boardOk => cases boardOk <;> rfl
  | _ => rfl

/-- Every call keeps it. -/
theorem Discipline.move (h : Discipline groups hub board)
    (hmove : HubMove groups hub ends hub' calls) :
    Discipline groups hub' (calls.reverse ++ board) := by
  obtain ⟨hregistry, hopened, hfresh, hstarts, hstops, hrunning⟩ := h
  cases hmove with
  | keep => exact ⟨hregistry, hopened, hfresh, hstarts, hstops, hrunning⟩
  | ask boardOk hstarted =>
    refine ⟨hregistry, hopened, fun h => ?_, ?_, ?_, fun logPath rates hmem => ?_⟩
    · exact nomatch hstarted.symm.trans h
    · exact (countP_of_none rfl).trans hstarts
    · exact (countP_of_none rfl).trans hstops
    · exact hrunning logPath rates (mem_of_none (P := BackendCall.isStarted) rfl rfl hmem)
  | openFailed what =>
    refine ⟨hregistry, hopened, nofun, ?_, ?_, fun logPath rates hmem => ?_⟩
    · exact (countP_of_none rfl).trans hstarts
    · exact (countP_of_none rfl).trans hstops
    · exact hrunning logPath rates (mem_of_none (P := BackendCall.isStarted) rfl rfl hmem)
  | register hadmits hopened' =>
    refine ⟨hregistry.register hadmits, fun _ => hopened', hfresh, hstarts, hstops, ?_⟩
    intro logPath rates hmem
    exact nomatch hadmits.started.symm.trans (hrunning logPath rates hmem).1
  | openBoard hadmits hclosed =>
    refine ⟨hregistry.register hadmits, fun _ => rfl, fun hstarted hfailed => ?_, ?_, ?_, ?_⟩
    · rw [hfresh hstarted hfailed, hclosed]
      rfl
    · exact (countP_of_none rfl).trans hstarts
    · exact (countP_of_none rfl).trans hstops
    · intro logPath rates hmem
      have hmem' := hrunning logPath rates (mem_of_none (P := BackendCall.isStarted) rfl rfl hmem)
      exact nomatch hadmits.started.symm.trans hmem'.1
  | @armed owner hregistered =>
    refine ⟨hregistry.armFirst _, fun _ => hopened hregistered, hfresh, hstarts, hstops, ?_⟩
    rw [plannedRates_armFirst]
    exact hrunning
  | @start owner answer hregistered hended hfailed hstarted =>
    have hfresh' := hfresh hstarted hfailed
    rw [hopened hregistered, if_pos rfl] at hfresh'
    cases answer with
    | error what =>
      refine ⟨hregistry.armFirst _, fun _ => hopened hregistered, nofun, ?_, ?_, ?_⟩
      · exact (countP_of_none rfl).trans hstarts
      · exact (countP_of_none rfl).trans hstops
      · intro logPath rates hmem
        have hmem' := hrunning logPath rates (mem_of_none (P := BackendCall.isStarted) rfl rfl hmem)
        exact nomatch hstarted.symm.trans hmem'.1
    | ok =>
      rw [hstarted] at hstarts hstops
      refine ⟨hregistry.armFirst _, fun _ => hopened hregistered, nofun, ?_, ?_, ?_⟩
      · rw [countP_of_one rfl, hstarts]
        rfl
      · rw [countP_of_none rfl, hstops]
        exact congrArg Bool.toNat hended.symm
      · intro logPath rates hmem
        refine ⟨rfl, ?_⟩
        obtain heq | hmem := List.mem_cons.mp hmem
        · exact (BackendCall.start.inj heq).2.1.trans (plannedRates_armFirst owner).symm
        · exact nomatch hstarted.symm.trans (hrunning logPath rates hmem).1
  | endIdle hended hstarted =>
    refine ⟨hregistry, hopened, hfresh, hstarts, ?_, hrunning⟩
    rw [hstarted] at hstops
    exact hstops.trans (congrArg (fun b => (b && true).toNat) hstarted.symm)
  | stop boardOk hended hstarted =>
    rw [hended, Bool.and_false] at hstops
    have hstops' : (([.stop, .ok boardOk] : List (BackendCall Rate)).reverse ++ board).countP
        BackendCall.isStop = (hub.started && true).toNat := by
      rw [countP_of_one rfl, hstops, hstarted]
      rfl
    have hstarts' : (([.stop, .ok boardOk] : List (BackendCall Rate)).reverse ++ board).countP
        BackendCall.isStarted = hub.started.toNat := (countP_of_none rfl).trans hstarts
    have hrunning' (logPath : String) (rates : List (Int × Rate))
        (hmem : .start logPath rates (.ok ()) ∈
          ([.stop, .ok boardOk] : List (BackendCall Rate)).reverse ++ board) :
        hub.started = true ∧ rates = hub.plannedRates groups :=
      hrunning logPath rates (mem_of_none (P := BackendCall.isStarted) rfl rfl hmem)
    cases boardOk with
    | false => exact ⟨hregistry, hopened, nofun, hstarts', hstops', hrunning'⟩
    | true =>
      refine ⟨hregistry, hopened, fun h => ?_, hstarts', hstops', hrunning'⟩
      exact nomatch hstarted.symm.trans h

end SensorSyncHub

namespace HubRun

open SensorSyncHub

/-! ## Every run -/

variable {Rate : Type} [BEq Rate] [Zero Rate] [ToString Rate] {groups : TriggerGroups Rate}
  {s s' : HubRun Rate} {history : List (Taken (HubRun Rate) (HubAction Rate))}

/-- What holds of a run: the hub knows its board, and has ended once it was told to. -/
structure Sound (groups : TriggerGroups Rate) (s : HubRun Rate)
    (history : List (Taken (HubRun Rate) (HubAction Rate))) : Prop where
  discipline : Discipline groups s.hub s.board
  ended : s.hub.ended = history.any fun t => t.action.ends
  destroyed : s.destroyed = true → s.hub.ended = true

theorem Sound.step (h : Sound groups s history) {a : HubAction Rate}
    (hstep : step groups s a = some s') : Sound groups s' (⟨s, a, s'⟩ :: history) := by
  unfold HubRun.step at hstep
  dsimp only at hstep
  split_ifs at hstep
  have hmove : HubMove groups s.hub _ _ _ := move_perform a
  obtain rfl := Option.some.inj hstep
  have hended := hmove.ended
  refine ⟨h.discipline.move hmove, ?_, ?_⟩
  · rw [List.any_cons, ← h.ended]
    exact hended
  · intro hdestroyed
    cases a with
    | destroy => exact hended
    | _ => exact nomatch hdestroyed

theorem sound_of_reachable (h : (system groups).recorded.Reachable (s, history)) :
    Sound groups s history := by
  refine h.invariant (P := fun x => Sound groups x.1 x.2) ?_ ?_
  · rintro ⟨s, history⟩ ⟨⟨logPath, port, rfl⟩, rfl⟩
    refine ⟨⟨⟨Nat.zero_le _, nofun, .nil⟩, fun h => absurd rfl h, fun _ _ => rfl, rfl, rfl, nofun⟩,
      rfl, nofun⟩
  · intro x a x' hs hstep
    obtain ⟨hstep, hhistory⟩ := StepSystem.recorded_step hstep
    rw [hhistory]
    exact hs.step hstep

/-- What an attempt to start is preceded by. -/
theorem attempt_cases {a : HubAction Rate} {logPath : String} {rates : List (Int × Rate)}
    {answer : Except String Unit} (hs : Discipline groups s.hub s.board)
    (hstep : step groups s a = some s')
    (hstart : .start logPath rates answer ∈ (s.hub.perform groups a).2) :
    (∀ p ∈ s'.hub.participants, p.armed = true) ∧ s.hub.opened = true ∧ s.hub.ended = false ∧
      s.hub.failed = false ∧ s.board = [.openPort s.hub.port (.ok ())] ∧
      rates = s'.hub.plannedRates groups := by
  unfold HubRun.step at hstep
  dsimp only at hstep
  split_ifs at hstep
  have hmove : HubMove groups s.hub _ _ _ := move_perform a
  obtain rfl := Option.some.inj hstep
  dsimp only
  generalize s.hub.perform groups a = r at hstart hmove ⊢
  generalize a.ends = ends at hmove
  obtain ⟨hub, calls⟩ := r
  cases hmove with
  | @start owner answer' hregistered hended hfailed hstarted harmed =>
    have hopened := hs.opened hregistered
    have hboard := hs.fresh hstarted hfailed
    rw [if_pos hopened] at hboard
    obtain ⟨-, hrates, -⟩ := BackendCall.start.inj (List.mem_singleton.mp hstart)
    rw [← plannedRates_armFirst owner] at hrates
    cases answer' with
    | error _ => exact ⟨harmed, hopened, hended, hfailed, hboard, hrates⟩
    | ok _ => exact ⟨harmed, hopened, hended, hfailed, hboard, hrates⟩
  | _ => simp at hstart

/-- **Start and stop of the shared board.**  In every run, a `Start` is attempted only when every
participant is armed, the port is open, nothing has ended or failed, and the `Open` is all the
board has been asked for; at most one succeeds, at the rates of the pairs; it is stopped once, by
the call that ends the session, and nothing else is stopped; and the participants are distinct,
with one rate for each pair. -/
theorem start_stop_discipline (groups : TriggerGroups Rate) (hgroups : groups.groupCount = 2)
    (s : HubRun Rate) (history : List (Taken (HubRun Rate) (HubAction Rate)))
    (h : (system groups).recorded.Reachable (s, history)) :
    (∀ a s' logPath rates answer, step groups s a = some s' →
      .start logPath rates answer ∈ (s.hub.perform groups a).2 →
        (∀ p ∈ s'.hub.participants, p.armed = true) ∧ s.hub.opened = true ∧
          s.hub.ended = false ∧ s.hub.failed = false ∧
          (∀ t ∈ history, t.action.ends = false) ∧
          s.board = [.openPort s.hub.port (.ok ())] ∧ rates = s'.hub.plannedRates groups) ∧
      s.board.countP BackendCall.isStarted ≤ 1 ∧
      (∀ logPath rates, .start logPath rates (.ok ()) ∈ s.board →
        rates = s.hub.plannedRates groups) ∧
      s.board.countP BackendCall.isStop =
        (if history.any fun t => t.action.ends then s.board.countP BackendCall.isStarted else 0) ∧
      (s.destroyed = true →
        s.board.countP BackendCall.isStop = s.board.countP BackendCall.isStarted) ∧
      (s.hub.participants.Pairwise fun p q => p.owner ≠ q.owner) ∧
      (s.hub.participants.Pairwise fun p q => p.channel ≠ q.channel) ∧
      (s.hub.participants.Pairwise fun p q => p.pair = q.pair → (p.pulseHz == q.pulseHz) = true) ∧
      (∀ p ∈ s.hub.participants, p.pair < 2) ∧
      (s.hub.plannedRates groups).length = 2 ∧
      ∀ g : Nat, g < 2 → ∃ hz, (s.hub.plannedRates groups)[g]? = some (2 * (g : Int), hz) ∧
        IsPairRate s.hub.participants g hz := by
  obtain ⟨hs, hended, hdestroyed⟩ := sound_of_reachable h
  obtain ⟨hlength, hrates⟩ := plannedRates_pair groups hs.registry
  rw [hgroups] at hlength hrates
  have hstops (h : s.hub.ended = true) :
      s.board.countP BackendCall.isStop = s.board.countP BackendCall.isStarted := by
    rw [hs.stops, hs.starts, h, Bool.and_true]
  refine ⟨?_, ?_, ?_, ?_, fun h => hstops (hdestroyed h), ?_, ?_, ?_, ?_, hlength, hrates⟩
  · intro a s' logPath rates answer hstep hstart
    obtain ⟨harmed, hopened, hended', hfailed, hboard, hrates⟩ := attempt_cases hs hstep hstart
    refine ⟨harmed, hopened, hended', hfailed, ?_, hboard, hrates⟩
    rw [hended] at hended'
    intro t ht
    exact eq_false_of_ne_true (List.any_eq_false.mp hended' t ht)
  · rw [hs.starts]
    exact Bool.toNat_le _
  · intro logPath rates hmem
    exact (hs.running logPath rates hmem).2
  · rw [← hended]
    split_ifs with h
    · exact hstops h
    · rw [hs.stops, Bool.not_eq_true] at *
      rw [h, Bool.and_false]
      rfl
  · exact hs.registry.compatible.imp Compatible.owner
  · exact hs.registry.compatible.imp Compatible.channel
  · refine hs.registry.compatible.imp_of_mem ?_
    intro p q hp hq hcompatible hpair
    have hp := (hs.registry.channels p hp).1
    have hq := (hs.registry.channels q hq).1
    unfold Participant.pair at hpair
    exact hcompatible.rate (by omega)
  · intro p hp
    have hinside := hs.registry.channels p hp
    unfold kChannelCount at hinside
    unfold Participant.pair
    omega

/-- Two cameras, each on a pair of its own, and both of their teardowns. -/
theorem start_stop_discipline_of_two_cameras :
    ∃ groups s history, (system groups).recorded.Reachable (s, history) ∧ s.destroyed = true ∧
      (s.hub.plannedRates groups : List (Int × Nat)) = [(0, 50), (2, 5)] ∧
      s.board.countP BackendCall.isStarted = 1 ∧ s.board.countP BackendCall.isStop = 1 := by
  let groups : TriggerGroups Nat :=
    { groupCount := 2
      fx := 0
      validRate := fun group hz =>
        if group = 0 then hz = 0 ∨ 20 ≤ hz else hz = 0 ∨ 1 ≤ hz ∧ hz ≤ 10
      name := fun group => if group = 0 then "FX" else "JAI" }
  let actions : List (HubAction Nat) :=
    [.register "fx10" 0 50 (.ok ()), .register "gox:cam0" 2 5 (.ok ()), .arm "gox:cam0" (.ok ()),
      .arm "fx10" (.ok ()), .disarm "fx10" true, .disarm "gox:cam0" true, .destroy true]
  let new : HubRun Nat := { hub := { logPath := "sensor_trigger.log", port := "/dev/ttyACM0" } }
  have hrun : ((system groups).recorded.exec (new, []) actions).map (fun x =>
      (x.1.destroyed, x.1.hub.plannedRates groups, x.1.board.countP BackendCall.isStarted)) =
      some (true, [(0, 50), (2, 5)], 1) := by decide +kernel
  obtain ⟨⟨s, history⟩, hexec, hs⟩ := Option.map_eq_some_iff.mp hrun
  obtain ⟨hdestroyed, hs⟩ := Prod.mk.inj hs
  obtain ⟨hrates, hstarted⟩ := Prod.mk.inj hs
  have hreach : (system groups).recorded.Reachable (s, history) :=
    StepSystem.reachable_of_exec (s := (new, [])) (.init ⟨⟨_, _, rfl⟩, rfl⟩) hexec
  obtain ⟨-, -, -, -, hstopped, -⟩ := start_stop_discipline groups rfl s history hreach
  exact ⟨groups, s, history, hreach, hdestroyed, hrates, hstarted,
    (hstopped hdestroyed).trans hstarted⟩

end HubRun

end AmigaDrivers
