import Mathlib.Data.List.DropRight
import AmigaDrivers.Asterx.SessionFailFast

/-!
# The configuration of the receiver

Commands go out one at a time.  A reply is bound to the outstanding command by the name it
echoes, a listing is complete at the prompt behind it, and only a reply that passes the check of
its command lets the next command out.

* `commandNameOf`, `equalsCi`: how a reply is bound to its command.
* `epoch`: the steps since the connection was made.
* `Answered`, `Advanced`: a command is answered; it has been answered and verified.
* `Configuration`: what is verified in each state; every step keeps it.
* `fully_verified`: a session that warms up has verified every command of its list.
-/

namespace AmigaDrivers
namespace Asterx

/-! ## Command names -/

/-- `std::isspace`. -/
def isSpace (c : Char) : Bool := c = ' ' || decide (9 ≤ c.toNat ∧ c.toNat ≤ 13)

/-- `Trim`. -/
def trim (s : List Char) : List Char := (s.dropWhile isSpace).rdropWhile isSpace

/-- `CommandNameOf`. -/
def commandNameOf (line : String) : String :=
  let s := trim line.toList
  let s :=
    match s with
    | '$' :: 'R' :: _ :: rest => trim rest
    | _ => s
  let s :=
    match s with
    | '#' :: rest => trim rest
    | _ => s
  String.ofList (s.takeWhile fun c => !(c = ',' || c = ' ' || c = '\t' || c = ':'))

example : commandNameOf "$R: getReceiverCapabilities, Main" = "getReceiverCapabilities" := by
  decide +kernel

/-- `EqualsCi`. -/
def equalsCi (a b : String) : Bool := a.toList.map Char.toLower = b.toList.map Char.toLower

/-- The session with the driver's own command names; the rest of its layer is arbitrary. -/
def SessionConfig.named (cfg : SessionConfig) : SessionConfig :=
  { cfg with layer := { cfg.layer with commandNameOf, equalsCi } }

namespace Session

/-! ## Epochs and verified commands -/

/-- The step begins a connection epoch. -/
def opensEpoch (t : Taken Session SessionAction) : Bool :=
  startsAttempt t ||
    match t.action with
    | .event .connected => true
    | _ => false

/-- The steps of the current connection epoch. -/
def epoch (history : SessionHistory) : SessionHistory := history.takeWhile fun t => !opensEpoch t

/-- The command name the reply echoes; empty when it echoes none. -/
def echoedName (L : CommandLayer) (reply : String) : String :=
  if echoesCommand reply then L.commandNameOf (firstLine reply) else ""

/-- The command is the `i`-th of the list, it was sent last, and its answer is awaited. -/
structure Outstanding (s : Session) (cmds : List Command) (i : Nat) (cmd : Command) : Prop where
  state : s.state = .configuring
  list : s.cmds = cmds
  index : s.cmdIndex = i
  command : cmds[i]? = some cmd
  sent : s.sent.getLast? = some cmd.text

/-- The step receives a reply without error for the outstanding command. -/
structure Answered (L : CommandLayer) (cmds : List Command) (i : Nat) (cmd : Command)
    (reply : String) (t : Taken Session SessionAction) : Prop where
  received : t.action = .event (.newCommandReply reply false)
  outstanding : t.before.Outstanding cmds i cmd
  echo : echoedName L reply = "" ∨
    L.equalsCi (echoedName L reply) (L.commandNameOf cmd.text) = true
  header : listingHeader reply = CommandKind.isListing cmd.kind

/-- The listing was opened by a reply to the outstanding command. -/
def Headed (L : CommandLayer) (cmds : List Command) (steps : SessionHistory) (i : Nat)
    (cmd : Command) (listing : String) : Prop :=
  ∃ t ∈ steps, ∃ reply more, Answered L cmds i cmd reply t ∧ listingHeader reply = true ∧
    listing = reply ++ "\n" ++ more

/-- The command was answered, and its answer verified. -/
inductive Advanced (L : CommandLayer) (cmds : List Command) (steps : SessionHistory) (i : Nat)
    (cmd : Command) : Prop
  | reply {t : Taken Session SessionAction} {reply : String}
      (hkind : CommandKind.isListing cmd.kind = false) (ht : t ∈ steps)
      (hanswered : Answered L cmds i cmd reply t)
      (hverified : verifyReply L cmd reply = .ok ())
      (hnext : t.after.cmdIndex = i + 1) : Advanced L cmds steps i cmd
  | listing {newer older : SessionHistory} {t : Taken Session SessionAction}
      (hkind : CommandKind.isListing cmd.kind = true) (ht : steps = newer ++ t :: older)
      (hprompt : t.action = .event .newPrompt)
      (houtstanding : t.before.Outstanding cmds i cmd)
      (hheaded : Headed L cmds older i cmd t.before.lstText)
      (hwhitelist : t.before.whitelist = L.driverCommandWhitelist cmds)
      (hverified : verifyListing L t.before cmd = .ok ())
      (hnext : t.after.cmdIndex = i + 1) : Advanced L cmds steps i cmd

variable {L : CommandLayer} {s s' : Session} {history : SessionHistory} {cmds : List Command}
  {i : Nat} {cmd : Command}

theorem Headed.cons {listing : String} (h : Headed L cmds history i cmd listing)
    (t : Taken Session SessionAction) : Headed L cmds (t :: history) i cmd listing := by
  obtain ⟨t', ht', h⟩ := h
  exact ⟨t', List.mem_cons_of_mem _ ht', h⟩

theorem Advanced.cons (h : Advanced L cmds history i cmd) (t : Taken Session SessionAction) :
    Advanced L cmds (t :: history) i cmd := by
  cases h with
  | reply hkind ht hanswered hverified hnext =>
    exact .reply hkind (List.mem_cons_of_mem _ ht) hanswered hverified hnext
  | @listing newer older t' hkind ht hprompt houtstanding hheaded hwhitelist hverified
      hnext =>
    have ht : t :: history = (t :: newer) ++ t' :: older := by rw [ht, List.cons_append]
    exact .listing hkind ht hprompt houtstanding hheaded hwhitelist hverified hnext

theorem epoch_cons {t : Taken Session SessionAction} (h : opensEpoch t = false) :
    epoch (t :: history) = t :: epoch history := by
  unfold epoch
  rw [List.takeWhile_cons, h]
  rfl

/-! ## Handlers that leave the configuration alone -/

/-- Being configured, or configured. -/
def online : SessionState → Bool
  | .configuring | .warmingUp | .recording => true
  | .idle | .connecting | .waitingDescriptor | .backoff | .stopping => false

/-- What the configuration is about. -/
def commands (s : Session) : List Command × Nat × List String × List String × Bool × String :=
  (s.cmds, s.cmdIndex, s.whitelist, s.sent, s.lstReplySeen, s.lstText)

/-- The configuration is given up, or nothing happens to it. -/
def Calm (s s' : Session) : Prop :=
  online s'.state = false ∨
    s'.commands = s.commands ∧
      (s'.state = s.state ∨ s.state = .warmingUp ∧ s'.state = .recording)

theorem Calm.refl (s : Session) : s.Calm s := .inr ⟨rfl, .inl rfl⟩

/-- Nothing that concerns the configuration has changed. -/
theorem Calm.of_same (h : (s'.state, s'.commands) = (s.state, s.commands)) : s.Calm s' := by
  obtain ⟨hstate, hcommands⟩ := Prod.mk.inj h
  exact .inr ⟨hcommands, .inl hstate⟩

theorem Calm.trans {t : Session} (h : s.Calm t) (h' : t.Calm s') : s.Calm s' := by
  obtain hoff' | ⟨hcommands', hstate'⟩ := h'
  · exact .inl hoff'
  · obtain hoff | ⟨hcommands, hstate⟩ := h
    · refine .inl ?_
      obtain hstate' | ⟨hwarm, -⟩ := hstate'
      · rw [hstate', hoff]
      · rw [hwarm] at hoff
        exact nomatch hoff
    · refine .inr ⟨hcommands'.trans hcommands, ?_⟩
      obtain hstate' | ⟨hwarm, hrecording⟩ := hstate'
      · rw [hstate']
        exact hstate
      · obtain hstate | ⟨-, hrecording'⟩ := hstate
        · exact .inr ⟨hstate ▸ hwarm, hrecording⟩
        · exact nomatch hwarm.symm.trans hrecording'

theorem calm_shutdown (s : Session) (fatal : Bool) : s.Calm (s.shutdown fatal) := by
  unfold shutdown
  split_ifs
  · exact .of_same rfl
  · exact .refl s
  · exact .inl rfl

theorem calm_failStartup (s : Session) : s.Calm s.failStartup := by
  unfold failStartup
  split_ifs
  · exact .refl s
  · exact calm_shutdown s true

theorem calm_handleFailure (s : Session) : s.Calm s.handleFailure := by
  unfold handleFailure
  split
  · exact .refl s
  · have hcounted : s.Calm { s with recordingErrors := s.recordingErrors + 1 } := .of_same rfl
    dsimp only
    split
    · exact hcounted.trans (calm_failStartup _)
    · split
      · exact hcounted.trans (calm_shutdown _ true)
      · exact .inl rfl

theorem calm_onStreamDamage (s : Session) : s.Calm s.onStreamDamage := by
  unfold onStreamDamage
  split
  · exact .refl s
  · have hcounted : s.Calm { s with recordingErrors := s.recordingErrors + 1 } := .of_same rfl
    dsimp only
    split
    · exact hcounted
    · exact hcounted.trans (calm_shutdown _ true)

theorem calm_onWriteFailed (s : Session) : s.Calm s.onWriteFailed := by
  unfold onWriteFailed
  split
  · exact .refl s
  · exact Calm.trans (.of_same rfl) (calm_shutdown _ true)

theorem calm_onCommunicationError (s : Session) (message : String) :
    s.Calm (s.onCommunicationError message) := by
  unfold onCommunicationError
  split_ifs
  · exact .refl s
  · exact Calm.trans (.of_same rfl) (calm_onStreamDamage _)
  · exact calm_handleFailure s

theorem calm_enterRecording (s : Session) : s.Calm s.enterRecording := by
  unfold enterRecording
  split
  · exact .refl s
  · rename_i hwarm
    split
    · exact calm_onWriteFailed s
    · exact .inr ⟨rfl, .inr ⟨not_not.mp hwarm, rfl⟩⟩

theorem calm_onReceiverStatus (L : CommandLayer) (s : Session) (block : QByteArray) :
    s.Calm (onReceiverStatus L s block) := by
  unfold onReceiverStatus
  split
  · exact .refl s
  · dsimp only
    split
    · split_ifs <;> exact .of_same rfl
    · split
      · exact Calm.trans (.of_same rfl) (calm_shutdown _ true)
      · exact .of_same rfl

theorem calm_onSbfBlock (s : Session) (block : QByteArray) : s.Calm (s.onSbfBlock block) := by
  unfold onSbfBlock
  split_ifs
  · exact .of_same rfl
  · exact .refl s
  · exact .of_same rfl

theorem calm_onEnqueued (L : CommandLayer) (s : Session) (block : QByteArray) (queued : Bool) :
    s.Calm (onEnqueued L s block queued) := by
  unfold onEnqueued
  split
  · exact Calm.trans (.of_same rfl) (calm_shutdown _ true)
  · dsimp only
    split
    · exact Calm.trans (.of_same rfl) (calm_onReceiverStatus L _ block)
    · exact .of_same rfl

theorem calm_askGate (s : Session) : s.Calm s.askGate := by
  unfold askGate
  dsimp only
  split
  · exact Calm.trans (.of_same rfl) (calm_enterRecording _)
  · exact .of_same rfl

theorem calm_onTimeout (s : Session) (timer : SessionTimer) : s.Calm (s.onTimeout timer) := by
  have hfired : s.Calm { s with timers := s.timers.fire timer } := .of_same rfl
  unfold onTimeout
  dsimp only
  cases timer with
  | connect =>
    dsimp only
    split
    · exact hfired.trans (calm_handleFailure _)
    · exact hfired
  | retry =>
    dsimp only
    split
    · exact .inl rfl
    · exact hfired
  | recovery => exact hfired.trans (calm_failStartup _)
  | watchdog =>
    dsimp only [onWatchdog]
    split
    · exact hfired
    · exact hfired.trans (calm_handleFailure _)
  | command =>
    dsimp only [onCommandTimeout]
    split
    · exact hfired
    · exact hfired.trans (calm_handleFailure _)
  | stats => exact hfired
  | warmupLog =>
    dsimp only
    split
    · exact hfired.trans (calm_enterRecording _)
    · exact hfired

theorem calm_onReturn (cfg : SessionConfig) (s : Session) (c : QueueCall) :
    s.Calm (s.onReturn cfg c) := by
  cases c with
  | start => exact .inl rfl
  | enqueue block => exact Calm.trans (.of_same rfl) (calm_onEnqueued cfg.layer _ block _)
  | close fatal =>
    dsimp only [onReturn]
    split_ifs <;> exact .of_same rfl

theorem calm_resume (cfg : SessionConfig) (h : s.resume cfg = some s') : s.Calm s' := by
  unfold resume at h
  split at h
  · exact nomatch h
  · obtain ⟨writer, -, rfl⟩ := Option.map_eq_some_iff.mp h
    exact .of_same rfl
  · rename_i c hwaiting
    split_ifs at h
    obtain rfl := Option.some.inj h
    exact calm_onReturn cfg s c
  · obtain rfl := Option.some.inj h
    exact calm_askGate s
  · obtain rfl := Option.some.inj h
    exact .of_same rfl

/-! ## What is verified -/

/-- The list was built in this epoch, and its first `n` commands have been answered and
verified. -/
structure Progress (L : CommandLayer) (s : Session) (history : SessionHistory) (n : Nat) :
    Prop where
  built : ∃ t ∈ epoch history, ∃ d, t.action = .event (.newConnectionDescriptor d) ∧
    L.buildCommandList d = .ok s.cmds
  listed : s.whitelist = L.driverCommandWhitelist s.cmds
  advanced : ∀ i cmd, i < n → s.cmds[i]? = some cmd →
    Advanced L s.cmds (epoch history) i cmd

/-- What is verified in each state. -/
structure Configuration (L : CommandLayer) (s : Session) (history : SessionHistory) : Prop where
  configuring : s.state = .configuring →
    s.cmdIndex < s.cmds.length ∧
      (s.cmds.take (s.cmdIndex + 1)).map Command.text <:+ s.sent ∧
      Progress L s history s.cmdIndex
  heading : s.state = .configuring → s.lstReplySeen = true →
    ∀ cmd, s.cmds[s.cmdIndex]? = some cmd →
      Headed L s.cmds (epoch history) s.cmdIndex cmd s.lstText
  configured : s.state = .warmingUp ∨ s.state = .recording →
    s.cmds.map Command.text <:+ s.sent ∧ Progress L s history s.cmds.length

theorem Progress.cons {n : Nat} {t : Taken Session SessionAction} (hs : Progress L s history n)
    (h : opensEpoch t = false) : Progress L s (t :: history) n := by
  obtain ⟨⟨t', ht', hbuilt⟩, hlisted, hadvanced⟩ := hs
  refine ⟨?_, hlisted, ?_⟩ <;> rw [epoch_cons h]
  · exact ⟨t', List.mem_cons_of_mem _ ht', hbuilt⟩
  · exact fun i cmd hi hcmd => (hadvanced i cmd hi hcmd).cons t

theorem Configuration.cons {t : Taken Session SessionAction} (hs : Configuration L s history)
    (h : opensEpoch t = false) : Configuration L s (t :: history) := by
  refine ⟨?_, ?_, ?_⟩
  · intro hstate
    obtain ⟨hlt, hsent, hprogress⟩ := hs.configuring hstate
    exact ⟨hlt, hsent, hprogress.cons h⟩
  · intro hstate hseen cmd hcmd
    rw [epoch_cons h]
    exact (hs.heading hstate hseen cmd hcmd).cons t
  · intro hstate
    obtain ⟨hsent, hprogress⟩ := hs.configured hstate
    exact ⟨hsent, hprogress.cons h⟩

theorem configuration_of_offline (h : online s.state = false) : Configuration L s history := by
  refine ⟨?_, ?_, ?_⟩
  · intro hstate
    rw [hstate] at h
    exact nomatch h
  · intro hstate
    rw [hstate] at h
    exact nomatch h
  · rintro (hstate | hstate) <;> rw [hstate] at h <;> exact nomatch h

theorem Progress.of_same {n : Nat} (hs : Progress L s history n)
    (h : (s'.cmds, s'.whitelist) = (s.cmds, s.whitelist)) : Progress L s' history n := by
  obtain ⟨hcmds, hwhitelist⟩ := Prod.mk.inj h
  obtain ⟨hbuilt, hlisted, hadvanced⟩ := hs
  refine ⟨?_, ?_, ?_⟩ <;> rw [hcmds]
  · exact hbuilt
  · rw [hwhitelist, hlisted]
  · exact hadvanced

/-- A handler that leaves the configuration alone. -/
theorem Configuration.calm (hs : Configuration L s history) (h : s.Calm s') :
    Configuration L s' history := by
  obtain hoff | ⟨hcommands, hstate⟩ := h
  · exact configuration_of_offline hoff
  · simp only [commands, Prod.mk.injEq] at hcommands
    obtain ⟨hcmds, hindex, hwhitelist, hsent, hseen, htext⟩ := hcommands
    have hsame : (s'.cmds, s'.whitelist) = (s.cmds, s.whitelist) := by rw [hcmds, hwhitelist]
    have hconfiguring (h : s'.state = .configuring) : s.state = .configuring := by
      obtain hstate | ⟨-, hrecording⟩ := hstate
      · exact hstate ▸ h
      · exact nomatch h.symm.trans hrecording
    refine ⟨?_, ?_, ?_⟩
    · intro h
      obtain ⟨hlt, hsuffix, hprogress⟩ := hs.configuring (hconfiguring h)
      rw [hcmds, hindex, hsent]
      exact ⟨hlt, hsuffix, hprogress.of_same hsame⟩
    · intro h
      rw [hcmds, hindex, hseen, htext]
      exact hs.heading (hconfiguring h)
    · intro h
      have hwarm : s.state = .warmingUp ∨ s.state = .recording := by
        obtain hstate | ⟨hwarm, -⟩ := hstate
        · exact hstate ▸ h
        · exact .inl hwarm
      obtain ⟨hsuffix, hprogress⟩ := hs.configured hwarm
      rw [hcmds, hsent]
      exact ⟨hsuffix, hprogress.of_same hsame⟩

/-! ## Sending and verifying -/

/-- **The next command goes out, or the last one has been verified.** -/
theorem configuration_sendCurrentCommand (hstate : s.state = .configuring)
    (hsuffix : (s.cmds.take s.cmdIndex).map Command.text <:+ s.sent)
    (hprogress : Progress L s history s.cmdIndex) :
    Configuration L s.sendCurrentCommand history := by
  unfold sendCurrentCommand
  split
  · rename_i hnone
    have hle : s.cmds.length ≤ s.cmdIndex := List.getElem?_eq_none_iff.mp hnone
    rw [List.take_of_length_le hle] at hsuffix
    have hdone : Progress L s history s.cmds.length :=
      ⟨hprogress.built, hprogress.listed, fun i cmd hi =>
        hprogress.advanced i cmd (Nat.lt_of_lt_of_le hi hle)⟩
    have hwarm : Configuration L
        { s with
          state := .warmingUp
          everConfigured := true
          timers := { s.timers with command := none, watchdog := some s.clock }
          warmup := s.warmup.resetReceiverStatus } history :=
      ⟨nofun, nofun, fun _ => ⟨hsuffix, hdone.of_same rfl⟩⟩
    unfold enterWarmup
    dsimp only
    split
    · exact hwarm.calm (calm_enterRecording _)
    · exact hwarm.calm (.of_same rfl)
  · rename_i cmd hcmd
    have hlt : s.cmdIndex < s.cmds.length := (List.getElem?_eq_some_iff.mp hcmd).1
    refine ⟨fun _ => ⟨hlt, ?_, hprogress.of_same rfl⟩, ?_, ?_⟩
    · obtain ⟨earlier, hearlier⟩ := hsuffix
      refine ⟨earlier, ?_⟩
      show earlier ++ (s.cmds.take (s.cmdIndex + 1)).map Command.text = s.sent ++ [cmd.text]
      rw [List.take_add_one, hcmd, List.map_append, ← List.append_assoc, hearlier]
      rfl
    · exact fun _ => nofun
    · rintro (h | h) <;> exact nomatch hstate.symm.trans h

theorem cmdIndex_shutdown (s : Session) (fatal : Bool) : (s.shutdown fatal).cmdIndex = s.cmdIndex := by
  unfold shutdown
  split_ifs <;> rfl

theorem cmdIndex_enterRecording (s : Session) : s.enterRecording.cmdIndex = s.cmdIndex := by
  unfold enterRecording onWriteFailed
  split_ifs
  · rfl
  · rfl
  · exact cmdIndex_shutdown _ true
  · rfl

theorem cmdIndex_sendCurrentCommand (s : Session) : s.sendCurrentCommand.cmdIndex = s.cmdIndex := by
  unfold sendCurrentCommand
  split
  · unfold enterWarmup
    dsimp only
    split
    · exact cmdIndex_enterRecording _
    · rfl
  · rfl

/-- The command a configuring session waits for. -/
theorem Configuration.outstanding (hs : Configuration L s history) (hstate : s.state = .configuring)
    (hcmd : s.cmds[s.cmdIndex]? = some cmd) : s.Outstanding s.cmds s.cmdIndex cmd := by
  obtain ⟨-, ⟨earlier, hsent⟩, -⟩ := hs.configuring hstate
  refine ⟨hstate, rfl, rfl, hcmd, ?_⟩
  rw [← hsent, List.take_add_one, hcmd, List.map_append, ← List.append_assoc]
  exact List.getLast?_concat

theorem echo_of_not_foreign {reply : String} (h : ¬ (echoesCommand reply && foreign L reply cmd) = true) :
    echoedName L reply = "" ∨ L.equalsCi (echoedName L reply) (L.commandNameOf cmd.text) = true := by
  unfold echoedName
  split
  · rename_i hechoes
    rw [hechoes, Bool.true_and] at h
    unfold foreign at h
    dsimp only at h
    by_cases hempty : L.commandNameOf (firstLine reply) = ""
    · exact .inl hempty
    · refine .inr ?_
      simpa [hempty] using h
  · exact .inl rfl

theorem configuration_onConnectionDescriptor {d : String} {t : Taken Session SessionAction}
    (hs : Configuration L s history) (ht : opensEpoch t = false)
    (haction : t.action = .event (.newConnectionDescriptor d)) :
    Configuration L (onConnectionDescriptor L s d) (t :: history) := by
  have hsame : s.Calm { s with descriptor := d } := .of_same rfl
  unfold onConnectionDescriptor
  dsimp only
  split
  · exact (hs.cons ht).calm hsame
  · split
    · exact (hs.cons ht).calm (hsame.trans (calm_failStartup _))
    · rename_i cmds hbuild
      refine configuration_sendCurrentCommand rfl ?_ ⟨⟨t, ?_, d, haction, hbuild⟩, rfl, ?_⟩
      · exact List.nil_suffix
      · rw [epoch_cons ht]
        exact List.mem_cons_self
      · exact fun i cmd hi => absurd hi (Nat.not_lt_zero i)

/-- The step that answers the outstanding command advances the list. -/
theorem Progress.next {steps : SessionHistory} (hs : Progress L s steps s.cmdIndex)
    (hcmd : s.cmds[s.cmdIndex]? = some cmd) (h : Advanced L s.cmds (epoch steps) s.cmdIndex cmd) :
    Progress L s steps (s.cmdIndex + 1) := by
  refine ⟨hs.built, hs.listed, fun i cmd' hi hcmd' => ?_⟩
  obtain hi | rfl := Nat.lt_succ_iff_lt_or_eq.mp hi
  · exact hs.advanced i cmd' hi hcmd'
  · rw [hcmd] at hcmd'
    exact Option.some.inj hcmd' ▸ h

theorem configuration_handleCommandReply {reply : String} {error : Bool}
    (hs : Configuration L s history)
    (ht : opensEpoch ⟨s, .event (.newCommandReply reply error),
      handleCommandReply L s reply error⟩ = false) :
    Configuration L (handleCommandReply L s reply error)
      (⟨s, .event (.newCommandReply reply error), handleCommandReply L s reply error⟩ ::
        history) := by
  generalize htaken : (⟨s, .event (.newCommandReply reply error),
    handleCommandReply L s reply error⟩ : Taken Session SessionAction) = t at ht ⊢
  have hs' := hs.cons ht
  have hbefore : t.before = s := htaken ▸ rfl
  have haction : t.action = .event (.newCommandReply reply error) := htaken ▸ rfl
  have hafter : t.after = handleCommandReply L s reply error := htaken ▸ rfl
  have hmem : t ∈ epoch (t :: history) := by
    rw [epoch_cons ht]
    exact List.mem_cons_self
  unfold handleCommandReply at hafter ⊢
  split
  · exact hs'
  · rename_i hstate
    rw [if_neg hstate] at hafter
    rw [not_not] at hstate
    split
    · exact hs'
    · rename_i cmd hcmd
      rw [hcmd] at hafter
      dsimp only at hafter ⊢
      split
      · exact hs'
      · rename_i hnot
        rw [if_neg hnot] at hafter
        have hstopped : s.Calm { s with timers := { s.timers with command := none } } := .of_same rfl
        split
        · exact hs'.calm (hstopped.trans (calm_handleFailure _))
        · rename_i herror
          rw [if_neg herror] at hafter
          rw [Bool.not_eq_true] at herror
          split
          · exact hs'.calm (hstopped.trans (calm_handleFailure _))
          · rename_i hheader
            rw [if_neg hheader] at hafter
            rw [not_not] at hheader
            have hanswered : Answered L s.cmds s.cmdIndex cmd reply t := by
              refine ⟨by rw [haction, herror], ?_, echo_of_not_foreign hnot, hheader⟩
              rw [hbefore]
              exact hs.outstanding hstate hcmd
            obtain ⟨hlt, hsent, hprogress⟩ := hs'.configuring hstate
            split
            · rename_i hlisting
              refine ⟨fun _ => ⟨hlt, hsent, hprogress.of_same rfl⟩, ?_, ?_⟩
              · intro _ _ cmd' hcmd'
                rw [show cmd' = cmd from Option.some.inj (hcmd'.symm.trans hcmd)]
                exact ⟨t, hmem, reply, "", hanswered, hlisting, (String.append_empty).symm⟩
              · rintro (h | h) <;> exact nomatch hstate.symm.trans h
            · rename_i hlisting
              rw [if_neg hlisting] at hafter
              rw [Bool.not_eq_true] at hlisting
              split
              · exact hs'.calm (hstopped.trans (calm_handleFailure _))
              · rename_i hverified
                rw [hverified] at hafter
                have hadvanced : Advanced L s.cmds (epoch (t :: history)) s.cmdIndex cmd := by
                  refine .reply (hheader ▸ hlisting) hmem hanswered hverified ?_
                  rw [hafter]
                  exact cmdIndex_sendCurrentCommand _
                exact configuration_sendCurrentCommand hstate hsent
                  ((hprogress.next hcmd hadvanced).of_same rfl)

theorem configuration_onFormattedInformationBlock {contents : String}
    (hs : Configuration L s history) :
    Configuration L (s.onFormattedInformationBlock contents) history := by
  unfold onFormattedInformationBlock
  split
  · exact hs
  · rename_i hlisting
    rw [not_or, not_not, Bool.not_eq_false] at hlisting
    obtain ⟨hstate, hseen⟩ := hlisting
    refine ⟨?_, ?_, ?_⟩
    · intro _
      obtain ⟨hlt, hsent, hprogress⟩ := hs.configuring hstate
      exact ⟨hlt, hsent, hprogress.of_same rfl⟩
    · intro _ _ cmd hcmd
      obtain ⟨t, ht, reply, more, hanswered, hheader, htext⟩ := hs.heading hstate hseen cmd hcmd
      refine ⟨t, ht, reply, more ++ contents ++ "\n", hanswered, hheader, ?_⟩
      show s.lstText ++ contents ++ "\n" = _
      rw [htext]
      simp only [String.append_assoc]
    · rintro (h | h) <;> exact nomatch hstate.symm.trans h

theorem configuration_onPrompt (hs : Configuration L s history)
    (ht : opensEpoch ⟨s, .event .newPrompt, onPrompt L s⟩ = false) :
    Configuration L (onPrompt L s) (⟨s, .event .newPrompt, onPrompt L s⟩ :: history) := by
  generalize htaken : (⟨s, .event .newPrompt, onPrompt L s⟩ : Taken Session SessionAction) = t
    at ht ⊢
  have hs' := hs.cons ht
  have hbefore : t.before = s := htaken ▸ rfl
  have haction : t.action = .event .newPrompt := htaken ▸ rfl
  have hafter : t.after = onPrompt L s := htaken ▸ rfl
  unfold onPrompt at hafter ⊢
  split
  · rename_i hlisting
    rw [if_pos hlisting] at hafter
    obtain ⟨hstate, hseen⟩ := hlisting
    split
    · exact hs'
    · rename_i cmd hcmd
      rw [hcmd] at hafter
      dsimp only at hafter
      unfold completeListCommand at hafter ⊢
      dsimp only at hafter ⊢
      split
      · exact hs'.calm (Calm.trans (.of_same rfl) (calm_handleFailure _))
      · rename_i hverified
        rw [hverified] at hafter
        obtain ⟨hlt, hsent, hprogress⟩ := hs'.configuring hstate
        have hheaded := hs.heading hstate hseen cmd hcmd
        have hkind : CommandKind.isListing cmd.kind = true := by
          obtain ⟨t', -, reply, more, hanswered, hheader, -⟩ := hheaded
          exact hanswered.header ▸ hheader
        have hadvanced : Advanced L s.cmds (epoch (t :: history)) s.cmdIndex cmd := by
          have hepoch : epoch (t :: history) = [] ++ t :: epoch history := epoch_cons ht
          refine .listing hkind hepoch haction ?_ ?_ ?_ ?_ ?_
          · rw [hbefore]
            exact hs.outstanding hstate hcmd
          · rw [hbefore]
            exact hheaded
          · rw [hbefore]
            exact hprogress.listed
          · rw [hbefore]
            exact hverified
          · rw [hafter]
            exact cmdIndex_sendCurrentCommand _
        exact configuration_sendCurrentCommand hstate hsent
          ((hprogress.next hcmd hadvanced).of_same rfl)
  · exact hs'

/-! ## Runs -/

/-- A step that opens an epoch leaves nothing configured. -/
theorem offline_of_opensEpoch {cfg : SessionConfig} {a : SessionAction}
    (h : step cfg s a = some s') (hopens : opensEpoch ⟨s, a, s'⟩ = true) :
    online s'.state = false := by
  unfold opensEpoch at hopens
  obtain hstarts | hconnected := (Bool.or_eq_true _ _).mp hopens
  · rw [connecting_of_startsAttempt cfg h hstarts]
    rfl
  · dsimp only at hconnected
    split at hconnected
    · dsimp only [step] at h
      split_ifs at h
      rw [← Option.some.inj h]
      rfl
    · exact nomatch hconnected

/-- **Every step keeps what is verified.** -/
theorem Configuration.step {cfg : SessionConfig} {a : SessionAction}
    (hs : Configuration cfg.layer s history) (h : step cfg s a = some s') :
    Configuration cfg.layer s' (⟨s, a, s'⟩ :: history) := by
  cases hopens : opensEpoch ⟨s, a, s'⟩ with
  | true => exact configuration_of_offline (offline_of_opensEpoch h hopens)
  | false =>
    have hcons := hs.cons hopens
    cases a with
    | event e =>
      unfold Session.step at h
      dsimp only at h
      split_ifs at h
      obtain rfl := Option.some.inj h
      cases e with
      | start => exact hcons.calm (.of_same rfl)
      | shutdown => exact hcons.calm (calm_shutdown s false)
      | connected => exact hcons.calm (.inl rfl)
      | newConnectionDescriptor d => exact configuration_onConnectionDescriptor hs hopens rfl
      | newCommandReply reply error => exact configuration_handleCommandReply hs hopens
      | newFormattedInformationBlock contents =>
        exact configuration_onFormattedInformationBlock hcons
      | newPrompt => exact configuration_onPrompt hs hopens
      | newSBFBlock block => exact hcons.calm (calm_onSbfBlock s block)
      | sbfCRCError => exact hcons.calm (Calm.trans (.of_same rfl) (calm_onStreamDamage _))
      | discardedBytes n => exact hcons.calm (.of_same rfl)
      | communicationError message => exact hcons.calm (calm_onCommunicationError s message)
      | connectionClosed => exact hcons.calm (calm_handleFailure s)
      | timeout timer => exact hcons.calm (calm_onTimeout s timer)
      | writeFailed => exact hcons.calm (Calm.trans (.of_same rfl) (calm_onWriteFailed _))
    | resume => exact hcons.calm (calm_resume cfg h)
    | queueOwner r =>
      unfold Session.step at h
      dsimp only at h
      split at h
      · obtain ⟨writer, -, rfl⟩ := Option.map_eq_some_iff.mp h
        exact hcons.calm (.of_same rfl)
      · exact nomatch h
    | queueWriter r =>
      obtain ⟨writer, -, rfl⟩ := Option.map_eq_some_iff.mp h
      exact hcons.calm (.of_same rfl)
    | tick elapsed =>
      obtain rfl := Option.some.inj h
      exact hcons.calm (.of_same rfl)

theorem configuration_of_reachable {cfg : SessionConfig} {x : Session × SessionHistory}
    (h : (system cfg).recorded.Reachable x) : Configuration cfg.layer x.1 x.2 := by
  refine h.invariant (P := fun x => Configuration cfg.layer x.1 x.2) ?_ ?_
  · rintro ⟨s, history⟩ ⟨rfl, rfl⟩
    exact configuration_of_offline rfl
  · rintro ⟨s, history⟩ a ⟨s', history'⟩ hs hstep
    obtain ⟨hstep, hhistory⟩ := StepSystem.recorded_step hstep
    dsimp only at hhistory
    rw [hhistory]
    exact hs.step hstep

/-- A reply that echoes another command's name changes nothing. -/
theorem eq_of_foreign_reply {cfg : SessionConfig} {reply : String} {error : Bool}
    (h : Session.step cfg s (.event (.newCommandReply reply error)) = some s')
    (hcmd : s.cmds[s.cmdIndex]? = some cmd) (hname : echoedName cfg.layer reply ≠ "")
    (hother : cfg.layer.equalsCi (echoedName cfg.layer reply) (cfg.layer.commandNameOf cmd.text) =
      false) : s' = s := by
  unfold Session.step at h
  dsimp only at h
  split_ifs at h
  rw [← Option.some.inj h]
  have hforeign : (echoesCommand reply && foreign cfg.layer reply cmd) = true := by
    by_contra hnot
    obtain hempty | hsame := echo_of_not_foreign hnot
    · exact hname hempty
    · exact nomatch hother.symm.trans hsame
  dsimp only [handle]
  unfold handleCommandReply
  split
  · rfl
  · rw [hcmd]
    exact if_pos hforeign

/-- **The configuration is fully verified.**  A session that warms up or records has built its
list in the current connection epoch and sent it in order, and each command was answered without
an error, under its own name, while it was outstanding, and passed its check.  A reply under
another name changes nothing, and a prompt does so only behind the header of a listing. -/
theorem fully_verified (cfg : SessionConfig) (s : Session) (history : SessionHistory)
    (h : (system cfg.named).recorded.Reachable (s, history)) :
    (s.state = .warmingUp ∨ s.state = .recording →
      (∃ t ∈ epoch history, ∃ d, t.action = .event (.newConnectionDescriptor d) ∧
        cfg.layer.buildCommandList d = .ok s.cmds) ∧
      s.cmds.map Command.text <:+ s.sent ∧
      ∀ i cmd, s.cmds[i]? = some cmd →
        Advanced cfg.named.layer s.cmds (epoch history) i cmd) ∧
    (∀ reply error s' cmd,
      Session.step cfg.named s (.event (.newCommandReply reply error)) = some s' →
      s.cmds[s.cmdIndex]? = some cmd → echoedName cfg.named.layer reply ≠ "" →
      equalsCi (echoedName cfg.named.layer reply) (commandNameOf cmd.text) = false → s' = s) ∧
    ∀ s', Session.step cfg.named s (.event .newPrompt) = some s' → s' ≠ s →
      ∃ cmd, s.cmds[s.cmdIndex]? = some cmd ∧
        Headed cfg.named.layer s.cmds (epoch history) s.cmdIndex cmd s.lstText := by
  have hs := configuration_of_reachable h
  refine ⟨?_, ?_, ?_⟩
  · intro hstate
    obtain ⟨hsent, hbuilt, -, hadvanced⟩ := hs.configured hstate
    refine ⟨hbuilt, hsent, fun i cmd hcmd => ?_⟩
    exact hadvanced i cmd (List.getElem?_eq_some_iff.mp hcmd).1 hcmd
  · exact fun reply error s' cmd hstep => eq_of_foreign_reply hstep
  · intro s' hstep hchanged
    unfold Session.step at hstep
    dsimp only at hstep
    split_ifs at hstep
    obtain rfl := Option.some.inj hstep
    dsimp only [handle] at hchanged
    unfold onPrompt at hchanged
    split at hchanged
    · rename_i hlisting
      split at hchanged
      · exact absurd rfl hchanged
      · rename_i cmd hcmd
        exact ⟨cmd, hcmd, hs.heading hlisting.1 hlisting.2 cmd hcmd⟩
    · exact absurd rfl hchanged

/-- A receiver that takes one setting and lists its configuration. -/
theorem fully_verified_of_listing :
    ∃ cfg s history, (system (SessionConfig.named cfg)).recorded.Reachable (s, history) ∧
      s.state = .warmingUp ∧ s.cmds.length = 2 ∧
      ∀ i cmd, s.cmds[i]? = some cmd →
        Advanced cfg.named.layer s.cmds (epoch history) i cmd := by
  let done : StreamResult := ⟨true, 0⟩
  let opened : OpenResult := ⟨done, done, true, done, done, done⟩
  let r : WriteResult := ⟨⟨opened, opened, done, false, opened⟩, done, done⟩
  let actions : List SessionAction :=
    [.event .start, .resume, .queueOwner r, .resume, .event .connected,
      .event (.newConnectionDescriptor "IP10"),
      .event (.newCommandReply "$R: getPVTMode, Static" false),
      .event (.newCommandReply "$R: SETPVTMODE, Rover" false), .event .newPrompt,
      .event (.newCommandReply "$R; lstConfigFile, Current" false),
      .event (.newFormattedInformationBlock "setPVTMode, Rover"), .event .newPrompt]
  let layer : CommandLayer :=
    { buildCommandList := fun _ =>
        .ok [{ text := "setPVTMode, Rover" }, { text := "lstConfigFile, Current", kind := .listConfig }]
      driverCommandWhitelist := fun _ => []
      commandNameOf := commandNameOf
      equalsCi := equalsCi
      parseReceiverCapabilitiesReply := fun _ => .error "no capabilities"
      verifyFirstFields := fun _ _ _ => .error "no field"
      parseAntennaOverview := fun _ => []
      verifyAntennaTypes := fun _ => .ok ()
      parseConfigFileListing := fun _ => []
      verifyConfigListing := fun _ _ => .ok ()
      receiverStatus := fun _ => none }
  let cfg : SessionConfig := ⟨⟨1024, 0, 16, by decide⟩, 90, false, layer⟩
  have hrun : ((system cfg.named).recorded.exec (new cfg.named, []) actions).map
      (fun x => (x.1.state, x.1.cmds.length)) = some (.warmingUp, 2) := by decide +kernel
  obtain ⟨⟨s, history⟩, hexec, hs⟩ := Option.map_eq_some_iff.mp hrun
  obtain ⟨hwarm, hlength⟩ := Prod.mk.inj hs
  have hreach : (system cfg.named).recorded.Reachable (s, history) :=
    StepSystem.reachable_of_exec (s := (new cfg.named, [])) (.init ⟨rfl, rfl⟩) hexec
  obtain ⟨-, -, hadvanced⟩ := (fully_verified cfg s history hreach).1 (.inl hwarm)
  exact ⟨cfg, s, history, hreach, hwarm, hlength, hadvanced⟩

end Session
end Asterx
end AmigaDrivers
