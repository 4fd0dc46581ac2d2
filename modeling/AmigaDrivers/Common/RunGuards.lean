import AmigaDrivers.Common.Double
import AmigaDrivers.Foundation.LatchedAlarm

/-!
# When a run is no longer worth continuing

`common::RunGuards`: the free space of the disk and the silence of every sensor are checked
against a warning and a stop threshold.  A guard warns once, and again only after a reading that
re-arms it.

The checks of a run come in any order, of any sensors; a run is the list of them.

* `checked`, `message_eq_nil_iff`: what a check does, and when it has something to say.
* `latched_after`: the latches are alarms over the history of checks.
* `guards_history`: **a stop is requested exactly beyond an enabled stop threshold, two warnings of
  one guard have a re-arming reading between them, and the guards do not see each other.**
-/

namespace AmigaDrivers

open ByteUtil

/-- `GuardConfig`. -/
structure GuardConfig where
  diskMinFreeGib : Double := 5
  diskWarnFreeGib : Double := 20
  noDataWarnS : Double := 5
  noDataAbortS : Double := 60

/-- `RunGuards`.  The map of the sensors' latches is a function, `none` where it has no entry. -/
structure RunGuards where
  cfg : GuardConfig
  diskWarnLatched : Bool := false
  sensorWarnLatched : Text → Option Bool := fun _ => none

namespace RunGuards

/-- `Verdict`. -/
inductive Verdict
  | ok
  | warn
  | stop
  deriving DecidableEq

/-- `Result`. -/
structure Result where
  verdict : Verdict := .ok
  message : Text := []
  deriving DecidableEq

/-- `CheckDisk`. -/
def checkDisk (g : RunGuards) (freeGib : Double) : RunGuards × Result :=
  if freeGib < 0 then (g, {})
  else if 0 < g.cfg.diskMinFreeGib ∧ freeGib < g.cfg.diskMinFreeGib then
    (g, ⟨.stop, ascii "Disk free " ++ freeGib.fixed 1 ++ ascii " GiB is below the hard floor of " ++
      g.cfg.diskMinFreeGib.fixed 1 ++ ascii " GiB"⟩)
  else if 0 < g.cfg.diskWarnFreeGib ∧ freeGib < g.cfg.diskWarnFreeGib then
    if g.diskWarnLatched then (g, {})
    else
      ({ g with diskWarnLatched := true },
        ⟨.warn, ascii "Disk free " ++ freeGib.fixed 1 ++
          ascii " GiB is below the warning floor of " ++ g.cfg.diskWarnFreeGib.fixed 1 ++
          ascii " GiB"⟩)
  else ({ g with diskWarnLatched := false }, {})

/-- The lookup of a latch, which makes it where it is missing. -/
def latch (g : RunGuards) (name : Text) : Bool := (g.sensorWarnLatched name).getD false

/-- The assignment to a latch. -/
def setLatch (g : RunGuards) (name : Text) (up : Bool) : RunGuards :=
  { g with sensorWarnLatched := Function.update g.sensorWarnLatched name (some up) }

/-- The silence in seconds. -/
def silentS (silentUs : UInt64) : Double := (Double.ofNat silentUs.toNat).divNat 1000000

/-- `CheckSensor`. -/
def checkSensor (g : RunGuards) (name : Text) : Option UInt64 → RunGuards × Result
  | none => (g.setLatch name false, {})
  | some silentUs =>
    let silentS := silentS silentUs
    if 0 < g.cfg.noDataAbortS ∧ g.cfg.noDataAbortS ≤ silentS then
      (g, ⟨.stop, ascii "silent for " ++ silentS.fixed 1 ++ ascii " s, watchdog abort threshold " ++
        g.cfg.noDataAbortS.fixed 1 ++ ascii " s"⟩)
    else if 0 < g.cfg.noDataWarnS ∧ g.cfg.noDataWarnS ≤ silentS then
      -- where the entry was missing it is made and then set, so the lookup alone leaves no trace
      if g.latch name then (g, {})
      else
        (g.setLatch name true,
          ⟨.warn, ascii "has delivered no data for " ++ silentS.fixed 1 ++ ascii " s"⟩)
    else (g.setLatch name false, {})

/-! ## The checks of a run -/

/-- A check with its reading. -/
inductive Check
  | disk (freeGib : Double)
  | sensor (name : Text) (silentUs : Option UInt64)
  deriving DecidableEq

/-- The disk, or one sensor. -/
inductive Guard
  | disk
  | sensor (name : Text)
  deriving DecidableEq

/-- The guard a check belongs to. -/
def Check.guard : Check → Guard
  | .disk _ => .disk
  | .sensor name _ => .sensor name

/-- One check. -/
def check (g : RunGuards) : Check → RunGuards × Result
  | .disk freeGib => g.checkDisk freeGib
  | .sensor name silentUs => g.checkSensor name silentUs

/-- The guards after the checks of a run. -/
def after (cfg : GuardConfig) (history : List Check) : RunGuards :=
  history.foldl (fun g c => (g.check c).1) { cfg }

/-- What a check at that point of the run gives. -/
def outcome (cfg : GuardConfig) (history : List Check) (c : Check) : Result :=
  ((after cfg history).check c).2

/-! ## What the readings mean -/

/-- The reading could be taken.  A sensor's silence always can, where it is not expected. -/
def Check.Readable : Check → Prop
  | .disk freeGib => ¬ freeGib < 0
  | .sensor _ _ => True

/-- The reading is beyond the stop threshold, which is enabled. -/
def Check.BeyondStop (cfg : GuardConfig) : Check → Prop
  | .disk freeGib => 0 < cfg.diskMinFreeGib ∧ freeGib < cfg.diskMinFreeGib
  | .sensor _ none => False
  | .sensor _ (some silentUs) => 0 < cfg.noDataAbortS ∧ cfg.noDataAbortS ≤ silentS silentUs

/-- The reading is beyond the warning threshold, which is enabled. -/
def Check.BeyondWarn (cfg : GuardConfig) : Check → Prop
  | .disk freeGib => 0 < cfg.diskWarnFreeGib ∧ freeGib < cfg.diskWarnFreeGib
  | .sensor _ none => False
  | .sensor _ (some silentUs) => 0 < cfg.noDataWarnS ∧ cfg.noDataWarnS ≤ silentS silentUs

/-- The reading re-arms its guard: it is in range, or the sensor's silence is expected. -/
def Check.Rearms (cfg : GuardConfig) (c : Check) : Prop :=
  c.Readable ∧ ¬ c.BeyondStop cfg ∧ ¬ c.BeyondWarn cfg

instance (c : Check) : Decidable c.Readable := by
  cases c <;> unfold Check.Readable <;> infer_instance

instance (cfg : GuardConfig) (c : Check) : Decidable (c.BeyondStop cfg) := by
  obtain _ | ⟨_, _ | _⟩ := c <;> unfold Check.BeyondStop <;> infer_instance

instance (cfg : GuardConfig) (c : Check) : Decidable (c.BeyondWarn cfg) := by
  obtain _ | ⟨_, _ | _⟩ := c <;> unfold Check.BeyondWarn <;> infer_instance

open LatchedAlarm (Level)

/-- The level of a reading. -/
def Check.level (cfg : GuardConfig) (c : Check) : Level :=
  if ¬ c.Readable then .unknown
  else if c.BeyondStop cfg then .critical
  else if c.BeyondWarn cfg then .low
  else .calm

/-- The checks as readings of alarms. -/
def scale (cfg : GuardConfig) : LatchedAlarm.Scale Check Guard := ⟨Check.guard, Check.level cfg⟩

theorem rearms_of_calm {cfg : GuardConfig} {c : Check} (h : c.level cfg = .calm) :
    c.Rearms cfg := by
  unfold Check.level at h
  split_ifs at h with hreadable hstop hwarn
  exact ⟨hreadable, hstop, hwarn⟩

theorem level_of_beyondStop {cfg : GuardConfig} {c : Check} (hreadable : c.Readable)
    (hstop : c.BeyondStop cfg) : c.level cfg = .critical := by
  unfold Check.level
  rw [if_neg (not_not.mpr hreadable), if_pos hstop]

theorem level_of_beyondWarn {cfg : GuardConfig} {c : Check} (hreadable : c.Readable)
    (hstop : ¬ c.BeyondStop cfg) (hwarn : c.BeyondWarn cfg) : c.level cfg = .low := by
  unfold Check.level
  rw [if_neg (not_not.mpr hreadable), if_neg hstop, if_pos hwarn]

theorem level_of_rearms {cfg : GuardConfig} {c : Check} (h : c.Rearms cfg) :
    c.level cfg = .calm := by
  unfold Check.level
  rw [if_neg (not_not.mpr h.1), if_neg h.2.1, if_neg h.2.2]

theorem level_eq_critical_iff {cfg : GuardConfig} {c : Check} :
    c.level cfg = .critical ↔ c.Readable ∧ c.BeyondStop cfg := by
  unfold Check.level
  split_ifs with hreadable hstop hwarn <;> simp_all

/-! ## One check -/

/-- The latch of a guard. -/
def latched (g : RunGuards) : Guard → Bool
  | .disk => g.diskWarnLatched
  | .sensor name => g.latch name

/-- The verdict on a reading, its guard's latch being as given. -/
def verdictAt (up : Bool) : Level → Verdict
  | .calm | .unknown => .ok
  | .low => if up then .ok else .warn
  | .critical => .stop

@[simp] theorem setLatch_cfg (g : RunGuards) (name : Text) (up : Bool) :
    (g.setLatch name up).cfg = g.cfg := rfl

@[simp] theorem setLatch_diskWarnLatched (g : RunGuards) (name : Text) (up : Bool) :
    (g.setLatch name up).diskWarnLatched = g.diskWarnLatched := rfl

theorem latch_setLatch (g : RunGuards) (name other : Text) (up : Bool) :
    (g.setLatch name up).latch other = if name = other then up else g.latch other := by
  unfold latch setLatch
  dsimp only
  by_cases h : name = other
  · rw [if_pos h, h, Function.update_self, Option.getD_some]
  · rw [if_neg h, Function.update_of_ne (Ne.symm h)]

/-- A reading that moves no latch. -/
theorem after_of_keeps {cfg : GuardConfig} {c : Check} (k : Guard) (up : Bool)
    (h : c.level cfg = .unknown ∨ c.level cfg = .critical) :
    LatchedAlarm.after (scale cfg) k up c = up := by
  unfold LatchedAlarm.after
  obtain h | h := h <;> simp [scale, h]

/-- A reading that sets its guard's latch. -/
theorem after_of_sets {cfg : GuardConfig} {c : Check} (k : Guard) (up value : Bool)
    (h : c.level cfg = if value then .low else .calm) :
    LatchedAlarm.after (scale cfg) k up c = if c.guard = k then value else up := by
  unfold LatchedAlarm.after
  cases value <;> simp [scale, h]

/-- What a check does to the latches, and its verdict. -/
structure Checked (g : RunGuards) (c : Check) (r : RunGuards × Result) : Prop where
  cfg : r.1.cfg = g.cfg
  latched : ∀ k, latched r.1 k = LatchedAlarm.after (scale g.cfg) k (latched g k) c
  verdict : r.2.verdict = verdictAt (g.latched c.guard) (c.level g.cfg)

theorem checked_disk (g : RunGuards) (freeGib : Double) :
    Checked g (.disk freeGib) (g.checkDisk freeGib) := by
  unfold checkDisk
  split_ifs with hunreadable hstop hwarn hup
  · have hlevel : Check.level g.cfg (.disk freeGib) = .unknown := if_pos (not_not.mpr hunreadable)
    exact ⟨rfl, fun k => (after_of_keeps k _ (.inl hlevel)).symm, by rw [hlevel]; rfl⟩
  · have hlevel : Check.level g.cfg (.disk freeGib) = .critical :=
      level_of_beyondStop hunreadable hstop
    exact ⟨rfl, fun k => (after_of_keeps k _ (.inr hlevel)).symm, by rw [hlevel]; rfl⟩
  · have hlevel : Check.level g.cfg (.disk freeGib) = .low :=
      level_of_beyondWarn hunreadable hstop hwarn
    refine ⟨rfl, fun k => ?_, ?_⟩
    · rw [after_of_sets k _ true hlevel]
      cases k with
      | disk => exact hup
      | sensor name => rfl
    · rw [hlevel, show g.latched (Check.disk freeGib).guard = true from hup]
      rfl
  · have hlevel : Check.level g.cfg (.disk freeGib) = .low :=
      level_of_beyondWarn hunreadable hstop hwarn
    refine ⟨rfl, fun k => ?_, ?_⟩
    · rw [after_of_sets k _ true hlevel]
      cases k <;> rfl
    · rw [hlevel, show g.latched (Check.disk freeGib).guard = false from eq_false_of_ne_true hup]
      rfl
  · have hlevel : Check.level g.cfg (.disk freeGib) = .calm :=
      level_of_rearms ⟨hunreadable, hstop, hwarn⟩
    refine ⟨rfl, fun k => ?_, by rw [hlevel]; rfl⟩
    rw [after_of_sets k _ false hlevel]
    cases k <;> rfl

/-- Setting a sensor's latch, as the alarms have it. -/
theorem latched_setLatch {g : RunGuards} {name : Text} {silentUs : Option UInt64} {value : Bool}
    (h : Check.level g.cfg (.sensor name silentUs) = if value then .low else .calm) (k : Guard) :
    (g.setLatch name value).latched k =
      LatchedAlarm.after (scale g.cfg) k (g.latched k) (.sensor name silentUs) := by
  rw [after_of_sets k _ value h]
  cases k with
  | disk => rfl
  | sensor other =>
    simp only [latched, latch_setLatch, Check.guard, Guard.sensor.injEq]

theorem checked_sensor (g : RunGuards) (name : Text) (silentUs : Option UInt64) :
    Checked g (.sensor name silentUs) (g.checkSensor name silentUs) := by
  cases silentUs with
  | none =>
    have hlevel : Check.level g.cfg (.sensor name none) = .calm := rfl
    exact ⟨rfl, latched_setLatch hlevel, rfl⟩
  | some silentUs =>
    unfold checkSensor
    dsimp only
    split_ifs with hstop hwarn hup
    · have hlevel : Check.level g.cfg (.sensor name (some silentUs)) = .critical :=
        level_of_beyondStop trivial hstop
      exact ⟨rfl, fun k => (after_of_keeps k _ (.inr hlevel)).symm, by rw [hlevel]; rfl⟩
    · have hlevel : Check.level g.cfg (.sensor name (some silentUs)) = .low :=
        level_of_beyondWarn trivial hstop hwarn
      have hlatched : g.latched (Check.sensor name (some silentUs)).guard = true := hup
      refine ⟨rfl, fun k => ?_, by rw [hlevel, hlatched]; rfl⟩
      rw [after_of_sets k _ true hlevel]
      split_ifs with hguard
      · rw [← hguard]
        exact hlatched
      · rfl
    · have hlevel : Check.level g.cfg (.sensor name (some silentUs)) = .low :=
        level_of_beyondWarn trivial hstop hwarn
      have hlatched : g.latched (Check.sensor name (some silentUs)).guard = false :=
        eq_false_of_ne_true hup
      exact ⟨rfl, latched_setLatch hlevel, by rw [hlevel, hlatched]; rfl⟩
    · have hlevel : Check.level g.cfg (.sensor name (some silentUs)) = .calm :=
        level_of_rearms ⟨trivial, hstop, hwarn⟩
      exact ⟨rfl, latched_setLatch hlevel, by rw [hlevel]; rfl⟩

theorem checked (g : RunGuards) (c : Check) : Checked g c (g.check c) := by
  cases c with
  | disk freeGib => exact checked_disk g freeGib
  | sensor name silentUs => exact checked_sensor g name silentUs

/-- A check reads its thresholds and its guard's latch. -/
theorem check_congr {g g' : RunGuards} {c : Check} (hcfg : g.cfg = g'.cfg)
    (hlatched : g.latched c.guard = g'.latched c.guard) : (g.check c).2 = (g'.check c).2 := by
  cases c with
  | disk freeGib =>
    have hup : g.diskWarnLatched = g'.diskWarnLatched := hlatched
    unfold check checkDisk
    dsimp only
    rw [hcfg, hup]
    split_ifs <;> rfl
  | sensor name silentUs =>
    have hup : g.latch name = g'.latch name := hlatched
    cases silentUs with
    | none => rfl
    | some silentUs =>
      unfold check checkSensor
      dsimp only
      rw [hcfg, hup]
      split_ifs <;> rfl

theorem ascii_append_ne_nil {start : String} (h : ascii start ≠ []) (rest : Text) :
    ascii start ++ rest ≠ [] := List.append_ne_nil_of_left_ne_nil h rest

/-- A result has a message where there is something to say. -/
theorem message_eq_nil_iff (g : RunGuards) (c : Check) :
    (g.check c).2.message = [] ↔ (g.check c).2.verdict = .ok := by
  cases c with
  | disk freeGib =>
    unfold check checkDisk
    dsimp only
    split_ifs
    · exact iff_of_true rfl rfl
    · simp only [List.append_assoc]
      exact iff_of_false (ascii_append_ne_nil (by decide) _) (by decide)
    · exact iff_of_true rfl rfl
    · simp only [List.append_assoc]
      exact iff_of_false (ascii_append_ne_nil (by decide) _) (by decide)
    · exact iff_of_true rfl rfl
  | sensor name silentUs =>
    cases silentUs with
    | none => exact iff_of_true rfl rfl
    | some silentUs =>
      unfold check checkSensor
      dsimp only
      split_ifs
      · simp only [List.append_assoc]
        exact iff_of_false (ascii_append_ne_nil (by decide) _) (by decide)
      · exact iff_of_true rfl rfl
      · simp only [List.append_assoc]
        exact iff_of_false (ascii_append_ne_nil (by decide) _) (by decide)
      · exact iff_of_true rfl rfl

/-! ## A run -/

/-- The latches are alarms over the history of checks. -/
theorem latched_after (cfg : GuardConfig) (history : List Check) :
    (after cfg history).cfg = cfg ∧
      ∀ k, (after cfg history).latched k = LatchedAlarm.raised (scale cfg) k history := by
  induction history using List.reverseRecOn with
  | nil =>
    refine ⟨rfl, fun k => ?_⟩
    cases k <;> rfl
  | append_singleton history c ih =>
    obtain ⟨hcfg, hlatched⟩ := ih
    have hstep : after cfg (history ++ [c]) = ((after cfg history).check c).1 := by
      unfold after
      rw [List.foldl_append]
      rfl
    have hcheck := checked (after cfg history) c
    rw [hstep]
    refine ⟨hcheck.cfg.trans hcfg, fun k => ?_⟩
    rw [hcheck.latched, hcfg, hlatched, LatchedAlarm.raised_concat]

theorem verdict_outcome (cfg : GuardConfig) (history : List Check) (c : Check) :
    (outcome cfg history c).verdict =
      verdictAt (LatchedAlarm.raised (scale cfg) c.guard history) (c.level cfg) := by
  obtain ⟨hcfg, hlatched⟩ := latched_after cfg history
  unfold outcome
  rw [(checked _ c).verdict, hlatched, hcfg]

/-- A check stops the run when its reading is beyond the stop threshold. -/
theorem stop_iff (cfg : GuardConfig) (history : List Check) (c : Check) :
    (outcome cfg history c).verdict = .stop ↔ c.Readable ∧ c.BeyondStop cfg := by
  rw [verdict_outcome, ← level_eq_critical_iff]
  cases c.level cfg <;> cases LatchedAlarm.raised (scale cfg) c.guard history <;>
    simp [verdictAt]

/-- A check warns when its reading is low and its guard's alarm is down. -/
theorem warn_iff (cfg : GuardConfig) (history : List Check) (c : Check) :
    (outcome cfg history c).verdict = .warn ↔ LatchedAlarm.Alarms (scale cfg) history c := by
  rw [verdict_outcome]
  show _ ↔ c.level cfg = .low ∧ LatchedAlarm.raised (scale cfg) c.guard history = false
  cases c.level cfg <;> cases LatchedAlarm.raised (scale cfg) c.guard history <;>
    simp [verdictAt]

/-- The other guards' checks do not change an outcome. -/
theorem outcome_filter (cfg : GuardConfig) (history : List Check) (c : Check) :
    outcome cfg (history.filter fun d => d.guard = c.guard) c = outcome cfg history c := by
  obtain ⟨hcfg, hlatched⟩ := latched_after cfg history
  obtain ⟨hcfg', hlatched'⟩ := latched_after cfg (history.filter fun d => d.guard = c.guard)
  refine check_congr (hcfg'.trans hcfg.symm) ?_
  rw [hlatched, hlatched']
  exact LatchedAlarm.raised_filter (scale cfg) c.guard history

/-- **A run is stopped exactly by a reading beyond an enabled stop threshold, a guard that warns
twice has been re-armed in between, and the guards do not see each other.** -/
theorem guards_history (cfg : GuardConfig) (history : List Check) (c : Check) :
    ((outcome cfg history c).verdict = .stop ↔ c.Readable ∧ c.BeyondStop cfg) ∧
    (∀ before first between, history = before ++ first :: between → first.guard = c.guard →
      (outcome cfg before first).verdict = .warn → (outcome cfg history c).verdict = .warn →
      ∃ r ∈ between, r.guard = c.guard ∧ r.Rearms cfg) ∧
    outcome cfg (history.filter fun d => d.guard = c.guard) c = outcome cfg history c := by
  refine ⟨stop_iff cfg history c, ?_, outcome_filter cfg history c⟩
  rintro before first between rfl hguard hfirst hwarn
  rw [warn_iff] at hfirst hwarn
  obtain ⟨calm, hmem, hsource, hcalm⟩ :=
    LatchedAlarm.alarms_apart (scale cfg) hfirst hguard.symm hwarn
  exact ⟨calm, hmem, hsource.trans hguard, rearms_of_calm hcalm⟩

end RunGuards
end AmigaDrivers
