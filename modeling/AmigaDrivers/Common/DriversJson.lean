import Mathlib.Data.List.Basic

/-!
# The run manifest

`common::DriversJson` keeps the manifest of a run and replaces it on disk, at its canonical
place and, when a controller asks for it, at a second one.  `WriteJsonAtomic` writes a
temporary file and renames it; how each step of it ends is not for the program to decide,
so a write takes the results of its steps as an argument.

The fields are those that decide a run: process identity, time stamps, sensor states and
statistics are left out.

* `writeJsonAtomic_fst`: a write leaves the old document or the new one.
* `write_snd`, `write_canonical`: what a write of the manifest returns and leaves behind.
* `finishedCleanly`: the verdict the GUI draws from the document on disk.
-/

namespace AmigaDrivers
namespace Common

/-- An entry of `driver_results`. -/
structure DriverResult where
  name : String
  failed : Bool
  deriving DecidableEq

/-- The manifest.  `ended` says that the field is there. -/
structure RunDoc where
  phase : String := "initializing"
  configurationRead : Bool := false
  revision : Nat := 0
  status : String := "running"
  recordingFailed : Option Bool := none
  ended : Bool := false
  driverResults : List DriverResult := []
  deriving DecidableEq

/-- How the steps of a `WriteJsonAtomic` end; a step is reached when all before it succeed. -/
structure JsonWrite where
  opened : Bool
  dumped : Bool
  written : Bool
  synced : Bool
  renamed : Bool
  dirOpened : Bool
  dirSynced : Bool
  deriving DecidableEq

namespace JsonWrite

/-- The new document has taken the place of the old one. -/
def publishes (w : JsonWrite) : Bool := w.opened && w.dumped && w.written && w.synced && w.renamed

/-- Nothing has failed. -/
def ok (w : JsonWrite) : Bool := w.publishes && w.dirOpened && w.dirSynced

/-- A write that succeeds. -/
def done : JsonWrite := ⟨true, true, true, true, true, true, true⟩

end JsonWrite

/-- `WriteJsonAtomic`: the document at the path afterwards, and whether it returned. -/
def writeJsonAtomic (old : Option RunDoc) (doc : RunDoc) (w : JsonWrite) : Option RunDoc × Bool :=
  if !w.opened then (old, false)
  else if !w.dumped then (old, false)
  else if !w.written then (old, false)
  else if !w.synced then (old, false)
  else if !w.renamed then (old, false)
  else if !w.dirOpened then (some doc, false)
  else if !w.dirSynced then (some doc, false)
  else (some doc, true)

/-- How a write of the manifest ends, at the canonical place and at the controller's. -/
structure ManifestWrite where
  canonical : JsonWrite
  control : JsonWrite
  deriving DecidableEq

/-- `DriversJson` and the files it writes. -/
structure DriversJson where
  doc : RunDoc := {}
  /-- there is a `control_path_` -/
  hasControl : Bool := false
  canonical : Option RunDoc := none
  control : Option RunDoc := none
  deriving DecidableEq

namespace DriversJson

/-- `Write_`. -/
def write (m : DriversJson) (w : ManifestWrite) : DriversJson × Bool :=
  match writeJsonAtomic m.canonical m.doc w.canonical with
  | (canonical, false) => ({ m with canonical }, false)
  | (canonical, true) =>
    if !m.hasControl then
      ({ m with canonical }, true)
    else
      match writeJsonAtomic m.control m.doc w.control with
      | (control, ok) => ({ m with canonical, control }, ok)

def writeRunning (m : DriversJson) (w : ManifestWrite) : DriversJson × Bool :=
  { m with doc := { m.doc with status := "running" } }.write w

def addDriverResult (m : DriversJson) (name : String) (failed : Bool) : DriversJson :=
  { m with doc := { m.doc with driverResults := m.doc.driverResults ++ [⟨name, failed⟩] } }

def updateLifecycle (m : DriversJson) (phase : String) (configurationRead : Bool)
    (w : ManifestWrite) : DriversJson × Bool :=
  { m with
    doc := { m.doc with phase, configurationRead, revision := m.doc.revision + 1 } }.write w

/-- `status.rfind("failed", 0) == 0`. -/
def isFailedStatus (status : String) : Bool := "failed".toList.isPrefixOf status.toList

def finalize (m : DriversJson) (status : String) (w : ManifestWrite) : DriversJson × Bool :=
  { m with
    doc :=
      { m.doc with
        phase := "finished"
        revision := m.doc.revision + 1
        status
        recordingFailed := some (isFailedStatus status)
        ended := true } }.write w

end DriversJson

/-- The return value of `session_info.finished_cleanly`, once `read_session` has accepted the
document. -/
def finishedCleanly (doc : RunDoc) : Bool :=
  doc.phase = "finished" && doc.recordingFailed = some false && doc.ended &&
    (doc.status = "completed" || "interrupted (signal ".toList.isPrefixOf doc.status.toList)

/-- The manifest at its canonical place says that the run has been completed. -/
def saysCompleted (doc : RunDoc) : Bool :=
  doc.status = "completed" && doc.recordingFailed = some false

/-! ## What a write does -/

/-- A write succeeds when all its steps do. -/
theorem writeJsonAtomic_snd (old : Option RunDoc) (doc : RunDoc) (w : JsonWrite) :
    (writeJsonAtomic old doc w).2 = w.ok := by
  obtain ⟨_ | _, _ | _, _ | _, _ | _, _ | _, _ | _, _ | _⟩ := w <;> rfl

/-- A write leaves the new document once its rename has succeeded, the old one otherwise. -/
theorem writeJsonAtomic_fst (old : Option RunDoc) (doc : RunDoc) (w : JsonWrite) :
    (writeJsonAtomic old doc w).1 = if w.publishes then some doc else old := by
  obtain ⟨_ | _, _ | _, _ | _, _ | _, _ | _, _ | _, _ | _⟩ := w <;> rfl

theorem JsonWrite.publishes_of_ok {w : JsonWrite} (h : w.ok = true) : w.publishes = true := by
  rw [ok, Bool.and_eq_true, Bool.and_eq_true] at h
  exact h.1.1

namespace DriversJson

/-- The write of the manifest succeeds. -/
def writeOk (m : DriversJson) (w : ManifestWrite) : Bool :=
  w.canonical.ok && (!m.hasControl || w.control.ok)

/-- The write of the manifest fails, but only once the new document is at its canonical place:
in the steps that make the rename durable, or at the controller's place. -/
def failsLate (m : DriversJson) (w : ManifestWrite) : Bool :=
  w.canonical.publishes &&
    !(w.canonical.dirOpened && w.canonical.dirSynced && (!m.hasControl || w.control.ok))

theorem failsLate_iff (m : DriversJson) (w : ManifestWrite) :
    m.failsLate w = true ↔ w.canonical.publishes = true ∧ m.writeOk w = false := by
  have hok : w.canonical.ok =
      (w.canonical.publishes && w.canonical.dirOpened && w.canonical.dirSynced) := rfl
  rw [failsLate, writeOk, hok]
  cases w.canonical.publishes <;> cases w.canonical.dirOpened <;> cases w.canonical.dirSynced <;>
    cases m.hasControl <;> cases w.control.ok <;> simp

theorem write_snd (m : DriversJson) (w : ManifestWrite) : (m.write w).2 = m.writeOk w := by
  have hcanonical := writeJsonAtomic_snd m.canonical m.doc w.canonical
  have hcontrol := writeJsonAtomic_snd m.control m.doc w.control
  unfold write writeOk
  rw [← hcanonical, ← hcontrol]
  rcases writeJsonAtomic m.canonical m.doc w.canonical with ⟨canonical, _ | _⟩
  · rfl
  · cases m.hasControl <;> rfl

theorem write_canonical (m : DriversJson) (w : ManifestWrite) :
    (m.write w).1.canonical = if w.canonical.publishes then some m.doc else m.canonical := by
  rw [← writeJsonAtomic_fst]
  unfold write
  rcases writeJsonAtomic m.canonical m.doc w.canonical with ⟨canonical, _ | _⟩
  · rfl
  · cases m.hasControl <;> rfl

/-- A write changes files only. -/
theorem write_frame (m : DriversJson) (w : ManifestWrite) :
    (m.write w).1.doc = m.doc ∧ (m.write w).1.hasControl = m.hasControl := by
  unfold write
  rcases writeJsonAtomic m.canonical m.doc w.canonical with ⟨canonical, _ | _⟩
  · exact ⟨rfl, rfl⟩
  · dsimp only
    split <;> exact ⟨rfl, rfl⟩

end DriversJson
end Common
end AmigaDrivers
