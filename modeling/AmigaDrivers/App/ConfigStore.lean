import AmigaDrivers.Foundation.SharedFiles
import Mathlib.Algebra.Ring.Int.Defs
import Mathlib.Algebra.Ring.Nat
import Mathlib.Data.List.DropRight

/-!
# Saving a pair of configurations

`_save_acquisition_pair`, with what it calls.  The files are shared with editors and whatever else
runs on the machine; the local variables that the handler of an exception looks at are part of the
state.

* `ConfigStore.checkApplySource`, `ConfigStore.stageApply`: the helpers.
* `ConfigStore.gather`, `ConfigStore.checkBackups`: what is settled before a file is made.
* `ConfigStore.publish`, `ConfigStore.undo`: the `try` block, and the handler.
* `ConfigStore.saveAcquisitionPair`: all of it.
-/

namespace AmigaDrivers
namespace App
namespace ConfigStore

open Effect SharedFiles

/-! ## Paths and texts -/

/-- `PurePath.suffix`. -/
def suffix (name : List Char) : List Char :=
  let i := name.length - (name.rtakeWhile (· != '.')).length - 1
  if 0 < i ∧ i < name.length - 1 then name.drop i else []

/-- `PurePath.with_suffix`. -/
def withSuffix (path : Path) (new : List Char) : Path :=
  { path with name := path.name.take (path.name.length - (suffix path.name).length) ++ new }

/-- `path.with_suffix(path.suffix + ".bak")`. -/
def backupOf (path : Path) : Path := withSuffix path (suffix path.name ++ ".bak".toList)

/-- What reading a text makes of the ends of its lines. -/
def universalNewlines : List Char → List Char
  | [] => []
  | '\r' :: '\n' :: text => '\n' :: universalNewlines text
  | '\r' :: text => '\n' :: universalNewlines text
  | c :: text => c :: universalNewlines text

/-- `signature`. -/
def signature (file : File) : Nat × Nat × Nat :=
  (file.inode, (file.content.map Char.utf8Size).sum, file.mtime)

/-! ## Data -/

/-- `ConfigFile`. -/
structure ConfigFile where
  id : String
  path : Path
  deriving DecidableEq

/-- `LoadedConfig`. -/
structure LoadedConfig where
  file : ConfigFile
  text : List Char
  mtime : Nat
  deriving DecidableEq

/-- The path of a loaded configuration. -/
abbrev LoadedConfig.path (loaded : LoadedConfig) : Path := loaded.file.path

/-- A configuration, and the text that is to take its place. -/
abbrev Edit : Type := LoadedConfig × List Char

/-- The exceptions.  The last two are `ApplyError`s as well. -/
inductive ConfigError
  | fault (fault : Fault)
  | conflict (message : String)
  | pathChanged (message : String)
  | apply (message : String)
  | notRestored (error : ConfigError) (unrestored : List String)
  | restored (error : ConfigError)
  deriving DecidableEq

instance : OfFault ConfigError := ⟨.fault⟩

/-- The text of an exception. -/
def ConfigError.message : ConfigError → String
  | .fault (.notFound path) => "[Errno 2] No such file or directory: '" ++ path.str ++ "'"
  | .fault (.os text) | .fault (.other text) => text
  | .conflict message | .pathChanged message | .apply message => message
  | .notRestored error unrestored =>
    "Could not save both configs (" ++ error.message ++ "); could not restore "
      ++ "; ".intercalate unrestored ++ ". Original contents remain in .bak files."
  | .restored error =>
    "Could not save both configs; earlier writes were restored: " ++ error.message

/-- The files that an exception says were not restored. -/
def ConfigError.unrestored : ConfigError → List String
  | .notRestored _ unrestored => unrestored
  | _ => []

/-- `temporary` and `committed`. -/
structure Locals where
  temporary : List Path := []
  committed : List (LoadedConfig × LoadedConfig) := []

/-- A function of the module. -/
abbrev Io : Type → Type := Program Locals ConfigError

/-! ## Helpers -/

/-- `_require_writable`: the controller's state decides whether it raises. -/
def requireWritable : Io Unit := do
  let _ ← call
  pure ()

/-- `_apply_file`: the main configuration and the links on the way decide where it leads. -/
def applyFile (file : ConfigFile) : Io ConfigFile := do
  let t ← call
  pure { file with path := t.resolved }

/-- `_read_file`: the file is open while it is read, so only another one at its path, or a change
in place, can differ in its signature. -/
def readFile (cf : ConfigFile) : Io LoadedConfig := do
  let before ← read cf.path
  let after ← stat cf.path
  if signature before ≠ signature after then
    throw (.conflict (cf.path.str ++ " changed while it was being read; reload it"))
  else
    pure ⟨cf, universalNewlines before.content, before.mtime⟩

/-- `_read_file` in `_check_apply_source`, where a file that is not there is a conflict. -/
def readLatest (current : ConfigFile) : Io LoadedConfig :=
  tryCatch (readFile current) fun error =>
    match error with
    | .fault (.notFound _) => throw (.conflict (current.path.str ++ " was removed from disk"))
    | error => throw error

/-- `_check_apply_source`. -/
def checkApplySource (loaded : LoadedConfig) : Io Unit := do
  let current ← applyFile loaded.file
  if current.path ≠ loaded.path then
    throw (.pathChanged ("Config path changed to " ++ current.path.str ++ "; retry Apply"))
  else do
    let latest ← readLatest current
    if latest.mtime ≠ loaded.mtime ∨ latest.text ≠ loaded.text then
      throw (.conflict (current.path.str ++ " was modified on disk; retry Apply"))
    else
      pure ()

/-- `_stage_apply`. -/
def stageApply (loaded : LoadedConfig) (text : Option (List Char)) : Io Path := do
  let staged ← mkstemp ('.' :: loaded.path.name ++ ['.']) ".tmp".toList loaded.path.parent
  let _ ← call
  tryCatch
    (do
      copy2 loaded.path staged
      match text with
      | some text => writeText staged text
      | none => pure ()
      pure staged)
    fun error => do
      unlink staged
      throw error

/-! ## Before a file is made -/

/-- `unique.get`. -/
def previous (unique : List Edit) (path : Path) : Option Edit :=
  unique.find? fun edit => edit.1.path = path

/-- The loop that fills `unique`: one edit for each path, in the order of the first ones. -/
def gather : List Edit → List Edit → Io (List Edit)
  | unique, [] => pure unique
  | unique, (loaded, text) :: edits => do
    checkApplySource loaded
    match previous unique loaded.path with
    | none => gather (unique ++ [(loaded, text)]) edits
    | some edit =>
      if edit.2 ≠ text then
        throw (.apply ("Recording and snapshot edits disagree for " ++ loaded.path.str))
      else
        gather unique edits

/-- The loop that fills `backups`: no backup is in a directory that is a link, and none is a
configuration that is edited, or a link to one. -/
def checkBackups (unique : List Edit) : List Edit → Io Unit
  | [] => pure ()
  | (loaded, _) :: edits => do
    let checked ← call
    if checked.directory ≠ (backupOf loaded.path).parent then
      throw (.pathChanged ("Backup directory changed for " ++ loaded.path.str ++ "; retry Apply"))
    else if (previous unique (backupOf loaded.path)).isSome then
      throw (.apply ("Backup path " ++ (backupOf loaded.path).str
        ++ " overlaps an active configuration"))
    else do
      let backup ← call
      if (previous unique backup.resolved).isSome then
        throw (.apply ("Backup path " ++ (backupOf loaded.path).str
          ++ " overlaps an active configuration"))
      else
        checkBackups unique edits

/-! ## The `try` block -/

/-- An edit, and the file that its text has been written to. -/
abbrev Staged : Type := LoadedConfig × List Char × Path

/-- `temporary.append`. -/
def addTemporary (path : Path) : Io Unit :=
  modify fun s => { s with locals := { s.locals with temporary := s.locals.temporary ++ [path] } }

/-- `committed.append`. -/
def addCommitted (original written : LoadedConfig) : Io Unit :=
  modify fun s => { s with
    locals := { s.locals with committed := s.locals.committed ++ [(original, written)] } }

/-- The loop that fills `staged`. -/
def stageAll : List Edit → Io (List Staged)
  | [] => pure []
  | (loaded, text) :: edits => do
    let path ← stageApply loaded (some text)
    addTemporary path
    let staged ← stageAll edits
    pure ((loaded, text, path) :: staged)

/-- The loop of checks. -/
def checkAll : List Edit → Io Unit
  | [] => pure ()
  | (loaded, _) :: edits => do
    checkApplySource loaded
    checkAll edits

/-- A backup is a copy that takes the place of what is at its path. -/
def backUp (loaded : LoadedConfig) : Io Unit := do
  let backup ← stageApply loaded none
  addTemporary backup
  replace backup (backupOf loaded.path)

/-- The loop of backups. -/
def backUpAll : List Staged → Io Unit
  | [] => pure ()
  | (loaded, _, _) :: staged => do
    backUp loaded
    backUpAll staged

/-- A staged text takes the place of the original. -/
def commit (loaded : LoadedConfig) (text : List Char) (path : Path) : Io Unit := do
  requireWritable
  checkApplySource loaded
  let file ← stat path
  replace path loaded.path
  addCommitted loaded ⟨loaded.file, text, file.mtime⟩

/-- The loop of replacements. -/
def commitAll : List Staged → Io Unit
  | [] => pure ()
  | (loaded, text, path) :: staged => do
    commit loaded text path
    commitAll staged

/-- The `try` block. -/
def publish (edits unique : List Edit) : Io Unit := do
  let staged ← stageAll unique
  checkAll edits
  backUpAll staged
  commitAll staged

/-! ## The handler -/

/-- An original takes the place of what was written over it. -/
def restore (original written : LoadedConfig) : Io Unit := do
  checkApplySource written
  let restored ← stageApply original (some original.text)
  addTemporary restored
  checkApplySource written
  replace restored original.path

/-- The loop of the handler, and what it could not restore. -/
def restoreAll : List (LoadedConfig × LoadedConfig) → Io (List String)
  | [] => pure []
  | (original, written) :: committed => do
    let failed ← tryCatch
      (do
        restore original written
        pure [])
      fun error => pure [original.path.str ++ ": " ++ error.message]
    let unrestored ← restoreAll committed
    pure (failed ++ unrestored)

/-- The handler. -/
def undo (error : ConfigError) : Io Unit := do
  let s ← get
  let unrestored ← restoreAll s.locals.committed.reverse
  if unrestored ≠ [] then
    throw (.notRestored error unrestored)
  else if s.locals.committed ≠ [] then
    throw (.restored error)
  else
    throw error

/-- The loop of the `finally` block. -/
def unlinkAll : List Path → Io Unit
  | [] => pure ()
  | path :: temporary => do
    unlink path
    unlinkAll temporary

/-- The `finally` block. -/
def cleanUp : Io Unit := do
  let s ← get
  unlinkAll s.locals.temporary

/-- `_save_acquisition_pair`. -/
def saveAcquisitionPair (edits : List Edit) : Io Unit := do
  requireWritable
  let unique ← gather [] edits
  checkBackups unique unique
  tryCatch
    (do
      tryCatch (publish edits unique) undo
      cleanUp)
    fun error => do
      cleanUp
      throw error

/-- Where a call begins. -/
def start (files : Files) (turns : Nat → Turn) : Shared Locals := { files, turns, locals := {} }

end ConfigStore
end App
end AmigaDrivers
