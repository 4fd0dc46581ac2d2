import Mathlib.Data.List.Basic

/-!
# A file that is replaced

A program replaces a file by writing another one and renaming it.  What other processes see is the
live file.  After a loss of power a file that has not been synced may hold anything, and until the
directory has been synced the old file may be back.

* `Disk`: the two files, and the old ones that may be back.
* `Disk.live`, `Disk.Found`: what the name stands for, now and after a loss of power.
-/

namespace ReplacedFile

/-- A file, and whether all of it has reached the disk. -/
structure File where
  data : List UInt8
  synced : Bool
  deriving DecidableEq, Repr

/-- The file with the name, the one that is being written, and the ones that a loss of power may
give the name back to. -/
structure Disk where
  target : Option File := none
  temporary : Option File := none
  older : List (Option File) := []
  deriving DecidableEq, Repr

/-- What may be found in place of a file after a loss of power. -/
def FoundAs : Option File → Option (List UInt8) → Prop
  | none, content => content = none
  | some file, content => ∃ data, content = some data ∧ (file.synced = true → data = file.data)

namespace Disk

/-- What stands under the name. -/
def live (d : Disk) : Option (List UInt8) := d.target.map File.data

/-- What may stand under the name after a loss of power. -/
def Found (d : Disk) (content : Option (List UInt8)) : Prop :=
  ∃ file ∈ d.target :: d.older, FoundAs file content

/-- Start the other file anew. -/
def truncate (d : Disk) : Disk := { d with temporary := some ⟨[], false⟩ }

/-- Write at the end of the other file. -/
def append (bytes : List UInt8) (d : Disk) : Disk :=
  { d with temporary := d.temporary.map fun file => ⟨file.data ++ bytes, false⟩ }

/-- Wait until the other file has reached the disk. -/
def syncData (d : Disk) : Disk :=
  { d with temporary := d.temporary.map fun file => { file with synced := true } }

/-- Give the other file the name. -/
def rename (d : Disk) : Disk :=
  match d.temporary with
  | none => d
  | some file => { target := some file, temporary := none, older := d.target :: d.older }

/-- Wait until the directory has reached the disk. -/
def syncDir (d : Disk) : Disk := { d with older := [] }

/-! ## What the steps do to the name -/

section Steps

variable {d : Disk}

@[simp] theorem live_truncate : d.truncate.live = d.live := rfl

@[simp] theorem live_append (bytes : List UInt8) : (d.append bytes).live = d.live := rfl

@[simp] theorem live_syncData : d.syncData.live = d.live := rfl

@[simp] theorem live_syncDir : d.syncDir.live = d.live := rfl

@[simp] theorem found_truncate : d.truncate.Found = d.Found := rfl

@[simp] theorem found_append (bytes : List UInt8) : (d.append bytes).Found = d.Found := rfl

@[simp] theorem found_syncData : d.syncData.Found = d.Found := rfl

/-- A renamed file is seen as it is. -/
theorem live_rename {file : File} (h : d.temporary = some file) : d.rename.live = some file.data := by
  unfold rename
  rw [h]
  rfl

/-- After the rename there may be what could have been there before, or a synced file as it is. -/
theorem found_rename {data : List UInt8} (h : d.temporary = some ⟨data, true⟩)
    {content : Option (List UInt8)} :
    d.rename.Found content ↔ d.Found content ∨ content = some data := by
  have hnew : FoundAs (some ⟨data, true⟩) content ↔ content = some data := by
    constructor
    · rintro ⟨found, rfl, hsynced⟩
      rw [hsynced rfl]
    · rintro rfl
      exact ⟨data, rfl, fun _ => rfl⟩
  unfold rename
  rw [h, or_comm, ← hnew]
  constructor
  · rintro ⟨file, hfile, hfound⟩
    obtain rfl | hold := List.mem_cons.mp hfile
    · exact .inl hfound
    · exact .inr ⟨file, hold, hfound⟩
  · rintro (hfound | ⟨file, hold, hfound⟩)
    · exact ⟨_, List.mem_cons_self, hfound⟩
    · exact ⟨file, List.mem_cons_of_mem _ hold, hfound⟩

/-- Behind a sync of the directory only the file with the name is left. -/
theorem found_syncDir {content : Option (List UInt8)} :
    d.syncDir.Found content ↔ FoundAs d.target content := by
  unfold syncDir Found
  simp

end Steps

end Disk

end ReplacedFile
