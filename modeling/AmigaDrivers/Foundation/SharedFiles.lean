import AmigaDrivers.Foundation.Effect
import Mathlib.Data.Set.Insert
import Mathlib.Logic.Function.Basic

/-!
# Files that others work on too

A program works on files, call by call.  Before a call others may do what they like to the files,
and the call may raise instead; what they do and what is raised is given beforehand, so that a
statement about every list of turns is one about every failure and every interference.

* `Path`, `File`, `Turn`, `Shared`: the files, and what the surroundings will do.
* `mkstemp`, `copy2`, `writeText`, `read`, `stat`, `present`, `replace`, `unlink`: the calls.
* `Follows`: what a program leaves alone, others leaving it alone as well.
* `triple_…`: what is known after a call.
-/

namespace SharedFiles

open Effect

/-! ## Files -/

/-- A file's directory, and its name in it. -/
structure Path where
  parent : String
  name : List Char
  deriving DecidableEq, Repr

/-- The text of a path. -/
def Path.str (path : Path) : String := path.parent ++ "/" ++ String.ofList path.name

/-- What a file holds, when it was last written, and which one it is. -/
structure File where
  content : List Char
  mtime : Nat
  inode : Nat
  deriving DecidableEq, Repr

/-- The files, by their paths. -/
abbrev Files : Type := Path → Option File

/-- What a call raises. -/
inductive Fault
  | notFound (path : Path)
  | os (text : String)
  | other (text : String)
  deriving DecidableEq, Repr

/-- What happens at a call: what others do before it, what it raises, and what a writing call that
raises has written by then; the time, the number and the random part of the name of a file it
makes; and where a path leads, and a directory. -/
structure Turn where
  others : Files → Files := id
  raises : Option Fault := none
  torn : Option (List Char) := none
  time : Nat := 0
  inode : Nat := 0
  random : List Char := []
  resolved : Path := ⟨"", []⟩
  directory : String := ""

/-- What the program did to its files, for the record. -/
inductive Event
  | read (path : Path) (found : Option File)
  | stat (path : Path) (mtime : Nat)
  | replaced (source target : Path)
  deriving DecidableEq, Repr

/-- The files, the turns to come, what has happened, the latest first, and the program's own
variables. -/
structure Shared (L : Type) where
  files : Files
  turns : Nat → Turn
  clock : Nat := 0
  history : List Event := []
  locals : L

/-- Exceptions among which are those of the calls. -/
class OfFault (ε : Type) where
  fault : Fault → ε

/-- A program on shared files. -/
abbrev Program (L ε : Type) : Type → Type := Effect (Shared L) ε

variable {L ε α : Type} [OfFault ε]

/-! ## Calls -/

/-- Others have their turn. -/
def Shared.turned (s : Shared L) : Shared L :=
  { s with files := (s.turns s.clock).others s.files, clock := s.clock + 1 }

/-- A path comes to stand for a file, or for none. -/
def Shared.put (path : Path) (file : Option File) (s : Shared L) : Shared L :=
  { s with files := Function.update s.files path file }

/-- Something to remember. -/
def Shared.log (event : Event) (s : Shared L) : Shared L :=
  { s with history := event :: s.history }

/-- The next turn. -/
def turn : Program L ε Turn := do
  let s ← get
  modify Shared.turned
  pure (s.turns s.clock)

/-- An exception of a call. -/
def raise (fault : Fault) : Program L ε α := throw (OfFault.fault fault)

/-- A call that does nothing to the files. -/
def call : Program L ε Turn := do
  let t ← turn
  match t.raises with
  | some fault => raise fault
  | none => pure t

/-- A file that is written: an old one keeps its number. -/
def Shared.write (t : Turn) (path : Path) (content : List Char) (mtime : Nat) (s : Shared L) :
    Shared L :=
  s.put path (some ⟨content, mtime, ((s.files path).map File.inode).getD t.inode⟩)

/-- What is left of a file whose writing is broken off. -/
def Shared.tear (t : Turn) (path : Path) (s : Shared L) : Shared L :=
  match t.torn with
  | some content => s.write t path content t.time
  | none => s

/-- An empty file of a new name. -/
def mkstemp (start stop : List Char) (dir : String) : Program L ε Path := do
  let t ← call
  let s ← get
  if (s.files ⟨dir, start ++ t.random ++ stop⟩).isSome then
    raise (.os "File exists")
  else do
    modify (Shared.put ⟨dir, start ++ t.random ++ stop⟩ (some ⟨[], t.time, t.inode⟩))
    pure ⟨dir, start ++ t.random ++ stop⟩

/-- A copy, with the time of the original. -/
def copy2 (source target : Path) : Program L ε Unit := do
  let t ← turn
  match t.raises with
  | some fault => do
    modify (Shared.tear t target)
    raise fault
  | none => do
    let s ← get
    match s.files source with
    | none => raise (.notFound source)
    | some file => modify (Shared.write t target file.content file.mtime)

/-- A text that takes the place of what a file holds. -/
def writeText (path : Path) (text : List Char) : Program L ε Unit := do
  let t ← turn
  match t.raises with
  | some fault => do
    modify (Shared.tear t path)
    raise fault
  | none => modify (Shared.write t path text t.time)

/-- The file that a path stands for. -/
def read (path : Path) : Program L ε File := do
  let _ ← call
  let s ← get
  modify (Shared.log (.read path (s.files path)))
  match s.files path with
  | none => raise (.notFound path)
  | some file => pure file

/-- What the directory knows of a file. -/
def stat (path : Path) : Program L ε File := do
  let _ ← call
  let s ← get
  match s.files path with
  | none => raise (.notFound path)
  | some file => do
    modify (Shared.log (.stat path file.mtime))
    pure file

/-- Whether a path stands for a file. -/
def present (path : Path) : Program L ε Bool := do
  let _ ← call
  let s ← get
  pure (s.files path).isSome

/-- One path is given the file of another, which is gone. -/
def replace (source target : Path) : Program L ε Unit := do
  let _ ← call
  let s ← get
  match s.files source with
  | none => raise (.notFound source)
  | some file =>
    modify fun s => ((s.put source none).put target (some file)).log (.replaced source target)

/-- A file is removed, if that is possible: an unlink whose errors are suppressed. -/
def unlink (path : Path) : Program L ε Unit := do
  let t ← turn
  match t.raises with
  | some _ => pure ()
  | none => modify (Shared.put path none)

/-! ## What is left alone -/

/-- Others leave a path alone. -/
def Shared.Alone (s : Shared L) (path : Path) : Prop :=
  ∀ n files, (s.turns n).others files path = files path

/-- What a piece of a program leaves as it was: it replaces no file, keeps to the paths that it
touches, and to the variables of others. -/
structure Follows (touched : Set Path) (s s' : Shared L) : Prop where
  turns : s'.turns = s.turns
  locals : s'.locals = s.locals
  files : ∀ path, s.Alone path → path ∉ touched → s'.files path = s.files path
  history : ∃ recent, s'.history = recent ++ s.history ∧
    ∀ source target, .replaced source target ∉ recent

section Follows

variable {touched touched' : Set Path} {s s' s'' : Shared L} {path : Path}

theorem Follows.alone (h : Follows touched s s') : s'.Alone path ↔ s.Alone path := by
  unfold Shared.Alone
  rw [h.turns]

@[refl] theorem Follows.refl : Follows touched s s :=
  ⟨rfl, rfl, fun _ _ _ => rfl, [], rfl, fun _ _ => List.not_mem_nil⟩

theorem Follows.trans (h : Follows touched s s') (h' : Follows touched s' s'') :
    Follows touched s s'' where
  turns := h'.turns.trans h.turns
  locals := h'.locals.trans h.locals
  files path halone hnot :=
    (h'.files path (h.alone.mpr halone) hnot).trans (h.files path halone hnot)
  history := by
    obtain ⟨recent, hrecent, hnone⟩ := h.history
    obtain ⟨recent', hrecent', hnone'⟩ := h'.history
    refine ⟨recent' ++ recent, ?_, fun source target hmem => ?_⟩
    · rw [hrecent', hrecent, List.append_assoc]
    · rcases List.mem_append.mp hmem with hmem | hmem
      · exact hnone' source target hmem
      · exact hnone source target hmem

theorem Follows.mono (h : Follows touched s s') (himp : touched ⊆ touched') :
    Follows touched' s s' where
  turns := h.turns
  locals := h.locals
  files path halone hnot := h.files path halone fun ht => hnot (himp ht)
  history := h.history

theorem follows_turned : Follows touched s s.turned where
  turns := rfl
  locals := rfl
  files path halone _ := halone s.clock s.files
  history := ⟨[], rfl, fun _ _ => List.not_mem_nil⟩

/-- What others leave alone is still there after their turn. -/
theorem turned_files (halone : s.Alone path) : s.turned.files path = s.files path :=
  halone s.clock s.files

theorem follows_log {event : Event} (h : ∀ source target, event ≠ .replaced source target) :
    Follows touched s (s.log event) where
  turns := rfl
  locals := rfl
  files _ _ _ := rfl
  history := by
    refine ⟨[event], rfl, fun source target hmem => ?_⟩
    exact h source target (List.mem_singleton.mp hmem).symm

theorem follows_put {file : Option File} (h : path ∈ touched) :
    Follows touched s (s.put path file) where
  turns := rfl
  locals := rfl
  files path' _ hnot := by
    refine Function.update_of_ne (fun heq => hnot ?_) _ _
    rw [heq]
    exact h
  history := ⟨[], rfl, fun _ _ => List.not_mem_nil⟩

theorem follows_write {t : Turn} {content : List Char} {mtime : Nat} (h : path ∈ touched) :
    Follows touched s (s.write t path content mtime) := follows_put h

theorem follows_tear {t : Turn} (h : path ∈ touched) : Follows touched s (s.tear t path) := by
  unfold Shared.tear
  split
  · exact follows_write h
  · rfl

@[simp] theorem put_files {file : Option File} : (s.put path file).files path = file :=
  Function.update_self _ _ _

end Follows

/-! ## What is known after a call -/

section Triples

variable {P : Shared L → Prop} {E : ε → Shared L → Prop}

theorem triple_turn {Q : Turn → Shared L → Prop}
    (hQ : ∀ s, P s → Q (s.turns s.clock) s.turned) : Triple P (turn : Program L ε Turn) Q E :=
  hQ

theorem triple_call {Q : Turn → Shared L → Prop}
    (hQ : ∀ s, P s → Q (s.turns s.clock) s.turned)
    (hE : ∀ fault s, P s → E (OfFault.fault fault) s.turned) :
    Triple P (call : Program L ε Turn) Q E := by
  unfold call
  refine .bind (Q := fun t s => Q t s ∧ ∀ fault, E (OfFault.fault fault) s) ?_ fun t => ?_
  · exact triple_turn fun s hs => ⟨hQ s hs, fun fault => hE fault s hs⟩
  · cases t.raises with
    | some fault => exact .throw fun s hs => hs.2 fault
    | none => exact .pure fun s hs => hs.1

variable {s₀ : Shared L} {path : Path}

/-- A file of a new name, which no file had that others leave alone. -/
theorem triple_mkstemp {start stop : List Char} {dir : String} :
    Triple (fun s => s = s₀) (mkstemp start stop dir : Program L ε Path)
      (fun path s => (∃ random, path = ⟨dir, start ++ random ++ stop⟩) ∧
        (s₀.Alone path → s₀.files path = none) ∧ Follows {path} s₀ s ∧ s.files path ≠ none)
      (fun _ s => Follows ∅ s₀ s) := by
  unfold mkstemp
  refine .bind (Q := fun _ s => s = s₀.turned) ?_ fun t => ?_
  · refine triple_call ?_ ?_
    · rintro s rfl
      rfl
    · rintro fault s rfl
      exact follows_turned
  · refine .get_bind ?_
    rintro s rfl
    split_ifs with hthere
    · exact .throw fun s hs => hs ▸ follows_turned
    · refine .bind (Q := fun _ s => s = s₀.turned.put ⟨dir, start ++ t.random ++ stop⟩
        (some ⟨[], t.time, t.inode⟩)) (.modify ?_) fun _ => .pure ?_
      · rintro s rfl
        rfl
      · rintro s rfl
        refine ⟨⟨t.random, rfl⟩, fun halone => ?_, ?_, ?_⟩
        · rw [← turned_files halone]
          exact Option.not_isSome_iff_eq_none.mp hthere
        · exact follows_turned.trans (follows_put (Set.mem_singleton _))
        · rw [put_files]
          exact Option.some_ne_none _

/-- A call that others go before and that may break off in the middle of a file. -/
theorem triple_torn {x : Program L ε Unit} {Q : Unit → Shared L → Prop} {t : Turn}
    (hx : Triple (fun s => s = s₀.turned) x Q (fun _ s => Follows {path} s₀ s)) :
    Triple (fun s => s = s₀.turned)
      (match t.raises with
        | some fault => do
          modify (Shared.tear t path)
          raise fault
        | none => x : Program L ε Unit)
      Q (fun _ s => Follows {path} s₀ s) := by
  cases t.raises with
  | none => exact hx
  | some fault =>
    refine .bind (Q := fun _ s => Follows {path} s₀ s) (.modify ?_) fun _ => .throw fun _ hs => hs
    rintro s rfl
    exact follows_turned.trans (follows_tear (Set.mem_singleton _))

/-- A copy holds what the original held, if others left that alone. -/
theorem triple_copy2 {source target : Path} :
    Triple (fun s => s = s₀) (copy2 source target : Program L ε Unit)
      (fun _ s => Follows {target} s₀ s ∧ ∃ file copy, s.files target = some copy ∧
        copy.content = file.content ∧ (s₀.Alone source → s₀.files source = some file))
      (fun _ s => Follows {target} s₀ s) := by
  unfold copy2
  refine .bind (Q := fun _ s => s = s₀.turned) ?_ fun t => triple_torn ?_
  · refine triple_turn ?_
    rintro s rfl
    rfl
  · refine .get_bind ?_
    rintro s rfl
    split
    · exact .throw fun s hs => hs ▸ follows_turned
    · rename_i file hfile
      refine .modify ?_
      rintro s rfl
      refine ⟨follows_turned.trans (follows_write (Set.mem_singleton _)), file, _, put_files, rfl,
        fun halone => ?_⟩
      rw [← turned_files halone]
      exact hfile

/-- A file holds the text that was written to it. -/
theorem triple_writeText {text : List Char} :
    Triple (fun s => s = s₀) (writeText path text : Program L ε Unit)
      (fun _ s => Follows {path} s₀ s ∧ ∃ file, s.files path = some file ∧ file.content = text)
      (fun _ s => Follows {path} s₀ s) := by
  unfold writeText
  refine .bind (Q := fun _ s => s = s₀.turned) ?_ fun t => triple_torn (.modify ?_)
  · refine triple_turn ?_
    rintro s rfl
    rfl
  · rintro s rfl
    exact ⟨follows_turned.trans (follows_write (Set.mem_singleton _)), _, put_files, rfl⟩

/-- What was found at a path when it was last read. -/
def lastRead (path : Path) : List Event → Option (Option File)
  | [] => none
  | .read path' found :: history => if path' = path then some found else lastRead path history
  | _ :: history => lastRead path history

/-- A file that is read is there, and remembered. -/
theorem triple_read :
    Triple (fun s => s = s₀) (read path : Program L ε File)
      (fun file s => Follows ∅ s₀ s ∧ (s₀.Alone path → s₀.files path = some file) ∧
        lastRead path s.history = some (some file))
      (fun _ s => Follows ∅ s₀ s) := by
  have hlog : Follows ∅ s₀ (s₀.turned.log (.read path (s₀.turned.files path))) :=
    follows_turned.trans (follows_log fun _ _ => by simp)
  unfold read
  refine .bind (Q := fun _ s => s = s₀.turned) ?_ fun _ => ?_
  · refine triple_call ?_ ?_
    · rintro s rfl
      rfl
    · rintro fault s rfl
      exact follows_turned
  · refine .get_bind ?_
    rintro s rfl
    refine .bind (Q := fun _ s => s = s₀.turned.log (.read path (s₀.turned.files path)))
      (.modify ?_) fun _ => ?_
    · rintro s rfl
      rfl
    · split
      · exact .throw fun s hs => hs ▸ hlog
      · rename_i file hfile
        refine .pure ?_
        rintro s rfl
        refine ⟨hlog, fun halone => ?_, ?_⟩
        · rw [← turned_files halone]
          exact hfile
        · show lastRead path (.read path (s₀.turned.files path) :: _) = _
          rw [lastRead, if_pos rfl, hfile]

/-- A file whose time is asked for is there. -/
theorem triple_stat :
    Triple (fun s => s = s₀) (stat path : Program L ε File)
      (fun file s => Follows ∅ s₀ s ∧ (s₀.Alone path → s₀.files path = some file) ∧
        s.history = .stat path file.mtime :: s₀.history)
      (fun _ s => Follows ∅ s₀ s) := by
  unfold stat
  refine .bind (Q := fun _ s => s = s₀.turned) ?_ fun _ => ?_
  · refine triple_call ?_ ?_
    · rintro s rfl
      rfl
    · rintro fault s rfl
      exact follows_turned
  · refine .get_bind ?_
    rintro s rfl
    split
    · exact .throw fun s hs => hs ▸ follows_turned
    · rename_i file hfile
      refine .bind (Q := fun _ s => s = s₀.turned.log (.stat path file.mtime))
        (.modify ?_) fun _ => .pure ?_
      · rintro s rfl
        rfl
      · rintro s rfl
        refine ⟨follows_turned.trans (follows_log fun _ _ => by simp), fun halone => ?_, rfl⟩
        rw [← turned_files halone]
        exact hfile

/-- Whether a file is there. -/
theorem triple_present :
    Triple (fun s => s = s₀) (present path : Program L ε Bool)
      (fun there s => Follows ∅ s₀ s ∧ (s₀.Alone path → there = (s₀.files path).isSome))
      (fun _ s => Follows ∅ s₀ s) := by
  unfold present
  refine .bind (Q := fun _ s => s = s₀.turned) (triple_call ?_ ?_) fun _ =>
    .get_bind fun s₁ h₁ => .pure ?_
  · rintro s rfl
    rfl
  · rintro fault s rfl
    exact follows_turned
  · rintro s rfl
    rw [h₁]
    exact ⟨follows_turned, fun halone => by rw [turned_files halone]⟩

/-- What a replacement that goes through has done. -/
structure Replaced (source target : Path) (s s' : Shared L) : Prop where
  turns : s'.turns = s.turns
  locals : s'.locals = s.locals
  there : s'.files target ≠ none
  moved : s.Alone source → s'.files target = s.files source
  files : ∀ path, s.Alone path → path ≠ source → path ≠ target → s'.files path = s.files path
  history : s'.history = .replaced source target :: s.history

theorem triple_replace {source target : Path} :
    Triple (fun s => s = s₀) (replace source target : Program L ε Unit)
      (fun _ s => Replaced source target s₀ s) (fun _ s => Follows ∅ s₀ s) := by
  unfold replace
  refine .bind (Q := fun _ s => s = s₀.turned) ?_ fun _ => ?_
  · refine triple_call ?_ ?_
    · rintro s rfl
      rfl
    · rintro fault s rfl
      exact follows_turned
  · refine .get_bind ?_
    rintro s rfl
    split
    · exact .throw fun s hs => hs ▸ follows_turned
    · rename_i file hfile
      refine .modify ?_
      rintro s rfl
      have htarget : (((s₀.turned.put source none).put target (some file)).log
          (.replaced source target)).files target = some file := put_files
      refine ⟨rfl, rfl, ?_, fun halone => ?_, fun path halone hsource hne => ?_, rfl⟩
      · rw [htarget]
        exact Option.some_ne_none _
      · rw [htarget, ← turned_files halone, hfile]
      · show Function.update (Function.update s₀.turned.files source none) target _ path = _
        rw [Function.update_of_ne hne, Function.update_of_ne hsource]
        exact turned_files halone

/-- An unlink whose errors are suppressed raises nothing. -/
theorem triple_unlink :
    Triple (fun s => s = s₀) (unlink path : Program L ε Unit)
      (fun _ s => Follows {path} s₀ s) (fun _ _ => False) := by
  unfold unlink
  refine .bind (Q := fun _ s => s = s₀.turned) ?_ fun t => ?_
  · refine triple_turn ?_
    rintro s rfl
    rfl
  · cases t.raises with
    | some _ => exact .pure fun s hs => hs ▸ follows_turned
    | none =>
      refine .modify ?_
      rintro s rfl
      exact follows_turned.trans (follows_put (Set.mem_singleton _))

end Triples

end SharedFiles
