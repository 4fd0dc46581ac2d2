import AmigaDrivers.App.OverviewText

/-!
# Saving the fields of the overview, once

* `Committed`: what is known once the file has taken the place of the old one.
* `triple_saveMain`: one file takes the place of another, or nothing does.
* `overview_save`: **only what must be is edited, at most once.**
-/

namespace AmigaDrivers
namespace App
namespace ConfigStore

open Effect SharedFiles Patches

variable {s₀ s s' s'' : Shared Locals} {path : Path} {yaml : Yaml} {fields : List Field}

/-! ## Files beside the configuration -/

theorem temporaryOf_name (path : Path) : (temporaryOf path).name = path.name ++ ".tmp".toList :=
  withSuffix_name path _

/-- The files that a save writes before it replaces the configuration. -/
def beside (path : Path) : Set Path := {temporaryOf path, backupOf path}

/-- A longer name is another one. -/
theorem ne_of_name_append {path path' : Path} {ending : List Char}
    (h : path'.name = path.name ++ ending) (hending : ending ≠ []) : path ≠ path' := by
  rintro rfl
  exact hending (List.self_eq_append_right.mp h)

theorem not_mem_beside (path : Path) : path ∉ beside path := by
  rintro (h | h)
  · exact ne_of_name_append (temporaryOf_name path) (by decide) h
  · exact ne_of_name_append (backupOf_name path) (by decide) h

theorem temporaryOf_ne_backupOf (path : Path) : temporaryOf path ≠ backupOf path := by
  intro h
  have hname := congrArg Path.name h
  rw [temporaryOf_name, backupOf_name] at hname
  exact absurd (List.append_cancel_left hname) (by decide)

/-! ## One save -/

/-- A file has taken the place of the configuration at a path: so it was written, the old content is
in the backup, nothing else was replaced, and the time of the old file had been looked at. -/
structure Committed (text : List Char) (mtime : Nat) (path : Path) (s s' : Shared Locals) :
    Prop where
  turns : s'.turns = s.turns
  history : ∃ later earlier, s'.history = later ++ .replaced (temporaryOf path) path ::
    (earlier ++ s.history) ∧ (∀ source target, .replaced source target ∉ later ++ earlier) ∧
    .stat path mtime ∈ earlier
  written : s.Alone path → s.Alone (temporaryOf path) →
    ∃ file, s'.files path = some file ∧ file.content = text
  backup : s.Alone path → s.Alone (backupOf path) → ∀ original, s.files path = some original →
    ∃ file, s'.files (backupOf path) = some file ∧ file.content = original.content
  files : ∀ other, s.Alone other → other ∉ beside path → other ≠ path →
    s'.files other = s.files other

theorem Committed.alone {text : List Char} {mtime : Nat} (h : Committed text mtime path s s')
    {other : Path} : s'.Alone other ↔ s.Alone other := by
  unfold Shared.Alone
  rw [h.turns]

/-- What happened before a save does not matter to it, if it was nothing. -/
theorem Committed.of_follows {text : List Char} {mtime : Nat} (h : Follows ∅ s s')
    (h' : Committed text mtime path s' s'') : Committed text mtime path s s'' where
  turns := h'.turns.trans h.turns
  history := by
    obtain ⟨later, earlier, hhistory, hnone, hstat⟩ := h'.history
    obtain ⟨recent, hrecent, hnone'⟩ := h.history
    refine ⟨later, earlier ++ recent, ?_, fun source target hmem => ?_, ?_⟩
    · rw [hhistory, hrecent, List.append_assoc]
    · rw [← List.append_assoc] at hmem
      rcases List.mem_append.mp hmem with hmem | hmem
      · exact hnone source target hmem
      · exact hnone' source target hmem
    · exact List.mem_append_left _ hstat
  written hpath htemporary := h'.written (h.alone.mpr hpath) (h.alone.mpr htemporary)
  backup hpath hbackup original horiginal := by
    refine h'.backup (h.alone.mpr hpath) (h.alone.mpr hbackup) original ?_
    rw [h.files _ hpath (Set.notMem_empty _), horiginal]
  files other halone hbeside hne := by
    rw [h'.files other (h.alone.mpr halone) hbeside hne, h.files _ halone (Set.notMem_empty _)]

/-- What happens after a save. -/
theorem Committed.follows {text : List Char} {mtime : Nat} (h : Committed text mtime path s s')
    (h' : Follows ∅ s' s'') : Committed text mtime path s s'' where
  turns := h'.turns.trans h.turns
  history := by
    obtain ⟨later, earlier, hhistory, hnone, hstat⟩ := h.history
    obtain ⟨recent, hrecent, hnone'⟩ := h'.history
    refine ⟨recent ++ later, earlier, ?_, fun source target hmem => ?_, hstat⟩
    · rw [hrecent, hhistory, List.append_assoc]
    · rw [List.append_assoc] at hmem
      rcases List.mem_append.mp hmem with hmem | hmem
      · exact hnone' source target hmem
      · exact hnone source target hmem
  written hpath htemporary := by
    obtain ⟨file, hfile, hcontent⟩ := h.written hpath htemporary
    refine ⟨file, ?_, hcontent⟩
    rw [h'.files _ (h.alone.mpr hpath) (Set.notMem_empty _), hfile]
  backup hpath hbackup original horiginal := by
    obtain ⟨file, hfile, hcontent⟩ := h.backup hpath hbackup original horiginal
    refine ⟨file, ?_, hcontent⟩
    rw [h'.files _ (h.alone.mpr hbackup) (Set.notMem_empty _), hfile]
  files other halone hbeside hne := by
    rw [h'.files _ (h.alone.mpr halone) (Set.notMem_empty _),
      h.files other halone hbeside hne]

/-! ## Before the file is written -/

theorem triple_getMain :
    Triple (fun s => s = s₀) getMain
      (fun cf s => Follows ∅ s₀ s ∧ ∃ n, cf.path = (s₀.turns n).resolved)
      (fun _ s => Follows ∅ s₀ s) := by
  unfold getMain
  refine .bind (Q := fun t s => Follows ∅ s₀ s ∧ t = s₀.turns s₀.clock) (triple_call ?_ ?_)
    fun t => .pure ?_
  · rintro s rfl
    exact ⟨follows_turned, rfl⟩
  · rintro fault s rfl
    exact follows_turned
  · rintro s ⟨hfollows, rfl⟩
    exact ⟨hfollows, _, rfl⟩

theorem triple_follows_call :
    Triple (fun s => Follows ∅ s₀ s) (call : Io Turn) (fun _ s => Follows ∅ s₀ s)
      (fun _ s => Follows ∅ s₀ s) :=
  triple_call (fun _ h => h.trans follows_turned) fun _ _ h => h.trans follows_turned

theorem triple_checkPath {cf : ConfigFile} {expectedPath : Option Path} :
    Triple (fun s => Follows ∅ s₀ s) (checkPath cf expectedPath) (fun _ s => Follows ∅ s₀ s)
      (fun _ s => Follows ∅ s₀ s) := by
  unfold checkPath
  cases expectedPath with
  | none => exact .pure fun _ h => h
  | some expectedPath =>
    refine .bind triple_follows_call fun here => .bind triple_follows_call fun expected => ?_
    exact .ite (fun _ => .throw fun _ h => h) fun _ => .pure fun _ h => h

/-- The time of a file has been looked at, and that was all. -/
def Looked (mtime : Nat) (path : Path) (s s' : Shared Locals) : Prop :=
  Follows ∅ s s' ∧ ∃ recent, s'.history = recent ++ s.history ∧ .stat path mtime ∈ recent

theorem triple_checkModified {cf : ConfigFile} {mtime : Nat} :
    Triple (fun s => Follows ∅ s₀ s) (checkModified cf (some mtime))
      (fun _ s => Looked mtime cf.path s₀ s) (fun _ s => Follows ∅ s₀ s) := by
  refine .each fun s₁ h₁ => ?_
  have hstat : Triple (fun s => s = s₁) (statLatest cf)
      (fun file s => Looked file.mtime cf.path s₀ s) (fun _ s => Follows ∅ s₀ s) := by
    refine .tryCatch (E := fun _ s => Follows ∅ s₀ s) (triple_stat.conseq (fun _ h => h) ?_
      fun _ _ h => h₁.trans h) fun error => ?_
    · rintro file s ⟨hfollows, -, hhistory⟩
      obtain ⟨recent, hrecent, -⟩ := h₁.history
      refine ⟨h₁.trans hfollows, .stat cf.path file.mtime :: recent, ?_, List.mem_cons_self⟩
      rw [hhistory, hrecent, List.cons_append]
    · split
      · exact .throw fun _ h => h
      · exact .throw fun _ h => h
  refine .bind hstat fun file => .ite (fun _ => .throw fun _ h => h.1) fun hsame => .pure ?_
  rw [not_not] at hsame
  exact fun s h => hsame ▸ h

/-! ## The file is written -/

/-- The old content is in the backup, if there is one. -/
def HasBackup (path : Path) (s s' : Shared Locals) : Prop :=
  s.Alone path → s.Alone (backupOf path) → ∀ original, s.files path = some original →
    ∃ file, s'.files (backupOf path) = some file ∧ file.content = original.content

theorem triple_copyOld {cf : ConfigFile} :
    Triple (fun s => s = s₀) (copyOld cf)
      (fun _ s => Follows {backupOf cf.path} s₀ s ∧ HasBackup cf.path s₀ s)
      (fun _ s => Follows {backupOf cf.path} s₀ s) := by
  unfold copyOld
  refine .bind (triple_present.conseq (fun _ h => h) (fun _ _ h => h)
    fun _ _ h => h.mono (Set.empty_subset _)) fun there => .each ?_
  rintro s₁ ⟨h₁, hthere⟩
  have h₁' : Follows {backupOf cf.path} s₀ s₁ := h₁.mono (Set.empty_subset _)
  refine .ite (fun _ => ?_) fun hnot => .pure ?_
  · refine triple_copy2.conseq (fun _ h => h) ?_ fun _ _ h => h₁'.trans h
    rintro _ s ⟨hfollows, file, copy, hcopy, hcontent, hsource⟩
    refine ⟨h₁'.trans hfollows, fun halone _ original horiginal => ⟨copy, hcopy, ?_⟩⟩
    have hfile := hsource (h₁.alone.mpr halone)
    rw [h₁.files _ halone (Set.notMem_empty _), horiginal, Option.some.injEq] at hfile
    rw [hcontent, hfile]
  · rintro s rfl
    refine ⟨h₁', fun halone _ original horiginal => absurd (hthere halone) ?_⟩
    rw [horiginal]
    exact hnot

theorem beside_subset (path : Path) :
    {backupOf path} ⊆ beside path ∧ {temporaryOf path} ⊆ beside path :=
  ⟨Set.singleton_subset_iff.mpr (.inr rfl), Set.singleton_subset_iff.mpr (.inl rfl)⟩

/-- What a save does once the file may be replaced. -/
theorem triple_replaceOld {s₁ : Shared Locals} {cf : ConfigFile} {text : List Char} {mtime : Nat}
    (hlooked : Looked mtime cf.path s₀ s₁) :
    Triple (fun s => s = s₁) (replaceOld cf text)
      (fun _ s => Committed text mtime cf.path s₀ s)
      (fun _ s => Follows (beside cf.path) s₀ s) := by
  obtain ⟨hfollows₁, recent, hrecent, hstat⟩ := hlooked
  obtain ⟨hbackup_sub, htemporary_sub⟩ := beside_subset cf.path
  have h₁ : Follows (beside cf.path) s₀ s₁ := hfollows₁.mono (Set.empty_subset _)
  unfold replaceOld
  refine .bind (triple_copyOld.conseq (fun _ h => h) (fun _ _ h => h)
    fun _ _ h => h₁.trans (h.mono hbackup_sub)) fun _ => .each ?_
  rintro s₂ ⟨hfollows₂, hbackup⟩
  have h₂ : Follows (beside cf.path) s₀ s₂ := h₁.trans (hfollows₂.mono hbackup_sub)
  refine .bind (triple_writeText.conseq (fun _ h => h) (fun _ _ h => h)
    fun _ _ h => h₂.trans (h.mono htemporary_sub)) fun _ => .each ?_
  rintro s₃ ⟨hfollows₃, file, hfile, hcontent⟩
  have h₃ : Follows (beside cf.path) s₀ s₃ := h₂.trans (hfollows₃.mono htemporary_sub)
  refine triple_replace.conseq (fun _ h => h) ?_
    fun _ _ h => h₃.trans (h.mono (Set.empty_subset _))
  intro _ s hreplaced
  refine ⟨hreplaced.turns.trans h₃.turns, ?_, fun _ htemporary => ⟨file, ?_, hcontent⟩,
    fun hpath hbackup' original horiginal => ?_, fun other halone hbeside hne => ?_⟩
  · -- the look at the time is among what happened since the start
    obtain ⟨recent₃, hrecent₃, hnone₃⟩ := h₃.history
    obtain ⟨recent₂, hrecent₂, -⟩ := hfollows₂.history
    obtain ⟨recent₄, hrecent₄, -⟩ := hfollows₃.history
    have hboth : recent₃ ++ s₀.history = recent₄ ++ (recent₂ ++ recent) ++ s₀.history := by
      rw [← hrecent₃, hrecent₄, hrecent₂, hrecent, List.append_assoc, List.append_assoc]
    have hsplit : recent₃ = recent₄ ++ (recent₂ ++ recent) := List.append_cancel_right hboth
    refine ⟨[], recent₃, ?_, hnone₃, ?_⟩
    · rw [hreplaced.history, hrecent₃]
      rfl
    · rw [hsplit]
      exact List.mem_append_right _ (List.mem_append_right _ hstat)
  · rw [hreplaced.moved (h₃.alone.mpr htemporary), hfile]
  · obtain ⟨copy, hcopy, hsame⟩ := hbackup (hfollows₁.alone.mpr hpath)
      (hfollows₁.alone.mpr hbackup') original
      ((hfollows₁.files _ hpath (Set.notMem_empty _)).trans horiginal)
    refine ⟨copy, ?_, hsame⟩
    have hother : backupOf cf.path ∉ ({temporaryOf cf.path} : Set Path) :=
      Set.notMem_singleton_iff.mpr (temporaryOf_ne_backupOf _).symm
    rw [hreplaced.files _ (h₃.alone.mpr hbackup') hother
        (ne_of_name_append (backupOf_name _) (by decide)).symm,
      hfollows₃.files _ (h₂.alone.mpr hbackup') hother, hcopy]
  · rw [hreplaced.files _ (h₃.alone.mpr halone) (fun h => hbeside (.inl h)) hne,
      h₃.files _ halone hbeside]

/-- **A save replaces the configuration once, or nothing.** -/
theorem triple_saveMain {text : List Char} {mtime : Nat} {expectedPath : Option Path} :
    Triple (fun s => s = s₀) (save text (some mtime) expectedPath)
      (fun _ s => ∃ n, Committed text mtime (s₀.turns n).resolved s₀ s)
      (fun _ s => ∃ n, Follows (beside (s₀.turns n).resolved) s₀ s ∨
        Committed text mtime (s₀.turns n).resolved s₀ s) := by
  have hnothing {s : Shared Locals} (h : Follows ∅ s₀ s) :
      ∃ n, Follows (beside (s₀.turns n).resolved) s₀ s ∨
        Committed text mtime (s₀.turns n).resolved s₀ s :=
    ⟨0, .inl (h.mono (Set.empty_subset _))⟩
  unfold save
  refine .bind (triple_requireWritable.conseq (fun _ h => h) (fun _ _ h => h)
    fun _ _ h => hnothing h) fun _ => .each fun s₁ h₁ => ?_
  refine .bind (triple_getMain.conseq (fun _ h => h) (fun _ _ h => h)
    fun _ _ h => hnothing (h₁.trans h)) fun cf => .each ?_
  rintro s₂ ⟨h₂, n, hn⟩
  rw [h₁.turns] at hn
  refine .bind (triple_checkPath.conseq (fun s h => h ▸ h₁.trans h₂) (fun _ _ h => h)
    fun _ _ h => hnothing h) fun _ => ?_
  refine .bind (triple_checkModified.conseq (fun _ h => h) (fun _ _ h => h)
    fun _ _ h => hnothing h) fun _ => .each fun s₃ h₃ => ?_
  refine .bind ((triple_replaceOld h₃).conseq (fun _ h => h) (fun _ _ h => h)
    fun _ _ h => ⟨n, .inl (hn ▸ h)⟩) fun _ => .each fun s₄ h₄ => ?_
  rw [hn] at h₄
  refine .bind (Q := fun _ s => Committed text mtime (s₀.turns n).resolved s₀ s)
    (triple_stat.conseq (fun _ h => h) (fun _ _ h => h₄.follows h.1)
      fun _ _ h => ⟨n, .inr (h₄.follows h)⟩) fun _ => .pure fun _ h => ⟨n, h⟩

/-! ## What is checked -/

theorem triple_checkField {root : String} {expected : Dict Json} {key : String} {value : Json} :
    Triple (fun s => s = s₀) (checkField root expected key value)
      (fun field s => Follows ∅ s₀ s ∧ (key, value) = (field.key, .str field.value) ∧
        expected.items.lookup field.key = some (.str field.expected))
      (fun _ s => Follows ∅ s₀ s) := by
  have hproblems {raw : String} : Triple (fun s => s = s₀) (outputDirProblems root raw)
      (fun _ s => Follows ∅ s₀ s) (fun _ s => Follows ∅ s₀ s) := by
    unfold outputDirProblems resolveOutputDir
    refine .bind (Q := fun _ s => Follows ∅ s₀ s) (.bind (Q := fun _ s => Follows ∅ s₀ s)
      (triple_follows_call.conseq (fun s h => h ▸ .refl) (fun _ _ h => h) fun _ _ h => h)
      fun _ => .pure fun _ h => h) fun path => .ite (fun _ => .pure fun _ h => h) fun _ => ?_
    refine .bind triple_follows_call fun t => .ite (fun _ => .pure fun _ h => h)
      fun _ => .pure fun _ h => h
  unfold checkField
  refine .ite (fun _ => .throw ?_) fun _ => ?_
  · rintro s rfl
    rfl
  · split
    · rename_i value baseline hlookup
      refine .ite (fun _ => .throw ?_) fun _ => .ite (fun _ => .ite (fun _ => .throw ?_)
        fun _ => ?_) fun _ => .pure ?_
      · rintro s rfl
        rfl
      · rintro s rfl
        rfl
      · refine .bind hproblems fun problems => .ite (fun _ => .throw fun _ h => h)
          fun _ => .pure fun _ h => ⟨h, rfl, hlookup⟩
      · rintro s rfl
        exact ⟨.refl, rfl, hlookup⟩
    · refine .throw ?_
      rintro s rfl
      rfl

theorem triple_checkFields {root : String} {expected : Dict Json} {items : List (String × Json)} :
    Triple (fun s => Follows ∅ s₀ s) (checkFields root expected items)
      (fun fields s => Follows ∅ s₀ s ∧ Submitted expected items fields)
      (fun _ s => Follows ∅ s₀ s) := by
  induction items with
  | nil => exact .pure fun _ h => ⟨h, .nil⟩
  | cons item items ih =>
    obtain ⟨key, value⟩ := item
    unfold checkFields
    refine .each fun s₁ h₁ => .bind (triple_checkField.conseq (fun _ h => h) (fun _ _ h => h)
      fun _ _ h => h₁.trans h) fun field => .each ?_
    rintro s₂ ⟨h₂, hfield⟩
    refine .bind (ih.conseq (fun s h => h ▸ h₁.trans h₂) (fun _ _ h => h) fun _ _ h => h)
      fun fields => .pure ?_
    rintro s ⟨h, hfields⟩
    exact ⟨h, .cons hfield hfields⟩

/-! ## All of it -/

/-- What the last look at a path has found has been read. -/
theorem mem_of_lastRead {history : List Event} {found : Option File}
    (h : lastRead path history = some found) : .read path found ∈ history := by
  induction history with
  | nil => exact nomatch h
  | cons event history ih =>
    cases event with
    | read path' found' =>
      rw [lastRead] at h
      split_ifs at h with hpath
      · rw [← hpath, ← Option.some.inj h]
        exact List.mem_cons_self
      · exact List.mem_cons_of_mem _ (ih h)
    | stat path' mtime => exact List.mem_cons_of_mem _ (ih h)
    | replaced source target => exact List.mem_cons_of_mem _ (ih h)

/-- Nothing but a copy and a temporary file have been written. -/
def Unsaved (s₀ s : Shared Locals) : Prop := ∃ n, Follows (beside (s₀.turns n).resolved) s₀ s

/-- Nothing had to be changed. -/
def Unchanged (yaml : Yaml) (fields : List Field) (s₀ s : Shared Locals) : Prop :=
  Follows ∅ s₀ s ∧ ∃ n old,
    (s₀.Alone (s₀.turns n).resolved → s₀.files (s₀.turns n).resolved = some old) ∧
      Edited yaml fields (universalNewlines old.content) (universalNewlines old.content)

/-- What was read has been edited, and saved. -/
def Saved (yaml : Yaml) (fields : List Field) (s₀ s : Shared Locals) : Prop :=
  ∃ m n old new,
    (s₀.Alone (s₀.turns m).resolved → s₀.files (s₀.turns m).resolved = some old) ∧
      .read (s₀.turns m).resolved (some old) ∈ s.history ∧
      Edited yaml fields (universalNewlines old.content) new ∧
      Committed new old.mtime (s₀.turns n).resolved s₀ s

/-- What was there before does not matter, if nothing happened to it. -/
theorem foundAt_of_follows {old : File} {n : Nat} (h : Follows ∅ s₀ s)
    (hold : s.Alone (s.turns n).resolved → s.files (s.turns n).resolved = some old) :
    s₀.Alone (s₀.turns n).resolved → s₀.files (s₀.turns n).resolved = some old := by
  intro halone
  rw [h.turns] at hold
  rw [← h.files _ halone (Set.notMem_empty _)]
  exact hold (h.alone.mpr halone)

theorem Unsaved.of_follows (h : Follows ∅ s₀ s) (h' : Unsaved s s') : Unsaved s₀ s' := by
  obtain ⟨n, hfollows⟩ := h'
  rw [h.turns] at hfollows
  exact ⟨n, (h.mono (Set.empty_subset _)).trans hfollows⟩

theorem Unchanged.of_follows (h : Follows ∅ s₀ s) (h' : Unchanged yaml fields s s') :
    Unchanged yaml fields s₀ s' := by
  obtain ⟨hfollows, n, old, hold, hedited⟩ := h'
  exact ⟨h.trans hfollows, n, old, foundAt_of_follows h hold, hedited⟩

theorem Saved.of_follows (h : Follows ∅ s₀ s) (h' : Saved yaml fields s s') :
    Saved yaml fields s₀ s' := by
  obtain ⟨m, n, old, new, hold, hread, hedited, hcommitted⟩ := h'
  have hold' := foundAt_of_follows h hold
  rw [h.turns] at hread hcommitted
  exact ⟨m, n, old, new, hold', hread, hedited, hcommitted.of_follows h⟩

theorem triple_saveFields (hexact : yaml.Exact) (hkeys : (fields.map Field.key).Nodup) :
    Triple (fun s => s = s₀) (saveFields yaml fields)
      (fun _ s => Unchanged yaml fields s₀ s ∨ Saved yaml fields s₀ s)
      (fun _ s => Unsaved s₀ s ∨ Saved yaml fields s₀ s) := by
  have hnothing {s : Shared Locals} (h : Follows ∅ s₀ s) :
      Unsaved s₀ s ∨ Saved yaml fields s₀ s := .inl ⟨0, h.mono (Set.empty_subset _)⟩
  unfold saveFields
  refine .bind (triple_getMain.conseq (fun _ h => h) (fun _ _ h => h)
    fun _ _ h => hnothing h) fun cf => .each ?_
  rintro s₁ ⟨h₁, m, hm⟩
  refine .bind (triple_readFile.conseq (fun _ h => h) (fun _ _ h => h)
    fun _ _ h => hnothing (h₁.trans h)) fun loaded => .each ?_
  rintro s₂ ⟨hfollows₂, old, ⟨hfound, hlast⟩, htext, hmtime⟩
  have h₂ : Follows ∅ s₀ s₂ := h₁.trans hfollows₂
  have hold : s₀.Alone (s₀.turns m).resolved → s₀.files (s₀.turns m).resolved = some old := by
    intro halone
    rw [← hm] at halone ⊢
    rw [← h₁.files _ halone (Set.notMem_empty _)]
    exact hfound (h₁.alone.mpr halone)
  have hread : .read (s₀.turns m).resolved (some old) ∈ s₂.history :=
    hm ▸ mem_of_lastRead hlast
  refine .bind (Q := fun found s => replacements yaml loaded.text fields = .ok found ∧ s = s₂)
    (.lift (fun found s hfound hs => ⟨hfound, hs⟩) fun _ _ _ hs => hnothing (hs ▸ h₂))
    fun found => .of_fact fun hfound => ?_
  obtain ⟨hallowed, rfl⟩ := replacements_ok hfound
  refine .ite (fun hnone => .pure ?_) fun _ => ?_
  · rintro s rfl
    refine .inl ⟨h₂, m, old, hold, ?_⟩
    rw [htext]
    exact edited_of_changes_eq_nil hallowed hnone
  · refine .bind (Q := fun _ s => checkEdited yaml
        (editText loaded.text ((changes yaml loaded.text fields).map Prod.snd))
        ((changes yaml loaded.text fields).map Prod.fst) fields = .ok () ∧ s = s₂)
      (.lift (fun _ s hchecked hs => ⟨hchecked, hs⟩) fun _ _ _ hs => hnothing (hs ▸ h₂))
      fun _ => .of_fact fun hchecked => ?_
    have hedited := edited_of_checkEdited hexact hkeys hallowed hchecked
    have hsaved {n : Nat} {s : Shared Locals}
        (h : Committed (editText loaded.text ((changes yaml loaded.text fields).map Prod.snd))
          loaded.mtime (s₂.turns n).resolved s₂ s) : Saved yaml fields s₀ s := by
      obtain ⟨later, earlier, hhistory, -⟩ := h.history
      rw [h₂.turns] at h
      refine ⟨m, n, old, editText loaded.text ((changes yaml loaded.text fields).map Prod.snd),
        hold, ?_, ?_, hmtime ▸ h.of_follows h₂⟩
      · rw [hhistory]
        exact List.mem_append_right _ (List.mem_cons_of_mem _ (List.mem_append_right _ hread))
      · rw [htext]
        exact hedited
    refine .bind (Q := fun _ s => Saved yaml fields s₀ s) (triple_saveMain.conseq (fun _ h => h) ?_ ?_)
      fun _ => .pure fun _ h => .inr h
    · rintro _ s ⟨n, h⟩
      exact hsaved h
    · rintro _ s ⟨n, h | h⟩
      · rw [h₂.turns] at h
        exact .inl ⟨n, (h₂.mono (Set.empty_subset _)).trans h⟩
      · exact .inr (hsaved h)

theorem triple_setMainFields (hexact : yaml.Exact) {root : String} {values expected : Dict Json} :
    Triple (fun s => s = s₀) (setMainFields yaml root values expected)
      (fun _ s => values.items = [] ∧ Follows ∅ s₀ s ∨
        ∃ fields, Submitted expected values.items fields ∧
          (Unchanged yaml fields s₀ s ∨ Saved yaml fields s₀ s))
      (fun _ s => Unsaved s₀ s ∨
        ∃ fields, Submitted expected values.items fields ∧ Saved yaml fields s₀ s) := by
  have hnothing {s : Shared Locals} (h : Follows ∅ s₀ s) : Unsaved s₀ s :=
    ⟨0, h.mono (Set.empty_subset _)⟩
  unfold setMainFields
  refine .ite (fun _ => .throw fun s hs => .inl (hnothing (hs ▸ .refl))) fun _ => ?_
  refine .bind (triple_checkFields.conseq (fun s h => h ▸ .refl) (fun _ _ h => h)
    fun _ _ h => .inl (hnothing h)) fun fields => .each ?_
  rintro s₁ ⟨h₁, hsubmitted⟩
  refine .ite (fun hnil => .pure ?_) fun _ => ?_
  · rintro s rfl
    subst hnil
    exact .inl ⟨List.forall₂_nil_right_iff.mp hsubmitted, h₁⟩
  · have hkeys : (fields.map Field.key).Nodup := by
      rw [hsubmitted.keys]
      exact values.nodup
    refine (triple_saveFields hexact hkeys).conseq (fun _ h => h) ?_ ?_
    · rintro _ s (h | h)
      · exact .inr ⟨fields, hsubmitted, .inl (h.of_follows h₁)⟩
      · exact .inr ⟨fields, hsubmitted, .inr (h.of_follows h₁)⟩
    · rintro _ s (h | h)
      · exact .inl (h.of_follows h₁)
      · exact .inr ⟨fields, hsubmitted, h.of_follows h₁⟩

/-! ## The main result -/

/-- A file has taken the place of another. -/
def Event.isReplaced : Event → Bool
  | .replaced _ _ => true
  | _ => false

/-- Whatever is replaced had been read, and still had its time of then; and what was read has been
edited. -/
def Careful (yaml : Yaml) (values expected : Dict Json) (history : List Event) : Prop :=
  ∀ source target, .replaced source target ∈ history → ∃ fields path old new,
    Submitted expected values.items fields ∧ .read path (some old) ∈ history ∧
      .stat target old.mtime ∈ history ∧ Edited yaml fields (universalNewlines old.content) new

/-- Others leave a configuration and its temporary file alone, and the links lead to it. -/
structure Quiet (s : Shared Locals) (path : Path) : Prop where
  alone : s.Alone path
  temporary : s.Alone (temporaryOf path)
  leads : ∀ n, (s.turns n).resolved = path

/-- A file holds what another one held, edited; or it is that one, and nothing had to be changed.
The application takes every field to be as it was submitted. -/
structure IsEdited (yaml : Yaml) (fields : List Field) (old file : File) : Prop where
  edited : Edited yaml fields (universalNewlines old.content) (universalNewlines file.content)
  written : file.content = universalNewlines file.content ∨ file = old
  settings : ∀ field ∈ fields, ∀ default,
    settingOf yaml (universalNewlines file.content) field.key default = .ok field.value

/-- What the outcome of a call means for a configuration. -/
structure OnlyEdits (yaml : Yaml) (values expected : Dict Json) (s₀ : Shared Locals) (path : Path)
    (outcome : Except ConfigError Unit × Shared Locals) : Prop where
  saved : outcome.1 = .ok () → values.items = [] ∨ ∃ fields old file,
    Submitted expected values.items fields ∧ s₀.files path = some old ∧
      outcome.2.files path = some file ∧ IsEdited yaml fields old file
  unchanged : (∀ source target, .replaced source target ∉ outcome.2.history) →
    outcome.2.files path = s₀.files path
  kept : ∀ key value baseline old node, (key, .str value) ∈ values.items →
    expected.items.lookup key = some (.str baseline) → s₀.files path = some old →
    mainFieldNode yaml (universalNewlines old.content) key = .ok node → node.value ≠ value →
    node.value ≠ baseline → outcome.2.files path = s₀.files path

theorem countP_isReplaced {events : List Event}
    (hnone : ∀ source target, .replaced source target ∉ events) :
    events.countP Event.isReplaced = 0 := by
  refine List.countP_eq_zero.mpr fun event hevent => ?_
  cases event with
  | replaced source target => exact absurd hevent (hnone source target)
  | _ => exact Bool.false_ne_true

theorem Committed.once {text : List Char} {mtime : Nat} (hhistory : s₀.history = [])
    (h : Committed text mtime path s₀ s) : s.history.countP Event.isReplaced = 1 ∧
      .stat path mtime ∈ s.history ∧
      ∀ source target, .replaced source target ∈ s.history → target = path := by
  obtain ⟨later, earlier, hsplit, hnone, hstat⟩ := h.history
  rw [hhistory, List.append_nil] at hsplit
  rw [hsplit]
  refine ⟨?_, List.mem_append_right _ (List.mem_cons_of_mem _ hstat), fun source target hmem => ?_⟩
  · rw [List.countP_append, List.countP_cons,
      countP_isReplaced fun source target hmem =>
        hnone source target (List.mem_append_left _ hmem),
      countP_isReplaced fun source target hmem =>
        hnone source target (List.mem_append_right _ hmem)]
    rfl
  · rcases List.mem_append.mp hmem with hmem | hmem
    · exact absurd (List.mem_append_left _ hmem) (hnone source target)
    · rcases List.mem_cons.mp hmem with heq | hmem
      · exact (Event.replaced.inj heq).2
      · exact absurd (List.mem_append_right _ hmem) (hnone source target)

theorem Unsaved.none (hhistory : s₀.history = []) (h : Unsaved s₀ s) (source target : Path) :
    .replaced source target ∉ s.history := by
  obtain ⟨n, hfollows⟩ := h
  obtain ⟨recent, hrecent, hnone⟩ := hfollows.history
  rw [hrecent, hhistory, List.append_nil]
  exact hnone source target

/-- A configuration that nothing takes the place of is as it was. -/
theorem Unsaved.files (h : Unsaved s₀ s) (hquiet : Quiet s₀ path) :
    s.files path = s₀.files path := by
  obtain ⟨n, hfollows⟩ := h
  rw [hquiet.leads n] at hfollows
  exact hfollows.files path hquiet.alone (not_mem_beside path)

theorem Edited.settings {text new : List Char} (h : Edited yaml fields text new) :
    ∀ field ∈ fields, ∀ default, settingOf yaml new field.key default = .ok field.value := by
  intro field hfield default
  obtain ⟨node, hnode, hvalue, -⟩ := h.readBack field hfield
  rw [settingOf_eq hnode, hvalue]

/-- A configuration of which nothing had to be changed. -/
theorem Unchanged.isEdited (h : Unchanged yaml fields s₀ s) (hquiet : Quiet s₀ path) :
    ∃ old, s₀.files path = some old ∧ s.files path = some old ∧
      IsEdited yaml fields old old := by
  obtain ⟨hfollows, n, old, hold, hedited⟩ := h
  rw [hquiet.leads n] at hold
  refine ⟨old, hold hquiet.alone, ?_, hedited, .inr rfl, hedited.settings⟩
  rw [hfollows.files _ hquiet.alone (Set.notMem_empty _), hold hquiet.alone]

/-- A configuration that has been saved. -/
theorem Saved.isEdited (h : Saved yaml fields s₀ s) (hquiet : Quiet s₀ path) :
    ∃ old file, s₀.files path = some old ∧ s.files path = some file ∧
      IsEdited yaml fields old file := by
  obtain ⟨m, n, old, new, hold, -, hedited, hcommitted⟩ := h
  rw [hquiet.leads m] at hold
  rw [hquiet.leads n] at hcommitted
  obtain ⟨file, hfile, hcontent⟩ := hcommitted.written hquiet.alone hquiet.temporary
  have hread : universalNewlines file.content = new := by
    rw [hcontent]
    exact universalNewlines_of_not_mem (hedited.not_mem (not_mem_universalNewlines _))
  rw [← hread] at hedited
  exact ⟨old, file, hold hquiet.alone, hfile, hedited, .inl (hcontent.trans hread.symm),
    hedited.settings⟩

theorem Saved.careful {values expected : Dict Json} (hhistory : s₀.history = [])
    (hsubmitted : Submitted expected values.items fields) (h : Saved yaml fields s₀ s) :
    s.history.countP Event.isReplaced = 1 ∧ Careful yaml values expected s.history := by
  obtain ⟨m, n, old, new, -, hread, hedited, hcommitted⟩ := h
  obtain ⟨hone, hstat, htarget⟩ := hcommitted.once hhistory
  refine ⟨hone, fun source target hmem => ?_⟩
  rw [htarget source target hmem]
  exact ⟨fields, _, old, new, hsubmitted, hread, hstat, hedited⟩

/-- Where a field is neither as it was displayed nor as it is to be, nothing is saved. -/
theorem Saved.allowed {values expected : Dict Json} {key value baseline : String} {old : File}
    {node : Scalar} (h : Saved yaml fields s₀ s) (hquiet : Quiet s₀ path)
    (hsubmitted : Submitted expected values.items fields)
    (hvalue : (key, .str value) ∈ values.items)
    (hbaseline : expected.items.lookup key = some (.str baseline))
    (hold : s₀.files path = some old)
    (hnode : mainFieldNode yaml (universalNewlines old.content) key = .ok node) :
    node.value = value ∨ node.value = baseline := by
  obtain ⟨m, n, old', new, hold', -, hedited, -⟩ := h
  rw [hquiet.leads m] at hold'
  have hsame : old = old' := Option.some.inj (hold.symm.trans (hold' hquiet.alone))
  obtain ⟨node', hnode', hallowed⟩ := hedited.allowed _ (hsubmitted.mem hvalue hbaseline)
  rw [← hsame, hnode] at hnode'
  rw [Except.ok.inj hnode']
  exact hallowed

/-- **Only what must be is edited, at most once.**  Whatever others do, at most one file is
replaced, and only when it is known to be as it was read and no field in it differs from both the
value that was displayed and the new one.  And a configuration that others leave alone holds what it
held with the spans of the changed fields replaced, and every field reads as it was submitted, when
the call returns; it is as it was when nothing has been replaced, and when a field differs. -/
theorem overview_save (hexact : yaml.Exact) (root : String) (values expected : Dict Json)
    (files : Files) (turns : Nat → Turn) :
    let outcome := (setMainFields yaml root values expected).outcome (start files turns)
    outcome.2.history.countP Event.isReplaced ≤ 1 ∧
      Careful yaml values expected outcome.2.history ∧
      ∀ path, Quiet (start files turns) path →
        OnlyEdits yaml values expected (start files turns) path outcome := by
  intro outcome
  have htriple : Triple (fun s => s = start files turns) (setMainFields yaml root values expected)
      _ _ := triple_setMainFields hexact
  have hafter : After _ _ outcome := htriple (start files turns) rfl
  have hcases : Unsaved (start files turns) outcome.2 ∧ (outcome.1 = .ok () → values.items = [] ∨
      ∃ fields, Submitted expected values.items fields ∧
        Unchanged yaml fields (start files turns) outcome.2) ∨
      ∃ fields, Submitted expected values.items fields ∧
        Saved yaml fields (start files turns) outcome.2 := by
    obtain ⟨result, s⟩ := outcome
    cases result with
    | ok =>
      rcases hafter with ⟨hnil, hfollows⟩ | ⟨fields, hsubmitted, hunchanged | hsaved⟩
      · exact .inl ⟨⟨0, hfollows.mono (Set.empty_subset _)⟩, fun _ => .inl hnil⟩
      · exact .inl ⟨⟨0, hunchanged.1.mono (Set.empty_subset _)⟩,
          fun _ => .inr ⟨fields, hsubmitted, hunchanged⟩⟩
      · exact .inr ⟨fields, hsubmitted, hsaved⟩
    | error error =>
      rcases hafter with hunsaved | hsaved
      · exact .inl ⟨hunsaved, fun h => nomatch h⟩
      · exact .inr hsaved
  rcases hcases with ⟨hunsaved, hok⟩ | ⟨fields, hsubmitted, hsaved⟩
  · have hnone := hunsaved.none rfl
    refine ⟨?_, fun source target hmem => absurd hmem (hnone source target), fun path hquiet => ?_⟩
    · exact (countP_isReplaced hnone).le.trans (Nat.zero_le 1)
    · have hsame := hunsaved.files hquiet
      refine ⟨fun h => (hok h).imp_right ?_, fun _ => hsame, fun _ _ _ _ _ _ _ _ _ _ _ => hsame⟩
      rintro ⟨fields, hsubmitted, hunchanged⟩
      obtain ⟨old, hold, hfile, hedited⟩ := hunchanged.isEdited hquiet
      exact ⟨fields, old, old, hsubmitted, hold, hfile, hedited⟩
  · obtain ⟨hone, hcareful⟩ := hsaved.careful rfl hsubmitted
    refine ⟨hone.le, hcareful, fun path hquiet => ⟨fun _ => .inr ?_, fun hnone => ?_, ?_⟩⟩
    · obtain ⟨old, file, hold, hfile, hedited⟩ := hsaved.isEdited hquiet
      exact ⟨fields, old, file, hsubmitted, hold, hfile, hedited⟩
    · exact absurd (hone.symm.trans (countP_isReplaced hnone)) Nat.one_ne_zero
    · intro key value baseline old node hvalue hbaseline hold hnode hne hne'
      rcases hsaved.allowed hquiet hsubmitted hvalue hbaseline hold hnode with h | h
      · exact absurd h hne
      · exact absurd h hne'

namespace OperatorChange

/-- A main configuration with an operator. -/
def before : List Char := "General:\n  Operator: a\n".toList

/-- It with another one. -/
def after : List Char := "General:\n  Operator: \"b\"\n".toList

/-- What stands in such a configuration. -/
def document (value : String) (stop : Nat) (style : Option Char) : Node :=
  .mapping [(.scalar ⟨strTag, "General", ⟨0, 0⟩, ⟨7, 0⟩, none⟩,
    .mapping [(.scalar ⟨strTag, "Operator", ⟨11, 1⟩, ⟨19, 1⟩, none⟩,
      .scalar ⟨strTag, value, ⟨21, 1⟩, ⟨stop, 1⟩, style⟩)])]

/-- A reader of the two. -/
def reader : Yaml where
  scan _ := ([.other], .ok ())
  compose text :=
    if text = before then .ok (some (document "a" 22 none))
    else if text = after then .ok (some (document "b" 24 (some '"')))
    else .error "expected a main configuration"

theorem spans_document {text : List Char} {value : String} {stop : Nat} {style : Option Char}
    (hstart : 21 < stop) (hstop : stop ≤ text.length) : Spans text (document value stop style) := by
  have hscalars : (document value stop style).scalars =
      [⟨strTag, "General", ⟨0, 0⟩, ⟨7, 0⟩, none⟩, ⟨strTag, "Operator", ⟨11, 1⟩, ⟨19, 1⟩, none⟩,
        ⟨strTag, value, ⟨21, 1⟩, ⟨stop, 1⟩, style⟩] := by
    simp only [document, Node.scalars, scalarsOfEntries, List.append_nil, List.cons_append,
      List.nil_append]
  constructor
  · rw [hscalars]
    simp only [List.pairwise_cons, List.mem_cons, List.not_mem_nil, or_false, forall_eq_or_imp,
      forall_eq, false_implies, implies_true, and_true, List.Pairwise.nil, Scalar.Before]
    decide
  · rw [hscalars]
    simp only [List.mem_cons, List.not_mem_nil, or_false, forall_eq_or_imp, forall_eq]
    exact ⟨fun _ => ⟨by decide, by omega⟩, fun _ => ⟨by decide, by omega⟩,
      fun _ => ⟨hstart, hstop⟩⟩

theorem exact : reader.Exact where
  spans {text root} hcompose _ := by
    unfold reader at hcompose
    dsimp only at hcompose
    split_ifs at hcompose with hbefore hafter
    · obtain rfl := Option.some.inj (Except.ok.inj hcompose)
      exact spans_document (by decide) (by rw [hbefore]; decide)
    · obtain rfl := Option.some.inj (Except.ok.inj hcompose)
      exact spans_document (by decide) (by rw [hafter]; decide)

/-- The operator that is submitted, or displayed. -/
def operator (name : String) : Dict Json := ⟨[("Operator", .str name)], List.nodup_singleton _⟩

/-- Where the configuration is. -/
def main : Path := ⟨"/config", "config-main.yaml".toList⟩

/-- The configuration is there. -/
def files (path : Path) : Option File := if path = main then some ⟨before, 7, 1⟩ else none

/-- Nobody else does anything. -/
def turns (n : Nat) : Turn where
  time := n
  inode := n
  resolved := main

theorem quiet : Quiet (start files turns) main := ⟨fun _ _ => rfl, fun _ _ => rfl, fun _ => rfl⟩

end OperatorChange

/-- Another operator is saved. -/
theorem overview_save_of_operator :
    let outcome := (setMainFields OperatorChange.reader "" (OperatorChange.operator "b")
      (OperatorChange.operator "a")).outcome (start OperatorChange.files OperatorChange.turns)
    outcome.1 = .ok () ∧
      (outcome.2.files OperatorChange.main).map File.content = some OperatorChange.after ∧
      OnlyEdits OperatorChange.reader (OperatorChange.operator "b") (OperatorChange.operator "a")
        (start OperatorChange.files OperatorChange.turns) OperatorChange.main outcome :=
  ⟨by decide +kernel, by decide +kernel, (overview_save OperatorChange.exact "" _ _ _ _).2.2 _
    OperatorChange.quiet⟩

end ConfigStore
end App
end AmigaDrivers
