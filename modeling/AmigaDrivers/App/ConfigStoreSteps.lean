import AmigaDrivers.App.ConfigStore

/-!
# What the helpers of a paired save do

* `triple_checkApplySource`: a check that passes has found the configuration as it was loaded.
* `triple_stageApply`: a staged file is a new one, and holds the text, or a copy.
* `FollowsNew`: what nothing but new temporary files sets apart.
-/

namespace AmigaDrivers
namespace App
namespace ConfigStore

open Effect SharedFiles

/-! ## Names and texts -/

theorem suffix_isSuffix (name : List Char) : suffix name <:+ name := by
  unfold suffix
  dsimp only
  split_ifs
  · exact List.drop_suffix _ _
  · exact List.nil_suffix

/-- What `path.with_suffix(path.suffix + end)` is called. -/
theorem withSuffix_name (path : Path) (ending : List Char) :
    (withSuffix path (suffix path.name ++ ending)).name = path.name ++ ending := by
  obtain ⟨stem, hstem⟩ := suffix_isSuffix path.name
  have htake : path.name.take (path.name.length - (suffix path.name).length) = stem := by
    have hlength : path.name.length - (suffix path.name).length = stem.length := by
      have := congrArg List.length hstem
      rw [List.length_append] at this
      omega
    rw [hlength]
    conv_lhs => rw [← hstem]
    exact List.take_left
  show path.name.take _ ++ (suffix path.name ++ _) = _
  rw [htake, ← List.append_assoc, hstem]

/-- The name of a backup is the name of the file and four characters. -/
theorem backupOf_name (path : Path) : (backupOf path).name = path.name ++ ".bak".toList :=
  withSuffix_name path _

theorem backupOf_injective {path path' : Path} (h : backupOf path = backupOf path') :
    path = path' := by
  have hname := congrArg Path.name h
  rw [backupOf_name, backupOf_name] at hname
  have hparent : (backupOf path).parent = (backupOf path').parent := congrArg Path.parent h
  cases path
  cases path'
  rw [SharedFiles.Path.mk.injEq]
  exact ⟨hparent, List.append_cancel_right hname⟩

/-- A name that `mkstemp` gives. -/
def IsTemporary (path : Path) : Prop :=
  ∃ base random, path.name = '.' :: base ++ ['.'] ++ random ++ ".tmp".toList

theorem not_isTemporary_backupOf (path : Path) : ¬IsTemporary (backupOf path) := by
  rintro ⟨base, random, hname⟩
  rw [backupOf_name] at hname
  have hlast := congrArg List.getLast? hname
  rw [List.getLast?_append_of_ne_nil _ (by decide), List.getLast?_append_of_ne_nil _ (by decide)]
    at hlast
  exact absurd hlast (by decide)

theorem not_mem_universalNewlines (text : List Char) : '\r' ∉ universalNewlines text := by
  induction text using universalNewlines.induct with
  | case1 => exact List.not_mem_nil
  | case2 text ih =>
    rw [universalNewlines]
    exact List.not_mem_cons_of_ne_of_not_mem (by decide) ih
  | case3 text hne ih =>
    rw [universalNewlines.eq_3 _ hne]
    exact List.not_mem_cons_of_ne_of_not_mem (by decide) ih
  | case4 c text hcrlf hcr ih =>
    rw [universalNewlines.eq_4 _ _ hcrlf hcr]
    exact List.not_mem_cons_of_ne_of_not_mem (fun h => hcr h.symm) ih

theorem universalNewlines_of_not_mem {text : List Char} (h : '\r' ∉ text) :
    universalNewlines text = text := by
  induction text using universalNewlines.induct with
  | case1 => rfl
  | case2 text ih => exact absurd List.mem_cons_self h
  | case3 text hne ih => exact absurd List.mem_cons_self h
  | case4 c text hcrlf hcr ih =>
    rw [universalNewlines.eq_4 _ _ hcrlf hcr, ih fun hmem => h (List.mem_cons_of_mem _ hmem)]

/-- A text that has been read reads as itself. -/
theorem universalNewlines_idem (text : List Char) :
    universalNewlines (universalNewlines text) = universalNewlines text :=
  universalNewlines_of_not_mem (not_mem_universalNewlines text)

/-! ## Checks -/

/-- A file is as a configuration was loaded. -/
def Matches (loaded : LoadedConfig) (file : File) : Prop :=
  universalNewlines file.content = loaded.text ∧ file.mtime = loaded.mtime

variable {s₀ : Shared Locals}

theorem triple_requireWritable :
    Triple (fun s => s = s₀) requireWritable (fun _ s => Follows ∅ s₀ s)
      (fun _ s => Follows ∅ s₀ s) := by
  unfold requireWritable
  refine .bind (Q := fun _ s => Follows ∅ s₀ s) (triple_call ?_ ?_) fun _ => .pure fun _ hs => hs
  · rintro s rfl
    exact follows_turned
  · rintro fault s rfl
    exact follows_turned

theorem triple_applyFile {file : ConfigFile} :
    Triple (fun s => s = s₀) (applyFile file) (fun _ s => Follows ∅ s₀ s)
      (fun _ s => Follows ∅ s₀ s) := by
  unfold applyFile
  refine .bind (Q := fun _ s => Follows ∅ s₀ s) (triple_call ?_ ?_) fun _ => .pure fun _ hs => hs
  · rintro s rfl
    exact follows_turned
  · rintro fault s rfl
    exact follows_turned

/-- What has been read at a path, and is still there if others leave it alone. -/
def Found (path : Path) (file : File) (s₀ s : Shared Locals) : Prop :=
  (s₀.Alone path → s₀.files path = some file) ∧ lastRead path s.history = some (some file)

theorem triple_readFile {cf : ConfigFile} :
    Triple (fun s => s = s₀) (readFile cf)
      (fun latest s => Follows ∅ s₀ s ∧ ∃ file, Found cf.path file s₀ s ∧ Matches latest file)
      (fun _ s => Follows ∅ s₀ s) := by
  unfold readFile
  refine .bind triple_read fun before => .each ?_
  rintro s₁ ⟨hfollows₁, hfound, hlast⟩
  refine .bind (triple_stat.conseq (fun _ h => h) (fun _ _ h => h)
    fun _ s h => hfollows₁.trans h) fun after => .ite (fun _ => .throw ?_) fun _ => .pure ?_
  · rintro s ⟨hfollows, -⟩
    exact hfollows₁.trans hfollows
  · rintro s ⟨hfollows, -, hhistory⟩
    refine ⟨hfollows₁.trans hfollows, before, ⟨hfound, ?_⟩, rfl, rfl⟩
    rw [hhistory]
    exact hlast

theorem triple_readLatest {current : ConfigFile} :
    Triple (fun s => s = s₀) (readLatest current)
      (fun latest s => Follows ∅ s₀ s ∧
        ∃ file, Found current.path file s₀ s ∧ Matches latest file)
      (fun _ s => Follows ∅ s₀ s) := by
  refine .tryCatch triple_readFile fun error => ?_
  split
  · exact .throw fun _ hs => hs
  · exact .throw fun _ hs => hs

/-- **A check that passes** has found the file as the configuration was loaded. -/
theorem triple_checkApplySource {loaded : LoadedConfig} :
    Triple (fun s => s = s₀) (checkApplySource loaded)
      (fun _ s => Follows ∅ s₀ s ∧ ∃ file, Found loaded.path file s₀ s ∧ Matches loaded file)
      (fun _ s => Follows ∅ s₀ s) := by
  unfold checkApplySource
  refine .bind triple_applyFile fun current => .ite (fun _ => .throw fun _ hs => hs)
    fun hpath => .each fun s₁ hfollows₁ => ?_
  rw [Ne, not_not] at hpath
  refine .bind (triple_readLatest.conseq (fun _ h => h) (fun _ _ h => h)
    fun _ s h => hfollows₁.trans h) fun latest => .ite (fun _ => .throw ?_) fun hsame => .pure ?_
  · rintro s ⟨hfollows, -⟩
    exact hfollows₁.trans hfollows
  · rintro s ⟨hfollows, file, ⟨hfound, hlast⟩, htext, hmtime⟩
    rw [not_or, Ne, Ne, not_not, not_not] at hsame
    rw [hpath] at hfound hlast
    refine ⟨hfollows₁.trans hfollows, file, ⟨fun halone => ?_, hlast⟩, ?_, ?_⟩
    · rw [← hfollows₁.files _ halone (Set.notMem_empty _)]
      exact hfound (hfollows₁.alone.mpr halone)
    · rw [htext, hsame.2]
    · rw [hmtime, hsame.1]

/-! ## Staged files -/

/-- The paths of new temporary files: no file is there that others leave alone. -/
def newPaths (s : Shared Locals) : Set Path :=
  {path | IsTemporary path ∧ (s.Alone path → s.files path = none)}

/-- What nothing but new temporary files sets apart. -/
abbrev FollowsNew (s s' : Shared Locals) : Prop := Follows (newPaths s) s s'

theorem FollowsNew.trans {s s' s'' : Shared Locals} (h : FollowsNew s s')
    (h' : FollowsNew s' s'') : FollowsNew s s'' := by
  have hold {path : Path} (halone : s.Alone path) (hnot : path ∉ newPaths s) :
      path ∉ newPaths s' := by
    rintro ⟨htemporary, hnone⟩
    refine hnot ⟨htemporary, fun _ => ?_⟩
    rw [← h.files path halone hnot]
    exact hnone (h.alone.mpr halone)
  have hall : Follows Set.univ s s'' := (h.mono (Set.subset_univ _)).trans
    (h'.mono (Set.subset_univ _))
  refine ⟨hall.turns, hall.locals, fun path halone hnot => ?_, hall.history⟩
  rw [h'.files path (h.alone.mpr halone) (hold halone hnot), h.files path halone hnot]

/-- The text that a staged file holds, or the content that it is a copy of. -/
def Holds (loaded : LoadedConfig) (text : Option (List Char)) (path : Path)
    (s₀ : Shared Locals) (file : File) : Prop :=
  match text with
  | some text => file.content = text
  | none => s₀.Alone loaded.path → loaded.path ≠ path →
      ∃ original, s₀.files loaded.path = some original ∧ file.content = original.content

/-- **A staged file** is a new one and holds the text, or a copy. -/
theorem triple_stageApply {loaded : LoadedConfig} {text : Option (List Char)} :
    Triple (fun s => s = s₀) (stageApply loaded text)
      (fun path s => path ∈ newPaths s₀ ∧ Follows {path} s₀ s ∧
        ∃ file, (s₀.Alone path → s.files path = some file) ∧ Holds loaded text path s₀ file)
      (fun _ s => FollowsNew s₀ s) := by
  unfold stageApply
  refine .bind (triple_mkstemp.conseq (fun _ h => h) (fun _ _ h => h)
    fun _ _ h => h.mono (Set.empty_subset _)) fun path => .each ?_
  rintro s₁ ⟨⟨random, hpath⟩, hnone, hfollows₁, -⟩
  have hnew : path ∈ newPaths s₀ := by
    refine ⟨⟨loaded.path.name, random, ?_⟩, hnone⟩
    rw [hpath]
  have hsub : ({path} : Set Path) ⊆ newPaths s₀ := Set.singleton_subset_iff.mpr hnew
  refine .bind (Q := fun _ s => Follows {path} s₀ s) (triple_call ?_ ?_) fun _ => .each ?_
  · rintro s rfl
    exact hfollows₁.trans follows_turned
  · rintro fault s rfl
    exact (hfollows₁.trans follows_turned).mono hsub
  · intro s₂ hfollows₂
    refine .tryCatch (E := fun _ s => Follows {path} s₀ s) ?_ fun error => ?_
    · refine .bind (triple_copy2.conseq (fun _ h => h) (fun _ _ h => h)
        fun _ _ h => hfollows₂.trans h) fun _ => .each ?_
      rintro s₃ ⟨hfollows₃, file, copy, hcopy, hcontent, hsource⟩
      cases text with
      | none =>
        refine .pure ?_
        rintro s rfl
        refine ⟨hnew, hfollows₂.trans hfollows₃, copy, fun _ => hcopy, fun halone hne => ?_⟩
        refine ⟨file, ?_, hcontent⟩
        rw [← hfollows₂.files _ halone (Set.notMem_singleton_iff.mpr hne)]
        exact hsource (hfollows₂.alone.mpr halone)
      | some text =>
        refine .bind (triple_writeText.conseq (fun _ h => h) (fun _ _ h => h)
          fun _ _ h => hfollows₂.trans (hfollows₃.trans h)) fun _ => .pure ?_
        rintro s ⟨hfollows, written, hwritten, htext⟩
        exact ⟨hnew, hfollows₂.trans (hfollows₃.trans hfollows), written, fun _ => hwritten, htext⟩
    · refine .each fun s₃ hfollows₃ => ?_
      refine .bind (Q := fun _ s => Follows {path} s₀ s) (triple_unlink.conseq (fun _ h => h)
        (fun _ _ h => hfollows₃.trans h) fun _ _ h => h.elim) fun _ => .throw ?_
      exact fun _ h => h.mono hsub

end ConfigStore
end App
end AmigaDrivers
