import AmigaDrivers.App.ConfigStoreSteps
import Mathlib.Data.List.Nodup

/-!
# A paired save is all or nothing

One of the targets is looked at, whatever happens to the others.

* `Saving`: what holds of the files while a pair is saved.
* `triple_publish`: the `try` block gives the target its new text and keeps a backup, or breaks off
  with the old text or a record of the replacement.
* `triple_undo`: the handler has restored the target, or says that it has not.
* `triple_saveAcquisitionPair`: all of it.
-/

namespace AmigaDrivers
namespace App
namespace ConfigStore

open Effect SharedFiles

variable {s₀ s s' : Shared Locals} {edits unique : List Edit} {held : List Staged} {p : Path}
  {text : List Char}

/-! ## What is settled first -/

/-- A list of edits without repetitions, for a list of edits that have been checked. -/
structure Gathered (s₀ : Shared Locals) (edits unique : List Edit) : Prop where
  subset : ∀ edit ∈ unique, edit ∈ edits
  covers : ∀ edit ∈ edits, ∃ edit' ∈ unique, edit'.1.path = edit.1.path ∧ edit'.2 = edit.2
  nodup : (unique.map fun edit => edit.1.path).Nodup
  loaded : ∀ edit ∈ unique, s₀.Alone edit.1.path →
    ∃ file, s₀.files edit.1.path = some file ∧ Matches edit.1 file

theorem previous_eq_none {path : Path} :
    previous unique path = none ↔ ∀ edit ∈ unique, edit.1.path ≠ path := by
  simp [previous]

theorem previous_eq_some {path : Path} {edit : Edit} (h : previous unique path = some edit) :
    edit ∈ unique ∧ edit.1.path = path := by
  unfold previous at h
  exact ⟨List.mem_of_find?_eq_some h, by simpa using List.find?_some h⟩

/-- An edit of a new path. -/
theorem Gathered.append {edit : Edit} (h : Gathered s₀ edits unique)
    (hnew : previous unique edit.1.path = none)
    (hloaded : s₀.Alone edit.1.path →
      ∃ file, s₀.files edit.1.path = some file ∧ Matches edit.1 file) :
    Gathered s₀ (edits ++ [edit]) (unique ++ [edit]) := by
  refine ⟨fun e he => ?_, fun e he => ?_, ?_, fun e he => ?_⟩
  · rcases List.mem_append.mp he with he | he
    · exact List.mem_append_left _ (h.subset e he)
    · exact List.mem_append_right _ he
  · rcases List.mem_append.mp he with he | he
    · obtain ⟨e', he', hsame⟩ := h.covers e he
      exact ⟨e', List.mem_append_left _ he', hsame⟩
    · rw [List.mem_singleton.mp he]
      exact ⟨edit, List.mem_append_right _ (List.mem_singleton_self _), rfl, rfl⟩
  · rw [List.map_append, List.map_singleton]
    refine h.nodup.append (List.nodup_singleton _) (List.disjoint_singleton.mpr ?_)
    rw [List.mem_map]
    rintro ⟨e, he, hpath⟩
    exact previous_eq_none.mp hnew e he hpath
  · rcases List.mem_append.mp he with he | he
    · exact h.loaded e he
    · rw [List.mem_singleton.mp he]
      exact hloaded

/-- One more edit of a path. -/
theorem Gathered.again {edit edit' : Edit} (h : Gathered s₀ edits unique) (hmem : edit' ∈ unique)
    (hpath : edit'.1.path = edit.1.path) (htext : edit'.2 = edit.2) :
    Gathered s₀ (edits ++ [edit]) unique := by
  refine ⟨fun e he => List.mem_append_left _ (h.subset e he), fun e he => ?_, h.nodup, h.loaded⟩
  rcases List.mem_append.mp he with he | he
  · exact h.covers e he
  · rw [List.mem_singleton.mp he]
    exact ⟨edit', hmem, hpath, htext⟩

theorem triple_gather {done : List Edit} :
    Triple (fun s => Follows ∅ s₀ s ∧ Gathered s₀ done unique) (gather unique edits)
      (fun unique s => Follows ∅ s₀ s ∧ Gathered s₀ (done ++ edits) unique)
      (fun _ s => Follows ∅ s₀ s) := by
  induction edits generalizing done unique with
  | nil =>
    refine .pure fun s hs => ?_
    rw [List.append_nil]
    exact hs
  | cons edit edits ih =>
    obtain ⟨loaded, text⟩ := edit
    unfold gather
    refine .each ?_
    rintro s₁ ⟨hfollows₁, hgathered⟩
    refine .bind (triple_checkApplySource.conseq (fun _ h => h) (fun _ _ h => h)
      fun _ _ h => hfollows₁.trans h) fun _ => .each ?_
    rintro s₂ ⟨hfollows₂, file, ⟨hfound, -⟩, hmatches⟩
    have hfollows := hfollows₁.trans hfollows₂
    have happend : done ++ (loaded, text) :: edits = (done ++ [(loaded, text)]) ++ edits := by
      rw [List.append_assoc, List.singleton_append]
    rw [happend]
    split
    · rename_i hnew
      refine ih.conseq ?_ (fun _ _ h => h) fun _ _ h => h
      rintro s rfl
      refine ⟨hfollows, hgathered.append hnew fun halone => ⟨file, ?_, hmatches⟩⟩
      rw [← hfollows₁.files _ halone (Set.notMem_empty _)]
      exact hfound (hfollows₁.alone.mpr halone)
    · rename_i edit hedit
      refine .ite (fun _ => .throw fun s hs => hs ▸ hfollows) fun htext => ?_
      obtain ⟨hmem, hpath⟩ := previous_eq_some hedit
      refine ih.conseq ?_ (fun _ _ h => h) fun _ _ h => h
      rintro s rfl
      exact ⟨hfollows, hgathered.again hmem hpath (not_not.mp htext)⟩

/-- No backup is among the targets. -/
theorem triple_checkBackups :
    Triple (fun s => Follows ∅ s₀ s) (checkBackups unique edits)
      (fun _ s => Follows ∅ s₀ s ∧ ∀ edit ∈ edits, ∀ edit' ∈ unique,
        edit'.1.path ≠ backupOf edit.1.path)
      (fun _ s => Follows ∅ s₀ s) := by
  induction edits with
  | nil => exact .pure fun s hs => ⟨hs, fun _ h => absurd h List.not_mem_nil⟩
  | cons edit edits ih =>
    obtain ⟨loaded, text⟩ := edit
    unfold checkBackups
    have hcall : Triple (fun s => Follows ∅ s₀ s) (call : Io Turn) (fun _ s => Follows ∅ s₀ s)
        (fun _ s => Follows ∅ s₀ s) :=
      triple_call (fun _ h => h.trans follows_turned) fun _ _ h => h.trans follows_turned
    refine .bind hcall fun _ => .ite (fun _ => .throw fun _ h => h) fun _ =>
      .ite (fun _ => .throw fun _ h => h) fun hnone =>
      .bind hcall fun _ => .ite (fun _ => .throw fun _ h => h) fun _ => ?_
    refine ih.conseq (fun _ h => h) (fun _ s h => ⟨h.1, ?_⟩) fun _ _ h => h
    intro edit hedit
    rcases List.mem_cons.mp hedit with rfl | hedit
    · exact previous_eq_none.mp (Option.not_isSome_iff_eq_none.mp hnone)
    · exact h.2 edit hedit

/-! ## While a pair is saved -/

/-- Others leave a target, its backup and the temporary files alone. -/
structure Undisturbed (s : Shared Locals) (p : Path) : Prop where
  target : s.Alone p
  backup : s.Alone (backupOf p)
  temporary : ∀ path, IsTemporary path → s.Alone path

/-- What is settled before the first file is made. -/
structure Settled (s₀ : Shared Locals) (edits unique : List Edit) : Prop
    extends Gathered s₀ edits unique where
  backups : ∀ edit ∈ unique, ∀ edit' ∈ unique, edit'.1.path ≠ backupOf edit.1.path

/-- The temporary files that are no targets. -/
def apart (unique : List Edit) : Set Path :=
  {path | IsTemporary path ∧ ∀ edit ∈ unique, edit.1.path ≠ path}

/-- What holds of the files while a pair is saved: a target that has the name of a temporary file
is there, no temporary file is a target, and the staged ones hold their texts. -/
structure Saving (s₀ : Shared Locals) (unique : List Edit) (held : List Staged)
    (s : Shared Locals) : Prop where
  turns : s.turns = s₀.turns
  temporary : ∀ path ∈ s.locals.temporary, path ∈ apart unique
  present : ∀ edit ∈ unique, IsTemporary edit.1.path → s.files edit.1.path ≠ none
  texts : ∀ staged ∈ held, staged.2.2 ∈ apart unique ∧
    ∃ file, s.files staged.2.2 = some file ∧ file.content = staged.2.1
  nodup : (held.map fun staged => staged.2.2).Nodup

theorem Saving.alone (h : Saving s₀ unique held s) {path : Path} :
    s.Alone path ↔ s₀.Alone path := by
  unfold Shared.Alone
  rw [h.turns]

/-- Where others leave the temporary files alone, a target is none of the new ones. -/
theorem Saving.not_new (h : Saving s₀ unique held s)
    (hquiet : ∀ path, IsTemporary path → s₀.Alone path) {edit : Edit} (hedit : edit ∈ unique) :
    edit.1.path ∉ newPaths s := by
  rintro ⟨htemporary, hnone⟩
  exact h.present edit hedit htemporary (hnone (h.alone.mpr (hquiet _ htemporary)))

theorem Saving.new_apart (h : Saving s₀ unique held s)
    (hquiet : ∀ path, IsTemporary path → s₀.Alone path) {path : Path} (hnew : path ∈ newPaths s) :
    path ∈ apart unique := by
  refine ⟨hnew.1, fun edit hedit heq => h.not_new hquiet hedit ?_⟩
  rw [heq]
  exact hnew

/-- A staged file is none of the new ones. -/
theorem Saving.held_not_new (h : Saving s₀ unique held s)
    (hquiet : ∀ path, IsTemporary path → s₀.Alone path) {staged : Staged}
    (hstaged : staged ∈ held) : staged.2.2 ∉ newPaths s := by
  obtain ⟨⟨htemporary, -⟩, file, hfile, -⟩ := h.texts staged hstaged
  rintro ⟨-, hnone⟩
  rw [hnone (h.alone.mpr (hquiet _ htemporary))] at hfile
  exact nomatch hfile

/-- New temporary files change nothing. -/
theorem Saving.follows (h : Saving s₀ unique held s)
    (hquiet : ∀ path, IsTemporary path → s₀.Alone path) (hf : FollowsNew s s') :
    Saving s₀ unique held s' where
  turns := hf.turns.trans h.turns
  temporary := by
    rw [hf.locals]
    exact h.temporary
  present edit hedit htemporary := by
    rw [hf.files _ (h.alone.mpr (hquiet _ htemporary)) (h.not_new hquiet hedit)]
    exact h.present edit hedit htemporary
  texts staged hstaged := by
    obtain ⟨hapart, hfile⟩ := h.texts staged hstaged
    refine ⟨hapart, ?_⟩
    rw [hf.files _ (h.alone.mpr (hquiet _ hapart.1)) (h.held_not_new hquiet hstaged)]
    exact hfile
  nodup := h.nodup

/-- One more file to remove in the end. -/
def withTemporary (path : Path) (s : Shared Locals) : Shared Locals :=
  { s with locals := { s.locals with temporary := s.locals.temporary ++ [path] } }

theorem Saving.withTemporary (h : Saving s₀ unique held s) {path : Path}
    (hpath : path ∈ apart unique) : Saving s₀ unique held (withTemporary path s) where
  turns := h.turns
  temporary path' hpath' := by
    rcases List.mem_append.mp hpath' with hpath' | hpath'
    · exact h.temporary path' hpath'
    · rw [List.mem_singleton.mp hpath']
      exact hpath
  present := h.present
  texts := h.texts
  nodup := h.nodup

/-- A replacement takes a temporary file, and no staged one, to where no staged one is. -/
theorem Saving.replaced (h : Saving s₀ unique held s)
    (hquiet : ∀ path, IsTemporary path → s₀.Alone path) {source target : Path}
    (hr : Replaced source target s s') (hsource : source ∈ apart unique)
    (hheld : ∀ staged ∈ held, staged.2.2 ≠ source) (htarget : target ∉ apart unique) :
    Saving s₀ unique held s' where
  turns := hr.turns.trans h.turns
  temporary := by
    rw [hr.locals]
    exact h.temporary
  present edit hedit htemporary := by
    by_cases heq : edit.1.path = target
    · rw [heq]
      exact hr.there
    · rw [hr.files _ (h.alone.mpr (hquiet _ htemporary)) (hsource.2 edit hedit) heq]
      exact h.present edit hedit htemporary
  texts staged hstaged := by
    obtain ⟨hapart, hfile⟩ := h.texts staged hstaged
    refine ⟨hapart, ?_⟩
    have hne : staged.2.2 ≠ target := by
      intro heq
      rw [heq] at hapart
      exact htarget hapart
    rw [hr.files _ (h.alone.mpr (hquiet _ hapart.1)) (hheld staged hstaged) hne]
    exact hfile
  nodup := h.nodup

/-- Some of the staged files may be forgotten. -/
theorem Saving.sublist {held' : List Staged} (h : Saving s₀ unique held s)
    (hsub : held'.Sublist held) : Saving s₀ unique held' s where
  turns := h.turns
  temporary := h.temporary
  present := h.present
  texts staged hstaged := h.texts staged (hsub.subset hstaged)
  nodup := h.nodup.sublist (hsub.map _)

/-- One more staged file. -/
theorem Saving.append {staged : Staged} (h : Saving s₀ unique held s)
    (hapart : staged.2.2 ∈ apart unique) (hne : ∀ staged' ∈ held, staged'.2.2 ≠ staged.2.2)
    (hfile : ∃ file, s.files staged.2.2 = some file ∧ file.content = staged.2.1) :
    Saving s₀ unique (held ++ [staged]) s where
  turns := h.turns
  temporary := h.temporary
  present := h.present
  texts staged' hstaged' := by
    rcases List.mem_append.mp hstaged' with hstaged' | hstaged'
    · exact h.texts staged' hstaged'
    · rw [List.mem_singleton.mp hstaged']
      exact ⟨hapart, hfile⟩
  nodup := by
    rw [List.map_append, List.map_singleton]
    refine h.nodup.append (List.nodup_singleton _) (List.disjoint_singleton.mpr ?_)
    rw [List.mem_map]
    rintro ⟨staged', hstaged', heq⟩
    exact hne staged' hstaged' heq

/-- A staged file is a new one, and the others are still there. -/
theorem triple_stage {loaded : LoadedConfig} {text : Option (List Char)}
    (hquiet : ∀ path, IsTemporary path → s₀.Alone path) (h : Saving s₀ unique held s) :
    Triple (fun t => t = s) (stageApply loaded text)
      (fun path t => Saving s₀ unique held t ∧ FollowsNew s t ∧ path ∈ apart unique ∧
        (∀ staged ∈ held, staged.2.2 ≠ path) ∧
        ∃ file, t.files path = some file ∧ Holds loaded text path s file)
      (fun _ t => Saving s₀ unique held t ∧ FollowsNew s t) := by
  refine triple_stageApply.conseq (fun _ h => h) (fun path t ht => ?_)
    fun _ t ht => ⟨h.follows hquiet ht, ht⟩
  obtain ⟨hnew, hfollows, file, hfile, hholds⟩ := ht
  have hnews : FollowsNew s t := hfollows.mono (Set.singleton_subset_iff.mpr hnew)
  refine ⟨h.follows hquiet hnews, hnews, h.new_apart hquiet hnew, fun staged hstaged heq => ?_,
    file, hfile (h.alone.mpr (hquiet _ hnew.1)), hholds⟩
  refine h.held_not_new hquiet hstaged ?_
  rw [heq]
  exact hnew

/-! ## Before the first replacement -/

section Target

variable (hp : ∃ edit ∈ unique, edit.1.path = p) (hquiet : Undisturbed s₀ p)

include hp hquiet

/-- The target is none of the new files. -/
theorem Saving.target_follows (h : Saving s₀ unique held s) (hf : FollowsNew s s') :
    s'.files p = s.files p := by
  obtain ⟨edit, hedit, rfl⟩ := hp
  exact hf.files _ (h.alone.mpr hquiet.target) (h.not_new hquiet.temporary hedit)

omit hp in
/-- Its backup is none either. -/
theorem Saving.backup_follows (h : Saving s₀ unique held s) (hf : FollowsNew s s') :
    s'.files (backupOf p) = s.files (backupOf p) :=
  hf.files _ (h.alone.mpr hquiet.backup) fun hnew => not_isTemporary_backupOf p hnew.1

end Target

/-- Nothing has been replaced, and the target is as it was. -/
structure Before (s₀ : Shared Locals) (unique : List Edit) (held : List Staged) (p : Path)
    (s : Shared Locals) : Prop extends Saving s₀ unique held s where
  target : s.files p = s₀.files p
  committed : s.locals.committed = []

section Loops

variable (hp : ∃ edit ∈ unique, edit.1.path = p) (hquiet : Undisturbed s₀ p)

include hp hquiet

theorem Before.follows (h : Before s₀ unique held p s) (hf : FollowsNew s s') :
    Before s₀ unique held p s' where
  toSaving := h.toSaving.follows hquiet.temporary hf
  target := (h.toSaving.target_follows hp hquiet hf).trans h.target
  committed := by
    rw [hf.locals]
    exact h.committed

theorem triple_stageAll :
    Triple (fun s => Before s₀ unique held p s) (stageAll edits)
      (fun staged s => Before s₀ unique (held ++ staged) p s ∧
        staged.map (fun staged => (staged.1, staged.2.1)) = edits)
      (fun _ s => Before s₀ unique [] p s) := by
  induction edits generalizing held with
  | nil =>
    refine .pure fun s hs => ⟨?_, rfl⟩
    rw [List.append_nil]
    exact hs
  | cons edit edits ih =>
    obtain ⟨loaded, text⟩ := edit
    unfold stageAll
    refine .each fun s₁ h₁ => ?_
    refine .bind ((triple_stage hquiet.temporary h₁.toSaving).conseq (fun _ h => h)
      (fun _ _ h => h) fun _ s hs => ?_) fun path => ?_
    · have := h₁.follows hp hquiet hs.2
      exact ⟨this.toSaving.sublist (List.nil_sublist _), this.target, this.committed⟩
    · refine .bind (Q := fun _ s => Before s₀ unique (held ++ [(loaded, text, path)]) p s)
        (.modify ?_) fun _ => ?_
      · rintro s ⟨hsaving, hfollows, hapart, hne, file, hfile, hholds⟩
        have hbefore := h₁.follows hp hquiet hfollows
        have hstaged : Saving s₀ unique (held ++ [(loaded, text, path)]) s :=
          hsaving.append hapart hne ⟨file, hfile, hholds⟩
        exact ⟨hstaged.withTemporary hapart, hbefore.target, hbefore.committed⟩
      · refine .bind ih fun staged => .pure ?_
        rintro s ⟨hbefore, hmap⟩
        rw [List.append_assoc] at hbefore
        exact ⟨hbefore, by rw [List.map_cons, hmap]⟩

theorem triple_checkAll :
    Triple (fun s => Before s₀ unique held p s) (checkAll edits)
      (fun _ s => Before s₀ unique held p s) (fun _ s => Before s₀ unique held p s) := by
  induction edits with
  | nil => exact .pure fun _ hs => hs
  | cons edit edits ih =>
    unfold checkAll
    refine .each fun s₁ h₁ => .bind (Q := fun _ s => Before s₀ unique held p s) ?_ fun _ => ih
    refine triple_checkApplySource.conseq (fun _ h => h) (fun _ s hs => ?_) fun _ s hs => ?_
    · exact h₁.follows hp hquiet (hs.1.mono (Set.empty_subset _))
    · exact h₁.follows hp hquiet (hs.mono (Set.empty_subset _))

end Loops

/-! ## Backups -/

/-- The backup of the target holds what the target held. -/
def BackedUp (s₀ : Shared Locals) (p : Path) (s : Shared Locals) : Prop :=
  ∃ backup original, s.files (backupOf p) = some backup ∧ s₀.files p = some original ∧
    backup.content = original.content

theorem not_apart_backupOf (path : Path) : backupOf path ∉ apart unique := fun h =>
  not_isTemporary_backupOf path h.1

section Loops

variable {φ : Prop} (hsettled : Settled s₀ edits unique)
  (hp : ∃ edit ∈ unique, edit.1.path = p) (hquiet : Undisturbed s₀ p)

include hsettled hp hquiet

/-- One backup. -/
theorem triple_backUp {loaded : LoadedConfig} (hloaded : ∃ edit ∈ unique, edit.1 = loaded) :
    Triple (fun s => Before s₀ unique held p s ∧ (φ → BackedUp s₀ p s)) (backUp loaded)
      (fun _ s => Before s₀ unique held p s ∧ (φ ∨ loaded.path = p → BackedUp s₀ p s))
      (fun _ s => Before s₀ unique [] p s) := by
  have hforget {t : Shared Locals} (ht : Before s₀ unique held p t) : Before s₀ unique [] p t :=
    ⟨ht.toSaving.sublist (List.nil_sublist _), ht.target, ht.committed⟩
  refine .each fun s₁ h₁ => ?_
  obtain ⟨h₁, hbacked⟩ := h₁
  refine .bind ((triple_stage hquiet.temporary h₁.toSaving).conseq (fun _ h => h)
    (fun _ _ h => h) fun _ s hs => hforget (h₁.follows hp hquiet hs.2)) fun path => .each ?_
  rintro s₂ ⟨hsaving₂, hfollows, hapart, hne, file, hfile, hholds⟩
  have h₂ := h₁.follows hp hquiet hfollows
  have h₃ : Before s₀ unique held p (withTemporary path s₂) :=
    ⟨hsaving₂.withTemporary hapart, h₂.target, h₂.committed⟩
  refine .bind (Q := fun _ s => s = withTemporary path s₂) (.modify ?_) fun _ => ?_
  · rintro s rfl
    rfl
  refine triple_replace.conseq (fun _ h => h) (fun _ s hr => ?_) fun _ s hs =>
    hforget (h₃.follows hp hquiet (hs.mono (Set.empty_subset _)))
  obtain ⟨edit, hedit, rfl⟩ := hp
  obtain ⟨edit', hedit', rfl⟩ := hloaded
  have halone {x : Path} (hx : s₀.Alone x) : (withTemporary path s₂).Alone x :=
    h₃.toSaving.alone.mpr hx
  refine ⟨⟨h₃.toSaving.replaced hquiet.temporary hr hapart hne (not_apart_backupOf _), ?_, ?_⟩, ?_⟩
  · rw [hr.files _ (halone hquiet.target) (hapart.2 edit hedit)
      (hsettled.backups edit' hedit' edit hedit)]
    exact h₃.target
  · rw [hr.locals]
    exact h₃.committed
  · by_cases hsame : edit'.1.path = edit.1.path
    · rintro -
      obtain ⟨original, horiginal, hcontent⟩ := hholds
        (h₁.toSaving.alone.mpr (hsame ▸ hquiet.target)) (hapart.2 edit' hedit')
      refine ⟨file, original, ?_, ?_, hcontent⟩
      · rw [← hsame, hr.moved (halone (hquiet.temporary path hapart.1))]
        exact hfile
      · rw [← h₁.target, ← hsame]
        exact horiginal
    · intro hφ
      obtain ⟨backup, original, hbackup, horiginal, hcontent⟩ :=
        hbacked (hφ.resolve_right hsame)
      refine ⟨backup, original, ?_, horiginal, hcontent⟩
      have hsource : backupOf edit.1.path ≠ path := fun heq =>
        not_isTemporary_backupOf edit.1.path (heq ▸ hapart.1)
      rw [hr.files _ (halone hquiet.backup) hsource fun heq => hsame (backupOf_injective heq).symm]
      show s₂.files _ = _
      rw [h₁.toSaving.backup_follows hquiet hfollows]
      exact hbackup

theorem triple_backUpAll {staged : List Staged}
    (hstaged : ∀ x ∈ staged, (x.1, x.2.1) ∈ unique) :
    Triple (fun s => Before s₀ unique held p s ∧ (φ → BackedUp s₀ p s)) (backUpAll staged)
      (fun _ s => Before s₀ unique held p s ∧
        (φ ∨ (∃ x ∈ staged, x.1.path = p) → BackedUp s₀ p s))
      (fun _ s => Before s₀ unique [] p s) := by
  induction staged generalizing φ with
  | nil =>
    refine .pure fun s hs => ⟨hs.1, fun h => hs.2 (h.resolve_right ?_)⟩
    rintro ⟨x, hx, -⟩
    exact List.not_mem_nil hx
  | cons x staged ih =>
    obtain ⟨loaded, text, path⟩ := x
    have hloaded : ∃ edit ∈ unique, edit.1 = loaded :=
      ⟨(loaded, text), hstaged _ List.mem_cons_self, rfl⟩
    have hone : Triple (fun s => Before s₀ unique held p s ∧ (φ → BackedUp s₀ p s)) _ _ _ :=
      triple_backUp hsettled hp hquiet hloaded
    have hrest := ih (φ := φ ∨ loaded.path = p) fun y hy => hstaged y (List.mem_cons_of_mem _ hy)
    refine (Triple.bind hone fun _ => hrest).conseq (fun _ h => h)
      (fun _ s hs => ⟨hs.1, fun h => hs.2 ?_⟩) fun _ _ h => h
    rcases h with h | ⟨x, hx, hpath⟩
    · exact .inl (.inl h)
    · rcases List.mem_cons.mp hx with rfl | hx
      · exact .inl (.inr hpath)
      · exact .inr ⟨x, hx, hpath⟩

end Loops

/-! ## Replacements -/

/-- The target holds its new text. -/
def Written (p : Path) (text : List Char) (s : Shared Locals) : Prop :=
  ∃ file, s.files p = some file ∧ file.content = text

/-- Some targets have been replaced: if the one that is looked at is not as it was, the handler
knows of it. -/
structure During (s₀ : Shared Locals) (unique : List Edit) (held : List Staged) (p : Path)
    (s : Shared Locals) : Prop extends Saving s₀ unique held s where
  committed : ∀ c ∈ s.locals.committed, c.2.file = c.1.file ∧ ∃ edit ∈ unique, edit.1 = c.1
  target : s.files p = s₀.files p ∨ ∃ c ∈ s.locals.committed, c.1.path = p

/-- The staged files may be forgotten. -/
theorem During.forget (h : During s₀ unique held p s) : During s₀ unique [] p s :=
  ⟨h.toSaving.sublist (List.nil_sublist _), h.committed, h.target⟩

theorem Before.during (h : Before s₀ unique held p s) : During s₀ unique held p s := by
  refine ⟨h.toSaving, ?_, .inl h.target⟩
  rw [h.committed]
  exact fun _ hc => absurd hc List.not_mem_nil

section Loops

variable {φ : Prop} (hsettled : Settled s₀ edits unique)
  (hp : ∃ edit ∈ unique, edit.1.path = p) (hquiet : Undisturbed s₀ p)

include hp hquiet

theorem During.follows (h : During s₀ unique held p s) (hf : FollowsNew s s') :
    During s₀ unique held p s' where
  toSaving := h.toSaving.follows hquiet.temporary hf
  committed := by
    rw [hf.locals]
    exact h.committed
  target := by
    rw [hf.locals, h.toSaving.target_follows hp hquiet hf]
    exact h.target

include hsettled

/-- One replacement. -/
theorem triple_commit {loaded : LoadedConfig} {new : List Char} {path : Path}
    (hedit : (loaded, new) ∈ unique) (htext : loaded.path = p → new = text) :
    Triple (fun s => During s₀ unique ((loaded, new, path) :: held) p s ∧ BackedUp s₀ p s ∧
        (φ → Written p text s))
      (commit loaded new path)
      (fun _ s => During s₀ unique held p s ∧ BackedUp s₀ p s ∧
        (φ ∨ loaded.path = p → Written p text s))
      (fun _ s => During s₀ unique [] p s) := by
  have hnew {t t' : Shared Locals} (h : Follows ∅ t t') : FollowsNew t t' :=
    h.mono (Set.empty_subset _)
  refine .each fun s₁ h₁ => ?_
  obtain ⟨h₁, hbacked, hwritten⟩ := h₁
  refine .bind (triple_requireWritable.conseq (fun _ h => h) (fun _ _ h => hnew h)
    fun _ s h => (h₁.follows hp hquiet (hnew h)).forget) fun _ => .each fun s₂ h₂ => ?_
  refine .bind (triple_checkApplySource.conseq (fun _ h => h) (fun _ _ h => h₂.trans (hnew h.1))
    fun _ s h => (h₁.follows hp hquiet (h₂.trans (hnew h))).forget) fun _ => .each fun s₃ h₃ => ?_
  refine .bind (triple_stat.conseq (fun _ h => h) (fun _ _ h => h₃.trans (hnew h.1))
    fun _ s h => (h₁.follows hp hquiet (h₃.trans (hnew h))).forget) fun file => .each fun s₄ h₄ => ?_
  have hduring := h₁.follows hp hquiet h₄
  refine .bind (triple_replace.conseq (fun _ h => h) (fun _ _ h => h)
    fun _ s h => (hduring.follows hp hquiet (hnew h)).forget) fun _ => .modify fun s hr => ?_
  have halone {x : Path} (hx : s₀.Alone x) : s₄.Alone x := hduring.toSaving.alone.mpr hx
  obtain ⟨hapart, staged, hstaged, hcontent⟩ := hduring.texts _ List.mem_cons_self
  have hne : ∀ x ∈ held, x.2.2 ≠ path := fun x hx heq =>
    (List.nodup_cons.mp hduring.nodup).1 (List.mem_map.mpr ⟨x, hx, heq⟩)
  have htarget : loaded.path ∉ apart unique := fun h => h.2 _ hedit rfl
  have hsaving : Saving s₀ unique held s :=
    (hduring.toSaving.sublist (List.sublist_cons_self _ _)).replaced hquiet.temporary hr hapart hne
      htarget
  obtain ⟨edit, hmem, rfl⟩ := hp
  have hpath : edit.1.path ≠ path := hapart.2 edit hmem
  refine ⟨⟨⟨hsaving.turns, hsaving.temporary, hsaving.present, hsaving.texts, hsaving.nodup⟩,
    fun c hc => ?_, ?_⟩, ?_, ?_⟩
  · rcases List.mem_append.mp hc with hc | hc
    · rw [hr.locals] at hc
      exact hduring.committed c hc
    · rw [List.mem_singleton.mp hc]
      exact ⟨rfl, _, hedit, rfl⟩
  · by_cases hsame : loaded.path = edit.1.path
    · exact .inr ⟨_, List.mem_append_right _ (List.mem_singleton_self _), hsame⟩
    · rcases hduring.target with h | ⟨c, hc, hcpath⟩
      · refine .inl ?_
        rw [← h]
        exact hr.files _ (halone hquiet.target) hpath (Ne.symm hsame)
      · refine .inr ⟨c, List.mem_append_left _ ?_, hcpath⟩
        rw [hr.locals]
        exact hc
  · obtain ⟨backup, original, hbackup, horiginal, hsame⟩ := hbacked
    refine ⟨backup, original, ?_, horiginal, hsame⟩
    have hsource : backupOf edit.1.path ≠ path := fun heq =>
      not_isTemporary_backupOf edit.1.path (heq ▸ hapart.1)
    rw [← hbackup, ← h₁.toSaving.backup_follows hquiet h₄]
    exact hr.files _ (halone hquiet.backup) hsource
      (hsettled.backups edit hmem _ hedit).symm
  · by_cases hsame : loaded.path = edit.1.path
    · rintro -
      refine ⟨staged, ?_, hcontent.trans (htext hsame)⟩
      rw [← hstaged, ← hsame]
      exact hr.moved (halone (hquiet.temporary path hapart.1))
    · intro hφ
      obtain ⟨file, hfile, hnew⟩ := hwritten (hφ.resolve_right hsame)
      refine ⟨file, ?_, hnew⟩
      rw [← hfile, ← h₁.toSaving.target_follows ⟨edit, hmem, rfl⟩ hquiet h₄]
      exact hr.files _ (halone hquiet.target) hpath (Ne.symm hsame)

theorem triple_commitAll {staged : List Staged}
    (hstaged : ∀ x ∈ staged, (x.1, x.2.1) ∈ unique)
    (htext : ∀ edit ∈ unique, edit.1.path = p → edit.2 = text) :
    Triple (fun s => During s₀ unique staged p s ∧ BackedUp s₀ p s ∧ (φ → Written p text s))
      (commitAll staged)
      (fun _ s => During s₀ unique [] p s ∧ BackedUp s₀ p s ∧
        (φ ∨ (∃ x ∈ staged, x.1.path = p) → Written p text s))
      (fun _ s => During s₀ unique [] p s) := by
  induction staged generalizing φ with
  | nil =>
    refine .pure fun s hs => ⟨hs.1, hs.2.1, fun h => hs.2.2 (h.resolve_right ?_)⟩
    rintro ⟨x, hx, -⟩
    exact List.not_mem_nil hx
  | cons x staged ih =>
    obtain ⟨loaded, new, path⟩ := x
    have hmem : (loaded, new) ∈ unique := hstaged _ List.mem_cons_self
    have hone : Triple (fun s => During s₀ unique ((loaded, new, path) :: staged) p s ∧
        BackedUp s₀ p s ∧ (φ → Written p text s)) _ _ _ :=
      triple_commit hsettled hp hquiet hmem (htext _ hmem)
    have hrest := ih (φ := φ ∨ loaded.path = p) fun y hy => hstaged y (List.mem_cons_of_mem _ hy)
    refine (Triple.bind hone fun _ => hrest).conseq (fun _ h => h)
      (fun _ s hs => ⟨hs.1, hs.2.1, fun h => hs.2.2 ?_⟩) fun _ _ h => h
    rcases h with h | ⟨x, hx, hpath⟩
    · exact .inl (.inl h)
    · rcases List.mem_cons.mp hx with rfl | hx
      · exact .inl (.inr hpath)
      · exact .inr ⟨x, hx, hpath⟩

/-- **The `try` block** writes the new text and a backup, or breaks off with the old text or a
record of the replacement. -/
theorem triple_publish (htext : ∀ edit ∈ unique, edit.1.path = p → edit.2 = text) :
    Triple (fun s => Before s₀ unique [] p s) (publish edits unique)
      (fun _ s => During s₀ unique [] p s ∧ BackedUp s₀ p s ∧ Written p text s)
      (fun _ s => During s₀ unique [] p s) := by
  unfold publish
  refine .bind ((triple_stageAll hp hquiet).conseq (fun _ h => h) (fun _ _ h => h)
    fun _ _ h => h.during) fun staged => .each ?_
  rintro s₁ ⟨h₁, hmap⟩
  have hstaged : ∀ x ∈ staged, (x.1, x.2.1) ∈ unique := fun x hx => by
    rw [← hmap]
    exact List.mem_map_of_mem hx
  have hthere : ∃ x ∈ staged, x.1.path = p := by
    obtain ⟨edit, hedit, hpath⟩ := hp
    rw [← hmap] at hedit
    obtain ⟨x, hx, rfl⟩ := List.mem_map.mp hedit
    exact ⟨x, hx, hpath⟩
  rw [List.nil_append] at h₁
  refine .bind (Q := fun _ s => Before s₀ unique staged p s ∧ (False → BackedUp s₀ p s)) ?_
    fun _ => .bind (Q := fun _ s => During s₀ unique staged p s ∧ BackedUp s₀ p s ∧
      (False → Written p text s)) ?_ fun _ => ?_
  · refine (triple_checkAll hp hquiet).conseq (fun _ h => ?_) (fun _ _ h => ⟨h, False.elim⟩)
      fun _ _ h => h.during.forget
    rw [h]
    exact h₁
  · exact (triple_backUpAll hsettled hp hquiet hstaged).conseq (fun _ h => h)
      (fun _ _ h => ⟨h.1.during, h.2 (.inr hthere), False.elim⟩) fun _ _ h => h.during
  · exact (triple_commitAll hsettled hp hquiet hstaged htext).conseq (fun _ h => h)
      (fun _ _ h => ⟨h.1, h.2.1, h.2.2 (.inr hthere)⟩) fun _ _ h => h

end Loops

/-! ## Restoring -/

/-- What is read at a target, before and now. -/
def SameText (s₀ : Shared Locals) (p : Path) (s : Shared Locals) : Prop :=
  (s.files p).map (fun file => universalNewlines file.content) =
    (s₀.files p).map fun file => universalNewlines file.content

section Loops

variable {φ : Prop} (hsettled : Settled s₀ edits unique)
  (hp : ∃ edit ∈ unique, edit.1.path = p) (hquiet : Undisturbed s₀ p)

include hsettled hp hquiet

/-- One restoration: the target is not touched unless it is the one that is restored. -/
theorem triple_restore {original written : LoadedConfig}
    (hfile : written.file = original.file) (hedit : ∃ edit ∈ unique, edit.1 = original) :
    Triple (fun s => Saving s₀ unique [] s ∧ (φ → SameText s₀ p s)) (restore original written)
      (fun _ s => Saving s₀ unique [] s ∧ (φ ∨ original.path = p → SameText s₀ p s))
      (fun _ s => Saving s₀ unique [] s) := by
  have hnew {t t' : Shared Locals} (h : Follows ∅ t t') : FollowsNew t t' :=
    h.mono (Set.empty_subset _)
  unfold restore
  refine .each fun s₁ h₁ => ?_
  obtain ⟨h₁, hsame⟩ := h₁
  refine .bind (triple_checkApplySource.conseq (fun _ h => h) (fun _ _ h => hnew h.1)
    fun _ s h => h₁.follows hquiet.temporary (hnew h)) fun _ => .each fun s₂ hf₂ => ?_
  have h₂ := h₁.follows hquiet.temporary hf₂
  refine .bind ((triple_stage hquiet.temporary h₂).conseq (fun _ h => h) (fun _ _ h => h)
    fun _ s h => h.1) fun path => .each ?_
  rintro s₃ ⟨h₃, hf₃, hapart, -, file, hpath, hcontent⟩
  have h₄ : Saving s₀ unique [] (withTemporary path s₃) := h₃.withTemporary hapart
  refine .bind (Q := fun _ s => s = withTemporary path s₃) (.modify ?_) fun _ => ?_
  · rintro s rfl
    rfl
  refine .bind (triple_checkApplySource.conseq (fun _ h => h) (fun _ _ h => h.1)
    fun _ s h => h₄.follows hquiet.temporary (hnew h)) fun _ => .each fun s₅ hf₅ => ?_
  have h₅ := h₄.follows hquiet.temporary (hnew hf₅)
  refine triple_replace.conseq (fun _ h => h) (fun _ s hr => ?_)
    fun _ s h => h₅.follows hquiet.temporary (hnew h)
  have htarget : original.path ∉ apart unique := by
    obtain ⟨edit, hmem, rfl⟩ := hedit
    exact fun h => h.2 _ hmem rfl
  refine ⟨h₅.replaced hquiet.temporary hr hapart (fun _ h => absurd h List.not_mem_nil) htarget,
    fun hφ => ?_⟩
  have halone {x : Path} (hx : s₀.Alone x) : s₅.Alone x := h₅.alone.mpr hx
  have hpathAlone := hquiet.temporary path hapart.1
  by_cases hwhich : original.path = p
  · -- the file that takes the target's place is the one that has just been written
    have hmoved : s.files p = some file := by
      rw [← hwhich, hr.moved (halone hpathAlone),
        hf₅.files _ (h₄.alone.mpr hpathAlone) (Set.notMem_empty _)]
      exact hpath
    obtain ⟨edit, hmem, rfl⟩ := hedit
    obtain ⟨found, hfound, hmatches, -⟩ := hsettled.loaded edit hmem (hwhich ▸ hquiet.target)
    unfold SameText
    rw [hmoved, ← hwhich, hfound]
    show some (universalNewlines file.content) = some (universalNewlines found.content)
    rw [hcontent, ← hmatches, universalNewlines_idem]
  · obtain ⟨edit, hmem, rfl⟩ := hp
    have hkept : s.files edit.1.path = s₁.files edit.1.path := by
      rw [hr.files _ (halone hquiet.target) (hapart.2 edit hmem) (Ne.symm hwhich),
        hf₅.files _ (h₄.alone.mpr hquiet.target) (Set.notMem_empty _)]
      show s₃.files _ = _
      rw [h₂.target_follows ⟨edit, hmem, rfl⟩ hquiet hf₃,
        h₁.target_follows ⟨edit, hmem, rfl⟩ hquiet hf₂]
    unfold SameText
    rw [hkept]
    exact hsame (hφ.resolve_right hwhich)

theorem triple_restoreAll {committed : List (LoadedConfig × LoadedConfig)}
    (hcommitted : ∀ c ∈ committed, c.2.file = c.1.file ∧ ∃ edit ∈ unique, edit.1 = c.1) :
    Triple (fun s => Saving s₀ unique [] s ∧ (φ → SameText s₀ p s)) (restoreAll committed)
      (fun unrestored s => Saving s₀ unique [] s ∧
        (unrestored = [] → φ ∨ (∃ c ∈ committed, c.1.path = p) → SameText s₀ p s))
      (fun _ _ => False) := by
  induction committed generalizing φ with
  | nil =>
    refine .pure fun s hs => ⟨hs.1, fun _ h => hs.2 (h.resolve_right ?_)⟩
    rintro ⟨c, hc, -⟩
    exact List.not_mem_nil hc
  | cons c committed ih =>
    obtain ⟨original, written⟩ := c
    obtain ⟨hfile, hedit⟩ := hcommitted _ List.mem_cons_self
    unfold restoreAll
    refine .bind (Q := fun failed s => Saving s₀ unique [] s ∧
      (failed = [] ∧ (φ ∨ original.path = p) → SameText s₀ p s))
      (.tryCatch (E := fun _ s => Saving s₀ unique [] s) ?_ fun error => .pure ?_) fun failed => ?_
    · refine .bind (triple_restore (φ := φ) hsettled hp hquiet hfile hedit) fun _ => .pure ?_
      exact fun s hs => ⟨hs.1, fun h => hs.2 h.2⟩
    · exact fun s hs => ⟨hs, fun h => absurd h.1 (List.cons_ne_nil _ _)⟩
    · refine .bind (ih fun c hc => hcommitted c (List.mem_cons_of_mem _ hc)) fun rest => .pure ?_
      rintro s ⟨hsaving, hsame⟩
      refine ⟨hsaving, fun hnil h => ?_⟩
      obtain ⟨rfl, rfl⟩ := List.append_eq_nil_iff.mp hnil
      refine hsame rfl ?_
      rcases h with h | ⟨c, hc, hpath⟩
      · exact .inl ⟨rfl, .inl h⟩
      · rcases List.mem_cons.mp hc with rfl | hc
        · exact .inl ⟨rfl, .inr hpath⟩
        · exact .inr ⟨c, hc, hpath⟩

/-- **The handler** has restored the target, or lists what it has not restored. -/
theorem triple_undo {error : ConfigError} :
    Triple (fun s => During s₀ unique [] p s) (undo error) (fun _ _ => False)
      (fun error s => Saving s₀ unique [] s ∧ (error.unrestored = [] → SameText s₀ p s)) := by
  unfold undo
  refine .get_bind fun s₁ h₁ => ?_
  have hcommitted : ∀ c ∈ s₁.locals.committed.reverse,
      c.2.file = c.1.file ∧ ∃ edit ∈ unique, edit.1 = c.1 :=
    fun c hc => h₁.committed c (List.mem_reverse.mp hc)
  refine .bind ((triple_restoreAll (φ := s₁.files p = s₀.files p) hsettled hp hquiet
    hcommitted).conseq ?_ (fun _ _ h => h) fun _ _ h => h.elim) fun unrestored => ?_
  · rintro s rfl
    refine ⟨h₁.toSaving, fun h => ?_⟩
    unfold SameText
    rw [h]
  · refine .ite (fun hne => .throw fun s hs => ⟨hs.1, fun h => absurd h hne⟩) fun hnil => ?_
    have hsame {s : Shared Locals} (hs : Saving s₀ unique [] s ∧ (unrestored = [] →
        s₁.files p = s₀.files p ∨ (∃ c ∈ s₁.locals.committed.reverse, c.1.path = p) →
        SameText s₀ p s)) : SameText s₀ p s := by
      refine hs.2 (not_not.mp hnil) (h₁.target.imp_right ?_)
      rintro ⟨c, hc, hpath⟩
      exact ⟨c, List.mem_reverse.mpr hc, hpath⟩
    exact .ite (fun _ => .throw fun s hs => ⟨hs.1, fun _ => hsame hs⟩)
      fun _ => .throw fun s hs => ⟨hs.1, fun _ => hsame hs⟩

end Loops

/-! ## The whole call -/

/-- What the outcome of a paired save means for a target. -/
structure AllOrNothing (s₀ : Shared Locals) (p : Path) (text : List Char)
    (outcome : Except ConfigError Unit × Shared Locals) : Prop where
  saved : outcome.1 = .ok () → Written p text outcome.2 ∧ BackedUp s₀ p outcome.2
  restored : ∀ error, outcome.1 = .error error → error.unrestored = [] → SameText s₀ p outcome.2

theorem triple_unlinkAll {s₁ : Shared Locals} {temporary : List Path}
    (htemporary : ∀ path ∈ temporary, path ∈ apart unique) :
    Triple (fun s => Follows (apart unique) s₁ s) (unlinkAll temporary)
      (fun _ s => Follows (apart unique) s₁ s) (fun _ _ => False) := by
  induction temporary with
  | nil => exact .pure fun _ hs => hs
  | cons path temporary ih =>
    unfold unlinkAll
    refine .bind (Q := fun _ s => Follows (apart unique) s₁ s) (.each fun s hs => ?_) fun _ =>
      ih fun path' hpath' => htemporary path' (List.mem_cons_of_mem _ hpath')
    refine triple_unlink.conseq (fun _ h => h) (fun _ t ht => hs.trans (ht.mono ?_))
      fun _ _ h => h
    exact Set.singleton_subset_iff.mpr (htemporary path List.mem_cons_self)

section Target

variable (hp : ∃ edit ∈ unique, edit.1.path = p) (hquiet : Undisturbed s₀ p)

include hp hquiet

/-- The `finally` block raises nothing, and touches neither the target nor its backup. -/
theorem triple_cleanUp {E : ConfigError → Shared Locals → Prop} {P : Shared Locals → Prop}
    {K : Option File → Option File → Prop} (hsaving : ∀ s, P s → Saving s₀ unique [] s)
    (hK : ∀ s, P s → K (s.files p) (s.files (backupOf p))) :
    Triple P cleanUp (fun _ s => K (s.files p) (s.files (backupOf p))) E := by
  unfold cleanUp
  refine .get_bind fun s₁ h₁ => ?_
  have hall : Triple (fun s => Follows (apart unique) s₁ s) (unlinkAll s₁.locals.temporary)
      (fun _ s => Follows (apart unique) s₁ s) (fun _ _ => False) :=
    triple_unlinkAll (hsaving s₁ h₁).temporary
  refine hall.conseq (fun s hs => ?_) (fun _ s hs => ?_) fun _ _ h => h.elim
  · rw [hs]
  · obtain ⟨edit, hedit, rfl⟩ := hp
    rw [hs.files _ ((hsaving s₁ h₁).alone.mpr hquiet.target) fun h => h.2 edit hedit rfl,
      hs.files _ ((hsaving s₁ h₁).alone.mpr hquiet.backup) (not_apart_backupOf _)]
    exact hK s₁ h₁

/-- What happens once everything is settled. -/
theorem triple_save (hsettled : Settled s₀ edits unique)
    (htext : ∀ edit ∈ unique, edit.1.path = p → edit.2 = text) :
    Triple (fun s => Before s₀ unique [] p s)
      (tryCatch
        (do
          tryCatch (publish edits unique) undo
          cleanUp)
        fun error => do
          cleanUp
          throw error : Io Unit)
      (fun _ s => Written p text s ∧ BackedUp s₀ p s)
      (fun error s => error.unrestored = [] → SameText s₀ p s) := by
  refine .tryCatch (E := fun error s => Saving s₀ unique [] s ∧
    (error.unrestored = [] → SameText s₀ p s)) ?_ fun error => ?_
  · refine .bind (Q := fun _ s => Saving s₀ unique [] s ∧ Written p text s ∧ BackedUp s₀ p s)
      (.tryCatch (E := fun _ s => During s₀ unique [] p s) ?_ fun error => ?_) fun _ => ?_
    · exact (triple_publish hsettled hp hquiet htext).conseq (fun _ h => h)
        (fun _ _ h => ⟨h.1.toSaving, h.2.2, h.2.1⟩) fun _ _ h => h
    · exact (triple_undo hsettled hp hquiet).conseq (fun _ h => h) (fun _ _ h => h.elim)
        fun _ _ h => h
    · exact triple_cleanUp (K := fun target backup =>
        (∃ file, target = some file ∧ file.content = text) ∧
          ∃ file original, backup = some file ∧ s₀.files p = some original ∧
            file.content = original.content) hp hquiet (fun s hs => hs.1) fun s hs => hs.2
  · refine .bind (triple_cleanUp (K := fun target _ => error.unrestored = [] →
      target.map (fun file => universalNewlines file.content) =
        (s₀.files p).map fun file => universalNewlines file.content) hp hquiet
      (fun s hs => hs.1) fun s hs => hs.2) fun _ => .throw fun s hs => hs

end Target

/-- **One target of a paired save**: if others leave it alone, it has its new text and a backup of
the old one, or the old text, or the exception says that something was not restored. -/
theorem triple_saveAcquisitionPair {edit : Edit} (hedit : edit ∈ edits)
    (hquiet : Undisturbed s₀ edit.1.path) (hlocals : s₀.locals = {}) :
    Triple (fun s => s = s₀) (saveAcquisitionPair edits)
      (fun _ s => Written edit.1.path edit.2 s ∧ BackedUp s₀ edit.1.path s)
      (fun error s => error.unrestored = [] → SameText s₀ edit.1.path s) := by
  have hsame {s : Shared Locals} (h : Follows ∅ s₀ s) : SameText s₀ edit.1.path s := by
    unfold SameText
    rw [h.files _ hquiet.target (Set.notMem_empty _)]
  unfold saveAcquisitionPair
  have hempty : Gathered s₀ [] [] :=
    ⟨fun _ h => h, fun _ h => absurd h List.not_mem_nil, List.nodup_nil,
      fun _ h => absurd h List.not_mem_nil⟩
  have hgather : Triple (fun s => Follows ∅ s₀ s ∧ Gathered s₀ [] []) (gather [] edits)
      (fun unique s => Follows ∅ s₀ s ∧ Gathered s₀ ([] ++ edits) unique)
      (fun _ s => Follows ∅ s₀ s) := triple_gather
  refine .bind (triple_requireWritable.conseq (fun _ h => h) (fun _ _ h => ⟨h, hempty⟩)
    fun _ _ h _ => hsame h) fun _ => .bind (hgather.conseq (fun _ h => h) (fun _ _ h => h)
    fun _ _ h _ => hsame h) fun unique => .each ?_
  rintro s₁ ⟨hfollows₁, hgathered⟩
  rw [List.nil_append] at hgathered
  refine .bind (triple_checkBackups.conseq (fun s h => ?_) (fun _ _ h => h)
    fun _ _ h _ => hsame h) fun _ => .each ?_
  · rw [h]
    exact hfollows₁
  rintro s₂ ⟨hfollows₂, hbackups⟩
  obtain ⟨first, hfirst, hpath, htext⟩ := hgathered.covers edit hedit
  refine (triple_save ⟨first, hfirst, hpath⟩ hquiet ⟨hgathered, hbackups⟩ fun edit' hedit' h =>
    ?_).conseq (fun s h => ?_) (fun _ _ h => h) fun _ _ h => h
  · -- of one path there is only one edit
    rw [← htext, List.inj_on_of_nodup_map hgathered.nodup hedit' hfirst (h.trans hpath.symm)]
  · rw [h]
    refine ⟨⟨hfollows₂.turns, ?_, fun edit' hedit' htemporary => ?_,
      fun _ h => absurd h List.not_mem_nil, List.nodup_nil⟩, ?_, ?_⟩
    · rw [hfollows₂.locals, hlocals]
      exact fun _ h => absurd h List.not_mem_nil
    · obtain ⟨file, hfile, -⟩ := hgathered.loaded edit' hedit' (hquiet.temporary _ htemporary)
      rw [hfollows₂.files _ (hquiet.temporary _ htemporary) (Set.notMem_empty _), hfile]
      exact Option.some_ne_none file
    · exact hfollows₂.files _ hquiet.target (Set.notMem_empty _)
    · rw [hfollows₂.locals, hlocals]

end ConfigStore
end App
end AmigaDrivers
