import AmigaDrivers.App.PairedSave

/-!
# A paired save overwrites what it knows

Whatever others do to the files, a target is replaced only when the last look at it has found what
the call knew to be there: the configuration as it was loaded, or what the call itself has put in
its place.

* `Known`, `Checked`: a history in which every replacement of a target has been checked.
* `Ledger`: which targets have been replaced, and which have not.
* `checked_saveAcquisitionPair`: every history of the call is such a history.
* `paired_save`: **a paired save is all or nothing.**
-/

namespace AmigaDrivers
namespace App
namespace ConfigStore

open Effect SharedFiles

variable {s₀ s s' : Shared Locals} {edits unique : List Edit} {history recent : List Event}
  {rest : List Path} {put : List (LoadedConfig × LoadedConfig)}

/-- The paths of the targets. -/
def IsTarget (edits : List Edit) (path : Path) : Prop := ∃ edit ∈ edits, edit.1.path = path

/-- What the call itself has put in place of a target, and has not replaced since. -/
def Put (edits : List Edit) (history : List Event) (written : LoadedConfig) : Prop :=
  ∃ edit ∈ edits, written.file = edit.1.file ∧ written.text = edit.2 ∧
    ∃ later source earlier,
      history = later ++ .replaced source written.path :: .stat source written.mtime :: earlier ∧
        ∀ source', .replaced source' written.path ∉ later

/-- What the call knows of a target: how it was loaded, until it is replaced. -/
def Known (edits : List Edit) (history : List Event) (path : Path) (known : LoadedConfig) : Prop :=
  known.path = path ∧
    ((∃ edit ∈ edits, edit.1 = known) ∧ (∀ source, .replaced source path ∉ history) ∨
      Put edits history known)

/-- A history in which the last look at a target has found what the call knew to be there, whenever
the target is replaced. -/
def Checked (edits : List Edit) : List Event → Prop
  | [] => True
  | .replaced _ target :: history => Checked edits history ∧ (IsTarget edits target →
      ∃ known file, Known edits history target known ∧
        lastRead target history = some (some file) ∧ Matches known file)
  | .read _ _ :: history => Checked edits history
  | .stat _ _ :: history => Checked edits history

/-- A history has not replaced the targets that are left, and has put others in their places. -/
structure Ledger (edits : List Edit) (rest : List Path)
    (put : List (LoadedConfig × LoadedConfig)) (history : List Event) : Prop where
  checked : Checked edits history
  left : ∀ path ∈ rest, IsTarget edits path ∧ ∀ source, .replaced source path ∉ history
  placed : ∀ c ∈ put, c.1.path = c.2.path ∧ Put edits history c.2
  nodup : (rest ++ put.map fun c => c.1.path).Nodup

/-! ## Histories without a replacement -/

theorem Checked.append (h : Checked edits history)
    (hnone : ∀ source target, .replaced source target ∉ recent) :
    Checked edits (recent ++ history) := by
  induction recent with
  | nil => exact h
  | cons event recent ih =>
    have ih := ih fun source target hmem => hnone source target (List.mem_cons_of_mem _ hmem)
    cases event with
    | read path found => exact ih
    | stat path mtime => exact ih
    | replaced source target => exact absurd List.mem_cons_self (hnone source target)

theorem Put.append {written : LoadedConfig} (h : Put edits history written)
    (hnone : ∀ source, .replaced source written.path ∉ recent) :
    Put edits (recent ++ history) written := by
  obtain ⟨edit, hedit, hfile, htext, later, source, earlier, rfl, hlater⟩ := h
  refine ⟨edit, hedit, hfile, htext, recent ++ later, source, earlier, ?_, fun source' hmem => ?_⟩
  · rw [List.append_assoc]
  · rcases List.mem_append.mp hmem with hmem | hmem
    · exact hnone source' hmem
    · exact hlater source' hmem

/-- Another target is replaced. -/
theorem Put.cons {written : LoadedConfig} {source target : Path} (h : Put edits history written)
    (hne : target ≠ written.path) : Put edits (.replaced source target :: history) written := by
  have happend : Put edits ([.replaced source target] ++ history) written := by
    refine h.append fun source' hmem => hne ?_
    injection List.mem_singleton.mp hmem with _ heq
    exact heq.symm
  exact happend

theorem Ledger.follows {touched : Set Path} (h : Ledger edits rest put s.history)
    (hf : Follows touched s s') : Ledger edits rest put s'.history := by
  obtain ⟨recent, hrecent, hnone⟩ := hf.history
  rw [hrecent]
  refine ⟨h.checked.append hnone, fun path hpath => ?_, fun c hc => ?_, h.nodup⟩
  · refine ⟨(h.left path hpath).1, fun source hmem => ?_⟩
    rcases List.mem_append.mp hmem with hmem | hmem
    · exact hnone source path hmem
    · exact (h.left path hpath).2 source hmem
  · exact ⟨(h.placed c hc).1, (h.placed c hc).2.append fun source => hnone source _⟩

theorem Checked.follows {touched : Set Path} (h : Checked edits s.history)
    (hf : Follows touched s s') : Checked edits s'.history := by
  obtain ⟨recent, hrecent, hnone⟩ := hf.history
  rw [hrecent]
  exact h.append hnone

/-! ## Replacements -/

/-- A replacement of what is no target. -/
theorem Ledger.beside {source target : Path} (h : Ledger edits rest put history)
    (htarget : ¬IsTarget edits target) :
    Ledger edits rest put (.replaced source target :: history) := by
  have hne {path : Path} (hpath : IsTarget edits path) : path ≠ target := fun heq =>
    htarget (heq ▸ hpath)
  refine ⟨⟨h.checked, fun ht => absurd ht htarget⟩, fun path hpath => ?_, fun c hc => ?_, h.nodup⟩
  · refine ⟨(h.left path hpath).1, fun source' hmem => ?_⟩
    rcases List.mem_cons.mp hmem with heq | hmem
    · exact hne (h.left path hpath).1 (by injection heq)
    · exact (h.left path hpath).2 source' hmem
  · obtain ⟨hpath, hput⟩ := h.placed c hc
    obtain ⟨edit, hedit, hfile, -⟩ := id hput
    have hc : IsTarget edits c.2.path := ⟨edit, hedit, congrArg ConfigFile.path hfile.symm⟩
    refine ⟨hpath, hput.cons fun heq => hne hc ?_⟩
    exact heq.symm

/-- A target is replaced by what has been staged for it. -/
theorem Ledger.commit {edit : Edit} {source : Path} {file : File} {mtime : Nat}
    (h : Ledger edits (edit.1.path :: rest) put (.stat source mtime :: history))
    (hedit : edit ∈ edits) (hread : lastRead edit.1.path history = some (some file))
    (hmatches : Matches edit.1 file) :
    Ledger edits rest (put ++ [(edit.1, ⟨edit.1.file, edit.2, mtime⟩)])
      (.replaced source edit.1.path :: .stat source mtime :: history) := by
  obtain ⟨htarget, hfresh⟩ := h.left _ List.mem_cons_self
  obtain ⟨hnot, hnodup⟩ := List.nodup_cons.mp h.nodup
  refine ⟨⟨h.checked, fun _ => ⟨edit.1, file, ⟨rfl, .inl ⟨⟨edit, hedit, rfl⟩, hfresh⟩⟩, hread,
    hmatches⟩⟩, fun path hpath => ?_, fun c hc => ?_, ?_⟩
  · obtain ⟨hpathTarget, hpathFresh⟩ := h.left path (List.mem_cons_of_mem _ hpath)
    refine ⟨hpathTarget, fun source' hmem => ?_⟩
    rcases List.mem_cons.mp hmem with heq | hmem
    · refine hnot (List.mem_append_left _ ?_)
      injection heq with _ heq
      rw [← heq]
      exact hpath
    · exact hpathFresh source' hmem
  · rcases List.mem_append.mp hc with hc | hc
    · obtain ⟨hpath, hput⟩ := h.placed c hc
      refine ⟨hpath, hput.cons fun heq =>
        hnot (List.mem_append_right _ (List.mem_map.mpr ⟨c, hc, ?_⟩))⟩
      rw [hpath, heq]
    · rw [List.mem_singleton.mp hc]
      exact ⟨rfl, edit, hedit, rfl, rfl, [], source, history, rfl, fun _ => List.not_mem_nil⟩
  · rw [List.map_append, ← List.append_assoc]
    refine hnodup.append (List.nodup_singleton _) (List.disjoint_singleton.mpr hnot)

/-- What has been put in place of a target is replaced once more. -/
theorem Ledger.restore {c : LoadedConfig × LoadedConfig} {source : Path} {file : File}
    (h : Ledger edits rest (c :: put) history)
    (hread : lastRead c.2.path history = some (some file)) (hmatches : Matches c.2 file) :
    Ledger edits rest put (.replaced source c.1.path :: history) := by
  obtain ⟨hpath, hput⟩ := h.placed c List.mem_cons_self
  have hnodup := h.nodup
  rw [List.map_cons, List.nodup_middle] at hnodup
  obtain ⟨hnot, hnodup⟩ := List.nodup_cons.mp hnodup
  rw [hpath] at hnot ⊢
  refine ⟨⟨h.checked, fun _ => ⟨c.2, file, ⟨rfl, .inr hput⟩, hread, hmatches⟩⟩,
    fun path hmem => ?_, fun c' hc' => ?_, hnodup⟩
  · obtain ⟨htarget, hfresh⟩ := h.left path hmem
    refine ⟨htarget, fun source' hevent => ?_⟩
    rcases List.mem_cons.mp hevent with heq | hevent
    · refine hnot (List.mem_append_left _ ?_)
      injection heq with _ heq
      rw [← heq]
      exact hmem
    · exact hfresh source' hevent
  · obtain ⟨hpath', hput'⟩ := h.placed c' (List.mem_cons_of_mem _ hc')
    refine ⟨hpath', hput'.cons fun heq =>
      hnot (List.mem_append_right _ (List.mem_map.mpr ⟨c', hc', ?_⟩))⟩
    rw [hpath', heq]

/-- One target less to restore. -/
theorem Ledger.tail {c : LoadedConfig × LoadedConfig} (h : Ledger edits rest (c :: put) history) :
    Ledger edits rest put history := by
  have hnodup := h.nodup
  rw [List.map_cons, List.nodup_middle] at hnodup
  exact ⟨h.checked, h.left, fun c' hc' => h.placed c' (List.mem_cons_of_mem _ hc'),
    (List.nodup_cons.mp hnodup).2⟩

/-! ## Programs -/

/-- What a call of a helper leaves of a history. -/
theorem ledger_stageApply {loaded : LoadedConfig} {text : Option (List Char)} :
    Triple (fun s => Ledger edits rest s.locals.committed s.history) (stageApply loaded text)
      (fun _ s => Ledger edits rest s.locals.committed s.history)
      (fun _ s => Ledger edits rest s.locals.committed s.history) := by
  refine .each fun s₁ h₁ => triple_stageApply.conseq (fun _ h => h) (fun _ s h => ?_) fun _ s h => ?_
  · rw [h.2.1.locals]
    exact h₁.follows h.2.1
  · rw [h.locals]
    exact h₁.follows h

theorem ledger_stageAll :
    Triple (fun s => Ledger edits rest s.locals.committed s.history) (stageAll unique)
      (fun staged s => Ledger edits rest s.locals.committed s.history ∧
        staged.map (fun staged => (staged.1, staged.2.1)) = unique)
      (fun _ s => Ledger edits rest s.locals.committed s.history) := by
  induction unique with
  | nil => exact .pure fun _ h => ⟨h, rfl⟩
  | cons edit unique ih =>
    unfold stageAll
    refine .bind ledger_stageApply fun path =>
      .bind (Q := fun _ s => Ledger edits rest s.locals.committed s.history) (.modify fun _ h => h)
        fun _ => .bind ih fun staged => .pure fun s h => ⟨h.1, ?_⟩
    rw [List.map_cons, h.2]

theorem ledger_checkAll :
    Triple (fun s => Ledger edits rest s.locals.committed s.history) (checkAll unique)
      (fun _ s => Ledger edits rest s.locals.committed s.history)
      (fun _ s => Ledger edits rest s.locals.committed s.history) := by
  induction unique with
  | nil => exact .pure fun _ h => h
  | cons edit unique ih =>
    unfold checkAll
    refine .bind (Q := fun _ s => Ledger edits rest s.locals.committed s.history)
      (.each fun s₁ h₁ => ?_) fun _ => ih
    refine triple_checkApplySource.conseq (fun _ h => h) (fun _ s h => ?_) fun _ s h => ?_
    · rw [h.1.locals]
      exact h₁.follows h.1
    · rw [h.locals]
      exact h₁.follows h

theorem ledger_backUpAll {staged : List Staged}
    (hbackups : ∀ x ∈ staged, ¬IsTarget edits (backupOf x.1.path)) :
    Triple (fun s => Ledger edits rest s.locals.committed s.history) (backUpAll staged)
      (fun _ s => Ledger edits rest s.locals.committed s.history)
      (fun _ s => Ledger edits rest s.locals.committed s.history) := by
  induction staged with
  | nil => exact .pure fun _ h => h
  | cons x staged ih =>
    unfold backUpAll
    refine .bind (Q := fun _ s => Ledger edits rest s.locals.committed s.history) ?_ fun _ =>
      ih fun y hy => hbackups y (List.mem_cons_of_mem _ hy)
    unfold backUp
    refine .bind ledger_stageApply fun backup =>
      .bind (Q := fun _ s => Ledger edits rest s.locals.committed s.history) (.modify fun _ h => h)
        fun _ => .each fun s₁ h₁ => triple_replace.conseq (fun _ h => h) (fun _ s h => ?_)
          fun _ s h => ?_
    · rw [h.locals, h.history]
      exact h₁.beside (hbackups x List.mem_cons_self)
    · rw [h.locals]
      exact h₁.follows h

/-- The targets that are left are those of the staged files that are left. -/
theorem ledger_commitAll {staged : List Staged}
    (hstaged : ∀ x ∈ staged, (x.1, x.2.1) ∈ edits) :
    Triple (fun s => Ledger edits (staged.map fun x => x.1.path) s.locals.committed s.history)
      (commitAll staged) (fun _ s => Checked edits s.history)
      (fun _ s => ∃ rest, Ledger edits rest s.locals.committed s.history) := by
  induction staged with
  | nil => exact .pure fun _ h => h.checked
  | cons x staged ih =>
    obtain ⟨loaded, text, path⟩ := x
    unfold commitAll
    refine .bind (Q := fun _ s => Ledger edits (staged.map fun x => x.1.path) s.locals.committed
      s.history) (.each fun s₁ h₁ => ?_) fun _ => ih fun y hy => hstaged y (List.mem_cons_of_mem _ hy)
    have hbroken {t : Shared Locals} (h : Follows ∅ s₁ t) :
        ∃ rest, Ledger edits rest t.locals.committed t.history := by
      refine ⟨(loaded, text, path) :: staged |>.map fun x => x.1.path, ?_⟩
      rw [h.locals]
      exact h₁.follows h
    unfold commit
    refine .bind (triple_requireWritable.conseq (fun _ h => h) (fun _ _ h => h)
      fun _ _ h => hbroken h) fun _ => .each fun s₂ h₂ => ?_
    refine .bind (triple_checkApplySource.conseq (fun _ h => h) (fun _ _ h => h)
      fun _ _ h => hbroken (h₂.trans h)) fun _ => .each ?_
    rintro s₃ ⟨h₃, file, ⟨-, hread⟩, hmatches⟩
    refine .bind (triple_stat.conseq (fun _ h => h) (fun _ _ h => h)
      fun _ _ h => hbroken (h₂.trans (h₃.trans h))) fun staged => .each ?_
    rintro s₄ ⟨h₄, -, hstat⟩
    have hfollows := h₂.trans (h₃.trans h₄)
    refine .bind (triple_replace.conseq (fun _ h => h) (fun _ _ h => h)
      fun _ _ h => hbroken (hfollows.trans h)) fun _ => .modify fun s hr => ?_
    have hledger := h₁.follows hfollows
    rw [hstat] at hledger
    show Ledger edits _ (s.locals.committed ++ _) s.history
    rw [hr.locals, hfollows.locals, hr.history, hstat]
    exact hledger.commit (hstaged _ List.mem_cons_self) hread hmatches

theorem checked_restoreAll :
    Triple (fun s => Ledger edits rest put s.history) (restoreAll put)
      (fun _ s => Checked edits s.history) (fun _ s => Checked edits s.history) := by
  induction put with
  | nil => exact .pure fun _ h => h.checked
  | cons c put ih =>
    obtain ⟨original, written⟩ := c
    unfold restoreAll
    refine .bind (Q := fun _ s => Ledger edits rest put s.history)
      (.tryCatch (E := fun _ s => Ledger edits rest put s.history) (.each fun s₁ h₁ => ?_)
        fun _ => .pure fun _ h => h) fun _ => .bind ih fun _ => .pure fun _ h => h
    have htail {t : Shared Locals} {touched : Set Path} (h : Follows touched s₁ t) :
        Ledger edits rest put t.history := (h₁.follows h).tail
    refine .bind (Q := fun _ s => Ledger edits rest put s.history) ?_ fun _ => .pure fun _ h => h
    unfold restore
    refine .bind (triple_checkApplySource.conseq (fun _ h => h) (fun _ _ h => h)
      fun _ _ h => htail h) fun _ => .each ?_
    rintro s₂ ⟨h₂, -⟩
    have hledger₂ := h₁.follows h₂
    refine .bind (triple_stageApply.conseq (fun _ h => h) (fun _ _ h => h)
      fun _ _ h => (hledger₂.follows h).tail) fun path => .each ?_
    rintro s₃ ⟨-, h₃, -⟩
    have hledger₃ := hledger₂.follows h₃
    refine .bind (Q := fun _ s => Ledger edits rest ((original, written) :: put) s.history)
      (.modify ?_) fun _ => .each fun s₄ hledger₄ => ?_
    · rintro s rfl
      exact hledger₃
    refine .bind (triple_checkApplySource.conseq (fun _ h => h) (fun _ _ h => h)
      fun _ _ h => (hledger₄.follows h).tail) fun _ => .each ?_
    rintro s₅ ⟨h₅, file, ⟨-, hread⟩, hmatches⟩
    have hledger₅ := hledger₄.follows h₅
    refine triple_replace.conseq (fun _ h => h) (fun _ s h => ?_)
      fun _ _ h => (hledger₅.follows h).tail
    rw [h.history]
    exact hledger₅.restore hread hmatches

theorem checked_undo {error : ConfigError} :
    Triple (fun s => ∃ rest, Ledger edits rest s.locals.committed s.history) (undo error)
      (fun _ s => Checked edits s.history) (fun _ s => Checked edits s.history) := by
  unfold undo
  refine .get_bind ?_
  rintro s₁ ⟨rest, h₁⟩
  have hreverse : Ledger edits rest s₁.locals.committed.reverse s₁.history := by
    refine ⟨h₁.checked, h₁.left, fun c hc => h₁.placed c (List.mem_reverse.mp hc), ?_⟩
    rw [List.map_reverse]
    exact ((List.reverse_perm _).append_left rest).nodup_iff.mpr h₁.nodup
  have hall : Triple (fun s => Ledger edits rest s₁.locals.committed.reverse s.history)
      (restoreAll s₁.locals.committed.reverse) (fun _ s => Checked edits s.history)
      (fun _ s => Checked edits s.history) := checked_restoreAll
  refine .bind (hall.conseq (fun s hs => ?_) (fun _ _ h => h) fun _ _ h => h)
    fun unrestored => .ite (fun _ => .throw fun _ h => h) fun _ =>
      .ite (fun _ => .throw fun _ h => h) fun _ => .throw fun _ h => h
  rw [hs]
  exact hreverse

theorem checked_cleanUp :
    Triple (fun s => Checked edits s.history) cleanUp (fun _ s => Checked edits s.history)
      (fun _ s => Checked edits s.history) := by
  have hall (temporary : List Path) :
      Keeps (fun s => Checked edits s.history) (unlinkAll temporary) := by
    induction temporary with
    | nil => exact Keeps.pure
    | cons path temporary ih =>
      unfold unlinkAll
      refine .bind (Triple.each fun s₁ h₁ => ?_) fun _ => ih
      exact triple_unlink.conseq (fun _ h => h) (fun _ _ h => h₁.follows h) fun _ _ h => h.elim
  exact Keeps.get_bind fun s _ => hall _

/-- **Every replacement of a target has been checked**, whatever others do to the files. -/
theorem checked_saveAcquisitionPair (hstart : s₀.history = []) (hlocals : s₀.locals = {}) :
    Triple (fun s => s = s₀) (saveAcquisitionPair edits) (fun _ s => Checked edits s.history)
      (fun _ s => Checked edits s.history) := by
  have hnil : Checked edits s₀.history := by
    rw [hstart]
    trivial
  have hempty : Gathered s₀ [] [] :=
    ⟨fun _ h => h, fun _ h => absurd h List.not_mem_nil, List.nodup_nil,
      fun _ h => absurd h List.not_mem_nil⟩
  have hgather : Triple (fun s => Follows ∅ s₀ s ∧ Gathered s₀ [] []) (gather [] edits)
      (fun unique s => Follows ∅ s₀ s ∧ Gathered s₀ ([] ++ edits) unique)
      (fun _ s => Follows ∅ s₀ s) := triple_gather
  unfold saveAcquisitionPair
  refine .bind (triple_requireWritable.conseq (fun _ h => h) (fun _ _ h => ⟨h, hempty⟩)
    fun _ _ h => hnil.follows h) fun _ => .bind (hgather.conseq (fun _ h => h) (fun _ _ h => h)
    fun _ _ h => hnil.follows h) fun unique => .each ?_
  rintro s₁ ⟨hfollows₁, hgathered⟩
  rw [List.nil_append] at hgathered
  refine .bind (triple_checkBackups.conseq (fun s h => ?_) (fun _ _ h => h)
    fun _ _ h => hnil.follows h) fun _ => .each ?_
  · rw [h]
    exact hfollows₁
  rintro s₂ ⟨hfollows₂, hbackups⟩
  have hledger : Ledger edits (unique.map fun edit => edit.1.path) s₂.locals.committed
      s₂.history := by
    have hledger₀ : Ledger edits (unique.map fun edit => edit.1.path) [] s₀.history := by
      refine ⟨hnil, fun path hpath => ?_, fun _ h => absurd h List.not_mem_nil, ?_⟩
      · obtain ⟨edit, hedit, rfl⟩ := List.mem_map.mp hpath
        rw [hstart]
        exact ⟨⟨edit, hgathered.subset edit hedit, rfl⟩, fun _ => List.not_mem_nil⟩
      · rw [List.map_nil, List.append_nil]
        exact hgathered.nodup
    rw [hfollows₂.locals, hlocals]
    exact hledger₀.follows hfollows₂
  have hnot : ∀ edit ∈ unique, ¬IsTarget edits (backupOf edit.1.path) := by
    rintro edit hedit ⟨edit', hedit', hpath⟩
    obtain ⟨first, hfirst, hsame, -⟩ := hgathered.covers edit' hedit'
    exact hbackups edit hedit first hfirst (hsame.trans hpath)
  refine .tryCatch (E := fun _ s => Checked edits s.history) ?_ fun error =>
    .bind checked_cleanUp fun _ => .throw fun _ h => h
  refine .bind (Q := fun _ s => Checked edits s.history) (.tryCatch
    (E := fun _ s => ∃ rest, Ledger edits rest s.locals.committed s.history) ?_
    fun error => checked_undo) fun _ => checked_cleanUp
  unfold publish
  refine .bind (Q := fun staged s =>
    Ledger edits (unique.map fun edit => edit.1.path) s.locals.committed s.history ∧
      staged.map (fun staged => (staged.1, staged.2.1)) = unique) ?_ fun staged => .each ?_
  · refine ledger_stageAll.conseq (fun s h => ?_) (fun _ _ h => h) fun _ _ h => ⟨_, h⟩
    rw [h]
    exact hledger
  rintro s₃ ⟨h₃, hmap⟩
  have hmem : ∀ x ∈ staged, (x.1, x.2.1) ∈ unique := fun x hx => by
    rw [← hmap]
    exact List.mem_map_of_mem hx
  have hpaths : (unique.map fun edit => edit.1.path) = staged.map fun x => x.1.path := by
    rw [← hmap, List.map_map]
    rfl
  rw [hpaths] at h₃
  refine .bind (Q := fun _ s =>
      Ledger edits (staged.map fun x => x.1.path) s.locals.committed s.history) ?_
    fun _ => .bind (Q := fun _ s =>
      Ledger edits (staged.map fun x => x.1.path) s.locals.committed s.history) ?_
    fun _ => ledger_commitAll fun x hx => hgathered.subset _ (hmem x hx)
  · refine ledger_checkAll.conseq (fun s h => ?_) (fun _ _ h => h) fun _ _ h => ⟨_, h⟩
    rw [h]
    exact h₃
  · exact (ledger_backUpAll fun x hx => hnot _ (hmem x hx)).conseq (fun _ h => h)
      (fun _ _ h => h) fun _ _ h => ⟨_, h⟩

/-! ## The main result -/

/-- **A paired save is all or nothing.**  Each target that others leave alone holds its new text and
has a backup of the old one when the call returns, and holds the old text when it raises without
saying that something was not restored; and whatever others do, a target is only ever overwritten
when the last look at it has found what the call knew to be there. -/
theorem paired_save (edits : List Edit) (files : Files) (turns : Nat → Turn) :
    (∀ edit ∈ edits, Undisturbed (start files turns) edit.1.path →
      AllOrNothing (start files turns) edit.1.path edit.2
        ((saveAcquisitionPair edits).outcome (start files turns))) ∧
    Checked edits ((saveAcquisitionPair edits).outcome (start files turns)).2.history := by
  constructor
  · intro edit hedit hquiet
    have hafter := triple_saveAcquisitionPair hedit hquiet rfl (start files turns) rfl
    cases h : (saveAcquisitionPair edits).outcome (start files turns) with
    | mk result s =>
      rw [h] at hafter
      cases result with
      | ok => exact ⟨fun _ => hafter, fun _ h => nomatch h⟩
      | error error =>
        refine ⟨fun h => ?_, fun error' h => ?_⟩
        · exact nomatch h
        · rw [← Except.error.inj h]
          exact hafter
  · exact Triple.state (checked_saveAcquisitionPair rfl rfl) rfl

/-- A path for a run to look at. -/
def pathOf (name : Char) : Path := ⟨"/config", [name]⟩

/-- Two edits of empty files. -/
def twoEdits : List Edit :=
  [(⟨⟨"gox", pathOf 'a'⟩, [], 0⟩, ['a']), (⟨⟨"gox_snapshot", pathOf 'b'⟩, [], 0⟩, ['b'])]

/-- Two empty files. -/
def twoFiles (path : Path) : Option File :=
  if path = pathOf 'a' ∨ path = pathOf 'b' then some ⟨[], 0, 0⟩ else none

/-- Nobody else does anything, and the second replacement fails. -/
def failingTurns (n : Nat) : Turn where
  raises := if n = 44 then some (.os "simulated snapshot replacement failure") else none
  time := n
  random := List.replicate n 'x'
  resolved :=
    if n ∈ [1, 19, 34, 45, 52] then pathOf 'a'
    else if n ∈ [4, 22, 40] then pathOf 'b'
    else ⟨"/config", []⟩
  directory := "/config"

/-- The second replacement fails, and the first one is undone. -/
theorem paired_save_undone :
    ((saveAcquisitionPair twoEdits).outcome (start twoFiles failingTurns)).1 =
      .error (.restored (.fault (.os "simulated snapshot replacement failure"))) ∧
    AllOrNothing (start twoFiles failingTurns) (pathOf 'a') ['a']
      ((saveAcquisitionPair twoEdits).outcome (start twoFiles failingTurns)) :=
  ⟨by decide +kernel, (paired_save twoEdits twoFiles failingTurns).1
    (⟨⟨"gox", pathOf 'a'⟩, [], 0⟩, ['a']) (by decide)
    ⟨fun _ _ => rfl, fun _ _ => rfl, fun _ _ _ _ => rfl⟩⟩

end ConfigStore
end App
end AmigaDrivers
