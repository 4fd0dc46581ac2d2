import AmigaDrivers.Ebus.RawRecorder

/-!
# What the calls of a recorder do

* `Triple.systemCall`, `Triple.writeAll`, `Triple.sync`: what is known after a system call, or a
  loop of them, whatever the answers are.
* `keeps_…`: a predicate that has nothing to do with what a method changes survives the method.
-/

namespace AmigaDrivers
namespace Ebus
namespace RawRecorder

open Effect

variable {P : RawRecorder → Prop} {Q : Unit → RawRecorder → Prop}
  {E : String → RawRecorder → Prop}

/-! ## System calls -/

theorem triple_answer {Q : Answer → RawRecorder → Prop}
    (hQ : ∀ a r answers, P r → Q a { r with answers }) : Triple P answer Q E := by
  intro r hr
  unfold answer
  rw [outcome_get_bind]
  have hnone : Q .done r := hQ .done r r.answers hr
  cases h : r.answers with
  | nil => exact hnone
  | cons a answers => exact hQ a r answers hr

theorem triple_systemCall {action : String} {effect : RawRecorder → RawRecorder}
    (hQ : ∀ r answers, P r → Q () (effect { r with answers }))
    (hE : ∀ e r answers, P r → E e { r with answers }) :
    Triple P (systemCall action effect) Q E := by
  unfold systemCall
  refine .bind (Q := fun _ r => (∀ e, E e r) ∧ Q () (effect r)) ?_ fun a => ?_
  · exact triple_answer fun _ r answers hr => ⟨fun e => hE e r answers hr, hQ r answers hr⟩
  · cases a.error? with
    | some strerror => exact .throw fun _ hr => hr.1 _
    | none => exact .modify fun _ hr => hr.2

/-- A loop of writes that returns has written everything. -/
theorem writeLoop_ok {answers answers' : List Answer} {bytes : List UInt8} {written : Nat}
    (h : writeLoop answers bytes = (written, .ok (), answers')) : written = bytes.length := by
  induction answers, bytes using writeLoop.induct generalizing written answers' with
  | case1 answers =>
    unfold writeLoop at h
    exact (Prod.mk.inj h).1.symm
  | case2 bytes hne =>
    rw [writeLoop.eq_2 _ hne] at h
    exact (Prod.mk.inj h).1.symm
  | case3 answers bytes hne =>
    rw [writeLoop.eq_3 _ _ hne] at h
    exact (Prod.mk.inj h).1.symm
  | case4 answers bytes hne ih =>
    rw [writeLoop.eq_4 _ _ hne] at h
    exact ih h
  | case5 strerror answers bytes hne =>
    rw [writeLoop.eq_5 _ _ _ hne] at h
    exact nomatch h
  | case6 answers bytes hne =>
    rw [writeLoop.eq_6 _ _ hne] at h
    exact nomatch h
  | case7 n answers bytes hne rest result hrest ih =>
    rw [writeLoop.eq_7 _ _ _ hne, hrest] at h
    obtain ⟨hwritten, hresult⟩ := Prod.mk.inj h
    subst hresult
    have hall := ih hrest
    rw [List.length_drop] at hall
    omega

/-- `WriteAll` writes everything and returns, or a part and throws. -/
theorem triple_writeAll {put : List UInt8 → RawRecorder → RawRecorder} {bytes : List UInt8}
    (hQ : ∀ r answers, P r → Q () (put bytes { r with answers }))
    (hE : ∀ e n r answers, P r → E e (put (bytes.take n) { r with answers })) :
    Triple P (writeAll put bytes) Q E := by
  intro r hr
  unfold writeAll
  rw [outcome_get_bind]
  cases h : writeLoop r.answers bytes with
  | mk written rest =>
    obtain ⟨result, answers⟩ := rest
    cases result with
    | error e => exact hE e written r answers hr
    | ok =>
      have hall := writeLoop_ok h
      rw [hall]
      dsimp only
      rw [List.take_length]
      exact hQ r answers hr

theorem triple_sync {action : String} {mark : RawRecorder → RawRecorder}
    (hQ : ∀ r answers, P r → Q () (mark { r with answers }))
    (hE : ∀ e r answers, P r → E e { r with answers }) :
    Triple P (sync action mark) Q E := by
  intro r hr
  unfold sync
  rw [outcome_get_bind]
  cases syncLoop action r.answers with
  | mk result answers =>
    cases result with
    | error e => exact hE e r answers hr
    | ok => exact hQ r answers hr

theorem triple_closeFd {release mark : RawRecorder → RawRecorder}
    (hQ : ∀ r answers, P r → Q () (mark { release r with answers }))
    (hE : ∀ e r answers, P r → E e { release r with answers }) :
    Triple P (closeFd release mark) Q E := by
  unfold closeFd
  refine .bind (Q := fun _ r => ∃ r₀, P r₀ ∧ r = release r₀) ?_ fun _ => ?_
  · exact .modify fun r hr => ⟨r, hr, rfl⟩
  · refine triple_systemCall ?_ ?_
    · rintro r answers ⟨r₀, hr₀, rfl⟩
      exact hQ r₀ answers hr₀
    · rintro e r answers ⟨r₀, hr₀, rfl⟩
      exact hE e r₀ answers hr₀

theorem triple_realtimeNowNs {Q : Nat → RawRecorder → Prop}
    (hQ : ∀ t r clock, t < 2 ^ 64 → P r → Q t { r with clock }) : Triple P realtimeNowNs Q E := by
  intro r hr
  unfold realtimeNowNs
  rw [outcome_get_bind]
  have hnone : Q 0 r := hQ 0 r r.clock (by decide) hr
  cases h : r.clock with
  | nil => exact hnone
  | cons t clock => exact hQ t.toNat r clock t.toNat_lt hr

/-! ## What a method does not touch -/

/-- A predicate that the surroundings cannot break, and neither can a failure. -/
structure Inner (P : RawRecorder → Prop) : Prop where
  answers : ∀ r answers, P r → P { r with answers }
  clock : ∀ r clock, P r → P { r with clock }
  failed : ∀ r, P r → P { r with failed := true }

/-- A predicate that has nothing to do with the segment files. -/
structure BesideData (P : RawRecorder → Prop) : Prop extends Inner P where
  data : ∀ r data, P r → P { r with data }

/-- A predicate that has nothing to do with the segment files and the syncs of the directory. -/
structure BesideFiles (P : RawRecorder → Prop) : Prop extends BesideData P where
  synced : ∀ r synced, P r → P { r with directory.synced := synced }

/-- A predicate that has nothing to do with the rows of the stream of events. -/
structure BesideRows (P : RawRecorder → Prop) : Prop extends Inner P where
  rows : ∀ r (file : EventFile), file.attempts = r.events.attempts → P r → P { r with events := file }

/-- A predicate that has nothing to do with the stream of events. -/
structure BesideEvents (P : RawRecorder → Prop) : Prop extends Inner P where
  events : ∀ r events, P r → P { r with events }

theorem BesideEvents.toBesideRows (h : BesideEvents P) : BesideRows P :=
  { h.toInner with rows := fun r file _ hr => h.events r file hr }

theorem keeps_answer (h : Inner P) : Keeps P answer :=
  triple_answer fun _ r answers hr => h.answers r answers hr

theorem keeps_systemCall (h : Inner P) {action : String} {effect : RawRecorder → RawRecorder}
    (heffect : ∀ r, P r → P (effect r)) : Keeps P (systemCall action effect) :=
  triple_systemCall
    (fun r answers hr => heffect _ (h.answers r answers hr))
    (fun _ r answers hr => h.answers r answers hr)

theorem keeps_writeAll (h : Inner P) {put : List UInt8 → RawRecorder → RawRecorder}
    (hput : ∀ bytes r, P r → P (put bytes r)) (bytes : List UInt8) :
    Keeps P (writeAll put bytes) :=
  triple_writeAll
    (fun r answers hr => hput _ _ (h.answers r answers hr))
    (fun _ _ r answers hr => hput _ _ (h.answers r answers hr))

theorem keeps_sync (h : Inner P) {action : String} {mark : RawRecorder → RawRecorder}
    (hmark : ∀ r, P r → P (mark r)) : Keeps P (sync action mark) :=
  triple_sync
    (fun r answers hr => hmark _ (h.answers r answers hr))
    (fun _ r answers hr => h.answers r answers hr)

theorem keeps_closeFd (h : Inner P) {release mark : RawRecorder → RawRecorder}
    (hrelease : ∀ r, P r → P (release r)) (hmark : ∀ r, P r → P (mark r)) :
    Keeps P (closeFd release mark) :=
  triple_closeFd
    (fun r answers hr => hmark _ (h.answers _ answers (hrelease r hr)))
    (fun _ r answers hr => h.answers _ answers (hrelease r hr))

theorem keeps_realtimeNowNs (h : Inner P) : Keeps P realtimeNowNs :=
  triple_realtimeNowNs fun _ r clock _ hr => h.clock r clock hr

theorem keeps_fail (h : Inner P) : Keeps P fail := .modify h.failed

theorem keeps_attempt (h : Inner P) {action : Io Unit} (haction : Keeps P action) :
    Keeps P (attempt action) :=
  .tryCatch (.bind haction fun _ => .pure) fun _ => .bind (keeps_fail h) fun _ => .pure

theorem keeps_rethrow (errors : List (Option String)) : Keeps P (rethrow errors) := by
  unfold rethrow
  split
  · exact .throw
  · exact .pure

theorem keeps_closingOnError {α : Type} (h : Inner P) {action : Io α} (haction : Keeps P action) :
    Keeps P (closingOnError action) :=
  .tryCatch haction fun _ => .bind (keeps_answer h) fun _ => .throw

/-! ### The segment files and the directory -/

theorem keeps_writeData (h : BesideData P) (bytes : List UInt8) :
    Keeps P (writeAll putData bytes) :=
  keeps_writeAll h.toInner (fun _ r => h.data r _) bytes

theorem keeps_syncData (h : BesideData P) : Keeps P syncData :=
  keeps_sync h.toInner fun r => h.data r _

theorem keeps_closeData (h : BesideData P) : Keeps P closeData :=
  keeps_closeFd h.toInner (fun r => h.data r _) fun r => h.data r _

theorem keeps_syncDirectory (h : BesideFiles P) : Keeps P syncDirectory :=
  keeps_sync h.toInner fun r => h.synced r _

theorem keeps_closeDirectory (h : Inner P)
    (hdirectory : ∀ r directory, P r → P { r with directory }) : Keeps P closeDirectory :=
  .bind .get fun _ => .ite .pure
    (keeps_closeFd h (fun r => hdirectory r _) fun r => hdirectory r _)

theorem keeps_openSegment (h : BesideFiles P) : Keeps P openSegment := by
  refine .bind .get fun _ => .ite .throw ?_
  refine .bind (keeps_systemCall h.toInner fun r => h.data r _) fun _ => ?_
  refine .bind (keeps_realtimeNowNs h.toInner) fun _ => .bind .get fun _ => ?_
  refine .bind (keeps_writeData h.toBesideData _) fun _ => .bind (.modify fun r => h.data r _) ?_
  refine fun _ => .bind (keeps_syncData h.toBesideData) fun _ => ?_
  exact .bind (.modify fun r => h.data r _) fun _ => keeps_syncDirectory h

theorem keeps_writeRecord (h : BesideData P) (header metadata payload : List UInt8) :
    Keeps P (writeRecord header metadata payload) := by
  refine .tryCatch ?_ fun error => .bind (keeps_answer h.toInner) fun a => ?_
  · exact .bind (keeps_writeData h _) fun _ => .bind (keeps_writeData h _) fun _ =>
      keeps_writeData h _
  · split
    · exact .bind (keeps_fail h.toInner) fun _ => .throw
    · exact .bind (.modify fun r => h.data r _) fun _ => .throw

/-! ### The stream of events -/

theorem keeps_syncEvents (h : Inner P) : Keeps P syncEvents := keeps_sync h fun _ hr => hr

theorem keeps_closeEvents (h : BesideRows P) : Keeps P closeEvents :=
  .bind .get fun _ => .ite .pure
    (keeps_closeFd h.toInner (fun r => h.rows r _ rfl) fun _ hr => hr)

theorem keeps_rollback (h : BesideRows P) (before : Nat) : Keeps P (rollback before) :=
  .bind (keeps_systemCall h.toInner fun r => h.rows r _ rfl) fun _ =>
    .bind (keeps_systemCall h.toInner fun r => h.rows r _ rfl) fun _ => keeps_syncEvents h.toInner

theorem keeps_rescueEvent (h : BesideRows P) (before : Nat) (error : String) :
    Keeps P (rescueEvent before error) := by
  refine .bind (keeps_fail h.toInner) fun _ => .bind ?_ fun _ => .throw
  refine .tryCatch (keeps_rollback h before) fun _ => ?_
  refine .bind (.modify fun r => h.rows r _ rfl) fun _ => .bind ?_ fun _ => .throw
  exact .tryCatch (keeps_closeEvents h) fun _ => .pure

/-- The attempt to write an event. -/
def attemptOf (e : Json) (r : RawRecorder) : Attempt := ⟨e, r.failed, r.data.files, r.directory⟩

/-- What is known of an event from what is known before it: `P₀` up to the attempt, `P` then. -/
theorem triple_event {P₀ : RawRecorder → Prop} (h : BesideRows P)
    (hanswers : ∀ r answers, P₀ r → P₀ { r with answers }) (hweak : ∀ r, P₀ r → P r) {e : Json}
    (hattempt : ∀ r, P₀ r →
      P { r with events.attempts := attemptOf e r :: r.events.attempts }) (dump : Dump) :
    Triple P₀ (event dump e) (fun _ => P) (fun _ => P) := by
  refine .get_bind fun r₀ hr₀ => .ite (fun _ => .throw fun r hr => hr ▸ hweak _ hr₀) fun _ => ?_
  refine .tryCatch (E := fun _ => P) ?_ fun _ => ?_
  · refine .bind (Q := fun _ => P₀) (.lift ?_ ?_) fun text => ?_
    · exact fun _ r _ hr => hr ▸ hr₀
    · exact fun _ r _ hr => hr ▸ hweak _ hr₀
    refine .bind (Q := fun _ => P₀) ?_ fun _ => .get_bind fun r₁ hr₁ => ?_
    · exact triple_systemCall hanswers fun _ r answers hr => hweak _ (hanswers r answers hr)
    refine .bind (Q := fun _ => P) (.modify fun r hr => hattempt r (hr ▸ hr₁)) fun _ => ?_
    refine Keeps.tryCatch (.bind ?_ fun _ => keeps_syncEvents h.toInner) fun _ => ?_
    · exact keeps_writeAll h.toInner (fun bytes r => h.rows r (putEvents bytes r).events rfl) _
    · exact keeps_rescueEvent h _ _
  · exact Keeps.bind (keeps_fail h.toInner) fun _ => .throw

theorem keeps_event (h : BesideEvents P) (dump : Dump) (e : Json) : Keeps P (event dump e) :=
  triple_event h.toBesideRows h.answers (fun _ hr => hr) (fun r => h.events r _) dump

/-! ### The beginning -/

theorem keeps_publishDevice (h : Inner P) (hdevice : ∀ r text, P r → P { r with deviceJson := text })
    (dump : Dump) (device : Json) : Keeps P (publishDevice dump device) := by
  refine .bind (keeps_systemCall h fun _ hr => hr) fun _ => .bind ?_ fun text => ?_
  · refine keeps_closingOnError h (.bind .lift fun _ => .bind ?_ fun _ => .bind ?_ fun _ => .pure)
    · exact keeps_writeAll h (fun _ _ hr => hr) _
    · exact keeps_sync h fun _ hr => hr
  · refine .bind (keeps_closeFd h (fun _ hr => hr) fun _ hr => hr) fun _ => ?_
    refine .bind (keeps_systemCall h fun r => hdevice r _) fun _ => ?_
    exact keeps_systemCall h fun _ hr => hr

theorem keeps_syncParent (h : Inner P) : Keeps P syncParent :=
  .bind (keeps_systemCall h fun _ hr => hr) fun _ =>
    .bind (keeps_closingOnError h (keeps_sync h fun _ hr => hr)) fun _ =>
      keeps_closeFd h (fun _ hr => hr) fun _ hr => hr

theorem keeps_createDirectory (h : Inner P) : Keeps P createDirectory := by
  refine .bind .get fun _ => .bind (keeps_answer h) fun a => ?_
  split
  · exact .throw
  · exact .pure

/-! ### Methods -/

/-- A predicate that has nothing to do with the files and the counters. -/
structure BesideRecords (P : RawRecorder → Prop) : Prop extends BesideFiles P where
  counters : ∀ r records frames bytes, P r → P { r with records, frames, bytes }

/-- A predicate that has nothing to do with the beginning and the end either. -/
structure BesideMembers (P : RawRecorder → Prop) : Prop extends BesideRecords P where
  directory : ∀ r directory, P r → P { r with directory }
  closed : ∀ r, P r → P { r with closed := true }
  recordingFormat : ∀ r recordingFormat, P r → P { r with recordingFormat }
  deviceJson : ∀ r deviceJson, P r → P { r with deviceJson }

variable {dump : Dump}

theorem keeps_closeSegment (h : BesideData P)
    (hevent : ∀ r : RawRecorder, Keeps P (event dump r.segmentClosed)) :
    Keeps P (closeSegment dump) := by
  refine .bind .get fun _ => .ite .pure ?_
  refine .bind (keeps_attempt h.toInner (keeps_syncData h)) fun _ => ?_
  refine .bind (keeps_attempt h.toInner (keeps_closeData h)) fun _ => ?_
  exact .bind (keeps_rethrow _) fun _ => .bind .get fun r => hevent r

theorem keeps_countRecord (h : BesideRecords P) (size : Nat) (valid : Bool) (payload : List UInt8)
    (r : RawRecorder) (hr : P r) : P (countRecord size valid payload r) := by
  have hdata := h.data r { r.data with
    offset := r.data.offset + size
    segmentRecords := r.data.segmentRecords + 1 } hr
  exact h.counters _ _ _ _ hdata

theorem keeps_appendHere (h : BesideRecords P) (metadata payload : List UInt8) (valid : Bool) :
    Keeps P (appendHere metadata payload valid) := by
  refine .bind .get fun _ => .bind (keeps_writeRecord h.toBesideData _ _ _) fun _ => ?_
  refine .bind (.modify (keeps_countRecord h _ _ _)) fun _ => .bind .get fun _ => ?_
  exact .ite (.bind (keeps_syncData h.toBesideData) fun _ => .modify fun r => h.data r _) .pure

theorem keeps_append (h : BesideRecords P)
    (hevent : ∀ r : RawRecorder, Keeps P (event dump r.segmentClosed)) (buffer : RawBuffer) :
    Keeps P (append dump buffer) := by
  refine .bind .get fun _ => .ite .throw (.tryCatch (.ite .throw ?_) fun _ => ?_)
  · refine .bind .lift fun _ => .ite .throw (.bind .lift fun _ => .ite .throw ?_)
    refine .bind (.bind .get fun _ => .ite ?_ .pure) fun _ => keeps_appendHere h _ _ _
    exact .bind (keeps_closeSegment h.toBesideData hevent) fun _ => keeps_openSegment h.toBesideFiles
  · exact .bind (keeps_fail h.toInner) fun _ => .throw

/-- What is kept for later is a failure that is latched. -/
theorem triple_attempt {P P' : RawRecorder → Prop} {action : Io Unit}
    (haction : Triple P action (fun _ => P') (fun _ r => P' { r with failed := true })) :
    Triple P (attempt action) (fun _ => P') E :=
  .tryCatch (.bind haction fun _ => .pure fun _ h => h) fun _ =>
    .bind (Q := fun _ => P') (.modify fun _ h => h) fun _ => .pure fun _ h => h

/-- `Close`, one phase after the other. -/
theorem triple_close (P₀ P₁ P₂ P₃ : RawRecorder → Prop) {P P₄ : RawRecorder → Prop}
    {complete : Bool} {reason : String}
    (hagain : ∀ r, P r → r.closed = true → P₄ r)
    (hfirst : ∀ r, P r → r.closed = false → P₀ { r with closed := true })
    (hsegment : Triple P₀ (closeSegment dump) (fun _ => P₁) fun _ r => P₁ { r with failed := true })
    (hnodirectory : ∀ r, P₁ r → r.directory.fd = false → P₂ r)
    (hsync : Triple P₁ syncDirectory (fun _ => P₂) fun _ r => P₂ { r with failed := true })
    (hdirectory : Triple P₂ closeDirectory (fun _ => P₃) fun _ r => P₃ { r with failed := true })
    (hnoend : ∀ r, P₃ r → P₄ r)
    (hend : Triple P₃ (endSession dump complete reason) (fun _ => P₄)
      fun _ r => P₄ { r with failed := true })
    (hevents : Triple P₄ closeEvents (fun _ => P₄) fun _ r => P₄ { r with failed := true }) :
    Triple P (close dump complete reason) (fun _ => P₄) (fun _ => P₄) := by
  refine .get_bind fun r₀ hr₀ => .ite (fun hclosed => .pure ?_) fun hclosed => ?_
  · rintro r rfl
    exact hagain _ hr₀ hclosed
  rw [Bool.not_eq_true] at hclosed
  refine .bind (Q := fun _ => P₀) (.modify fun r h => h ▸ hfirst r₀ hr₀ hclosed) fun _ => ?_
  refine .bind (triple_attempt hsegment) fun _ => .get_bind fun r₁ hr₁ => ?_
  refine .bind (Q := fun _ => P₂) (.ite (fun _ => ?_) fun hfd => ?_) fun _ => ?_
  · exact (triple_attempt hsync).conseq (fun r h => h ▸ hr₁) (fun _ _ h => h) fun _ _ h => h
  · exact .pure fun r h => h ▸ hnodirectory r₁ hr₁ (Bool.not_eq_true _ ▸ hfd)
  refine .bind (triple_attempt hdirectory) fun _ => .get_bind fun r₃ hr₃ => ?_
  refine .bind (Q := fun _ => P₄) (.ite (fun _ => ?_) fun _ => ?_) fun _ => ?_
  · exact (triple_attempt hend).conseq (fun r h => h ▸ hr₃) (fun _ _ h => h) fun _ _ h => h
  · exact .pure fun r h => h ▸ hnoend r₃ hr₃
  · exact .bind (triple_attempt hevents) fun _ => keeps_rethrow _

/-- A computation that keeps a predicate keeps it when its failure is latched. -/
theorem triple_latched {action : Io Unit} (h : Inner P) (haction : Keeps P action) :
    Triple P action (fun _ => P) fun _ r => P { r with failed := true } :=
  haction.conseq (fun _ hr => hr) (fun _ _ hr => hr) fun _ r hr => h.failed r hr

theorem keeps_close (h : BesideMembers P)
    (hevent : ∀ r : RawRecorder, Keeps P (event dump r.segmentClosed))
    (hcloseEvents : Keeps P closeEvents) {complete : Bool} {reason : String}
    (hend : ∀ (r : RawRecorder) now, Keeps P (event dump (r.sessionEnd complete reason now))) :
    Keeps P (close dump complete reason) := by
  have hendSession : Keeps P (endSession dump complete reason) :=
    .bind .get fun r => .bind (keeps_realtimeNowNs h.toInner) fun now => hend r now
  refine triple_close P P P P (fun _ hr _ => hr)
    (fun r hr _ => h.closed r hr) (triple_latched h.toInner ?_) (fun _ hr _ => hr)
    (triple_latched h.toInner ?_) (triple_latched h.toInner ?_) (fun _ hr => hr)
    (triple_latched h.toInner hendSession) (triple_latched h.toInner hcloseEvents)
  · exact keeps_closeSegment h.toBesideData hevent
  · exact keeps_syncDirectory h.toBesideFiles
  · exact keeps_closeDirectory h.toInner h.directory

theorem keeps_openDevice (h : BesideMembers P)
    (hevent : ∀ r : RawRecorder, Keeps P (event dump r.segmentClosed))
    (hcloseEvents : Keeps P closeEvents)
    (hend : ∀ (r : RawRecorder) reason now, Keeps P (event dump (r.sessionEnd false reason now)))
    (hstart : ∀ format now, Keeps P (event dump (sessionStart format now)))
    (hstream : ∀ r : RawRecorder, P r → r.opened = false →
      P { r with events.fd := true, opened := true }) (device : Json) :
    Keeps P (openDevice dump device) := by
  refine Triple.get_bind fun r₀ hr₀ => .ite (fun _ => .throw fun r hr => hr ▸ hr₀) fun hfresh => ?_
  have hunopened : r₀.opened = false := by
    rw [Bool.or_eq_true, not_or, Bool.not_eq_true] at hfresh
    exact hfresh.1
  have hU : Inner fun r => P r ∧ r.opened = false :=
    { answers := fun r answers hr => ⟨h.answers r answers hr.1, hr.2⟩
      clock := fun r clock hr => ⟨h.clock r clock hr.1, hr.2⟩
      failed := fun r hr => ⟨h.failed r hr.1, hr.2⟩ }
  have hweaken {α : Type} {x : Io α} (hx : Keeps (fun r => P r ∧ r.opened = false) x) :
      Triple (fun r => P r ∧ r.opened = false) x (fun _ r => P r ∧ r.opened = false) fun _ => P :=
    Triple.conseq hx (fun _ hr => hr) (fun _ _ hr => hr) fun _ _ hr => hr.1
  refine .tryCatch (E := fun _ => P) ?_ fun _ => ?_
  · unfold openFiles
    split
    · rename_i format _
      refine .bind (Q := fun _ r => P r ∧ r.opened = false) ?_ fun _ =>
        .ite (fun _ => .throw fun _ hr => hr.1) fun _ => ?_
      · refine .modify ?_
        rintro r rfl
        exact ⟨h.recordingFormat r _ hr₀, hunopened⟩
      refine .bind (hweaken (.bind .get fun _ => .ite (keeps_systemCall hU fun _ hr => hr) .pure))
        fun _ => ?_
      refine .bind (hweaken (keeps_createDirectory hU)) fun _ => ?_
      refine .bind (hweaken (keeps_systemCall hU fun r hr => ⟨h.directory r _ hr.1, hr.2⟩))
        fun _ => ?_
      refine .bind (hweaken (keeps_publishDevice hU (fun r _ hr => ⟨h.deviceJson r _ hr.1, hr.2⟩)
        dump device)) fun _ => ?_
      refine .bind (Q := fun _ => P) ?_ fun _ => ?_
      · exact triple_systemCall (fun r answers hr => hstream _ (h.answers r answers hr.1) hr.2)
          fun _ r answers hr => h.answers r answers hr.1
      refine Keeps.bind (keeps_openSegment h.toBesideFiles) fun _ => ?_
      refine Keeps.bind (keeps_syncDirectory h.toBesideFiles) fun _ => ?_
      refine Keeps.bind (keeps_syncParent h.toInner) fun _ => ?_
      exact Keeps.bind (keeps_realtimeNowNs h.toInner) fun now => hstart format now
    · refine .throw ?_
      rintro r rfl
      exact hr₀
  · refine Keeps.bind (keeps_fail h.toInner) fun _ => .bind (.tryCatch ?_ fun _ => .pure) fun _ =>
      .throw
    exact keeps_close h hevent hcloseEvents fun r now => hend r _ now

/-- A predicate that every event keeps survives every call. -/
theorem keeps_run (h : BesideMembers P) (hevent : ∀ e, Keeps P (event dump e))
    (hcloseEvents : Keeps P closeEvents)
    (hstream : ∀ r : RawRecorder, P r → r.opened = false →
      P { r with events.fd := true, opened := true }) (m : RecorderMethod) :
    Keeps P (run dump m) := by
  cases m with
  | openDevice device =>
    exact keeps_openDevice h (fun _ => hevent _) hcloseEvents (fun _ _ _ => hevent _)
      (fun _ _ => hevent _) hstream device
  | append buffer => exact keeps_append h.toBesideRecords (fun _ => hevent _) buffer
  | event e => exact hevent e
  | close complete reason =>
    exact keeps_close h (fun _ => hevent _) hcloseEvents fun _ _ => hevent _

theorem keeps_step {r : RawRecorder} {c : RecorderCall} (h : Inner P)
    (hrun : Keeps P (run dump c.method)) (hr : P r) : P (step dump r c) := by
  have hclock := h.clock r c.clock hr
  exact hrun.state (h.answers _ c.answers hclock)

/-! ## The failure latch -/

theorem besideMembers_failed : BesideMembers fun r => r.failed = true where
  answers _ _ h := h
  clock _ _ h := h
  failed _ _ := rfl
  data _ _ h := h
  synced _ _ h := h
  directory _ _ h := h
  counters _ _ _ _ h := h
  closed _ h := h
  recordingFormat _ _ h := h
  deviceJson _ _ h := h

theorem besideEvents_failed : BesideEvents fun r => r.failed = true :=
  { besideMembers_failed.toInner with events := fun _ _ h => h }

theorem keeps_close_failed (complete : Bool) (reason : String) :
    Keeps (fun r => r.failed = true) (close dump complete reason) :=
  keeps_close besideMembers_failed (fun _ => keeps_event besideEvents_failed dump _)
    (keeps_closeEvents besideEvents_failed.toBesideRows) fun _ _ =>
      keeps_event besideEvents_failed dump _

/-- No call takes the failure latch back. -/
theorem failed_step (dump : Dump) {r : RawRecorder} (h : r.failed = true) (c : RecorderCall) :
    (step dump r c).failed = true := by
  refine keeps_step besideMembers_failed.toInner
    (keeps_run besideMembers_failed ?_ ?_ (fun _ h _ => h) _) h
  · exact keeps_event besideEvents_failed dump
  · exact keeps_closeEvents besideEvents_failed.toBesideRows

end RawRecorder
end Ebus
end AmigaDrivers
