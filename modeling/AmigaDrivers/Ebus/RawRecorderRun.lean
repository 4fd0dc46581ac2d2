import AmigaDrivers.Ebus.RawRecorderLayout

/-!
# A recording that meets no failure

* `Calm`: the recorder takes calls, and the operating system does what it is asked to.
* `calm_append`: then `Append` does not throw.
* `exists_recording`: so a recording can be as long as one likes, up to the last segment.
-/

namespace AmigaDrivers
namespace Ebus
namespace RawRecorder

open Effect

section Calm

/-- The recorder takes calls, and no system call is going to fail. -/
structure Calm (r : RawRecorder) : Prop where
  answers : r.answers = []
  refuses : r.refuses = false
  events : r.events.fd = true

/-- The computation does not throw, and leaves the recorder as calm as it was. -/
def StaysCalm {α : Type} (x : Io α) (Q : α → Prop) : Prop :=
  Triple Calm x (fun a r => Q a ∧ Calm r) fun _ _ => False

variable {dump : Dump} {α β : Type} {x : Io α} {Q : α → Prop}

theorem StaysCalm.bind {f : α → Io β} {R : β → Prop} (hx : StaysCalm x Q)
    (hf : ∀ a, Q a → StaysCalm (f a) R) : StaysCalm (x >>= f) R :=
  Triple.bind hx fun a => .of_fact (hf a)

theorem StaysCalm.pure {a : α} (ha : Q a) : StaysCalm (pure a) Q := fun _ h => ⟨ha, h⟩

theorem StaysCalm.get_bind {f : RawRecorder → Io β} {R : β → Prop}
    (hf : ∀ r, Calm r → StaysCalm (f r) R) : StaysCalm (MonadState.get >>= f) R :=
  fun r h => hf r h r h

theorem StaysCalm.modify {g : RawRecorder → RawRecorder} (hg : ∀ r, Calm r → Calm (g r)) :
    StaysCalm (modify g) fun _ => True := fun r h => ⟨trivial, hg r h⟩

theorem StaysCalm.lift {a : α} : StaysCalm (lift (.ok a)) fun b => b = a := fun _ h => ⟨rfl, h⟩

/-- What does not throw is not handled. -/
theorem StaysCalm.tryCatch {handler : String → Io α} (hx : StaysCalm x Q) :
    StaysCalm (tryCatch x handler) Q :=
  Triple.tryCatch hx fun _ _ h => h.elim

theorem calm_answer : StaysCalm answer fun a => a = .done := by
  intro r h
  unfold answer
  rw [outcome_get_bind]
  rw [h.answers]
  exact ⟨rfl, h⟩

theorem calm_systemCall {action : String} {effect : RawRecorder → RawRecorder}
    (heffect : ∀ r, Calm r → Calm (effect r)) :
    StaysCalm (systemCall action effect) fun _ => True := by
  refine .bind calm_answer ?_
  rintro _ rfl
  exact .modify heffect

theorem calm_writeAll {put : List UInt8 → RawRecorder → RawRecorder} {bytes : List UInt8}
    (hput : ∀ r, Calm r → Calm (put bytes r)) : StaysCalm (writeAll put bytes) fun _ => True := by
  intro r h
  unfold writeAll
  rw [outcome_get_bind]
  have hloop : writeLoop r.answers bytes = (bytes.length, .ok (), []) := by
    rw [h.answers]
    cases bytes <;> rfl
  have hsame : ({ r with answers := [] } : RawRecorder) = r := by rw [← h.answers]
  rw [hloop]
  dsimp only
  rw [List.take_length, hsame]
  exact ⟨trivial, hput r h⟩

theorem calm_sync {action : String} {mark : RawRecorder → RawRecorder}
    (hmark : ∀ r, Calm r → Calm (mark r)) : StaysCalm (sync action mark) fun _ => True := by
  intro r h
  unfold sync
  rw [outcome_get_bind]
  have hsame : ({ r with answers := [] } : RawRecorder) = r := by rw [← h.answers]
  rw [h.answers]
  show After _ _ (_, mark { r with answers := [] })
  rw [hsame]
  exact ⟨trivial, hmark r h⟩

theorem calm_attempt {action : Io Unit} (haction : StaysCalm action fun _ => True) :
    StaysCalm (attempt action) fun error => error = none :=
  .tryCatch (.bind haction fun _ _ => .pure rfl)

theorem calm_syncData : StaysCalm syncData fun _ => True :=
  calm_sync fun _ h => ⟨h.answers, h.refuses, h.events⟩

/-- An event that can be dumped is written. -/
theorem calm_event (hdump : ∀ indent j, ∃ text, dump indent j = .ok text) (e : Json) :
    StaysCalm (event dump e) fun _ => True := by
  refine .get_bind fun r hr => ?_
  obtain ⟨text, htext⟩ := hdump (-1) e
  rw [hr.events]
  refine .tryCatch ?_
  unfold writeEvent
  rw [htext]
  refine .bind .lift fun _ _ => .bind (calm_systemCall fun _ h => h) fun _ _ => ?_
  refine .get_bind fun r' _ => .bind (.modify fun _ h => ⟨h.answers, h.refuses, h.events⟩) fun _ _ => ?_
  refine .tryCatch (.bind (calm_writeAll ?_) fun _ _ => calm_sync fun _ h => h)
  exact fun _ h => ⟨h.answers, h.refuses, h.events⟩

theorem calm_closeSegment (hdump : ∀ indent j, ∃ text, dump indent j = .ok text) :
    StaysCalm (closeSegment dump) fun _ => True := by
  refine .get_bind fun r _ => ?_
  cases r.data.fd with
  | false => exact .pure trivial
  | true =>
    refine .bind (calm_attempt calm_syncData) ?_
    rintro _ rfl
    refine .bind (calm_attempt (.bind (.modify ?_) fun _ _ => calm_systemCall ?_)) ?_
    · exact fun _ h => ⟨h.answers, h.refuses, h.events⟩
    · exact fun _ h => ⟨h.answers, h.refuses, h.events⟩
    rintro _ rfl
    exact .bind (Q := fun _ => True) (.pure trivial) fun _ _ => .get_bind fun r _ =>
      calm_event hdump _

theorem calm_openSegment :
    Triple (fun r => Calm r ∧ r.view.segment ≠ 2 ^ 64 - 1) openSegment
      (fun _ r => True ∧ Calm r) fun _ _ => False := by
  refine .get_bind fun r₀ hr₀ => .ite (fun hlast => absurd hlast hr₀.2) fun _ => ?_
  have hcalm : StaysCalm (do
      systemCall "create raw segment" fun r =>
        { r with data := { fd := true, segment := r.data.segment + 1, files := {} :: r.data.files } }
      let created ← realtimeNowNs
      let r ← MonadState.get
      let header := makeFileHeader r.sse42 created r.data.segment
      writeAll putData header
      MonadState.modifyGet fun r => ((), { r with data.offset := header.length })
      syncData
      MonadState.modifyGet fun r => ((), { r with data.synced := r.data.offset })
      syncDirectory) fun _ => True := by
    refine .bind (calm_systemCall fun _ h => ⟨h.answers, h.refuses, h.events⟩) fun _ _ => ?_
    refine .bind (Q := fun _ => True) ?_ fun created _ => .get_bind fun r _ => ?_
    · refine triple_realtimeNowNs fun _ _ _ _ h => ⟨trivial, h.answers, h.refuses, h.events⟩
    refine .bind (calm_writeAll fun _ h => ⟨h.answers, h.refuses, h.events⟩) fun _ _ => ?_
    refine .bind (.modify fun _ h => ⟨h.answers, h.refuses, h.events⟩) fun _ _ => ?_
    refine .bind calm_syncData fun _ _ => ?_
    refine .bind (.modify fun _ h => ⟨h.answers, h.refuses, h.events⟩) fun _ _ => ?_
    exact calm_sync fun _ h => ⟨h.answers, h.refuses, h.events⟩
  exact Triple.conseq hcalm (fun r hr => hr ▸ hr₀.1) (fun _ _ h => h) fun _ _ h => h

theorem calm_rotate (hdump : ∀ indent j, ∃ text, dump indent j = .ok text) (v : View) (size : Nat)
    (hsegment : v.segment ≠ 2 ^ 64 - 1) :
    Triple (fun r => Calm r ∧ r.view = v) (rotate dump size) (fun _ r => True ∧ Calm r)
      fun _ _ => False := by
  refine .get_bind fun r₀ hr₀ => .ite (fun _ => ?_) fun _ => .pure fun r hr => ⟨trivial, hr ▸ hr₀.1⟩
  refine .bind (Q := fun _ r => Calm r ∧ r.view.segment ≠ 2 ^ 64 - 1) ?_ fun _ => calm_openSegment
  refine (Triple.and (calm_closeSegment hdump) (keeps_closeSegment_at (v := v))).conseq
    (fun r hr => hr ▸ hr₀) (fun _ r h => ⟨h.1.2, ?_⟩) fun _ _ h => h.1
  rw [h.2]
  exact hsegment

theorem calm_putData (bytes : List UInt8) : StaysCalm (writeAll putData bytes) fun _ => True :=
  calm_writeAll fun _ h => ⟨h.answers, h.refuses, h.events⟩

theorem calm_appendHere (metadata payload : List UInt8) (valid : Bool) :
    StaysCalm (appendHere metadata payload valid) fun _ => True := by
  refine .get_bind fun r _ => .bind (Q := fun _ => True) (.tryCatch ?_) fun _ _ =>
    .bind (.modify ?_) fun _ _ => ?_
  · exact .bind (calm_putData _) fun _ _ => .bind (calm_putData _) fun _ _ => calm_putData _
  · exact fun _ h => ⟨h.answers, h.refuses, h.events⟩
  refine .get_bind fun r' _ => ?_
  split_ifs
  · exact .bind calm_syncData fun _ _ => .modify fun _ h => ⟨h.answers, h.refuses, h.events⟩
  · exact .pure trivial

/-- **`Append` that meets no failure.** -/
theorem calm_append (hdump : ∀ indent j, ∃ text, dump indent j = .ok text) {buffer : RawBuffer}
    {metadata : List UInt8} {valid : Bool} (hobject : buffer.metadata.isObject = true)
    (hadmitted : Admitted dump buffer metadata valid) {v : View}
    (hsegment : v.segment ≠ 2 ^ 64 - 1) :
    Triple (fun r => Calm r ∧ r.view = v) (append dump buffer) (fun _ r => True ∧ Calm r)
      fun _ _ => False := by
  refine .get_bind fun r₀ hr₀ => .ite (fun hrefuses => ?_) fun _ => .tryCatch (E := fun _ _ => False)
    ?_ fun _ _ h => h.elim
  · exact absurd (hr₀.1.refuses.symm.trans hrefuses) Bool.false_ne_true
  refine .ite (fun hnot => ?_) fun _ => ?_
  · rw [hobject] at hnot
    exact nomatch hnot
  rw [hadmitted.dumped]
  refine .bind (Q := fun m r => m = metadata ∧ r = r₀) (fun _ h => ⟨rfl, h⟩) fun m => .of_fact ?_
  rintro rfl
  refine .ite (fun hlong => absurd hlong (Nat.not_lt.mpr hadmitted.metadata_le)) fun _ => ?_
  rw [hadmitted.valid]
  refine .bind (Q := fun b r => b = valid ∧ r = r₀) (fun _ h => ⟨rfl, h⟩) fun b => .of_fact ?_
  rintro rfl
  refine .ite (fun hlong => absurd hlong (Nat.not_lt.mpr hadmitted.payload_le)) fun _ => ?_
  refine .bind (Q := fun _ r => True ∧ Calm r) ?_ fun _ => .of_fact fun _ => calm_appendHere _ _ _
  exact (calm_rotate hdump v _ hsegment).conseq (fun r hr => hr ▸ hr₀) (fun _ _ h => h)
    fun _ _ h => h

end Calm

/-! ## A long recording -/

namespace LongRecording

/-- Everything can be dumped. -/
def dump : Dump := fun indent j => .ok (j.dump indent)

/-- Segments as long as a file can be. -/
def options : RecorderOptions := { directory := "raw/camera", segmentBytes := 2 ^ 63 }

/-- The recorder after `Open`. -/
def opened : RawRecorder :=
  step dump { options } ⟨.openDevice (.object [("recording_format", .str "raw")]), [], []⟩

/-- A buffer with nothing in it. -/
def buffer : RawBuffer := ⟨.object [], []⟩

/-- `Append` that meets no failure. -/
def append : RecorderCall := ⟨.append buffer, [], []⟩

/-- What is known after `n` buffers. -/
structure After (n : Nat) (r : RawRecorder) : Prop where
  reachable : (system dump).Reachable r
  refuses : r.refuses = false
  events : r.events.fd = true
  options : r.view.options = options
  offset : r.view.offset = 64 + 50 * r.view.segmentRecords
  segment : 2 * r.view.segment + min 2 r.view.segmentRecords ≤ n + 2
  complete : completeRecords r.sse42 r.view.contents = n

theorem after_opened : After 0 opened where
  reachable := .step (.init ⟨options, true, ⟨by decide, by decide⟩, rfl⟩) rfl
  refuses := rfl
  events := rfl
  options := rfl
  offset := rfl
  segment := by decide
  complete := by
    obtain ⟨bytes, hbytes, hlength⟩ :
        ∃ bytes, opened.view.contents = [bytes] ∧ bytes.length ≤ kFileHeaderSize :=
      ⟨_, rfl, by decide⟩
    unfold completeRecords
    rw [hbytes, List.map_singleton, List.sum_singleton, segmentEntries_of_short hlength,
      List.length_nil]

theorem admitted : Admitted dump buffer [123, 125] false where
  dumped := rfl
  metadata_le := by decide
  valid := rfl
  payload_le := by decide

/-- The segments are so long that each holds two records. -/
theorem two_le_of_mustRotate {v : View} (hoptions : v.options = options)
    (hoffset : v.offset = 64 + 50 * v.segmentRecords)
    (h : v.mustRotate (recordSize [123, 125] []) = true) : 2 ≤ v.segmentRecords := by
  have hsize : recordSize [123, 125] [] = 50 := rfl
  have hbytes : options.segmentBytes = 2 ^ 63 := rfl
  have hrecords : options.segmentRecords = 0 := rfl
  unfold View.mustRotate maxOffset at h
  rw [hoptions, hsize, hbytes, hrecords] at h
  simp only [Bool.and_eq_true, Bool.or_eq_true, decide_eq_true_eq] at h
  omega

/-- One buffer more. -/
theorem After.step {n : Nat} {r : RawRecorder} (h : After n r) (hn : n ≤ 2 ^ 64) :
    After (n + 1) (RawRecorder.step dump r append) := by
  have hdump (indent : Int) (j : Json) : ∃ text, dump indent j = .ok text := ⟨_, rfl⟩
  have hstored := stored_of_reachable h.reachable
  have hne := hstored.live h.refuses
  have hfailed : r.failed = false := (Bool.or_eq_false_iff.mp h.refuses).2
  obtain ⟨segments, -, hintact⟩ := hstored.files
  have hintact := hintact hfailed
  have hcomplete : total segments = n := hintact.laid.completeRecords_eq.symm.trans h.complete
  have hsegment := h.segment
  let start : RawRecorder := { r with answers := [], clock := [] }
  have hstart : Calm start := ⟨rfl, h.refuses, h.events⟩
  have hsegment' : r.view.segment ≠ 2 ^ 64 - 1 := by omega
  have hafter := ((triple_append_at (hintact.whole hne) buffer).and
    (calm_append hdump rfl admitted hsegment')) start ⟨⟨h.refuses, rfl⟩, hstart, rfl⟩
  have hreach : (system dump).Reachable (RawRecorder.step dump r append) := .step h.reachable rfl
  have hstep : RawRecorder.step dump r append = ((RawRecorder.append dump buffer).outcome start).2 := rfl
  rw [hstep] at hreach ⊢
  cases houtcome : (RawRecorder.append dump buffer).outcome start with
  | mk result r' =>
    rw [houtcome] at hafter hreach
    cases result with
    | error e => exact hafter.2.elim
    | ok =>
      obtain ⟨⟨flushed, hwritten⟩, -, hcalm⟩ := hafter
      obtain ⟨segments', hintact', htotal, -⟩ := hintact.written hne hwritten
      obtain ⟨metadata, valid, v₁, hadmitted, hrotated, hview⟩ := hwritten
      obtain rfl : [123, 125] = metadata := Except.ok.inj (admitted.dumped.symm.trans hadmitted.dumped)
      have hlength : (Entry.bytes v₁.sse42 (v₁.entry [123, 125] buffer.payload)).length = 50 :=
        Entry.length_bytes _ _
      have hoffset' : r'.view.offset = v₁.offset + 50 := by
        rw [hview, ← hlength]
        rfl
      have hrecords' : r'.view.segmentRecords = v₁.segmentRecords + 1 := by rw [hview]; rfl
      have hnumber' : r'.view.segment = v₁.segment := by rw [hview]; rfl
      have hoptions' : r'.view.options = v₁.options := by rw [hview]; rfl
      refine ⟨hreach, hcalm.refuses, hcalm.events, ?_, ?_, ?_, ?_⟩
      · rw [hoptions']
        cases hrotated <;> exact h.options
      · rw [hoffset', hrecords']
        cases hrotated with
        | stays =>
          have hoffset := h.offset
          omega
        | moves => rfl
      · rw [hnumber', hrecords']
        cases hrotated with
        | stays => omega
        | moves hmust =>
          have htwo := two_le_of_mustRotate h.options h.offset hmust
          show 2 * (r.view.segment + 1) + min 2 (0 + 1) ≤ _
          omega
      · have hall := hintact'.laid.completeRecords_eq
        rw [htotal, hcomplete] at hall
        exact hall

/-- A recording of any length up to one more than the counter can count. -/
theorem exists_after {n : Nat} (hn : n ≤ 2 ^ 64 + 1) : ∃ r, After n r := by
  induction n with
  | zero => exact ⟨opened, after_opened⟩
  | succ n ih =>
    obtain ⟨r, hr⟩ := ih (by omega)
    exact ⟨_, hr.step (by omega)⟩

end LongRecording

end RawRecorder
end Ebus
end AmigaDrivers
