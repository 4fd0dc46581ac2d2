import AmigaDrivers.Common.DriversJson
import AmigaDrivers.Foundation.ReplacedFile
import AmigaDrivers.Foundation.StepSystem

/-!
# Writing the manifest

`WriteJsonAtomic`, call by call: open the temporary file, dump the document, write it in as many
pieces as the system takes, sync it, rename it, and sync the directory.  How a call ends is an
action; a crash is a run that goes no further.  A document is the text it is dumped to, or nothing
if the dump throws.

* `JsonFile.step`: what each call does.
* `JsonFile.AtStage`: what holds between any two calls.
* `write_json_atomic`: the old document or the new one, and never a silent failure.
-/

namespace AmigaDrivers
namespace Common

open ReplacedFile

/-- Where `WriteJsonAtomic` stands. -/
inductive JsonStage
  | opening
  | dumping
  | writing (left : List UInt8)
  | syncing
  | replacing
  | openingDir
  | syncingDir
  | returned
  | threw
  deriving DecidableEq, Repr

/-- How a call ends. -/
inductive JsonCall
  | opened (ok : Bool)
  | dumped
  | wrote (n : Nat)
  | interrupted
  | writeFailed
  | synced (ok : Bool)
  | renamed (ok : Bool)
  | dirOpened (ok : Bool)
  | dirSynced (ok : Bool)
  deriving DecidableEq, Repr

/-- A `WriteJsonAtomic` that is going on.  `done` says which steps have succeeded. -/
structure JsonFile where
  stage : JsonStage := .opening
  disk : Disk
  done : JsonWrite := ⟨false, false, false, false, false, false, false⟩

namespace JsonFile

/-- The loop goes on as long as something is left to write. -/
def loop (s : JsonFile) (left : List UInt8) : JsonFile :=
  if left = [] then { s with stage := .syncing, done := { s.done with written := true } }
  else { s with stage := .writing left }

/-- A throw. -/
def throw (s : JsonFile) : JsonFile := { s with stage := .threw }

/-- What a call does. -/
def step (document : Option (List UInt8)) (s : JsonFile) (call : JsonCall) : Option JsonFile :=
  match s.stage, call with
  | .opening, .opened ok =>
    if ok then
      some { s with
        stage := .dumping, disk := s.disk.truncate, done := { s.done with opened := true } }
    else some s.throw
  | .dumping, .dumped =>
    match document with
    | none => some s.throw
    | some text => some ({ s with done := { s.done with dumped := true } }.loop (text ++ [10]))
  | .writing left, .wrote n =>
    if n = 0 then some s.throw
    else if n ≤ left.length then
      some ({ s with disk := s.disk.append (left.take n) }.loop (left.drop n))
    else none
  | .writing _, .interrupted => some s
  | .writing _, .writeFailed => some s.throw
  | .syncing, .synced ok =>
    if ok then
      some { s with
        stage := .replacing, disk := s.disk.syncData, done := { s.done with synced := true } }
    else some s.throw
  | .replacing, .renamed ok =>
    if ok then
      some { s with
        stage := .openingDir, disk := s.disk.rename, done := { s.done with renamed := true } }
    else some s.throw
  | .openingDir, .dirOpened ok =>
    if ok then
      some { s with stage := .syncingDir, done := { s.done with dirOpened := true } }
    else some s.throw
  | .syncingDir, .dirSynced ok =>
    if ok then
      some { s with
        stage := .returned, disk := s.disk.syncDir, done := { s.done with dirSynced := true } }
    else some s.throw
  | _, _ => none

/-- `WriteJsonAtomic` of a document, on a disk. -/
def system (document : Option (List UInt8)) (start : Disk) : StepSystem JsonFile JsonCall where
  Init s := s = { disk := start }
  step := step document

/-! ## Between two calls -/

variable {document : Option (List UInt8)} {start : Disk}

/-- Before the rename nothing has happened to the name. -/
structure Untouched (start : Disk) (s : JsonFile) : Prop where
  target : s.disk.target = start.target
  older : s.disk.older = start.older

/-- After the rename the name stands for the new document, which is on the disk. -/
structure Replaced (document : Option (List UInt8)) (start : Disk) (s : JsonFile) : Prop where
  text : ∃ text, document = some text ∧ s.disk.target = some ⟨text ++ [10], true⟩
  older : s.disk.older = start.target :: start.older ∨ s.disk.older = []

/-- What is known at a stage: what has been written and what has succeeded. -/
def AtStage (document : Option (List UInt8)) (start : Disk) (s : JsonFile) : Prop :=
  match s.stage with
  | .opening => Untouched start s ∧ s.done = ⟨false, false, false, false, false, false, false⟩
  | .dumping => Untouched start s ∧ s.done = ⟨true, false, false, false, false, false, false⟩ ∧
      s.disk.temporary = some ⟨[], false⟩
  | .writing left => Untouched start s ∧ s.done = ⟨true, true, false, false, false, false, false⟩ ∧
      ∃ text written, document = some text ∧ written ++ left = text ++ [10] ∧
        s.disk.temporary = some ⟨written, false⟩
  | .syncing => Untouched start s ∧ s.done = ⟨true, true, true, false, false, false, false⟩ ∧
      ∃ text, document = some text ∧ s.disk.temporary = some ⟨text ++ [10], false⟩
  | .replacing => Untouched start s ∧ s.done = ⟨true, true, true, true, false, false, false⟩ ∧
      ∃ text, document = some text ∧ s.disk.temporary = some ⟨text ++ [10], true⟩
  | .openingDir => Replaced document start s ∧ s.done = ⟨true, true, true, true, true, false, false⟩
  | .syncingDir => Replaced document start s ∧ s.done = ⟨true, true, true, true, true, true, false⟩
  | .returned => Replaced document start s ∧ s.disk.older = [] ∧ s.done = JsonWrite.done
  | .threw => s.done.ok = false ∧
      (s.done.publishes = false ∧ Untouched start s ∨
        s.done.publishes = true ∧ Replaced document start s)

/-- Entering the loop, or leaving it. -/
theorem atStage_loop {s : JsonFile} (huntouched : Untouched start s)
    (hdone : s.done = ⟨true, true, false, false, false, false, false⟩) {text written : List UInt8}
    (hdocument : document = some text) {left : List UInt8} (htext : written ++ left = text ++ [10])
    (htemporary : s.disk.temporary = some ⟨written, false⟩) :
    AtStage document start (s.loop left) := by
  unfold loop
  split_ifs with hleft
  · rw [hleft, List.append_nil] at htext
    refine ⟨⟨huntouched.target, huntouched.older⟩, ?_, text, hdocument, htext ▸ htemporary⟩
    show { s.done with written := true } = _
    rw [hdone]
  · exact ⟨⟨huntouched.target, huntouched.older⟩, hdone, text, written, hdocument, htext, htemporary⟩

/-- A throw before the rename. -/
theorem atStage_throw {s : JsonFile} (huntouched : Untouched start s)
    (hdone : s.done.publishes = false) : AtStage document start s.throw := by
  refine ⟨?_, .inl ⟨hdone, huntouched.target, huntouched.older⟩⟩
  show s.done.ok = false
  rw [JsonWrite.ok, hdone, Bool.false_and, Bool.false_and]

/-- **What is known survives every call.** -/
theorem atStage_step {s s' : JsonFile} {call : JsonCall} (h : AtStage document start s)
    (hstep : step document s call = some s') : AtStage document start s' := by
  obtain ⟨stage, disk, done⟩ := s
  unfold step at hstep
  cases stage with
  | opening =>
    obtain ⟨huntouched, rfl⟩ := h
    cases call with
    | opened ok =>
      cases ok <;> obtain rfl := Option.some.inj hstep
      · exact atStage_throw huntouched rfl
      · exact ⟨⟨huntouched.target, huntouched.older⟩, rfl, rfl⟩
    | _ => exact nomatch hstep
  | dumping =>
    obtain ⟨huntouched, rfl, htemporary⟩ := h
    cases call with
    | dumped =>
      cases document with
      | none =>
        obtain rfl := Option.some.inj hstep
        exact atStage_throw huntouched rfl
      | some text =>
        obtain rfl := Option.some.inj hstep
        have hloop := atStage_loop
          (s := ⟨.dumping, disk, ⟨true, true, false, false, false, false, false⟩⟩)
          ⟨huntouched.target, huntouched.older⟩ rfl rfl (List.nil_append (text ++ [10])) htemporary
        exact hloop
    | _ => exact nomatch hstep
  | writing left =>
    obtain ⟨huntouched, rfl, text, written, hdocument, htext, htemporary⟩ := h
    cases call with
    | wrote n =>
      dsimp only at hstep
      split_ifs at hstep with hnone hsome
      · obtain rfl := Option.some.inj hstep
        exact atStage_throw huntouched rfl
      · obtain rfl := Option.some.inj hstep
        have hall : written ++ left.take n ++ left.drop n = text ++ [10] := by
          rw [List.append_assoc, List.take_append_drop, htext]
        have happended : (disk.append (left.take n)).temporary =
            some ⟨written ++ left.take n, false⟩ := by
          show Option.map _ disk.temporary = _
          rw [htemporary]
          rfl
        have hloop := atStage_loop
          (s := ⟨.writing left, disk.append (left.take n),
            ⟨true, true, false, false, false, false, false⟩⟩)
          ⟨huntouched.target, huntouched.older⟩ rfl hdocument hall happended
        exact hloop
    | interrupted =>
      obtain rfl := Option.some.inj hstep
      exact ⟨huntouched, rfl, text, written, hdocument, htext, htemporary⟩
    | writeFailed =>
      obtain rfl := Option.some.inj hstep
      exact atStage_throw huntouched rfl
    | _ => exact nomatch hstep
  | syncing =>
    obtain ⟨huntouched, rfl, text, hdocument, htemporary⟩ := h
    cases call with
    | synced ok =>
      cases ok <;> obtain rfl := Option.some.inj hstep
      · exact atStage_throw huntouched rfl
      · refine ⟨⟨huntouched.target, huntouched.older⟩, rfl, text, hdocument, ?_⟩
        show Option.map _ disk.temporary = _
        rw [htemporary]
        rfl
    | _ => exact nomatch hstep
  | replacing =>
    obtain ⟨huntouched, rfl, text, hdocument, htemporary⟩ := h
    cases call with
    | renamed ok =>
      cases ok <;> obtain rfl := Option.some.inj hstep
      · exact atStage_throw huntouched rfl
      · have hrename : disk.rename =
            { target := some ⟨text ++ [10], true⟩, older := disk.target :: disk.older } := by
          unfold Disk.rename
          rw [htemporary]
        refine ⟨⟨⟨text, hdocument, ?_⟩, .inl ?_⟩, rfl⟩
        · exact congrArg Disk.target hrename
        · refine (congrArg Disk.older hrename).trans ?_
          exact congrArg₂ List.cons huntouched.target huntouched.older
    | _ => exact nomatch hstep
  | openingDir =>
    obtain ⟨hreplaced, rfl⟩ := h
    cases call with
    | dirOpened ok =>
      cases ok <;> obtain rfl := Option.some.inj hstep
      · exact ⟨rfl, .inr ⟨rfl, hreplaced.text, hreplaced.older⟩⟩
      · exact ⟨⟨hreplaced.text, hreplaced.older⟩, rfl⟩
    | _ => exact nomatch hstep
  | syncingDir =>
    obtain ⟨hreplaced, rfl⟩ := h
    cases call with
    | dirSynced ok =>
      cases ok <;> obtain rfl := Option.some.inj hstep
      · exact ⟨rfl, .inr ⟨rfl, hreplaced.text, hreplaced.older⟩⟩
      · exact ⟨⟨hreplaced.text, .inr rfl⟩, rfl, rfl⟩
    | _ => exact nomatch hstep
  | returned => cases call <;> exact nomatch hstep
  | threw => cases call <;> exact nomatch hstep

theorem atStage_reachable {s : JsonFile} (h : (system document start).Reachable s) :
    AtStage document start s :=
  h.invariant (fun _ hinit => hinit ▸ ⟨⟨rfl, rfl⟩, rfl⟩) fun _ _ _ => atStage_step

/-- At every stage the name has been left alone, or stands for the new document. -/
theorem AtStage.untouched_or_replaced {s : JsonFile} (h : AtStage document start s) :
    Untouched start s ∨ Replaced document start s := by
  unfold AtStage at h
  split at h
  · exact .inl h.1
  · exact .inl h.1
  · exact .inl h.1
  · exact .inl h.1
  · exact .inl h.1
  · exact .inr h.1
  · exact .inr h.1
  · exact .inr h.1
  · exact h.2.imp And.right And.right

/-- What is found in place of the new document, with nothing older left behind it. -/
theorem Replaced.found {s : JsonFile} (h : Replaced document start s) {content : Option (List UInt8)}
    (hfound : s.disk.Found content) :
    (∃ text, document = some text ∧ content = some (text ++ [10])) ∨
      s.disk.older ≠ [] ∧ start.Found content := by
  obtain ⟨text, hdocument, htarget⟩ := h.text
  obtain ⟨file, hfile, hcontent⟩ := hfound
  obtain rfl | hold := List.mem_cons.mp hfile
  · rw [htarget] at hcontent
    obtain ⟨data, rfl, hdata⟩ := hcontent
    exact .inl ⟨text, hdocument, by rw [hdata rfl]⟩
  · refine .inr ⟨List.ne_nil_of_mem hold, file, ?_, hcontent⟩
    obtain holder | holder := h.older
    · exact holder ▸ hold
    · rw [holder] at hold
      exact nomatch hold

end JsonFile

open JsonFile

/-- **The manifest is replaced as a whole.**  Between any two calls, and so after a crash or a failure
at any of them, the name stands for the document it stood for before or for all of the new one; so it
does after a loss of power, which can bring back no more than it could have at the start.  Once
`WriteJsonAtomic` has returned it stands for the new one even then, and all steps have succeeded; when
it throws, `DriversJson` reports a failure. -/
theorem write_json_atomic (document : Option (List UInt8)) (start : Disk) :
    ∀ s, (JsonFile.system document start).Reachable s →
      (s.disk.live = start.live ∨
        ∃ text, document = some text ∧ s.disk.live = some (text ++ [10])) ∧
      (∀ content, s.disk.Found content → start.Found content ∨
        ∃ text, document = some text ∧ content = some (text ++ [10])) ∧
      (s.stage = .returned → s.done = JsonWrite.done ∧
        ∃ text, document = some text ∧ s.disk.live = some (text ++ [10]) ∧
          ∀ content, s.disk.Found content → content = some (text ++ [10])) ∧
      (s.stage = .threw → ∀ (manifest : DriversJson) (other : JsonWrite),
        (manifest.write ⟨s.done, other⟩).2 = false ∧
        (manifest.hasControl = true → (manifest.write ⟨other, s.done⟩).2 = false)) := by
  intro s hs
  have hstage := atStage_reachable hs
  refine ⟨?_, ?_, ?_, ?_⟩
  · obtain huntouched | hreplaced := hstage.untouched_or_replaced
    · exact .inl (congrArg (Option.map File.data) huntouched.target)
    · obtain ⟨text, hdocument, htarget⟩ := hreplaced.text
      exact .inr ⟨text, hdocument, congrArg (Option.map File.data) htarget⟩
  · intro content hfound
    obtain huntouched | hreplaced := hstage.untouched_or_replaced
    · refine .inl ?_
      unfold Disk.Found at hfound ⊢
      rwa [huntouched.target, huntouched.older] at hfound
    · exact (hreplaced.found hfound).symm.imp And.right id
  · intro hreturned
    unfold AtStage at hstage
    rw [hreturned] at hstage
    obtain ⟨hreplaced, holder, hdone⟩ := hstage
    obtain ⟨text, hdocument, htarget⟩ := hreplaced.text
    refine ⟨hdone, text, hdocument, congrArg (Option.map File.data) htarget, fun content hfound => ?_⟩
    obtain ⟨text', hdocument', hcontent⟩ | ⟨hne, -⟩ := hreplaced.found hfound
    · rw [hdocument] at hdocument'
      rw [hcontent, Option.some.inj hdocument']
    · exact absurd holder hne
  · intro hthrew manifest other
    unfold AtStage at hstage
    rw [hthrew] at hstage
    have hfailed : s.done.ok = false := hstage.1
    rw [DriversJson.write_snd, DriversJson.write_snd]
    unfold DriversJson.writeOk
    refine ⟨?_, fun hcontrol => ?_⟩
    · rw [hfailed, Bool.false_and]
    · rw [hfailed, hcontrol, Bool.not_true, Bool.or_false, Bool.and_false]

/-- An empty object in place of an older file, written in two pieces with an interruption. -/
theorem write_json_atomic_of_two_pieces :
    let start : Disk := { target := some ⟨[48], true⟩ }
    let s : JsonFile :=
      { stage := .returned, disk := { target := some ⟨[123, 125, 10], true⟩ },
        done := JsonWrite.done }
    (JsonFile.system (some [123, 125]) start).exec { disk := start }
        [.opened true, .dumped, .wrote 2, .interrupted, .wrote 1, .synced true, .renamed true,
          .dirOpened true, .dirSynced true] = some s ∧
      ∀ content, s.disk.Found content → content = some [123, 125, 10] := by
  intro start s
  have hrun : (JsonFile.system (some [123, 125]) start).exec { disk := start }
      [.opened true, .dumped, .wrote 2, .interrupted, .wrote 1, .synced true, .renamed true,
        .dirOpened true, .dirSynced true] = some s := rfl
  have hreachable := StepSystem.reachable_of_exec (.init rfl) hrun
  obtain ⟨-, text, htext, -, hfound⟩ :=
    (write_json_atomic (some [123, 125]) start s hreachable).2.2.1 rfl
  obtain rfl := Option.some.inj htext
  exact ⟨hrun, hfound⟩

end Common
end AmigaDrivers
