import AmigaDrivers.Foundation.BoundedDeque
import Mathlib.Data.List.Induction
import Mathlib.Data.List.Nodup

/-!
# The hand-over of log lines from the pipe to the file

A run's first lines come through the pipe, and come again through the session file.  `LogBuffer`
shows a line of the pipe at once and remembers it, so that its copy in the file is not shown.

* `LogBuffer.appendStderr`, `LogBuffer.appendSession`: the two sources.
* `LogBuffer.Accounted`: every line that is not shown has a line of the pipe of its own.
* `LogBuffer.handoff`: **nothing is lost, and no more is suppressed than was shown before.**
-/

namespace AmigaDrivers
namespace App

/-- `LogLine`. -/
structure LogLine where
  ts : String
  level : String
  module : String
  msg : String
  raw : String
  deriving DecidableEq, Repr

/-- A line in the format of the log file. -/
def LogLine.structured (line : LogLine) : Bool :=
  line.ts ≠ "" && line.level ≠ "" && line.module ≠ ""

/-- `STDERR_HANDOFF_LINES`. -/
def stderrHandoffLines : Nat := 500

/-- `LogBuffer`.  `shown` is what the subscribers have been handed since the last `clear`. -/
structure LogBuffer where
  maxlen : Nat := 5000
  lines : List LogLine := []
  stderrPending : List String := []
  modulesSeen : List String := []
  shown : List LogLine := []
  deriving DecidableEq

namespace LogBuffer

/-- `clear`. -/
def clear (b : LogBuffer) : LogBuffer :=
  { b with lines := [], stderrPending := [], modulesSeen := [], shown := [] }

/-- `append`. -/
def append (b : LogBuffer) (line : LogLine) : LogBuffer :=
  { b with
    lines := pushBounded b.maxlen b.lines line
    modulesSeen := if line.module ≠ "" then b.modulesSeen.insert line.module else b.modulesSeen
    shown := b.shown ++ [line] }

/-- `append_stderr`. -/
def appendStderr (b : LogBuffer) (line : LogLine) : LogBuffer :=
  append
    (if line.structured then
      { b with stderrPending := pushBounded stderrHandoffLines b.stderrPending line.raw }
    else b)
    line

/-- `append_session`. -/
def appendSession (b : LogBuffer) (line : LogLine) : LogBuffer :=
  if line.raw ∈ b.stderrPending then
    { b with stderrPending := b.stderrPending.erase line.raw }
  else b.append line

/-- What arrives. -/
inductive Event
  | stderr (line : LogLine)
  | session (line : LogLine)
  deriving DecidableEq

/-- The line that arrives. -/
def Event.line : Event → LogLine
  | .stderr line => line
  | .session line => line

/-- One event. -/
def step (b : LogBuffer) : Event → LogBuffer
  | .stderr line => b.appendStderr line
  | .session line => b.appendSession line

/-- Some events. -/
def run (b : LogBuffer) (events : List Event) : LogBuffer := events.foldl step b

theorem run_append (b : LogBuffer) (events more : List Event) :
    b.run (events ++ more) = (b.run events).run more := List.foldl_append

@[simp] theorem append_stderrPending (b : LogBuffer) (line : LogLine) :
    (b.append line).stderrPending = b.stderrPending := rfl

@[simp] theorem append_shown (b : LogBuffer) (line : LogLine) :
    (b.append line).shown = b.shown ++ [line] := rfl

theorem appendStderr_shown (b : LogBuffer) (line : LogLine) :
    (b.appendStderr line).shown = b.shown ++ [line] := by
  unfold appendStderr
  split_ifs <;> rfl

theorem appendStderr_stderrPending (b : LogBuffer) (line : LogLine) :
    (b.appendStderr line).stderrPending =
      if line.structured then pushBounded stderrHandoffLines b.stderrPending line.raw
      else b.stderrPending := by
  unfold appendStderr
  rw [append_stderrPending]
  by_cases h : line.structured = true
  · rw [if_pos h, if_pos h]
  · rw [if_neg h, if_neg h]

/-- The buffer holds the last of what has been shown. -/
def HoldsLast (b : LogBuffer) : Prop := b.lines = keepLast b.maxlen b.shown

theorem HoldsLast.append {b : LogBuffer} (h : b.HoldsLast) (line : LogLine) :
    (b.append line).HoldsLast := by
  unfold HoldsLast at h ⊢
  show pushBounded b.maxlen b.lines line = keepLast b.maxlen (b.shown ++ [line])
  rw [h, pushBounded, keepLast_append]

theorem holdsLast_clear (b : LogBuffer) : b.clear.HoldsLast := by
  unfold HoldsLast
  exact (keepLast_of_length_le (Nat.zero_le _)).symm

theorem holdsLast_run {b : LogBuffer} (h : b.HoldsLast) (events : List Event) :
    (b.run events).HoldsLast := by
  have hpending {b : LogBuffer} (h : b.HoldsLast) (pending : List String) :
      HoldsLast { b with stderrPending := pending } := h
  induction events generalizing b with
  | nil => exact h
  | cons event events ih =>
    refine ih ?_
    cases event with
    | stderr line =>
      refine HoldsLast.append ?_ line
      split_ifs
      · exact hpending h _
      · exact h
    | session line =>
      show (b.appendSession line).HoldsLast
      unfold appendSession
      split_ifs
      · exact hpending h _
      · exact h.append line

/-! ## Every line that is not shown has a line of the pipe of its own -/

/-- The event at an index is a line of the pipe that is remembered, with its text. -/
def Remembered (events : List Event) (i : Nat) (raw : String) : Prop :=
  ∃ line, events[i]? = some (.stderr line) ∧ line.structured = true ∧ line.raw = raw

/-- The events that are shown: those whose index is not among the suppressed ones. -/
def shownOf (suppressed : List Nat) (events : List Event) : List LogLine :=
  (events.zipIdx.filter fun e => e.2 ∉ suppressed).map fun e => e.1.line

/-- Pairs of a line of the file that is not shown and a line of the pipe: the two have the same
text, the one of the pipe came first, and no line is in two pairs. -/
structure Matching (events : List Event) (pairs : List (Nat × Nat)) : Prop where
  session : ∀ pair ∈ pairs, ∃ line, events[pair.1]? = some (.session line) ∧
    Remembered events pair.2 line.raw ∧ pair.2 < pair.1
  suppressed : (pairs.map Prod.fst).Nodup
  used : (pairs.map Prod.snd).Nodup

/-- What is pending, with the indices of the lines it comes from, which are in no pair. -/
structure Accounted (events : List Event) (b : LogBuffer) (pending : List (Nat × String))
    (pairs : List (Nat × Nat)) : Prop extends Matching events pairs where
  texts : b.stderrPending = pending.map Prod.snd
  remembered : ∀ entry ∈ pending, Remembered events entry.1 entry.2
  free : (pending.map Prod.fst ++ pairs.map Prod.snd).Nodup
  shown : b.shown = shownOf (pairs.map Prod.fst) events

theorem Remembered.append {events more : List Event} {i : Nat} {raw : String}
    (h : Remembered events i raw) : Remembered (events ++ more) i raw := by
  obtain ⟨line, hline, hrest⟩ := h
  have hlt := (List.getElem?_eq_some_iff.mp hline).1
  exact ⟨line, by rw [List.getElem?_append_left hlt]; exact hline, hrest⟩

theorem Remembered.lt {events : List Event} {i : Nat} {raw : String}
    (h : Remembered events i raw) : i < events.length := by
  obtain ⟨line, hline, -⟩ := h
  exact (List.getElem?_eq_some_iff.mp hline).1

theorem Matching.append {events more : List Event} {pairs : List (Nat × Nat)}
    (h : Matching events pairs) : Matching (events ++ more) pairs where
  session pair hpair := by
    obtain ⟨line, hline, hremembered, hlt⟩ := h.session pair hpair
    have hlength := (List.getElem?_eq_some_iff.mp hline).1
    exact ⟨line, by rw [List.getElem?_append_left hlength]; exact hline, hremembered.append, hlt⟩
  suppressed := h.suppressed
  used := h.used

theorem Matching.fst_lt {events : List Event} {pairs : List (Nat × Nat)}
    (h : Matching events pairs) {j : Nat} (hj : j ∈ pairs.map Prod.fst) : j < events.length := by
  obtain ⟨pair, hpair, rfl⟩ := List.mem_map.mp hj
  obtain ⟨line, hline, -⟩ := h.session pair hpair
  exact (List.getElem?_eq_some_iff.mp hline).1

/-- One more event is shown, unless it is suppressed. -/
theorem shownOf_concat (suppressed : List Nat) (events : List Event) (event : Event) :
    shownOf suppressed (events ++ [event]) = shownOf suppressed events ++
      if events.length ∈ suppressed then [] else [event.line] := by
  unfold shownOf
  rw [List.zipIdx_append, List.filter_append, List.map_append, Nat.zero_add]
  congr 1
  show ((List.filter _ [(event, events.length)]).map _) = _
  by_cases h : events.length ∈ suppressed
  · rw [if_pos h, List.filter_cons_of_neg (by simpa using h)]
    rfl
  · rw [if_neg h, List.filter_cons_of_pos (by simpa using h)]
    rfl

/-- A later event that is suppressed has nothing to do with the earlier ones. -/
theorem shownOf_cons {j : Nat} {suppressed : List Nat} {events : List Event}
    (h : events.length ≤ j) : shownOf (j :: suppressed) events = shownOf suppressed events := by
  unfold shownOf
  congr 1
  refine List.filter_congr fun e he => ?_
  have hlt : e.2 < events.length := by
    have := List.snd_lt_of_mem_zipIdx he
    omega
  have hne : e.2 ≠ j := by omega
  simp [hne]

section Accounted

variable {events : List Event} {b : LogBuffer} {pending : List (Nat × String)}
  {pairs : List (Nat × Nat)}

theorem Accounted.clear (b : LogBuffer) : Accounted [] b.clear [] [] where
  session _ h := absurd h List.not_mem_nil
  suppressed := List.nodup_nil
  used := List.nodup_nil
  texts := rfl
  remembered _ h := absurd h List.not_mem_nil
  free := List.nodup_nil
  shown := rfl

/-- The event that comes next is not in a pair yet. -/
theorem Accounted.next_not_mem (h : Accounted events b pending pairs) :
    events.length ∉ pairs.map Prod.fst := fun hmem => Nat.lt_irrefl _ (h.fst_lt hmem)

/-- A line that is shown, and leaves pending what is pending. -/
theorem Accounted.show_line (h : Accounted events b pending pairs) {b' : LogBuffer} (event : Event)
    (hpending : b'.stderrPending = b.stderrPending) (hshown : b'.shown = b.shown ++ [event.line]) :
    Accounted (events ++ [event]) b' pending pairs where
  toMatching := h.toMatching.append
  texts := hpending.trans h.texts
  remembered entry hentry := (h.remembered entry hentry).append
  free := h.free
  shown := by
    rw [hshown, shownOf_concat, if_neg h.next_not_mem, h.shown]

/-- A line of the pipe is remembered, and may push out another one. -/
theorem Accounted.remember (h : Accounted events b pending pairs) {line : LogLine}
    (hstructured : line.structured = true) :
    Accounted (events ++ [.stderr line]) (b.appendStderr line)
      (keepLast stderrHandoffLines (pending ++ [(events.length, line.raw)])) pairs where
  toMatching := h.toMatching.append
  texts := by
    rw [appendStderr_stderrPending, if_pos hstructured, map_keepLast, List.map_append, h.texts]
    rfl
  remembered entry hentry := by
    rcases List.mem_append.mp ((keepLast_suffix _ _).subset hentry) with hentry | hentry
    · exact (h.remembered entry hentry).append
    · rw [List.mem_singleton.mp hentry]
      exact ⟨line, List.getElem?_concat_length, hstructured, rfl⟩
  free := by
    have hlt : ∀ i ∈ pending.map Prod.fst ++ pairs.map Prod.snd, i < events.length := by
      intro i hi
      rcases List.mem_append.mp hi with hi | hi
      · obtain ⟨entry, hentry, rfl⟩ := List.mem_map.mp hi
        exact (h.remembered entry hentry).lt
      · obtain ⟨pair, hpair, rfl⟩ := List.mem_map.mp hi
        obtain ⟨line, -, hremembered, -⟩ := h.session pair hpair
        exact hremembered.lt
    have hall : (pending.map Prod.fst ++ events.length :: pairs.map Prod.snd).Nodup :=
      List.nodup_middle.mpr
        (List.nodup_cons.mpr ⟨fun hmem => Nat.lt_irrefl _ (hlt _ hmem), h.free⟩)
    have heq : pending.map Prod.fst ++ events.length :: pairs.map Prod.snd =
        (pending ++ [(events.length, line.raw)]).map Prod.fst ++ pairs.map Prod.snd := by
      rw [List.map_append, List.append_assoc]
      rfl
    rw [heq] at hall
    exact hall.sublist (((keepLast_suffix _ _).sublist.map _).append_right _)
  shown := by
    rw [appendStderr_shown, shownOf_concat, if_neg h.next_not_mem, h.shown]
    rfl

/-- A line of the file is not shown, and uses up a line of the pipe. -/
theorem Accounted.suppress (h : Accounted events b pending pairs) {line : LogLine}
    (hmem : line.raw ∈ b.stderrPending) :
    ∃ pending' pairs', Accounted (events ++ [.session line]) (b.appendSession line)
      pending' pairs' := by
  obtain ⟨before, after, -, hsplit, herase⟩ := List.exists_erase_eq hmem
  rw [h.texts] at hsplit
  obtain ⟨first, rest, hpending, hbefore, hrest⟩ := List.map_eq_append_iff.mp hsplit
  obtain ⟨entry, last, rfl, hraw, hlast⟩ := List.map_eq_cons_iff.mp hrest
  have hentry : entry ∈ pending := by
    rw [hpending]
    exact List.mem_append_right _ List.mem_cons_self
  have hfree := h.free
  rw [hpending, List.map_append, List.map_cons, List.append_assoc, List.cons_append] at hfree
  obtain ⟨hnot, hnodup⟩ := List.nodup_cons.mp (List.nodup_middle.mp hfree)
  refine ⟨first ++ last, (events.length, entry.1) :: pairs, ⟨fun pair hpair => ?_, ?_, ?_⟩, ?_,
    fun e he => ?_, ?_, ?_⟩
  · rcases List.mem_cons.mp hpair with rfl | hpair
    · have hremembered := h.remembered entry hentry
      rw [hraw] at hremembered
      exact ⟨line, List.getElem?_concat_length, hremembered.append, hremembered.lt⟩
    · exact h.toMatching.append.session pair hpair
  · exact List.nodup_cons.mpr ⟨h.next_not_mem, h.suppressed⟩
  · refine List.nodup_cons.mpr ⟨fun hused => hnot ?_, h.used⟩
    exact List.mem_append_right _ (List.mem_append_right _ hused)
  · unfold appendSession
    rw [if_pos hmem, List.map_append, hbefore, hlast]
    exact herase
  · refine (h.remembered e ?_).append
    rw [hpending]
    rcases List.mem_append.mp he with he | he
    · exact List.mem_append_left _ he
    · exact List.mem_append_right _ (List.mem_cons_of_mem _ he)
  · rw [List.map_cons, List.nodup_middle, List.map_append, List.append_assoc]
    exact List.nodup_cons.mpr ⟨hnot, hnodup⟩
  · rw [List.map_cons, shownOf_concat, if_pos List.mem_cons_self, List.append_nil,
      shownOf_cons (Nat.le_refl _), ← h.shown]
    unfold appendSession
    rw [if_pos hmem]

/-- **Every line that is not shown has a line of the pipe of its own.** -/
theorem exists_accounted (b : LogBuffer) (events : List Event) :
    ∃ pending pairs, Accounted events (b.clear.run events) pending pairs := by
  induction events using List.reverseRecOn with
  | nil => exact ⟨[], [], .clear b⟩
  | append_singleton events event ih =>
    obtain ⟨pending, pairs, h⟩ := ih
    rw [run_append]
    cases event with
    | stderr line =>
      by_cases hstructured : line.structured = true
      · exact ⟨_, _, h.remember hstructured⟩
      · refine ⟨_, _, h.show_line (.stderr line) ?_ (appendStderr_shown _ _)⟩
        show ((b.clear.run events).appendStderr line).stderrPending = _
        rw [appendStderr_stderrPending, if_neg hstructured]
    | session line =>
      by_cases hmem : line.raw ∈ (b.clear.run events).stderrPending
      · exact h.suppress hmem
      · refine ⟨_, _, h.show_line (.session line) ?_ ?_⟩
        · show ((b.clear.run events).appendSession line).stderrPending = _
          unfold appendSession
          rw [if_neg hmem, append_stderrPending]
        · show ((b.clear.run events).appendSession line).shown = _
          unfold appendSession
          rw [if_neg hmem, append_shown]
          rfl

end Accounted

/-! ## Counting copies -/

/-- The event is a line of the pipe with this text. -/
def Event.isPipeCopy (r : String) : Event → Bool
  | .stderr line => line.raw = r
  | .session _ => false

/-- The event is a line of the file with this text. -/
def Event.isFileCopy (r : String) : Event → Bool
  | .stderr _ => false
  | .session line => line.raw = r

/-- How often a text comes through the pipe. -/
def pipeCopies (r : String) (events : List Event) : Nat := events.countP (Event.isPipeCopy r)

/-- How often a text comes through the file. -/
def fileCopies (r : String) (events : List Event) : Nat := events.countP (Event.isFileCopy r)

/-- How often a text is shown. -/
def shownCopies (r : String) (b : LogBuffer) : Nat := b.shown.countP fun line => line.raw = r

/-- The lines of the pipe with this text have the format of the log file. -/
def StructuredText (r : String) (events : List Event) : Prop :=
  ∀ line, .stderr line ∈ events → line.raw = r → line.structured = true

/-- When a line of the pipe with this text comes, none of the file has come. -/
def PipeFirst (r : String) (events : List Event) : Prop :=
  ∀ before line after, events = before ++ .stderr line :: after → line.raw = r →
    fileCopies r before = 0

/-- What would be pending if nothing were pushed out. -/
def pendingOf (events : List Event) : List String :=
  events.foldl (fun pending event =>
    match event with
    | .stderr line => if line.structured then pending ++ [line.raw] else pending
    | .session line => pending.erase line.raw) []

/-- Nothing is pushed out. -/
def Fits (events : List Event) : Prop :=
  ∀ before, before <+: events → (pendingOf before).length ≤ stderrHandoffLines

section Copies

variable {events : List Event} {b : LogBuffer} {r : String} {line : LogLine}

theorem pipeCopies_stderr : pipeCopies r (events ++ [.stderr line]) =
    pipeCopies r events + (decide (line.raw = r)).toNat := by
  unfold pipeCopies
  rw [List.countP_append, List.countP_singleton, Event.isPipeCopy]
  cases decide (line.raw = r) <;> rfl

theorem pipeCopies_session : pipeCopies r (events ++ [.session line]) = pipeCopies r events := by
  unfold pipeCopies
  rw [List.countP_append, List.countP_singleton, Event.isPipeCopy]
  rfl

theorem fileCopies_stderr : fileCopies r (events ++ [.stderr line]) = fileCopies r events := by
  unfold fileCopies
  rw [List.countP_append, List.countP_singleton, Event.isFileCopy]
  rfl

theorem fileCopies_session : fileCopies r (events ++ [.session line]) =
    fileCopies r events + (decide (line.raw = r)).toNat := by
  unfold fileCopies
  rw [List.countP_append, List.countP_singleton, Event.isFileCopy]
  cases decide (line.raw = r) <;> rfl

theorem shownCopies_of_shown {b' : LogBuffer} (h : b'.shown = b.shown ++ [line]) :
    b'.shownCopies r = b.shownCopies r + (decide (line.raw = r)).toNat := by
  unfold shownCopies
  rw [h, List.countP_append, List.countP_singleton]
  cases decide (line.raw = r) <;> rfl

/-- Some copies of the file are suppressed, each against a copy of the pipe that is not pending any
more. -/
structure Balanced (r : String) (events : List Event) (b : LogBuffer) (suppressed : Nat) :
    Prop where
  total : b.shownCopies r + suppressed = pipeCopies r events + fileCopies r events
  file : suppressed ≤ fileCopies r events
  pipe : b.stderrPending.count r + suppressed ≤ pipeCopies r events

/-- One more line of the pipe. -/
theorem count_concat (pending : List String) :
    (pending ++ [line.raw]).count r = pending.count r + (decide (line.raw = r)).toNat := by
  rw [List.count_append, List.count_singleton]
  by_cases h : line.raw = r
  · rw [if_pos (by simpa using h), decide_eq_true h]
    rfl
  · rw [if_neg (by simpa using h), decide_eq_false h]
    rfl

theorem count_pending_stderr :
    (b.appendStderr line).stderrPending.count r ≤
      b.stderrPending.count r + (decide (line.raw = r)).toNat := by
  rw [appendStderr_stderrPending]
  by_cases h : line.structured = true
  · rw [if_pos h, ← count_concat]
    exact (keepLast_suffix _ _).sublist.count_le r
  · rw [if_neg h]
    exact Nat.le_add_right _ _

/-- What a line of the file does to the copies of a text: one is used up, or one more is shown, or
they are not touched. -/
theorem appendSession_cases (b : LogBuffer) (line : LogLine) (r : String) :
    line.raw = r ∧ (b.appendSession line).stderrPending.count r + 1 = b.stderrPending.count r ∧
        (b.appendSession line).shownCopies r = b.shownCopies r ∨
      line.raw = r ∧ b.stderrPending.count r = 0 ∧
        (b.appendSession line).stderrPending.count r = 0 ∧
        (b.appendSession line).shownCopies r = b.shownCopies r + 1 ∨
      line.raw ≠ r ∧ (b.appendSession line).stderrPending.count r = b.stderrPending.count r ∧
        (b.appendSession line).shownCopies r = b.shownCopies r := by
  have hshown := shownCopies_of_shown (r := r) (append_shown b line)
  unfold appendSession
  by_cases hmem : line.raw ∈ b.stderrPending
  · rw [if_pos hmem]
    by_cases hraw : line.raw = r
    · refine .inl ⟨hraw, ?_, rfl⟩
      have hpos := List.count_pos_iff.mpr hmem
      rw [hraw] at hpos ⊢
      show (b.stderrPending.erase r).count r + 1 = _
      rw [List.count_erase_self]
      omega
    · refine .inr (.inr ⟨hraw, ?_, rfl⟩)
      exact List.count_erase_of_ne (Ne.symm hraw)
  · rw [if_neg hmem]
    by_cases hraw : line.raw = r
    · have hzero : b.stderrPending.count r = 0 := List.count_eq_zero.mpr (hraw ▸ hmem)
      rw [decide_eq_true hraw] at hshown
      exact .inr (.inl ⟨hraw, hzero, hzero, hshown⟩)
    · rw [decide_eq_false hraw] at hshown
      exact .inr (.inr ⟨hraw, rfl, hshown⟩)

theorem Balanced.stderr {suppressed : Nat} (h : Balanced r events b suppressed) :
    Balanced r (events ++ [.stderr line]) (b.appendStderr line) suppressed where
  total := by
    have htotal := h.total
    rw [shownCopies_of_shown (appendStderr_shown b line), pipeCopies_stderr, fileCopies_stderr]
    omega
  file := by
    rw [fileCopies_stderr]
    exact h.file
  pipe := by
    have hpipe := h.pipe
    have hcount : (b.appendStderr line).stderrPending.count r ≤ _ := count_pending_stderr
    rw [pipeCopies_stderr]
    omega

theorem Balanced.session {suppressed : Nat} (h : Balanced r events b suppressed) :
    ∃ suppressed, Balanced r (events ++ [.session line]) (b.appendSession line) suppressed := by
  obtain ⟨htotal, hfile, hpipe⟩ := h
  obtain ⟨hraw, hcount, hshown⟩ | ⟨hraw, hnone, hcount, hshown⟩ | ⟨hraw, hcount, hshown⟩ :=
    appendSession_cases b line r
  · have hcopies : fileCopies r (events ++ [.session line]) = fileCopies r events + 1 := by
      rw [fileCopies_session, decide_eq_true hraw]
      rfl
    refine ⟨suppressed + 1, ?_, ?_, ?_⟩
    · rw [hshown, pipeCopies_session, hcopies]
      omega
    · rw [hcopies]
      omega
    · rw [pipeCopies_session]
      omega
  · have hcopies : fileCopies r (events ++ [.session line]) = fileCopies r events + 1 := by
      rw [fileCopies_session, decide_eq_true hraw]
      rfl
    refine ⟨suppressed, ?_, ?_, ?_⟩
    · rw [hshown, pipeCopies_session, hcopies]
      omega
    · rw [hcopies]
      omega
    · rw [pipeCopies_session]
      omega
  · have hcopies : fileCopies r (events ++ [.session line]) = fileCopies r events := by
      rw [fileCopies_session, decide_eq_false hraw]
      rfl
    refine ⟨suppressed, ?_, ?_, ?_⟩
    · rw [hshown, pipeCopies_session, hcopies]
      exact htotal
    · rw [hcopies]
      exact hfile
    · rw [pipeCopies_session, hcount]
      exact hpipe

theorem exists_balanced (b : LogBuffer) (r : String) (events : List Event) :
    ∃ suppressed, Balanced r events (b.clear.run events) suppressed := by
  induction events using List.reverseRecOn with
  | nil => exact ⟨0, rfl, Nat.le_refl _, Nat.le_refl _⟩
  | append_singleton events event ih =>
    obtain ⟨suppressed, h⟩ := ih
    rw [run_append]
    cases event with
    | stderr line => exact ⟨suppressed, h.stderr⟩
    | session line => exact h.session

/-! ## When the pipe comes first -/

theorem pendingOf_concat (events : List Event) (event : Event) :
    pendingOf (events ++ [event]) =
      match event with
      | .stderr line =>
        if line.structured then pendingOf events ++ [line.raw] else pendingOf events
      | .session line => (pendingOf events).erase line.raw := by
  unfold pendingOf
  rw [List.foldl_append]
  rfl

theorem Fits.init {event : Event} (h : Fits (events ++ [event])) : Fits events :=
  fun before hbefore => h before (hbefore.trans (List.prefix_append _ _))

/-- Where nothing is pushed out, pending is what would be pending. -/
theorem stderrPending_of_fits (h : Fits events) :
    (b.clear.run events).stderrPending = pendingOf events := by
  induction events using List.reverseRecOn with
  | nil => rfl
  | append_singleton events event ih =>
    have ih := ih h.init
    have hlength := h _ (List.prefix_refl _)
    rw [run_append]
    rw [pendingOf_concat] at hlength ⊢
    cases event with
    | stderr line =>
      show ((b.clear.run events).appendStderr line).stderrPending = _
      rw [appendStderr_stderrPending, ih]
      dsimp only at hlength ⊢
      by_cases hstructured : line.structured = true
      · rw [if_pos hstructured] at hlength
        rw [if_pos hstructured, if_pos hstructured, pushBounded, keepLast_of_length_le hlength]
      · rw [if_neg hstructured, if_neg hstructured]
    | session line =>
      show ((b.clear.run events).appendSession line).stderrPending = _
      unfold appendSession
      by_cases hmem : line.raw ∈ (b.clear.run events).stderrPending
      · rw [if_pos hmem, ← ih]
      · rw [if_neg hmem, append_stderrPending, ih]
        exact (List.erase_of_not_mem (ih ▸ hmem)).symm

theorem PipeFirst.init {event : Event} (h : PipeFirst r (events ++ [event])) :
    PipeFirst r events := by
  intro before line after heq
  refine h before line (after ++ [event]) ?_
  rw [heq, List.append_assoc]
  rfl

theorem StructuredText.init {event : Event} (h : StructuredText r (events ++ [event])) :
    StructuredText r events := fun line hline => h line (List.mem_append_left _ hline)

/-- **When the pipe comes first and nothing is pushed out**, what is pending is what the file has
not had, and what is shown is the greater of the two. -/
theorem exact_of_pipeFirst (hstructured : StructuredText r events) (hfirst : PipeFirst r events)
    (hfits : Fits events) :
    (b.clear.run events).stderrPending.count r = pipeCopies r events - fileCopies r events ∧
      (b.clear.run events).shownCopies r = max (pipeCopies r events) (fileCopies r events) := by
  induction events using List.reverseRecOn with
  | nil => exact ⟨rfl, rfl⟩
  | append_singleton events event ih =>
    obtain ⟨hpending, hshown⟩ := ih hstructured.init hfirst.init hfits.init
    have hnext : (b.clear.run (events ++ [event])).stderrPending = _ := stderrPending_of_fits hfits
    rw [pendingOf_concat] at hnext
    rw [run_append] at hnext ⊢
    cases event with
    | stderr line =>
      change ((b.clear.run events).appendStderr line).stderrPending = _ at hnext
      show ((b.clear.run events).appendStderr line).stderrPending.count r = _ ∧
        ((b.clear.run events).appendStderr line).shownCopies r = _
      rw [shownCopies_of_shown (appendStderr_shown _ _), pipeCopies_stderr, fileCopies_stderr, hnext,
        ← stderrPending_of_fits (b := b) hfits.init]
      dsimp only
      by_cases hraw : line.raw = r
      · have hnone := hfirst events line [] rfl hraw
        rw [if_pos (hstructured line (List.mem_append_right _ List.mem_cons_self) hraw),
          count_concat, decide_eq_true hraw]
        show _ + 1 = _ + 1 - _ ∧ _ + 1 = max (_ + 1) _
        omega
      · have hcount : (if line.structured = true then
            (b.clear.run events).stderrPending ++ [line.raw]
            else (b.clear.run events).stderrPending).count r =
              (b.clear.run events).stderrPending.count r := by
          split_ifs
          · rw [count_concat, decide_eq_false hraw]
            rfl
          · rfl
        rw [hcount, decide_eq_false hraw]
        exact ⟨hpending, hshown⟩
    | session line =>
      show ((b.clear.run events).appendSession line).stderrPending.count r = _ ∧
        ((b.clear.run events).appendSession line).shownCopies r = _
      rw [pipeCopies_session, fileCopies_session]
      obtain ⟨hraw, hcount, hshown'⟩ | ⟨hraw, hnone, hcount, hshown'⟩ | ⟨hraw, hcount, hshown'⟩ :=
        appendSession_cases (b.clear.run events) line r
      · rw [hshown', decide_eq_true hraw]
        show _ = _ - (_ + 1) ∧ _ = max _ (_ + 1)
        omega
      · rw [hshown', hcount, decide_eq_true hraw]
        show _ = _ - (_ + 1) ∧ _ = max _ (_ + 1)
        omega
      · rw [hshown', hcount, decide_eq_false hraw]
        exact ⟨hpending, hshown⟩

end Copies

/-! ## The main result -/

/-- **The hand-over loses nothing.**  Since the last `clear`, a line of the file is not shown only
against an earlier line of the pipe with the same text and the format of the file, each of which is
used once; a text is shown at least as often as either of the two had it and at most as often as
both had it together, and exactly as often as one of them where the pipe came first and nothing was
pushed out. -/
theorem handoff (b : LogBuffer) (events : List Event) :
    (∃ pairs, Matching events pairs ∧
      (b.clear.run events).shown = shownOf (pairs.map Prod.fst) events) ∧
    (b.clear.run events).HoldsLast ∧
    ∀ r, max (pipeCopies r events) (fileCopies r events) ≤ (b.clear.run events).shownCopies r ∧
      (b.clear.run events).shownCopies r ≤ pipeCopies r events + fileCopies r events ∧
      (StructuredText r events → PipeFirst r events → Fits events →
        (b.clear.run events).shownCopies r = max (pipeCopies r events) (fileCopies r events)) := by
  refine ⟨?_, holdsLast_run (holdsLast_clear b) events, fun r => ?_⟩
  · obtain ⟨pending, pairs, h⟩ := exists_accounted b events
    exact ⟨pairs, h.toMatching, h.shown⟩
  · obtain ⟨suppressed, htotal, hfile, hpipe⟩ := exists_balanced b r events
    refine ⟨?_, ?_, fun hstructured hfirst hfits => ?_⟩
    · omega
    · omega
    · exact (exact_of_pipeFirst hstructured hfirst hfits).2

/-- A line in the format of the file. -/
def waiting : LogLine where
  ts := "10:28:43"
  level := "warning"
  module := "AsteRx"
  msg := "Waiting"
  raw := "[10:28:43] [warning] [AsteRx]: Waiting"

/-- The line comes twice through the pipe and three times through the file. -/
def waitingEvents : List Event :=
  [.stderr waiting, .stderr waiting, .session waiting, .session waiting, .session waiting]

theorem eq_waiting {line : LogLine} (h : .stderr line ∈ waitingEvents) : line = waiting := by
  simpa [waitingEvents] using h

/-- Two copies from the pipe and three from the file are three lines on the screen. -/
theorem handoff_of_waiting :
    (run (clear {}) waitingEvents).shownCopies waiting.raw = 3 := by
  refine ((handoff {} waitingEvents).2.2 waiting.raw).2.2 ?_ ?_ ?_
  · intro line hline hraw
    rw [eq_waiting hline]
    decide
  · intro before line after heq hraw
    have hall : ∀ n < 5, waitingEvents[n]? = some (.stderr waiting) →
        fileCopies waiting.raw (waitingEvents.take n) = 0 := by decide +kernel
    have hlength : before.length < 5 := by
      have := congrArg List.length heq
      rw [List.length_append, List.length_cons] at this
      have hfive : waitingEvents.length = 5 := rfl
      omega
    have hline : line = waiting := by
      refine eq_waiting ?_
      rw [heq]
      exact List.mem_append_right _ List.mem_cons_self
    have htake := hall _ hlength
    rw [heq, List.getElem?_append_right (Nat.le_refl _), Nat.sub_self, List.take_left] at htake
    exact htake (by rw [hline]; rfl)
  · intro before hbefore
    have hall : ∀ n < 6, (pendingOf (waitingEvents.take n)).length ≤ stderrHandoffLines := by
      decide +kernel
    have hlength : before.length ≤ 5 := hbefore.length_le
    rw [List.prefix_iff_eq_take.mp hbefore]
    exact hall _ (Nat.lt_succ_of_le hlength)

end LogBuffer
end App
end AmigaDrivers
