import Mathlib.Data.List.Basic

/-!
# Lines of an input that grows

A reader cuts its input behind each separator.  What stands behind the last one is not a line yet:
it may still grow.

* `lines`, `unfinished`: the lines without their separators, and what is left.
* `lines_append`, `unfinished_append`: what more input adds to them.
* `flatMap_lines`: the lines and what is left are the input.
* `readline`, `readlines`: how a file is read line by line.
* `Shorter.readline_drop`: where lines are short, a line starts soon behind any place.
-/

namespace Lines

variable {α : Type} [DecidableEq α] (sep : α)

/-- Cut the input behind each separator, where a line has already begun. -/
def cut : List α → List α → List (List α) × List α
  | begun, [] => ([], begun)
  | begun, x :: xs =>
    if x = sep then (begun :: (cut [] xs).1, (cut [] xs).2) else cut (begun ++ [x]) xs

/-- The lines, without their separators. -/
def lines (l : List α) : List (List α) := (cut sep [] l).1

/-- What stands behind the last separator. -/
def unfinished (l : List α) : List α := (cut sep [] l).2

variable {sep}

theorem cut_append (begun a b : List α) : cut sep begun (a ++ b) =
    ((cut sep begun a).1 ++ (cut sep (cut sep begun a).2 b).1,
      (cut sep (cut sep begun a).2 b).2) := by
  induction a generalizing begun with
  | nil => rfl
  | cons x a ih =>
    rw [List.cons_append, cut, cut]
    split_ifs
    · rw [ih []]
      rfl
    · exact ih _

/-- A line that has begun is the same as input without a separator. -/
theorem cut_of_notMem {line : List α} (h : sep ∉ line) (begun l : List α) :
    cut sep begun (line ++ l) = cut sep (begun ++ line) l := by
  induction line generalizing begun with
  | nil => rw [List.nil_append, List.append_nil]
  | cons x line ih =>
    obtain ⟨hne, h⟩ := not_or.mp (List.mem_cons.not.mp h)
    rw [List.cons_append, cut, if_neg (Ne.symm hne), ih h, List.append_assoc,
      List.singleton_append]

/-- No separator is left. -/
theorem sep_notMem_cut {begun : List α} (h : sep ∉ begun) (l : List α) :
    (∀ line ∈ (cut sep begun l).1, sep ∉ line) ∧ sep ∉ (cut sep begun l).2 := by
  induction l generalizing begun with
  | nil => exact ⟨fun line hline => absurd hline List.not_mem_nil, h⟩
  | cons x l ih =>
    rw [cut]
    split_ifs with hx
    · obtain ⟨hlines, hrest⟩ := ih List.not_mem_nil
      refine ⟨fun line hline => ?_, hrest⟩
      rcases List.mem_cons.mp hline with rfl | hline
      · exact h
      · exact hlines line hline
    · refine ih fun hmem => ?_
      rcases List.mem_append.mp hmem with hmem | hmem
      · exact h hmem
      · exact hx (List.mem_singleton.mp hmem).symm

/-- Nothing is lost. -/
theorem flatMap_cut (begun l : List α) :
    (cut sep begun l).1.flatMap (· ++ [sep]) ++ (cut sep begun l).2 = begun ++ l := by
  induction l generalizing begun with
  | nil => exact (List.append_nil _).symm
  | cons x l ih =>
    rw [cut]
    split_ifs with hx
    · rw [List.flatMap_cons, List.append_assoc, ih, hx, List.append_assoc]
      rfl
    · rw [ih, List.append_assoc]
      rfl

@[simp] theorem lines_nil : lines sep [] = [] := rfl

@[simp] theorem unfinished_nil : unfinished sep [] = [] := rfl

theorem sep_notMem_of_mem_lines {l line : List α} (h : line ∈ lines sep l) : sep ∉ line :=
  (sep_notMem_cut List.not_mem_nil l).1 line h

theorem sep_notMem_unfinished (l : List α) : sep ∉ unfinished sep l :=
  (sep_notMem_cut List.not_mem_nil l).2

/-- **The lines and what is left are the input.** -/
theorem flatMap_lines (l : List α) :
    (lines sep l).flatMap (· ++ [sep]) ++ unfinished sep l = l := flatMap_cut [] l

theorem lines_of_notMem {l : List α} (h : sep ∉ l) : lines sep l = [] := by
  have hcut := cut_of_notMem h [] []
  rw [List.append_nil, List.nil_append] at hcut
  unfold lines
  rw [hcut]
  rfl

theorem unfinished_of_notMem {l : List α} (h : sep ∉ l) : unfinished sep l = l := by
  have hcut := cut_of_notMem h [] []
  rw [List.append_nil, List.nil_append] at hcut
  unfold unfinished
  rw [hcut]
  rfl

/-- A line at the start. -/
theorem lines_cons {line : List α} (h : sep ∉ line) (l : List α) :
    lines sep (line ++ sep :: l) = line :: lines sep l := by
  unfold lines
  rw [cut_of_notMem h, cut, if_pos rfl, List.nil_append]

theorem unfinished_cons {line : List α} (h : sep ∉ line) (l : List α) :
    unfinished sep (line ++ sep :: l) = unfinished sep l := by
  unfold unfinished
  rw [cut_of_notMem h, cut, if_pos rfl]

/-- **What more input adds**: it goes on where the line had been left. -/
theorem lines_append (a b : List α) :
    lines sep (a ++ b) = lines sep a ++ lines sep (unfinished sep a ++ b) := by
  have hcut : cut sep [] (unfinished sep a ++ b) = cut sep (unfinished sep a) b :=
    cut_of_notMem (sep_notMem_unfinished a) [] b
  unfold lines
  rw [hcut, cut_append]
  rfl

theorem unfinished_append (a b : List α) :
    unfinished sep (a ++ b) = unfinished sep (unfinished sep a ++ b) := by
  have hcut : cut sep [] (unfinished sep a ++ b) = cut sep (unfinished sep a) b :=
    cut_of_notMem (sep_notMem_unfinished a) [] b
  show (cut sep [] (a ++ b)).2 = (cut sep [] (unfinished sep a ++ b)).2
  rw [hcut, cut_append]
  rfl

/-- Input that ends in a separator leaves nothing. -/
theorem unfinished_concat (l : List α) : unfinished sep (l ++ [sep]) = [] := by
  rw [unfinished_append, unfinished_cons (sep_notMem_unfinished l)]
  rfl

/-- Where nothing is left, what comes next starts a line. -/
theorem lines_append_of_unfinished {a : List α} (h : unfinished sep a = []) (b : List α) :
    lines sep (a ++ b) = lines sep a ++ lines sep b := by
  rw [lines_append, h, List.nil_append]

theorem unfinished_append_of_unfinished {a : List α} (h : unfinished sep a = []) (b : List α) :
    unfinished sep (a ++ b) = unfinished sep b := by
  rw [unfinished_append, h, List.nil_append]

theorem unfinished_suffix (l : List α) : unfinished sep l <:+ l :=
  ⟨_, flatMap_lines l⟩

/-- The part of the input that the lines are. -/
theorem finished_append_unfinished (l : List α) :
    l.take (l.length - (unfinished sep l).length) ++ unfinished sep l = l := by
  obtain ⟨finished, hl⟩ : unfinished sep l <:+ l := unfinished_suffix l
  have hlength : l.length - (unfinished sep l).length = finished.length := by
    have := congrArg List.length hl
    rw [List.length_append] at this
    omega
  rw [hlength]
  conv_lhs => rw [← hl, List.take_left, hl]
  exact hl

theorem drop_finished (l : List α) :
    l.drop (l.length - (unfinished sep l).length) = unfinished sep l :=
  List.append_cancel_left ((List.take_append_drop _ l).trans (finished_append_unfinished l).symm)

theorem unfinished_finished (l : List α) :
    unfinished sep (l.take (l.length - (unfinished sep l).length)) = [] := by
  have hfinished : _ ++ unfinished sep l = l := finished_append_unfinished l
  rw [List.append_cancel_right (hfinished.trans (flatMap_lines l).symm)]
  rcases List.eq_nil_or_concat (lines sep l) with hnil | ⟨init, line, hlines⟩
  · rw [hnil]
    rfl
  · rw [hlines, List.concat_eq_append, List.flatMap_append, List.flatMap_singleton,
      ← List.append_assoc]
    exact unfinished_concat _

variable (sep)

/-- `readline`: up to and with the first separator, or everything. -/
def readline : List α → List α
  | [] => []
  | x :: xs => if x = sep then [x] else x :: readline xs

/-- What iterating over a file gives: each line with its separator, and what is left. -/
def readlines (l : List α) : List (List α) :=
  (lines sep l).map (· ++ [sep]) ++ if unfinished sep l = [] then [] else [unfinished sep l]

variable {sep}

omit [DecidableEq α] in
/-- A sequence with a separator starts with a line. -/
theorem exists_line {l : List α} (h : sep ∈ l) :
    ∃ line rest, sep ∉ line ∧ l = line ++ sep :: rest := by
  obtain ⟨line, rest, hl, hline⟩ := List.eq_append_cons_of_mem h
  exact ⟨line, rest, hline, hl⟩

theorem readline_cons {line : List α} (h : sep ∉ line) (l : List α) :
    readline sep (line ++ sep :: l) = line ++ [sep] := by
  induction line with
  | nil => exact if_pos rfl
  | cons x line ih =>
    obtain ⟨hne, h⟩ := not_or.mp (List.mem_cons.not.mp h)
    rw [List.cons_append, readline, if_neg (Ne.symm hne), ih h]
    rfl

theorem readline_of_notMem {l : List α} (h : sep ∉ l) : readline sep l = l := by
  induction l with
  | nil => rfl
  | cons x l ih =>
    obtain ⟨hne, h⟩ := not_or.mp (List.mem_cons.not.mp h)
    rw [readline, if_neg (Ne.symm hne), ih h]

/-- What a file gives behind its complete lines is one that is cut off, or nothing. -/
theorem exists_readlines (l : List α) : ∃ tail,
    readlines sep l = (lines sep l).map (· ++ [sep]) ++ tail ∧
      (unfinished sep l = [] ∧ tail = [] ∨
        unfinished sep l ≠ [] ∧ tail = [unfinished sep l]) := by
  unfold readlines
  by_cases h : unfinished sep l = []
  · exact ⟨[], by rw [if_pos h], .inl ⟨h, rfl⟩⟩
  · exact ⟨[unfinished sep l], by rw [if_neg h], .inr ⟨h, rfl⟩⟩

/-! ## Short lines -/

/-- All lines, also the one that is not complete, are shorter than `n`. -/
def Shorter (sep : α) (n : Nat) (l : List α) : Prop :=
  ∀ line ∈ lines sep l ++ [unfinished sep l], line.length < n

instance (sep : α) (n : Nat) (l : List α) : Decidable (Shorter sep n l) :=
  inferInstanceAs (Decidable (∀ line ∈ lines sep l ++ [unfinished sep l], line.length < n))

variable {n : Nat} {l : List α}

omit [DecidableEq α] in
/-- Cutting a piece off behind a place. -/
theorem take_append_take (l : List α) (start size : Nat) :
    l.take (start + size) = l.take start ++ (l.drop start).take size := by
  rw [List.take_add]

/-- So were those of the input before it grew. -/
theorem Shorter.of_start {before : List α} (h : Shorter sep n l) (hbefore : before <+: l) :
    Shorter sep n before := by
  obtain ⟨more, rfl⟩ := hbefore
  intro line hline
  rcases List.mem_append.mp hline with hline | hline
  · refine h line (List.mem_append_left _ ?_)
    rw [lines_append]
    exact List.mem_append_left _ hline
  · obtain rfl := List.mem_singleton.mp hline
    by_cases hmem : sep ∈ more
    · obtain ⟨line, rest, hline, rfl⟩ := exists_line hmem
      have hfirst : unfinished sep before ++ line ∈ lines sep (before ++ (line ++ sep :: rest)) := by
        rw [lines_append, ← List.append_assoc, lines_cons]
        · exact List.mem_append_right _ List.mem_cons_self
        · exact fun hmem => (List.mem_append.mp hmem).elim (sep_notMem_unfinished _) hline
      have hlength := h _ (List.mem_append_left _ hfirst)
      rw [List.length_append] at hlength
      omega
    · have hlast : unfinished sep (before ++ more) = unfinished sep before ++ more := by
        rw [unfinished_append, unfinished_of_notMem]
        exact fun hmem' => (List.mem_append.mp hmem').elim (sep_notMem_unfinished _) hmem
      have hlength := h _ (List.mem_append_right _ List.mem_cons_self)
      rw [hlast, List.length_append] at hlength
      omega

/-- The start of a line is found by reading on to the next separator. -/
structure NextLine (sep : α) (l : List α) (start size : Nat) : Prop where
  le_length : start + size ≤ l.length
  boundary : unfinished sep (l.take (start + size)) = []

/-- A line starts behind a first line that is complete. -/
theorem nextLine_of_getLast (h : (readline sep l).getLast? = some sep) :
    NextLine sep l 0 (readline sep l).length := by
  have hmem : sep ∈ l := by
    by_contra hnot
    rw [readline_of_notMem hnot] at h
    exact hnot (List.mem_of_getLast? h)
  obtain ⟨line, rest, hline, rfl⟩ := exists_line hmem
  rw [readline_cons hline]
  have hprefix : line ++ [sep] <+: line ++ sep :: rest :=
    ⟨rest, by rw [List.append_assoc]; rfl⟩
  refine ⟨?_, ?_⟩
  · rw [Nat.zero_add]
    exact hprefix.length_le
  · rw [Nat.zero_add, ← List.prefix_iff_eq_take.mp hprefix]
    exact unfinished_concat _

/-- **A line starts soon behind any place**, where more than a short line is left. -/
theorem Shorter.readline_drop (h : Shorter sep n l) {start : Nat} (hstart : start + n ≤ l.length) :
    NextLine sep l start (readline sep (l.drop start)).length ∧
      (readline sep (l.drop start)).length ≤ n := by
  have hl := List.take_append_drop start l
  have hmem : sep ∈ l.drop start := by
    by_contra hnot
    have hrest : unfinished sep l = unfinished sep (l.take start) ++ l.drop start := by
      conv_lhs => rw [← hl, unfinished_append]
      refine unfinished_of_notMem fun hmem => ?_
      exact (List.mem_append.mp hmem).elim (sep_notMem_unfinished _) hnot
    have hlength := h _ (List.mem_append_right _ List.mem_cons_self)
    rw [hrest, List.length_append, List.length_drop] at hlength
    omega
  obtain ⟨line, rest, hline, hdrop⟩ := exists_line hmem
  rw [hdrop] at hl ⊢
  rw [readline_cons hline]
  have hbefore : (l.take start).length = start := List.length_take_of_le (by omega)
  have hsum : start + (line ++ [sep]).length = (l.take start ++ (line ++ [sep])).length := by
    conv_lhs => rw [← hbefore]
    exact List.length_append.symm
  have hprefix : l.take start ++ (line ++ [sep]) <+: l :=
    ⟨rest, by rw [List.append_assoc, List.append_assoc]; exact hl⟩
  refine ⟨⟨hsum ▸ hprefix.length_le, ?_⟩, ?_⟩
  · rw [hsum, ← List.prefix_iff_eq_take.mp hprefix, ← List.append_assoc]
    exact unfinished_concat _
  · have hfirst : unfinished sep (l.take start) ++ line ∈ lines sep l := by
      rw [← hl, lines_append, ← List.append_assoc, hl, lines_cons]
      · exact List.mem_append_right _ List.mem_cons_self
      · exact fun hmem => (List.mem_append.mp hmem).elim (sep_notMem_unfinished _) hline
    have hlength := h _ (List.mem_append_left _ hfirst)
    rw [List.length_append] at hlength
    rw [List.length_append, List.length_singleton]
    omega

end Lines
