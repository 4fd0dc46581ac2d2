import Mathlib.Data.List.DropRight
import AmigaDrivers.Common.ByteUtil

/-!
# Strings of the configuration code

`common::StringUtil`: trimming, case folding, splitting and joining of the byte
strings that settings, commands and receiver replies are made of.  Characters
are classified as the "C" locale does, which is the one the drivers run in.

A string is the list of its bytes.  `Split` keeps every part and is the
library's `List.splitOn`; `SplitTrim` reads with `getline`, which does not
return an empty part after the last separator.
-/

namespace AmigaDrivers

/-- `std::string`. -/
abbrev Text := List UInt8

/-- Whether every character of a text has a property is decided along the text. -/
instance (priority := high) decidableForallMemText (t : Text) (p : UInt8 → Prop)
    [DecidablePred p] : Decidable (∀ c ∈ t, p c) := List.decidableBAll p t

namespace StringUtil

open ByteUtil

/-! ## Character classes -/

/-- `std::isspace`: tab, line feed, vertical tab, form feed, carriage return and blank. -/
def isSpace (c : UInt8) : Bool := (9 ≤ c && c ≤ 13) || c == 32

/-- `std::isdigit`. -/
def isDigit (c : UInt8) : Bool := 48 ≤ c && c ≤ 57

/-- `std::isalnum`. -/
def isAlnum (c : UInt8) : Bool := isDigit c || (65 ≤ c && c ≤ 90) || (97 ≤ c && c ≤ 122)

/-- `std::tolower`. -/
def toLowerChar (c : UInt8) : UInt8 := if 65 ≤ c ∧ c ≤ 90 then c + 32 else c

/-- `std::toupper`. -/
def toUpperChar (c : UInt8) : UInt8 := if 97 ≤ c ∧ c ≤ 122 then c - 32 else c

/-! ## The functions -/

/-- `Trim`. -/
def trim (s : Text) : Text := (s.dropWhile isSpace).rdropWhile isSpace

/-- `ToLower`. -/
def toLower (s : Text) : Text := s.map toLowerChar

/-- `EqualsCi`. -/
def equalsCi (a b : Text) : Bool := toLower a == toLower b

/-- `StartsWithCi`. -/
def startsWithCi (s start : Text) : Bool :=
  if s.length < start.length then false
  else toLower (s.take start.length) == toLower start

/-- `Split`. -/
def split (str : Text) (delimiter : UInt8) : List Text := str.splitOn delimiter

/-- The parts that `std::getline` reads one after the other. -/
def getlines (s : Text) (sep : UInt8) : List Text :=
  if (s.splitOn sep).getLast? = some [] then (s.splitOn sep).dropLast else s.splitOn sep

/-- `SplitTrim`. -/
def splitTrim (s : Text) (sep : UInt8) : List Text := (getlines s sep).map trim

/-- `Join`. -/
def join (parts : List Text) (sep : UInt8) : Text := [sep].intercalate parts

/-- `OneLine`. -/
def oneLine (s : Text) : Text := s.map fun c => if c = 13 ∨ c = 10 ∨ c = 9 then 32 else c

/-! ## Comparison without case -/

@[simp] theorem length_toLower (s : Text) : (toLower s).length = s.length := List.length_map _

theorem equalsCi_iff {a b : Text} : equalsCi a b = true ↔ toLower a = toLower b := beq_iff_eq

@[simp] theorem equalsCi_refl (a : Text) : equalsCi a a = true := equalsCi_iff.mpr rfl

theorem equalsCi_comm {a b : Text} : equalsCi a b = equalsCi b a := Bool.beq_comm

theorem length_eq_of_equalsCi {a b : Text} (h : equalsCi a b = true) : a.length = b.length := by
  rw [← length_toLower a, ← length_toLower b, equalsCi_iff.mp h]

/-- A property of characters that case folding respects holds of both texts or of neither. -/
theorem forall_of_equalsCi {p : UInt8 → Prop} (hp : ∀ c, p (toLowerChar c) ↔ p c) {a b : Text}
    (h : equalsCi a b = true) (hb : ∀ c ∈ b, p c) : ∀ c ∈ a, p c := by
  have hlower (s : Text) : (∀ c ∈ toLower s, p c) ↔ ∀ c ∈ s, p c := by
    simp only [toLower, List.forall_mem_map, hp]
  rw [← hlower, equalsCi_iff.mp h, hlower]
  exact hb

theorem startsWithCi_append (start rest : Text) : startsWithCi (start ++ rest) start = true := by
  unfold startsWithCi
  rw [if_neg (by rw [List.length_append]; omega), List.take_left]
  exact beq_self_eq_true _

/-- What holds of every character of a joined text holds of its parts, and the other way if it
holds of the separator. -/
theorem forall_mem_join {p : UInt8 → Prop} {sep : UInt8} (hsep : p sep) {parts : List Text} :
    (∀ c ∈ join parts sep, p c) ↔ ∀ part ∈ parts, ∀ c ∈ part, p c := by
  unfold join
  induction parts with
  | nil => simp
  | cons part parts ih =>
    cases parts with
    | nil => simp
    | cons next parts =>
      rw [List.intercalate_cons_cons, List.forall_mem_append, List.forall_mem_append, ih,
        List.forall_mem_cons (a := part)]
      simp [hsep]

theorem join_cons_cons (a b : Text) (rest : List Text) (sep : UInt8) :
    join (a :: b :: rest) sep = a ++ sep :: join (b :: rest) sep := by
  unfold join
  rw [List.intercalate_cons_cons, List.append_assoc, List.singleton_append]

theorem join_append {xs ys : List Text} (hx : xs ≠ []) (hy : ys ≠ []) (sep : UInt8) :
    join (xs ++ ys) sep = join xs sep ++ sep :: join ys sep := by
  induction xs with
  | nil => exact absurd rfl hx
  | cons x xs ih =>
    cases xs with
    | nil =>
      obtain ⟨y, ys, rfl⟩ := List.exists_cons_of_ne_nil hy
      rw [List.singleton_append, join_cons_cons]
      exact congrArg (· ++ _) List.intercalate_singleton.symm
    | cons x' xs =>
      rw [List.cons_append, List.cons_append, join_cons_cons, join_cons_cons, ← List.cons_append,
        ih (List.cons_ne_nil _ _), List.append_assoc, List.cons_append]

/-! ## Trimming -/

theorem infix_trim (s : Text) : trim s <:+: s :=
  (List.rdropWhile_prefix isSpace _).isInfix.trans (List.dropWhile_suffix isSpace).isInfix

theorem mem_of_mem_trim {c : UInt8} {s : Text} (h : c ∈ trim s) : c ∈ s :=
  (infix_trim s).subset h

theorem trim_append_left {blank : Text} (h : ∀ c ∈ blank, isSpace c = true) (s : Text) :
    trim (blank ++ s) = trim s := by
  unfold trim
  rw [List.dropWhile_append_of_pos h]

theorem rdropWhile_append_right {blank : Text} (h : ∀ c ∈ blank, isSpace c = true) (s : Text) :
    (s ++ blank).rdropWhile isSpace = s.rdropWhile isSpace := by
  induction blank using List.reverseRecOn with
  | nil => rw [List.append_nil]
  | append_singleton blank c ih =>
    rw [← List.append_assoc, List.rdropWhile_concat_pos _ _ _ (h c (by simp)),
      ih fun d hd => h d (List.mem_append_left _ hd)]

theorem trim_append_right {blank : Text} (h : ∀ c ∈ blank, isSpace c = true) (s : Text) :
    trim (s ++ blank) = trim s := by
  unfold trim
  by_cases hs : ∀ c ∈ s, isSpace c = true
  · rw [List.dropWhile_append_of_pos hs, List.dropWhile_eq_nil_iff.mpr hs,
      List.dropWhile_eq_nil_iff.mpr h]
  · have hne : s.dropWhile isSpace ≠ [] := fun hnil => hs (List.dropWhile_eq_nil_iff.mp hnil)
    rw [List.dropWhile_append, if_neg (by rwa [List.isEmpty_iff]), rdropWhile_append_right h]

theorem trim_eq_nil_iff {s : Text} : trim s = [] ↔ ∀ c ∈ s, isSpace c = true := by
  unfold trim
  rw [List.rdropWhile_eq_nil_iff]
  constructor
  · intro h
    rw [← List.takeWhile_append_dropWhile (p := isSpace) (l := s)]
    intro c hc
    obtain hc | hc := List.mem_append.mp hc
    · exact List.mem_takeWhile_imp hc
    · exact h c hc
  · exact fun h c hc => h c ((List.dropWhile_suffix isSpace).subset hc)

/-- A text is what is trimmed away on the left, the trimmed text, and what is trimmed away on the
right. -/
theorem exists_eq_trim (s : Text) : ∃ left right : Text, (∀ c ∈ left, isSpace c = true) ∧
    (∀ c ∈ right, isSpace c = true) ∧ s = left ++ trim s ++ right := by
  refine ⟨s.takeWhile isSpace, (s.dropWhile isSpace).rtakeWhile isSpace,
    fun c => List.mem_takeWhile_imp, fun c => List.mem_rtakeWhile_imp, ?_⟩
  unfold trim
  rw [List.append_assoc, List.rdropWhile_append_rtakeWhile, List.takeWhile_append_dropWhile]

/-- A text that ends with a character that is no space keeps its end. -/
theorem rdropWhile_append_solid {s : Text} (h : s.rdropWhile isSpace = s) (t : Text) :
    (s ++ t).rdropWhile isSpace = s ++ t.rdropWhile isSpace := by
  calc (s ++ t).rdropWhile isSpace
      = (s ++ (t.rdropWhile isSpace ++ t.rtakeWhile isSpace)).rdropWhile isSpace := by
        rw [List.rdropWhile_append_rtakeWhile]
    _ = (s ++ t.rdropWhile isSpace).rdropWhile isSpace := by
        rw [← List.append_assoc, rdropWhile_append_right fun c => List.mem_rtakeWhile_imp]
    _ = s ++ t.rdropWhile isSpace := by
        by_cases ht : t.rdropWhile isSpace = []
        · rw [ht, List.append_nil, h]
        · rw [List.rdropWhile_eq_self_iff]
          intro hne
          rw [List.getLast_append_of_ne_nil _ ht]
          exact List.rdropWhile_last_not _ _ ht

/-- Text that neither begins nor ends with a space: only what follows it is trimmed. -/
theorem trim_append_solid {first : UInt8} {s : Text} (hfirst : isSpace first = false)
    (hlast : (first :: s).rdropWhile isSpace = first :: s) (t : Text) :
    trim (first :: s ++ t) = first :: s ++ t.rdropWhile isSpace := by
  unfold trim
  rw [List.cons_append, List.dropWhile_cons_of_neg (by simp [hfirst]), ← List.cons_append,
    rdropWhile_append_solid hlast]

/-- Nothing is trimmed between two characters that are no spaces. -/
theorem trim_enclosed {first last : UInt8} (hfirst : isSpace first = false)
    (hlast : isSpace last = false) (s : Text) :
    trim (first :: s ++ [last]) = first :: s ++ [last] := by
  unfold trim
  rw [List.cons_append, List.dropWhile_cons_of_neg (by simp [hfirst]), ← List.cons_append,
    List.rdropWhile_concat_neg _ _ _ (by simp [hlast])]

theorem rdropWhile_of_forall {s : Text} (h : ∀ c ∈ s, isSpace c = false) :
    s.rdropWhile isSpace = s := by
  rw [List.rdropWhile_eq_self_iff]
  intro hne
  rw [h _ (List.getLast_mem hne)]
  exact Bool.false_ne_true

theorem trim_of_forall {s : Text} (h : ∀ c ∈ s, isSpace c = false) : trim s = s := by
  cases s with
  | nil => rfl
  | cons c s =>
    have htrim := trim_append_solid (h c List.mem_cons_self) (rdropWhile_of_forall h) []
    rwa [List.append_nil, List.rdropWhile_nil, List.append_nil] at htrim

@[simp] theorem trim_trim (s : Text) : trim (trim s) = trim s := by
  obtain ⟨left, right, hleft, hright, hs⟩ := exists_eq_trim s
  calc trim (trim s) = trim (left ++ trim s ++ right) := by
        rw [trim_append_right hright, trim_append_left hleft]
    _ = trim s := by rw [← hs]

@[simp] theorem trim_rdropWhile (s : Text) : trim (s.rdropWhile isSpace) = trim s := by
  calc trim (s.rdropWhile isSpace)
      = trim (s.rdropWhile isSpace ++ s.rtakeWhile isSpace) :=
        (trim_append_right (fun c => List.mem_rtakeWhile_imp) _).symm
    _ = trim s := by rw [List.rdropWhile_append_rtakeWhile]

/-! ## Parts between separators -/

/-- The parts that `getline` returns, given all parts. -/
def dropEmptyLast (parts : List Text) : List Text :=
  if parts.getLast? = some [] then parts.dropLast else parts

theorem getlines_eq (s : Text) (sep : UInt8) : getlines s sep = dropEmptyLast (s.splitOn sep) := rfl

theorem dropEmptyLast_cons {parts : List Text} (h : parts ≠ []) (part : Text) :
    dropEmptyLast (part :: parts) = part :: dropEmptyLast parts := by
  unfold dropEmptyLast
  rw [List.getLast?_cons_of_ne_nil h, List.dropLast_cons_of_ne_nil h]
  split <;> rfl

theorem getlines_cons {sep : UInt8} {part : Text} (h : sep ∉ part) (rest : Text) :
    getlines (part ++ sep :: rest) sep = part :: getlines rest sep := by
  rw [getlines_eq, List.splitOn_append_cons_self_of_not_mem h,
    dropEmptyLast_cons (List.splitOn_ne_nil sep rest), getlines_eq]

theorem getlines_single {sep : UInt8} {part : Text} (h : sep ∉ part) (hne : part ≠ []) :
    getlines part sep = [part] := by
  rw [getlines_eq, List.splitOn_eq_singleton h]
  unfold dropEmptyLast
  rw [List.getLast?_singleton, if_neg (by simpa using hne)]

theorem splitOn_append_left {sep : UInt8} {blank : Text} (h : sep ∉ blank) (s : Text) :
    (blank ++ s).splitOn sep = (s.splitOn sep).modifyHead (blank ++ ·) := by
  induction blank with
  | nil =>
    show s.splitOn sep = (s.splitOn sep).modifyHead id
    rw [List.modifyHead_id, id]
  | cons c blank ih =>
    obtain ⟨hc, hblank⟩ := not_or.mp (List.mem_cons.not.mp h)
    rw [List.cons_append, List.splitOn_cons_eq_if_modifyHead, if_neg (by simpa using Ne.symm hc),
      ih hblank, List.modifyHead_modifyHead]
    rfl

theorem splitOn_append_right {sep : UInt8} {blank : Text} (h : sep ∉ blank) (s : Text) :
    ∃ parts last, s.splitOn sep = parts ++ [last] ∧
      (s ++ blank).splitOn sep = parts ++ [last ++ blank] := by
  induction s with
  | nil => exact ⟨[], [], rfl, List.splitOn_eq_singleton h⟩
  | cons c s ih =>
    obtain ⟨parts, last, hs, happend⟩ := ih
    rw [List.cons_append, List.splitOn_cons_eq_if_modifyHead, List.splitOn_cons_eq_if_modifyHead,
      hs, happend]
    by_cases hc : (c == sep) = true
    · rw [if_pos hc, if_pos hc]
      exact ⟨[] :: parts, last, rfl, rfl⟩
    · rw [if_neg hc, if_neg hc]
      cases parts with
      | nil => exact ⟨[], c :: last, rfl, rfl⟩
      | cons part parts => exact ⟨(c :: part) :: parts, last, rfl, rfl⟩

/-- Spaces around a text do not change its trimmed parts. -/
theorem map_trim_splitOn_trim {sep : UInt8} (hsep : isSpace sep = false) (s : Text) :
    ((trim s).splitOn sep).map trim = (s.splitOn sep).map trim := by
  obtain ⟨left, right, hleft, hright, hs⟩ := exists_eq_trim s
  have hmem {blank : Text} (h : ∀ c ∈ blank, isSpace c = true) : sep ∉ blank :=
    fun hmem => nomatch hsep.symm.trans (h sep hmem)
  obtain ⟨parts, last, hmiddle, hend⟩ := splitOn_append_right (hmem hright) (trim s)
  have hparts : (s.splitOn sep).map trim = (((trim s) ++ right).splitOn sep).map trim := by
    conv_lhs => rw [hs, List.append_assoc, splitOn_append_left (hmem hleft)]
    cases ((trim s) ++ right).splitOn sep with
    | nil => rfl
    | cons part parts =>
      rw [List.modifyHead_cons, List.map_cons, List.map_cons, trim_append_left hleft]
  rw [hparts, hmiddle, hend, List.map_append, List.map_append, List.map_singleton,
    List.map_singleton, trim_append_right hright]

/-- The last part of a trimmed text is blank only if it is empty. -/
theorem getLast_splitOn_trim {sep : UInt8} {s last : Text}
    (hlast : last ∈ ((trim s).splitOn sep).getLast?) (hblank : trim last = []) : last = [] := by
  by_cases hempty : trim s = []
  · rw [hempty] at hlast
    exact (Option.some.inj hlast).symm
  have hsolid : isSpace ((trim s).getLast hempty) = false :=
    Bool.eq_false_iff.mpr (List.rdropWhile_last_not _ _ hempty)
  obtain ⟨init, hinit⟩ : ∃ init, trim s = init ++ [(trim s).getLast hempty] :=
    ⟨_, (List.dropLast_append_getLast hempty).symm⟩
  generalize (trim s).getLast hempty = c at hsolid hinit
  rw [hinit] at hlast
  by_cases hc : c = sep
  · rw [hc, List.splitOn_append_cons_self] at hlast
    exact (Option.some.inj (List.getLast?_concat.symm.trans hlast)).symm
  · obtain ⟨parts, part, -, hparts⟩ := splitOn_append_right (show sep ∉ [c] by simpa using Ne.symm hc) init
    rw [hparts, List.getLast?_concat] at hlast
    have hspace := trim_eq_nil_iff.mp hblank c
      (Option.some.inj hlast ▸ List.mem_append_right part List.mem_cons_self)
    exact nomatch hsolid.symm.trans hspace

/-- The fields of a trimmed text: its parts, trimmed, without a last blank one. -/
theorem splitTrim_trim {sep : UInt8} (hsep : isSpace sep = false) (s : Text) :
    splitTrim (trim s) sep = dropEmptyLast ((s.splitOn sep).map trim) := by
  rw [← map_trim_splitOn_trim hsep]
  unfold splitTrim
  rw [getlines_eq]
  unfold dropEmptyLast
  have hiff : ((trim s).splitOn sep).getLast? = some [] ↔
      (((trim s).splitOn sep).map trim).getLast? = some [] := by
    rw [List.getLast?_map]
    constructor
    · intro h
      rw [h]
      rfl
    · intro h
      obtain ⟨last, hlast, hblank⟩ := Option.map_eq_some_iff.mp h
      rw [hlast, getLast_splitOn_trim hlast hblank]
  simp only [hiff]
  split
  · exact List.map_dropLast
  · rfl

theorem splitTrim_trim_cons {sep : UInt8} (hsep : isSpace sep = false) {part : Text}
    (h : sep ∉ part) (rest : Text) :
    splitTrim (trim (part ++ sep :: rest)) sep = trim part :: splitTrim (trim rest) sep := by
  rw [splitTrim_trim hsep, splitTrim_trim hsep, List.splitOn_append_cons_self_of_not_mem h,
    List.map_cons, dropEmptyLast_cons (by simp)]

theorem splitTrim_trim_single {sep : UInt8} {part : Text} (h : sep ∉ part) (hne : trim part ≠ []) :
    splitTrim (trim part) sep = [trim part] := by
  unfold splitTrim
  rw [getlines_single (fun hmem => h (mem_of_mem_trim hmem)) hne, List.map_singleton, trim_trim]

@[simp] theorem splitTrim_nil (sep : UInt8) : splitTrim [] sep = [] := rfl

end StringUtil
end AmigaDrivers
