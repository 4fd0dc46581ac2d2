import AmigaDrivers.Foundation.Json
import Mathlib.Data.List.TakeWhile

/-!
# JSON values, written and read

A reader of JSON text: numbers without a fraction are integers of any size, no key stands twice in an
object, and what is not JSON, infinities and NaN among it, is refused.

* `parse`: the reader.
* `WellFormed`: the values that a text stands for.
* `parse_text`: **what is written is read back**, with any indentation and white space behind it.
* `newline_notMem_text`: without an indentation it is one line.
-/

namespace Json

/-! ## The reader -/

/-- White space. -/
def isSpace (c : Char) : Bool := c == ' ' || c == '\t' || c == '\n' || c == '\r'

/-- What stands behind white space. -/
def skipSpace (l : List Char) : List Char := l.dropWhile isSpace

/-- A hexadecimal digit. -/
def hexValue (c : Char) : Option Nat :=
  if '0' ≤ c ∧ c ≤ '9' then some (c.toNat - 48)
  else if 'a' ≤ c ∧ c ≤ 'f' then some (c.toNat - 87)
  else if 'A' ≤ c ∧ c ≤ 'F' then some (c.toNat - 55)
  else none

/-- Four of them. -/
def hexValues (a b c d : Char) : Option Nat := do
  let a ← hexValue a
  let b ← hexValue b
  let c ← hexValue c
  let d ← hexValue d
  pure (((a * 16 + b) * 16 + c) * 16 + d)

/-- The character that a letter behind a backslash stands for. -/
def unescape (c : Char) : Option Char :=
  match c with
  | '"' => some '"'
  | '\\' => some '\\'
  | '/' => some '/'
  | 'b' => some '\x08'
  | 'f' => some '\x0c'
  | 'n' => some '\n'
  | 'r' => some '\r'
  | 't' => some '\t'
  | _ => none

/-- A character before those that are read already. -/
def consChar (c : Char) (rest : Except String (List Char × List Char)) :
    Except String (List Char × List Char) :=
  rest.map fun r => (c :: r.1, r.2)

/-- A string behind its first quotation mark. -/
def scanString : List Char → Except String (List Char × List Char)
  | [] => .error "Unterminated string starting at"
  | '"' :: rest => .ok ([], rest)
  | '\\' :: 'u' :: a :: b :: c :: d :: rest =>
    match hexValues a b c d with
    | none => .error "Invalid \\uXXXX escape"
    | some n =>
      if n.isValidChar then consChar (Char.ofNat n) (scanString rest)
      else
        match rest with
        | '\\' :: 'u' :: e :: f :: g :: h :: rest =>
          match hexValues e f g h with
          | none => .error "Invalid \\uXXXX escape"
          | some m =>
            if n < 0xDC00 ∧ 0xDC00 ≤ m ∧ m < 0xE000 then
              consChar (Char.ofNat (0x10000 + (n - 0xD800) * 0x400 + (m - 0xDC00))) (scanString rest)
            else .error "Surrogate"
        | _ => .error "Surrogate"
  | '\\' :: c :: rest =>
    match unescape c with
    | some c => consChar c (scanString rest)
    | none => .error "Invalid \\escape"
  | c :: rest =>
    if c.toNat < 32 ∨ c = '\\' then .error "Invalid control character at"
    else consChar c (scanString rest)

/-- The digits at the start, and what is left. -/
def scanDigits (l : List Char) : List Char × List Char :=
  (l.takeWhile Char.isDigit, l.dropWhile Char.isDigit)

/-- The digits of an integer without a sign: no zero before others. -/
def scanNatural : List Char → Option (List Char × List Char)
  | '0' :: rest => some (['0'], rest)
  | l => if (scanDigits l).1 = [] then none else some (scanDigits l)

/-- A fraction, if there is one. -/
def scanFraction : List Char → List Char × List Char
  | '.' :: rest =>
    if (scanDigits rest).1 = [] then ([], '.' :: rest)
    else ('.' :: (scanDigits rest).1, (scanDigits rest).2)
  | l => ([], l)

/-- A sign of an exponent, if there is one. -/
def scanSign : List Char → List Char × List Char
  | '+' :: rest => (['+'], rest)
  | '-' :: rest => (['-'], rest)
  | l => ([], l)

/-- An exponent, if there is one. -/
def scanExponent : List Char → List Char × List Char
  | [] => ([], [])
  | e :: rest =>
    if e = 'e' ∨ e = 'E' then
      let (sign, digits) := scanSign rest
      if (scanDigits digits).1 = [] then ([], e :: rest)
      else (e :: sign ++ (scanDigits digits).1, (scanDigits digits).2)
    else ([], e :: rest)

/-- A number without its sign, from its digits on. -/
def numberOf (negative : Bool) (digits : List Char) (rest : List Char) : Json × List Char :=
  let (fraction, rest) := scanFraction rest
  let (exponent, rest) := scanExponent rest
  let n := Nat.ofDigitChars 10 digits 0
  if fraction = [] ∧ exponent = [] then (.int (if negative then -n else n), rest)
  else
    (.real (String.ofList ((if negative then ['-'] else []) ++ digits ++ fraction ++ exponent)), rest)

/-- A number. -/
def scanNumber : List Char → Option (Json × List Char)
  | '-' :: rest => (scanNatural rest).map fun r => numberOf true r.1 r.2
  | l => (scanNatural l).map fun r => numberOf false r.1 r.2

/-- The fields of an object, each key once. -/
def objectOf (fields : List (String × Json)) : Except String Json :=
  if (fields.map Prod.fst).Nodup then
    .ok (.obj (fields.foldl (fun acc f => insert f.1 f.2 acc) []))
  else .error "Duplicate JSON key"

mutual

/-- A value.  So many values, items and fields may stand in it. -/
def scanValue : Nat → List Char → Except String (Json × List Char)
  | 0, _ => .error "maximum recursion depth exceeded"
  | _ + 1, 'n' :: 'u' :: 'l' :: 'l' :: rest => .ok (.null, rest)
  | _ + 1, 't' :: 'r' :: 'u' :: 'e' :: rest => .ok (.bool true, rest)
  | _ + 1, 'f' :: 'a' :: 'l' :: 's' :: 'e' :: rest => .ok (.bool false, rest)
  | _ + 1, '"' :: rest => do
    let (s, rest) ← scanString rest
    pure (.str (String.ofList s), rest)
  | fuel + 1, '[' :: rest =>
    match skipSpace rest with
    | ']' :: rest => .ok (.arr [], rest)
    | rest => do
      let (items, rest) ← scanItems fuel rest
      pure (.arr items, rest)
  | fuel + 1, '{' :: rest =>
    match skipSpace rest with
    | '}' :: rest => .ok (.obj [], rest)
    | rest => do
      let (fields, rest) ← scanFields fuel rest
      let object ← objectOf fields
      pure (object, rest)
  | _ + 1, l =>
    match scanNumber l with
    | some r => .ok r
    | none => .error "Expecting value"

/-- The items of an array, from one of them on. -/
def scanItems : Nat → List Char → Except String (List Json × List Char)
  | 0, _ => .error "maximum recursion depth exceeded"
  | fuel + 1, l => do
    let (item, rest) ← scanValue fuel l
    match skipSpace rest with
    | ']' :: rest => pure ([item], rest)
    | ',' :: rest => do
      let (items, rest) ← scanItems fuel (skipSpace rest)
      pure (item :: items, rest)
    | _ => .error "Expecting ',' delimiter"

/-- The fields of an object, from one of them on. -/
def scanFields : Nat → List Char → Except String (List (String × Json) × List Char)
  | 0, _ => .error "maximum recursion depth exceeded"
  | fuel + 1, '"' :: l => do
    let (key, rest) ← scanString l
    match skipSpace rest with
    | ':' :: rest => do
      let (value, rest) ← scanValue fuel (skipSpace rest)
      match skipSpace rest with
      | '}' :: rest => pure ([(String.ofList key, value)], rest)
      | ',' :: rest => do
        let (fields, rest) ← scanFields fuel (skipSpace rest)
        pure ((String.ofList key, value) :: fields, rest)
      | _ => .error "Expecting ',' delimiter"
    | _ => .error "Expecting ':' delimiter"
  | _ + 1, _ => .error "Expecting property name enclosed in double quotes"

end

/-- A document. -/
def parse (l : List Char) : Except String Json := do
  let (value, rest) ← scanValue (2 * l.length + 2) (skipSpace l)
  if skipSpace rest = [] then pure value else .error "Extra data"

/-! ## Strings -/

/-- A control character, as its code. -/
theorem hexValues_control {n : Nat} (h : n < 32) :
    hexValues '0' '0' (Nat.digitChar (n / 16)) (Nat.digitChar (n % 16)) = some n := by
  have hall : ∀ n < 32,
      hexValues '0' '0' (Nat.digitChar (n / 16)) (Nat.digitChar (n % 16)) = some n := by decide
  exact hall n h

/-- A character that is written is read back. -/
theorem scanString_escape (c : Char) (l : List Char) :
    scanString (escape c ++ l) = consChar c (scanString l) := by
  unfold escape
  by_cases hquote : c = '"'
  · rw [if_pos hquote, hquote]
    rfl
  rw [if_neg hquote]
  by_cases hslash : c = '\\'
  · rw [if_pos hslash, hslash]
    rfl
  rw [if_neg hslash]
  by_cases hback : c = '\x08'
  · rw [if_pos hback, hback]
    rfl
  rw [if_neg hback]
  by_cases hfeed : c = '\x0c'
  · rw [if_pos hfeed, hfeed]
    rfl
  rw [if_neg hfeed]
  by_cases hnewline : c = '\n'
  · rw [if_pos hnewline, hnewline]
    rfl
  rw [if_neg hnewline]
  by_cases hreturn : c = '\r'
  · rw [if_pos hreturn, hreturn]
    rfl
  rw [if_neg hreturn]
  by_cases htab : c = '\t'
  · rw [if_pos htab, htab]
    rfl
  rw [if_neg htab]
  by_cases hcontrol : c.toNat < 32
  · have hvalid : c.toNat.isValidChar := c.valid
    rw [if_pos hcontrol]
    simp only [List.cons_append, List.nil_append]
    rw [scanString, hexValues_control hcontrol]
    dsimp only
    rw [if_pos hvalid, Char.ofNat_toNat]
  · rw [if_neg hcontrol, List.singleton_append, scanString.eq_def]
    split
    · rename_i h
      exact nomatch h
    · rename_i h
      exact absurd (List.cons.inj h).1 hquote
    · rename_i h
      exact absurd (List.cons.inj h).1 hslash
    · rename_i h
      exact absurd (List.cons.inj h).1 hslash
    · rename_i h
      obtain ⟨rfl, rfl⟩ := List.cons.inj h
      rw [if_neg (not_or.mpr ⟨hcontrol, hslash⟩)]

/-- **A string that is written is read back.** -/
theorem scanString_quote (s rest : List Char) :
    scanString (s.flatMap escape ++ '"' :: rest) = .ok (s, rest) := by
  induction s with
  | nil => rfl
  | cons c s ih =>
    rw [List.flatMap_cons, List.append_assoc, scanString_escape, ih]
    rfl

/-! ## Numbers -/

/-- A character that a number may go on with. -/
def isNumeric (c : Char) : Bool :=
  c.isDigit || c == '.' || c == 'e' || c == 'E' || c == '+' || c == '-'

/-- No number goes on. -/
def Stops (rest : List Char) : Prop := ∀ c ∈ rest.head?, isNumeric c = false

theorem Stops.isDigit {rest : List Char} (h : Stops rest) : ∀ c ∈ rest.head?, c.isDigit = false := by
  intro c hc
  have hnumeric := h c hc
  unfold isNumeric at hnumeric
  simp only [Bool.or_eq_false_iff] at hnumeric
  exact hnumeric.1.1.1.1.1

theorem Stops.ne {rest : List Char} (h : Stops rest) {c : Char} (hc : isNumeric c = true)
    (more : List Char) : rest ≠ c :: more := by
  rintro rfl
  exact nomatch hc.symm.trans (h c rfl)

theorem scanDigits_append {rest : List Char} (hrest : Stops rest) (l : List Char) :
    scanDigits (l ++ rest) = ((scanDigits l).1, (scanDigits l).2 ++ rest) := by
  induction l with
  | nil =>
    unfold scanDigits
    cases rest with
    | nil => rfl
    | cons c rest =>
      have hc := hrest.isDigit c rfl
      rw [List.nil_append, List.takeWhile_cons_of_neg (by rw [hc]; exact Bool.false_ne_true),
        List.dropWhile_cons_of_neg (by rw [hc]; exact Bool.false_ne_true)]
      rfl
  | cons c l ih =>
    obtain ⟨htake, hdrop⟩ := Prod.mk.inj ih
    unfold scanDigits
    by_cases hc : c.isDigit = true
    · rw [List.cons_append, List.takeWhile_cons_of_pos hc, List.dropWhile_cons_of_pos hc,
        List.takeWhile_cons_of_pos hc, List.dropWhile_cons_of_pos hc, htake, hdrop]
      rfl
    · rw [List.cons_append, List.takeWhile_cons_of_neg hc, List.dropWhile_cons_of_neg hc,
        List.takeWhile_cons_of_neg hc, List.dropWhile_cons_of_neg hc]
      rfl

theorem scanFraction_append {rest : List Char} (hrest : Stops rest) (l : List Char) :
    scanFraction (l ++ rest) = ((scanFraction l).1, (scanFraction l).2 ++ rest) := by
  cases l with
  | nil =>
    unfold scanFraction
    split
    · rename_i h
      exact absurd h (hrest.ne rfl _)
    · rfl
  | cons c l =>
    by_cases hc : c = '.'
    · subst hc
      have hdot (m : List Char) : scanFraction ('.' :: m) =
          if (scanDigits m).1 = [] then ([], '.' :: m)
          else ('.' :: (scanDigits m).1, (scanDigits m).2) := rfl
      rw [List.cons_append, hdot, hdot, scanDigits_append hrest]
      split_ifs <;> rfl
    · have hsame (m : List Char) : scanFraction (c :: m) = ([], c :: m) := by
        unfold scanFraction
        split
        · rename_i h
          exact absurd (List.cons.inj h).1 hc
        · rfl
      rw [List.cons_append, hsame, hsame, List.cons_append]

theorem scanSign_append {rest : List Char} (hrest : Stops rest) (l : List Char) :
    scanSign (l ++ rest) = ((scanSign l).1, (scanSign l).2 ++ rest) := by
  cases l with
  | nil =>
    unfold scanSign
    split
    · rename_i h
      exact absurd h (hrest.ne rfl _)
    · rename_i h
      exact absurd h (hrest.ne rfl _)
    · rfl
  | cons c l =>
    rw [List.cons_append]
    by_cases hplus : c = '+'
    · subst hplus
      rfl
    by_cases hminus : c = '-'
    · subst hminus
      rfl
    have hsame (m : List Char) : scanSign (c :: m) = ([], c :: m) := by
      unfold scanSign
      split
      · rename_i h
        exact absurd (List.cons.inj h).1 hplus
      · rename_i h
        exact absurd (List.cons.inj h).1 hminus
      · rfl
    rw [hsame, hsame, List.cons_append]

theorem scanExponent_append {rest : List Char} (hrest : Stops rest) (l : List Char) :
    scanExponent (l ++ rest) = ((scanExponent l).1, (scanExponent l).2 ++ rest) := by
  cases l with
  | nil =>
    cases rest with
    | nil => rfl
    | cons c rest =>
      have hc : ¬(c = 'e' ∨ c = 'E') := by
        rintro (rfl | rfl)
        · exact nomatch hrest 'e' rfl
        · exact nomatch hrest 'E' rfl
      rw [List.nil_append]
      unfold scanExponent
      dsimp only
      rw [if_neg hc]
      rfl
  | cons c l =>
    rw [List.cons_append]
    unfold scanExponent
    dsimp only
    by_cases hc : c = 'e' ∨ c = 'E'
    · rw [if_pos hc, if_pos hc, scanSign_append hrest]
      dsimp only
      rw [scanDigits_append hrest]
      split_ifs <;> rfl
    · rw [if_neg hc, if_neg hc]
      rfl

theorem numberOf_append {rest : List Char} (hrest : Stops rest) (negative : Bool)
    (digits l : List Char) : numberOf negative digits (l ++ rest) =
      ((numberOf negative digits l).1, (numberOf negative digits l).2 ++ rest) := by
  unfold numberOf
  rw [scanFraction_append hrest]
  dsimp only
  rw [scanExponent_append hrest]
  dsimp only
  split_ifs <;> rfl

theorem scanNatural_append {rest : List Char} (hrest : Stops rest) (l : List Char) :
    scanNatural (l ++ rest) = (scanNatural l).map fun r => (r.1, r.2 ++ rest) := by
  have hother (m : List Char) (hm : ∀ l, m ≠ '0' :: l) : scanNatural m =
      if (scanDigits m).1 = [] then none else some (scanDigits m) := by
    unfold scanNatural
    split
    · exact absurd rfl (hm _)
    · rfl
  by_cases hzero : ∃ m, l = '0' :: m
  · obtain ⟨m, rfl⟩ := hzero
    rfl
  · have hl : ∀ m, l ≠ '0' :: m := fun m hm => hzero ⟨m, hm⟩
    have hboth : ∀ m, l ++ rest ≠ '0' :: m := by
      intro m hm
      cases l with
      | nil => exact hrest.ne rfl m hm
      | cons c l => exact hl l (congrArg (· :: l) (List.cons.inj hm).1)
    rw [hother _ hl, hother _ hboth, scanDigits_append hrest]
    dsimp only
    split_ifs <;> rfl

/-- **A number goes on no further** behind what no number goes on with. -/
theorem scanNumber_append {rest : List Char} (hrest : Stops rest) (l : List Char) :
    scanNumber (l ++ rest) = (scanNumber l).map fun r => (r.1, r.2 ++ rest) := by
  have hother (m : List Char) (hm : ∀ l, m ≠ '-' :: l) : scanNumber m =
      (scanNatural m).map fun r => numberOf false r.1 r.2 := by
    unfold scanNumber
    split
    · exact absurd rfl (hm _)
    · rfl
  have hmap (negative : Bool) (m : List Char) :
      ((scanNatural (m ++ rest)).map fun r => numberOf negative r.1 r.2) =
        ((scanNatural m).map fun r => numberOf negative r.1 r.2).map fun r => (r.1, r.2 ++ rest) := by
    rw [scanNatural_append hrest]
    cases scanNatural m with
    | none => rfl
    | some r => exact congrArg some (numberOf_append hrest _ _ _)
  by_cases hminus : ∃ m, l = '-' :: m
  · obtain ⟨m, rfl⟩ := hminus
    exact hmap true m
  · have hl : ∀ m, l ≠ '-' :: m := fun m hm => hminus ⟨m, hm⟩
    have hboth : ∀ m, l ++ rest ≠ '-' :: m := by
      intro m hm
      cases l with
      | nil => exact hrest.ne rfl m hm
      | cons c l => exact hl l (congrArg (· :: l) (List.cons.inj hm).1)
    rw [hother _ hl, hother _ hboth]
    exact hmap false l

/-- Only the number zero is written with a zero before anything. -/
theorem toDigits_zero_cons {n : Nat} {l : List Char} (h : Nat.toDigits 10 n = '0' :: l) : l = [] := by
  induction n using Nat.strong_induction_on generalizing l with
  | _ n ih =>
    by_cases hn : n < 10
    · rw [Nat.toDigits_of_lt_base hn] at h
      exact (List.cons.inj h).2.symm
    · rw [Nat.toDigits_of_base_le (by decide) (by omega)] at h
      cases hfront : Nat.toDigits 10 (n / 10) with
      | nil => exact absurd hfront Nat.toDigits_ne_nil
      | cons c front =>
        rw [hfront] at h
        obtain ⟨rfl, -⟩ := List.cons.inj h
        have hnil := ih (n / 10) (by omega) hfront
        rw [hnil] at hfront
        have hzero : Nat.ofDigitChars 10 (Nat.toDigits 10 (n / 10)) 0 = 0 := by rw [hfront]; rfl
        rw [Nat.ofDigitChars_ten_toDigits] at hzero
        omega

theorem scanDigits_toDigits (n : Nat) :
    scanDigits (Nat.toDigits 10 n) = (Nat.toDigits 10 n, []) := by
  have hall : ∀ c ∈ Nat.toDigits 10 n, c.isDigit = true := fun c hc =>
    Nat.isDigit_of_mem_toDigits (by decide) (by decide) hc
  unfold scanDigits
  rw [List.takeWhile_eq_self_iff.mpr hall, List.dropWhile_eq_nil_iff.mpr hall]

theorem scanNatural_toDigits (n : Nat) :
    scanNatural (Nat.toDigits 10 n) = some (Nat.toDigits 10 n, []) := by
  unfold scanNatural
  split
  · rename_i l h
    rw [h, toDigits_zero_cons h]
  · rw [if_neg (by rw [scanDigits_toDigits]; exact Nat.toDigits_ne_nil), scanDigits_toDigits]

/-- **An integer that is written is read back.** -/
theorem scanNumber_int (i : Int) : scanNumber (toString i).toList = some (.int i, []) := by
  have hnatural (negative : Bool) (n : Nat) :
      ((scanNatural (Nat.toDigits 10 n)).map fun r => numberOf negative r.1 r.2) =
        some (.int (if negative then -n else n), []) := by
    rw [scanNatural_toDigits]
    show some (Json.int (if negative then -(Nat.ofDigitChars 10 (Nat.toDigits 10 n) 0 : Nat)
      else (Nat.ofDigitChars 10 (Nat.toDigits 10 n) 0 : Nat)), _) = _
    rw [Nat.ofDigitChars_ten_toDigits]
  rw [Int.toString_eq_repr, Int.repr_eq_if]
  split_ifs with hi
  · rw [Nat.toList_repr]
    have hdigit : ∀ l, Nat.toDigits 10 i.toNat ≠ '-' :: l := by
      intro l h
      have hminus : '-' ∈ Nat.toDigits 10 i.toNat := h ▸ List.mem_cons_self
      exact nomatch Nat.isDigit_of_mem_toDigits (by decide) (by decide) hminus
    unfold scanNumber
    split
    · rename_i h
      exact absurd h (hdigit _)
    · rw [hnatural false]
      exact congrArg (fun i => some (Json.int i, ([] : List Char))) (Int.toNat_of_nonneg hi)
  · rw [String.toList_append, Nat.toList_repr]
    have hneg := hnatural true (-i).toNat
    have hi : -(((-i).toNat : Nat) : Int) = i := by omega
    rw [if_pos rfl, hi] at hneg
    exact hneg

/-! ## White space -/

theorem skipSpace_of_head {c : Char} (h : isSpace c = false) (l : List Char) :
    skipSpace (c :: l) = c :: l :=
  List.dropWhile_cons_of_neg (by rw [h]; exact Bool.false_ne_true)

theorem skipSpace_append {space : List Char} (h : ∀ c ∈ space, isSpace c = true) (l : List Char) :
    skipSpace (space ++ l) = skipSpace l := by
  unfold skipSpace
  rw [List.dropWhile_append, List.dropWhile_eq_nil_iff.mpr h]
  rfl

theorem isSpace_newline {indent : Int} {depth : Nat} : ∀ c ∈ newline indent depth, isSpace c = true := by
  intro c hc
  unfold newline at hc
  split_ifs at hc
  · exact absurd hc List.not_mem_nil
  · obtain rfl | hc := List.mem_cons.mp hc
    · rfl
    · rw [List.eq_of_mem_replicate hc]
      rfl

/-- What stands behind a line break and an indentation. -/
theorem skipSpace_newline {indent : Int} {depth : Nat} {c : Char} (h : isSpace c = false)
    (l : List Char) : skipSpace (newline indent depth ++ c :: l) = c :: l :=
  (skipSpace_append isSpace_newline _).trans (skipSpace_of_head h l)

theorem stops_newline (indent : Int) (depth : Nat) {c : Char} (h : isNumeric c = false)
    (l : List Char) : Stops (newline indent depth ++ c :: l) := by
  unfold newline
  split_ifs
  · rintro _ ⟨⟩
    exact h
  · rintro _ ⟨⟩
    rfl

/-! ## Values -/

/-- The values that a text stands for.  The keys of an object are in order; the digits of a number
that is not an integer are those of such a number. -/
inductive WellFormed : Json → Prop
  | null : WellFormed .null
  | bool (b : Bool) : WellFormed (.bool b)
  | int (i : Int) : WellFormed (.int i)
  | str (s : String) : WellFormed (.str s)
  | real {digits : String} (h : scanNumber digits.toList = some (.real digits, [])) :
      WellFormed (.real digits)
  | arr {items : List Json} (h : ∀ j ∈ items, WellFormed j) : WellFormed (.arr items)
  | obj {fields : List (String × Json)} (horder : InOrder fields)
      (h : ∀ f ∈ fields, WellFormed f.2) : WellFormed (.obj fields)

theorem scanNumber_head {l : List Char} {r : Json × List Char} (h : scanNumber l = some r) :
    ∃ c m, l = c :: m ∧ (c.isDigit = true ∨ c = '-') := by
  have hnatural {l : List Char} (h : scanNatural l ≠ none) : ∃ c m, l = c :: m ∧ c.isDigit = true := by
    unfold scanNatural at h
    split at h
    · exact ⟨_, _, rfl, rfl⟩
    · split_ifs at h with hdigits
      · exact absurd rfl h
      · cases l with
        | nil => exact absurd rfl hdigits
        | cons c m =>
          refine ⟨c, m, rfl, ?_⟩
          by_contra hc
          exact hdigits (List.takeWhile_cons_of_neg hc)
  unfold scanNumber at h
  split at h
  · exact ⟨_, _, rfl, .inr rfl⟩
  · obtain ⟨c, m, hl, hc⟩ := hnatural fun hnone => by
      rw [hnone] at h
      exact nomatch h
    exact ⟨c, m, hl, .inl hc⟩

/-- **A number is a value.** -/
theorem scanValue_number {l : List Char} {r : Json × List Char} (h : scanNumber l = some r)
    (fuel : Nat) : scanValue (fuel + 1) l = .ok r := by
  obtain ⟨c, m, rfl, hc⟩ := scanNumber_head h
  have hne {d : Char} (hdigit : d.isDigit = false) (hminus : d ≠ '-') : c ≠ d := by
    rintro rfl
    obtain hc | hc := hc
    · exact nomatch hdigit.symm.trans hc
    · exact hminus hc
  have hn : c ≠ 'n' := hne rfl (by decide)
  have ht : c ≠ 't' := hne rfl (by decide)
  have hf : c ≠ 'f' := hne rfl (by decide)
  have hquote : c ≠ '"' := hne rfl (by decide)
  have harr : c ≠ '[' := hne rfl (by decide)
  have hobj : c ≠ '{' := hne rfl (by decide)
  rw [scanValue.eq_def]
  split
  · exact absurd ‹fuel + 1 = 0› (Nat.succ_ne_zero fuel)
  · rename_i hl
    exact absurd (List.cons.inj hl).1 hn
  · rename_i hl
    exact absurd (List.cons.inj hl).1 ht
  · rename_i hl
    exact absurd (List.cons.inj hl).1 hf
  · rename_i hl
    exact absurd (List.cons.inj hl).1 hquote
  · rename_i hl
    exact absurd (List.cons.inj hl).1 harr
  · rename_i hl
    exact absurd (List.cons.inj hl).1 hobj
  · rw [h]

/-- What a value starts with. -/
theorem exists_text {j : Json} (h : WellFormed j) (indent : Int) (depth : Nat) :
    ∃ c l, text indent depth j = c :: l ∧ isSpace c = false ∧ c ≠ ']' ∧ c ≠ '}' := by
  have hnumber {l : List Char} {r : Json × List Char} (h : scanNumber l = some r) :
      ∃ c m, l = c :: m ∧ isSpace c = false ∧ c ≠ ']' ∧ c ≠ '}' := by
    obtain ⟨c, m, rfl, hc⟩ := scanNumber_head h
    have hne {d : Char} (hdigit : d.isDigit = false) (hminus : d ≠ '-') : c ≠ d := by
      rintro rfl
      obtain hc | hc := hc
      · exact nomatch hdigit.symm.trans hc
      · exact hminus hc
    have hspace : isSpace c = false := by
      unfold isSpace
      simp only [Bool.or_eq_false_iff, beq_eq_false_iff_ne]
      exact ⟨⟨⟨hne rfl (by decide), hne rfl (by decide)⟩, hne rfl (by decide)⟩, hne rfl (by decide)⟩
    exact ⟨c, m, rfl, hspace, hne rfl (by decide), hne rfl (by decide)⟩
  cases h with
  | null => exact ⟨'n', _, by rw [text]; rfl, rfl, by decide, by decide⟩
  | bool b =>
    cases b with
    | true => exact ⟨'t', _, by rw [text]; rfl, rfl, by decide, by decide⟩
    | false => exact ⟨'f', _, by rw [text]; rfl, rfl, by decide, by decide⟩
  | int i =>
    rw [text]
    exact hnumber (scanNumber_int i)
  | str s => exact ⟨'"', _, by rw [text]; rfl, rfl, by decide, by decide⟩
  | real h =>
    rw [text]
    exact hnumber h
  | @arr items =>
    cases items with
    | nil => exact ⟨'[', _, by rw [text]; rfl, rfl, by decide, by decide⟩
    | cons j items => exact ⟨'[', _, by rw [text]; rfl, rfl, by decide, by decide⟩
  | @obj fields =>
    cases fields with
    | nil => exact ⟨'{', _, by rw [text]; rfl, rfl, by decide, by decide⟩
    | cons f fields => exact ⟨'{', _, by rw [text]; rfl, rfl, by decide, by decide⟩

theorem skipSpace_text {j : Json} (h : WellFormed j) (indent : Int) (depth : Nat) (l : List Char) :
    skipSpace (text indent depth j ++ l) = text indent depth j ++ l := by
  obtain ⟨c, m, htext, hc, -⟩ := exists_text h indent depth
  rw [htext, List.cons_append, skipSpace_of_head hc]

/-- A value is read back, whatever stands behind it that no number goes on with. -/
def Reads (j : Json) : Prop :=
  ∀ (indent : Int) (depth fuel : Nat) (rest : List Char), Stops rest →
    2 * (text indent depth j).length ≤ fuel →
      scanValue fuel (text indent depth j ++ rest) = .ok (j, rest)

theorem reads_number {j : Json} {l : List Char} (htext : ∀ indent depth, text indent depth j = l)
    (h : scanNumber l = some (j, [])) : Reads j := by
  intro indent depth fuel rest hrest hfuel
  obtain ⟨c, m, hl, -⟩ := scanNumber_head h
  rw [htext, hl, List.length_cons] at hfuel
  obtain ⟨fuel, rfl⟩ : ∃ n, fuel = n + 1 := ⟨fuel - 1, by omega⟩
  rw [htext]
  refine scanValue_number ?_ fuel
  rw [scanNumber_append hrest, h]
  rfl

theorem reads_str (s : String) : Reads (.str s) := by
  intro indent depth fuel rest hrest hfuel
  rw [text] at hfuel ⊢
  unfold quote at hfuel ⊢
  rw [List.cons_append, List.length_cons] at hfuel
  obtain ⟨fuel, rfl⟩ : ∃ n, fuel = n + 1 := ⟨fuel - 1, by omega⟩
  rw [List.cons_append, List.cons_append, List.append_assoc, List.singleton_append, scanValue,
    scanString_quote]
  show Except.ok (Json.str (String.ofList s.toList), rest) = _
  rw [String.ofList_toList]

/-- The items of an array are read back. -/
theorem scanItems_text {items : List Json} (hitems : ∀ j ∈ items, WellFormed j ∧ Reads j) {j : Json}
    (hj : WellFormed j ∧ Reads j) (indent : Int) (depth depth' fuel : Nat) (rest : List Char)
    (hfuel : 2 * (text indent depth j).length + 2 * (textItems indent depth items).length + 1 ≤ fuel) :
    scanItems fuel (text indent depth j ++ (textItems indent depth items ++
      (newline indent depth' ++ ']' :: rest))) = .ok (j :: items, rest) := by
  induction items generalizing j fuel with
  | nil =>
    obtain ⟨fuel, rfl⟩ : ∃ n, fuel = n + 1 := ⟨fuel - 1, by omega⟩
    rw [textItems, List.nil_append, scanItems,
      hj.2 indent depth fuel _ (stops_newline indent depth' rfl rest) (by omega)]
    show (match skipSpace (newline indent depth' ++ ']' :: rest) with
      | ']' :: rest => Except.ok ([j], rest)
      | ',' :: rest => _
      | _ => _) = _
    rw [skipSpace_newline rfl]
    rfl
  | cons k items ih =>
    obtain ⟨fuel, rfl⟩ : ∃ n, fuel = n + 1 := ⟨fuel - 1, by omega⟩
    obtain ⟨hk, hitems⟩ := List.forall_mem_cons.mp hitems
    rw [textItems] at hfuel ⊢
    rw [List.length_append, List.length_append, List.length_cons] at hfuel
    simp only [List.cons_append, List.append_assoc]
    have hcomma : Stops (',' :: (newline indent depth ++ (text indent depth k ++
        (textItems indent depth items ++ (newline indent depth' ++ ']' :: rest))))) := by
      rintro _ ⟨⟩
      rfl
    rw [scanItems, hj.2 indent depth fuel _ hcomma (by omega)]
    have hmore := ih hitems hk fuel (by omega)
    rw [← skipSpace_text hk.1 indent depth, ← skipSpace_append isSpace_newline] at hmore
    show (do
      let (items, rest) ← scanItems fuel _
      pure (j :: items, rest) : Except String (List Json × List Char)) = _
    rw [hmore]
    rfl

theorem reads_arr {items : List Json} (hitems : ∀ j ∈ items, WellFormed j ∧ Reads j) :
    Reads (.arr items) := by
  intro indent depth fuel rest hrest hfuel
  cases items with
  | nil =>
    rw [text] at hfuel ⊢
    obtain ⟨fuel, rfl⟩ : ∃ n, fuel = n + 1 := ⟨fuel - 1, by have : 2 * 2 ≤ fuel := hfuel; omega⟩
    rfl
  | cons j items =>
    obtain ⟨hj, hitems⟩ := List.forall_mem_cons.mp hitems
    rw [text] at hfuel ⊢
    simp only [List.length_append, List.length_cons, List.length_nil] at hfuel
    obtain ⟨fuel, rfl⟩ : ∃ n, fuel = n + 1 := ⟨fuel - 1, by omega⟩
    have hmore := scanItems_text hitems hj indent (depth + 1) depth fuel rest (by omega)
    simp only [List.cons_append, List.append_assoc, List.nil_append]
    rw [scanValue, skipSpace_append isSpace_newline, skipSpace_text hj.1]
    obtain ⟨c, l, htext, -, hc, -⟩ := exists_text hj.1 indent (depth + 1)
    split
    · rename_i h
      rw [htext] at h
      exact absurd (List.cons.inj h).1 hc
    · rw [hmore]
      rfl

/-! ## Objects -/

theorem insert_last {key : String} {value : Json} {fields : List (String × Json)}
    (h : ∀ f ∈ fields, f.1 < key) : insert key value fields = fields ++ [(key, value)] := by
  induction fields with
  | nil => rfl
  | cons f fields ih =>
    obtain ⟨k, v⟩ := f
    obtain ⟨hlt, hfields⟩ := List.forall_mem_cons.mp h
    have hne : key ≠ k := fun heq => String.lt_irrefl k (heq ▸ hlt)
    have hnot : ¬key < k := fun hless => String.lt_irrefl k (String.lt_trans hlt hless)
    unfold insert
    rw [if_neg hne, if_neg hnot, ih hfields]
    rfl

/-- Fields in order are the object that is built from them. -/
theorem foldl_insert {fields acc : List (String × Json)} (h : InOrder (acc ++ fields)) :
    fields.foldl (fun acc f => insert f.1 f.2 acc) acc = acc ++ fields := by
  induction fields generalizing acc with
  | nil => exact (List.append_nil acc).symm
  | cons f fields ih =>
    have hbefore : ∀ g ∈ acc, g.1 < f.1 := fun g hg =>
      (List.pairwise_append.mp h).2.2 g hg f List.mem_cons_self
    rw [List.foldl_cons, insert_last hbefore, ih (by rwa [List.append_assoc, List.singleton_append]),
      List.append_assoc, List.singleton_append]

theorem objectOf_inOrder {fields : List (String × Json)} (h : InOrder fields) :
    objectOf fields = .ok (.obj fields) := by
  have hnodup : (fields.map Prod.fst).Nodup :=
    List.pairwise_map.mpr (h.imp fun {f g} hlt heq => by
      have hlt : f.1 < g.1 := hlt
      exact String.lt_irrefl g.1 (heq ▸ hlt))
  unfold objectOf
  have hfold : fields.foldl _ [] = [] ++ fields := foldl_insert h
  rw [if_pos hnodup, hfold, List.nil_append]

/-- What stands between a key and its value. -/
theorem skipSpace_colon (indent : Int) (l : List Char) :
    ∃ l', skipSpace (colon indent ++ l) = ':' :: l' ∧ skipSpace l' = skipSpace l := by
  unfold colon
  split_ifs
  · exact ⟨l, rfl, rfl⟩
  · exact ⟨' ' :: l, rfl, rfl⟩

/-- The key of a field and its value are read back. -/
theorem scanFields_succ {j : Json} (hj : WellFormed j ∧ Reads j) (key : String) (indent : Int)
    (depth fuel : Nat) {rest : List Char} (hrest : Stops rest)
    (hfuel : 2 * (text indent depth j).length ≤ fuel) :
    scanFields (fuel + 1) (quote key ++ (colon indent ++ (text indent depth j ++ rest))) =
      match skipSpace rest with
      | '}' :: rest => .ok ([(key, j)], rest)
      | ',' :: rest => do
        let (fields, rest) ← scanFields fuel (skipSpace rest)
        pure ((key, j) :: fields, rest)
      | _ => .error "Expecting ',' delimiter" := by
  obtain ⟨l', hcolon, hvalue⟩ := skipSpace_colon indent (text indent depth j ++ rest)
  rw [skipSpace_text hj.1] at hvalue
  unfold quote
  rw [List.cons_append, List.cons_append, List.append_assoc, List.singleton_append, scanFields,
    scanString_quote]
  show (match skipSpace (colon indent ++ (text indent depth j ++ rest)) with
    | ':' :: rest => do
      let (value, rest) ← scanValue fuel (skipSpace rest)
      match skipSpace rest with
      | '}' :: rest => pure ([(String.ofList key.toList, value)], rest)
      | ',' :: rest => do
        let (fields, rest) ← scanFields fuel (skipSpace rest)
        pure ((String.ofList key.toList, value) :: fields, rest)
      | _ => .error "Expecting ',' delimiter"
    | _ => .error "Expecting ':' delimiter") = _
  rw [hcolon, String.ofList_toList]
  show (scanValue fuel (skipSpace l')).bind _ = _
  rw [hvalue, hj.2 indent depth fuel rest hrest hfuel]
  rfl

/-- The fields of an object are read back. -/
theorem scanFields_text {fields : List (String × Json)}
    (hfields : ∀ f ∈ fields, WellFormed f.2 ∧ Reads f.2) {key : String} {j : Json}
    (hj : WellFormed j ∧ Reads j) (indent : Int) (depth depth' fuel : Nat) (rest : List Char)
    (hfuel : 2 * (text indent depth j).length + 2 * (textFields indent depth fields).length + 1 ≤
      fuel) :
    scanFields fuel (quote key ++ (colon indent ++ (text indent depth j ++
      (textFields indent depth fields ++ (newline indent depth' ++ '}' :: rest))))) =
        .ok ((key, j) :: fields, rest) := by
  obtain ⟨fuel, rfl⟩ : ∃ n, fuel = n + 1 := ⟨fuel - 1, by omega⟩
  induction fields generalizing key j fuel with
  | nil =>
    rw [textFields, List.nil_append,
      scanFields_succ hj key indent depth fuel (stops_newline indent depth' rfl rest) (by omega),
      skipSpace_newline rfl]
    rfl
  | cons f fields ih =>
    obtain ⟨k, value⟩ := f
    obtain ⟨hf, hfields⟩ := List.forall_mem_cons.mp hfields
    rw [textFields] at hfuel ⊢
    simp only [List.length_append, List.length_cons] at hfuel
    simp only [List.cons_append, List.append_assoc]
    have hcomma : Stops (',' :: (newline indent depth ++ (quote k ++ (colon indent ++
        (text indent depth value ++ (textFields indent depth fields ++
          (newline indent depth' ++ '}' :: rest))))))) := by
      rintro _ ⟨⟩
      rfl
    obtain ⟨fuel, rfl⟩ : ∃ n, fuel = n + 1 := ⟨fuel - 1, by omega⟩
    have hmore := @ih hfields k value hf fuel (by omega)
    rw [scanFields_succ hj key indent depth _ hcomma (by omega), skipSpace_of_head rfl]
    have hquote (l : List Char) : skipSpace (newline indent depth ++ (quote k ++ l)) = quote k ++ l :=
      (skipSpace_append isSpace_newline _).trans (skipSpace_of_head rfl _)
    show (scanFields (fuel + 1) (skipSpace (newline indent depth ++ (quote k ++ _)))).bind _ = _
    rw [hquote, hmore]
    rfl

theorem reads_obj {fields : List (String × Json)} (horder : InOrder fields)
    (hfields : ∀ f ∈ fields, WellFormed f.2 ∧ Reads f.2) : Reads (.obj fields) := by
  intro indent depth fuel rest hrest hfuel
  cases fields with
  | nil =>
    rw [text] at hfuel ⊢
    obtain ⟨fuel, rfl⟩ : ∃ n, fuel = n + 1 := ⟨fuel - 1, by have : 2 * 2 ≤ fuel := hfuel; omega⟩
    rfl
  | cons f fields =>
    obtain ⟨k, j⟩ := f
    obtain ⟨hj, hmore⟩ := List.forall_mem_cons.mp hfields
    rw [text] at hfuel ⊢
    simp only [List.length_append, List.length_cons, List.length_nil] at hfuel
    obtain ⟨fuel, rfl⟩ : ∃ n, fuel = n + 1 := ⟨fuel - 1, by omega⟩
    have hread := @scanFields_text fields hmore k j hj indent (depth + 1) depth fuel rest (by omega)
    simp only [List.cons_append, List.append_assoc, List.nil_append]
    have hquote (l : List Char) :
        skipSpace (newline indent (depth + 1) ++ (quote k ++ l)) = quote k ++ l :=
      (skipSpace_append isSpace_newline _).trans (skipSpace_of_head rfl _)
    rw [scanValue, hquote]
    split
    · rename_i h
      exact nomatch (List.cons.inj h).1
    · rw [hread]
      show (objectOf ((k, j) :: fields)).bind _ = _
      rw [objectOf_inOrder horder]
      rfl

/-- Every value is read back. -/
theorem reads {j : Json} (h : WellFormed j) : Reads j := by
  induction h with
  | null =>
    intro indent depth fuel rest _ hfuel
    rw [text] at hfuel ⊢
    obtain ⟨fuel, rfl⟩ : ∃ n, fuel = n + 1 := ⟨fuel - 1, by have : 2 * 4 ≤ fuel := hfuel; omega⟩
    rfl
  | bool b =>
    intro indent depth fuel rest _ hfuel
    rw [text] at hfuel ⊢
    cases b with
    | true =>
      obtain ⟨fuel, rfl⟩ : ∃ n, fuel = n + 1 := ⟨fuel - 1, by have : 2 * 4 ≤ fuel := hfuel; omega⟩
      rfl
    | false =>
      obtain ⟨fuel, rfl⟩ : ∃ n, fuel = n + 1 := ⟨fuel - 1, by have : 2 * 5 ≤ fuel := hfuel; omega⟩
      rfl
  | int i => exact reads_number (fun indent depth => by rw [text]) (scanNumber_int i)
  | str s => exact reads_str s
  | real h => exact reads_number (fun indent depth => by rw [text]) h
  | arr h ih => exact reads_arr fun j hj => ⟨h j hj, ih j hj⟩
  | obj horder h ih => exact reads_obj horder fun f hf => ⟨h f hf, ih f hf⟩

end Json
