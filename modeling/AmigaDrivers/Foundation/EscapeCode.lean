import Mathlib.Data.List.Infix

/-!
# Letters that are spelled out

Some letters of a text are replaced by words, and the words are made of letters that are written as
they are.  A text that already contains a word cannot be told from the one with the letter.

* `Code`: the words.  None begins inside another one.
* `Code.escape_eq_word_append`: where a written text begins with a word, the text begins with the
  letter or with the word.
* `Code.eq_or_longer`: what else is written like a text without words.
-/

namespace EscapeCode

variable {α : Type*}

/-- The letters that are spelled out, and their words. -/
structure Code (α : Type*) where
  word : α → Option (List α)
  nonempty : ∀ {c w}, word c = some w → w ≠ []
  plain : ∀ {c w}, word c = some w → ∀ d ∈ w, word d = none
  start : ∀ {c d v w}, word c = some v → word d = some w → v <+: w ∨ w <+: v → c = d
  apart : ∀ {c d v w}, word c = some v → word d = some w → ∀ k, 0 < k → k < v.length →
    ¬(v.drop k <+: w ∨ w <+: v.drop k)

namespace Code

variable (code : Code α)

/-- What is written for a letter. -/
def spell (c : α) : List α := (code.word c).getD [c]

/-- What is written for a text. -/
def escape (text : List α) : List α := text.flatMap code.spell

/-- No word stands in the text. -/
def Free (text : List α) : Prop := ∀ c w, code.word c = some w → ¬w <:+: text

variable {code} {c : α} {w p q t : List α}

theorem spell_of_word (h : code.word c = some w) : code.spell c = w := by
  unfold spell
  rw [h]
  rfl

theorem spell_of_plain (h : code.word c = none) : code.spell c = [c] := by
  unfold spell
  rw [h]
  rfl

@[simp] theorem escape_nil : code.escape [] = [] := rfl

@[simp] theorem escape_cons (c : α) (p : List α) :
    code.escape (c :: p) = code.spell c ++ code.escape p := List.flatMap_cons

theorem escape_cons_word (h : code.word c = some w) (p : List α) :
    code.escape (c :: p) = w ++ code.escape p := by
  rw [escape_cons, spell_of_word h]

theorem escape_cons_plain (h : code.word c = none) (p : List α) :
    code.escape (c :: p) = c :: code.escape p := by
  rw [escape_cons, spell_of_plain h, List.singleton_append]

@[simp] theorem escape_append (p q : List α) :
    code.escape (p ++ q) = code.escape p ++ code.escape q := List.flatMap_append

theorem escape_of_plain (h : ∀ d ∈ p, code.word d = none) : code.escape p = p := by
  induction p with
  | nil => rfl
  | cons d p ih =>
    obtain ⟨hd, hp⟩ := List.forall_mem_cons.mp h
    rw [escape_cons_plain hd, ih hp]

/-- A letter and its word are written the same way. -/
theorem escape_word (h : code.word c = some w) (p q : List α) :
    code.escape (p ++ (w ++ q)) = code.escape (p ++ c :: q) := by
  rw [escape_append, escape_append, escape_append, escape_cons_word h,
    escape_of_plain (code.plain h)]

theorem Free.tail (h : code.Free (c :: p)) : code.Free p :=
  fun d w hw hin => h d w hw (hin.trans (List.suffix_cons c p).isInfix)

/-- The rest of a word is written by its own letters. -/
theorem escape_eq_drop_append (h : code.word c = some w) {k : Nat} (hk : 0 < k)
    (heq : code.escape p = w.drop k ++ t) :
    ∃ p', p = w.drop k ++ p' ∧ code.escape p' = t := by
  induction hn : w.length - k generalizing k p with
  | zero =>
    rw [List.drop_eq_nil_of_le (by omega)] at heq ⊢
    exact ⟨p, rfl, heq⟩
  | succ n ih =>
    have hlt : k < w.length := by omega
    cases p with
    | nil =>
      have hlength := congrArg List.length heq
      rw [List.length_append, List.length_drop] at hlength
      exact absurd hlength (by simp; omega)
    | cons d p =>
      cases hd : code.word d with
      | some v =>
        rw [escape_cons_word hd] at heq
        have hrest : w.drop k <+: v ++ code.escape p := heq ▸ List.prefix_append (w.drop k) t
        have hcompare := List.prefix_or_prefix_of_prefix hrest (List.prefix_append v _)
        exact absurd hcompare (code.apart h hd k hk hlt)
      | none =>
        rw [escape_cons_plain hd, List.drop_eq_getElem_cons hlt, List.cons_append] at heq
        obtain ⟨rfl, htail⟩ := List.cons.inj heq
        obtain ⟨p', rfl, hp'⟩ := ih (Nat.succ_pos k) htail (by omega)
        exact ⟨p', by rw [← List.cons_append, ← List.drop_eq_getElem_cons hlt], hp'⟩

/-- **Where a written text begins with a word, the text begins with the letter or with the word.** -/
theorem escape_eq_word_append (h : code.word c = some w) (heq : code.escape p = w ++ t) :
    ∃ p', (p = c :: p' ∨ p = w ++ p') ∧ code.escape p' = t := by
  obtain ⟨d, v, rfl⟩ := List.exists_cons_of_ne_nil (code.nonempty h)
  cases p with
  | nil => exact nomatch heq
  | cons e p =>
    cases he : code.word e with
    | some u =>
      rw [escape_cons_word he] at heq
      have hword : d :: v <+: u ++ code.escape p := heq ▸ List.prefix_append (d :: v) t
      have hcompare := List.prefix_or_prefix_of_prefix hword (List.prefix_append u _)
      obtain rfl := code.start h he hcompare
      obtain rfl := Option.some.inj (h.symm.trans he)
      exact ⟨p, .inl rfl, List.append_cancel_left heq⟩
    | none =>
      rw [escape_cons_plain he, List.cons_append] at heq
      obtain ⟨rfl, htail⟩ := List.cons.inj heq
      obtain ⟨p', rfl, hp'⟩ := escape_eq_drop_append h Nat.one_pos htail
      exact ⟨p', .inr rfl, hp'⟩

/-- **What else is written like a text without words has words instead of some letters**, and is
longer. -/
theorem eq_or_longer (hfree : code.Free p) (heq : code.escape q = code.escape p) :
    q = p ∨ ∃ c ∈ p, ∃ w, code.word c = some w ∧ p.length + w.length ≤ q.length + 1 := by
  induction p generalizing q with
  | nil =>
    cases q with
    | nil => exact .inl rfl
    | cons d q =>
      cases hd : code.word d with
      | some v =>
        rw [escape_cons_word hd] at heq
        exact absurd (List.append_eq_nil_iff.mp heq).1 (code.nonempty hd)
      | none =>
        rw [escape_cons_plain hd] at heq
        exact nomatch heq
  | cons c p ih =>
    cases hc : code.word c with
    | some w =>
      rw [escape_cons_word hc] at heq
      obtain ⟨q', hq, hq'⟩ := escape_eq_word_append hc heq
      have hpos := List.length_pos_iff.mpr (code.nonempty hc)
      obtain rfl | ⟨d, hd, v, hv, hlonger⟩ := ih hfree.tail hq'
      · obtain rfl | rfl := hq
        · exact .inl rfl
        · refine .inr ⟨c, List.mem_cons_self, w, hc, ?_⟩
          rw [List.length_append, List.length_cons]
          omega
      · have hvpos := List.length_pos_iff.mpr (code.nonempty hv)
        obtain rfl | rfl := hq
        · refine .inr ⟨d, List.mem_cons_of_mem c hd, v, hv, ?_⟩
          rw [List.length_cons, List.length_cons]
          omega
        · refine .inr ⟨c, List.mem_cons_self, w, hc, ?_⟩
          rw [List.length_append, List.length_cons]
          omega
    | none =>
      cases q with
      | nil =>
        rw [escape_cons_plain hc] at heq
        exact nomatch heq
      | cons d q =>
        cases hd : code.word d with
        | some v =>
          rw [escape_cons_word hd] at heq
          obtain ⟨p', hp | hp, -⟩ := escape_eq_word_append hd heq.symm
          · obtain ⟨rfl, -⟩ := List.cons.inj hp
            exact nomatch hc.symm.trans hd
          · exact absurd (hp ▸ (List.prefix_append v p').isInfix) (hfree d v hd)
        | none =>
          rw [escape_cons_plain hd, escape_cons_plain hc] at heq
          obtain ⟨rfl, htail⟩ := List.cons.inj heq
          obtain rfl | ⟨e, he, v, hv, hlonger⟩ := ih hfree.tail htail
          · exact .inl rfl
          · refine .inr ⟨e, List.mem_cons_of_mem d he, v, hv, ?_⟩
            rw [List.length_cons, List.length_cons]
            omega

end Code

end EscapeCode
