import Mathlib.Data.List.Infix

/-!
# Lists of words behind one another

Words of a prefix-free code stand one behind another without separators, and can still be told
apart.  Text that starts with such words spells them.

* `PrefixFree`: no encoding stands in front of another one.
* `Spells`: all the words a text starts with.
* `exists_spells`, `PrefixFree.spells_unique`: every text spells one list of words.
* `PrefixFree.prefix_of_prefix`: two lists of words in front of the same text.
-/

variable {α β : Type*}

/-- Two texts that start with a word each can be equal only if the words are. -/
def PrefixFree (encode : α → List β) : Prop :=
  ∀ a b rest rest', encode a ++ rest = encode b ++ rest' → a = b

/-- All the words the text starts with. -/
structure Spells (encode : α → List β) (text : List β) (words : List α) : Prop where
  there : words.flatMap encode <+: text
  all : ∀ word, ¬ (words ++ [word]).flatMap encode <+: text

/-- Every text spells some words, if none of them is empty. -/
theorem exists_spells {encode : α → List β} (hne : ∀ a, encode a ≠ []) (text : List β) :
    ∃ words, Spells encode text words := by
  induction hn : text.length using Nat.strong_induction_on generalizing text with
  | _ n ih =>
    by_cases hstart : ∃ a, encode a <+: text
    · obtain ⟨a, rest, rfl⟩ := hstart
      have hpos := List.length_pos_iff.mpr (hne a)
      rw [List.length_append] at hn
      obtain ⟨words, hthere, hall⟩ := ih rest.length (by omega) rest rfl
      refine ⟨a :: words, ?_, fun word h => hall word ?_⟩
      · rw [List.flatMap_cons]
        exact (List.prefix_append_right_inj _).2 hthere
      · rw [List.cons_append, List.flatMap_cons] at h
        exact (List.prefix_append_right_inj _).1 h
    · refine ⟨[], List.nil_prefix, fun word h => hstart ⟨word, ?_⟩⟩
      rwa [List.nil_append, List.flatMap_singleton] at h

namespace PrefixFree

variable {encode : α → List β} (h : PrefixFree encode)

include h

/-- Of two lists of words in front of the same text, the shorter is the start of the longer. -/
theorem prefix_of_prefix {text : List β} :
    ∀ {as bs : List α}, as.flatMap encode <+: text → bs.flatMap encode <+: text →
      as.length ≤ bs.length → as <+: bs := by
  intro as
  induction as generalizing text with
  | nil => exact fun _ _ _ => List.nil_prefix
  | cons a as ih =>
    rintro (_ | ⟨b, bs⟩) ⟨rest, has⟩ ⟨rest', hbs⟩ hlength
    · exact absurd hlength (Nat.not_succ_le_zero _)
    · rw [List.flatMap_cons, List.append_assoc] at has hbs
      obtain rfl := h a b _ _ (has.trans hbs.symm)
      have htail := List.append_cancel_left (has.trans hbs.symm)
      rw [List.prefix_cons_inj]
      exact ih ⟨rest, rfl⟩ ⟨rest', htail.symm⟩ (Nat.le_of_succ_le_succ hlength)

/-- A list of words in front of a text is a start of all that it spells. -/
theorem prefix_of_spells {text : List β} {words some : List α} (hall : Spells encode text words)
    (hsome : some.flatMap encode <+: text) : some <+: words := by
  by_cases hle : some.length ≤ words.length
  · exact h.prefix_of_prefix hsome hall.there hle
  · -- otherwise the text spells one word more
    have hlt := Nat.lt_of_not_le hle
    obtain ⟨more, rfl⟩ := h.prefix_of_prefix hall.there hsome hlt.le
    cases more with
    | nil => exact absurd hlt (by simp)
    | cons word more =>
      refine absurd (List.IsPrefix.trans ?_ hsome) (hall.all word)
      simp only [List.flatMap_append, List.flatMap_cons, List.flatMap_nil, List.append_nil]
      exact ⟨more.flatMap encode, by rw [List.append_assoc]⟩

/-- What a text spells is one list. -/
theorem spells_unique {text : List β} {words words' : List α} (hw : Spells encode text words)
    (hw' : Spells encode text words') : words = words' :=
  (h.prefix_of_spells hw' hw.there).eq_of_length_le (h.prefix_of_spells hw hw'.there).length_le

/-- Words in front of a truncated list of words are a start of the list. -/
theorem prefix_of_truncated (hne : ∀ a, encode a ≠ []) {text : List β} {words some : List α}
    (htext : text <+: words.flatMap encode) (hsome : some.flatMap encode <+: text) :
    some <+: words := by
  have hthere : some.flatMap encode <+: words.flatMap encode := hsome.trans htext
  by_cases hle : some.length ≤ words.length
  · exact h.prefix_of_prefix hthere (List.prefix_refl _) hle
  · have hlt := Nat.lt_of_not_le hle
    obtain ⟨more, rfl⟩ := h.prefix_of_prefix (List.prefix_refl _) hthere hlt.le
    cases more with
    | nil => exact absurd hlt (by simp)
    | cons word more =>
      have hlength := hthere.length_le
      rw [List.flatMap_append, List.length_append, List.flatMap_cons, List.length_append] at hlength
      have hpos := List.length_pos_iff.mpr (hne word)
      omega

end PrefixFree
