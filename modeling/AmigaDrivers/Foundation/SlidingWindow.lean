import Mathlib.Data.List.Basic

/-!
# The longest admissible suffix of what has come

A window takes in one element after another and drops its oldest ones until it is admissible again.
Where whatever is left of an admissible window is admissible too, the window is the longest suffix
of all that has come that is admissible.

* `trim`: what is dropped.
* `longest_trim`: what is left is the longest suffix that is admissible.
* `Longest.push`: one more element.
-/

namespace SlidingWindow

variable {α : Type} {P : List α → Prop}

/-- A list without its first or its last element stays admissible. -/
structure Hereditary (P : List α → Prop) : Prop where
  nil : P []
  tail : ∀ {x l}, P (x :: l) → P l
  init : ∀ {x l}, P (l ++ [x]) → P l

/-- The longest suffix that is admissible. -/
structure Longest (P : List α → Prop) (l s : List α) : Prop where
  suffix : s <:+ l
  admissible : P s
  longest : ∀ t, t <:+ l → P t → t <:+ s

theorem longest_nil (h : Hereditary P) : Longest P [] [] :=
  ⟨List.suffix_refl _, h.nil, fun _ ht _ => ht⟩

/-- Drop elements from the front until the rest is admissible. -/
def trim (P : List α → Prop) [DecidablePred P] : List α → List α
  | [] => []
  | x :: l => if P (x :: l) then x :: l else trim P l

variable [DecidablePred P]

theorem trim_of_admissible {l : List α} (h : P l) : trim P l = l := by
  cases l with
  | nil => rfl
  | cons x l => exact if_pos h

/-- What is left is the longest suffix that is admissible. -/
theorem longest_trim (h : Hereditary P) (l : List α) : Longest P l (trim P l) := by
  induction l with
  | nil => exact longest_nil h
  | cons x l ih =>
    by_cases hl : P (x :: l)
    · rw [trim_of_admissible hl]
      exact ⟨List.suffix_refl _, hl, fun _ ht _ => ht⟩
    · rw [trim, if_neg hl]
      refine ⟨ih.suffix.trans (List.suffix_cons _ _), ih.admissible, fun t ht hP => ?_⟩
      rcases List.suffix_cons_iff.mp ht with rfl | ht
      · exact absurd hP hl
      · exact ih.longest t ht hP

/-- **One more element**: the window need not be looked for in all that has come. -/
theorem Longest.push (h : Hereditary P) {l s : List α} (hs : Longest P l s) (x : α) :
    Longest P (l ++ [x]) (trim P (s ++ [x])) := by
  have htrim := longest_trim h (s ++ [x])
  have hsuffix : s ++ [x] <:+ l ++ [x] := by
    obtain ⟨before, hbefore⟩ := hs.suffix
    exact ⟨before, by rw [← hbefore, List.append_assoc]⟩
  refine ⟨htrim.suffix.trans hsuffix, htrim.admissible, fun t ht hP => htrim.longest t ?_ hP⟩
  rcases List.eq_nil_or_concat t with rfl | ⟨u, y, rfl⟩
  · exact List.nil_suffix
  · rw [List.concat_eq_append] at ht hP ⊢
    obtain ⟨before, hbefore⟩ := ht
    rw [← List.append_assoc] at hbefore
    obtain ⟨hl, hy⟩ := List.append_inj' hbefore rfl
    obtain ⟨rest, hrest⟩ := hs.longest u ⟨before, hl⟩ (h.init hP)
    exact ⟨rest, by rw [← List.append_assoc, hrest, hy]⟩

end SlidingWindow
