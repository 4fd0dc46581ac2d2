import Mathlib.Data.List.Forall2
import Mathlib.Data.List.SplitBy

/-!
# Runs that grow at the end

`List.splitBy` cuts a list into runs of neighbours that belong together.  One more element belongs to
the last run or starts another one.

* `splitBy_concat_of_joined`, `splitBy_concat_of_not_joined`: the two cases.
* `forall₂_concat_left`: what corresponds to the runs has a last element as well.
-/

namespace Runs

variable {α : Type} {r : α → α → Bool} {l : List α} {x : α}

/-- What belongs to the element before it joins the last run. -/
theorem splitBy_concat_of_joined {y : α} (hlast : l.getLast? = some y) (hxy : r y x = true) :
    ∃ runs run, l.splitBy r = runs ++ [run] ∧ (l ++ [x]).splitBy r = runs ++ [run ++ [x]] := by
  have hne : l ≠ [] := by
    rintro rfl
    exact nomatch hlast
  rcases List.eq_nil_or_concat (l.splitBy r) with hnil | ⟨runs, run, hruns⟩
  · exact absurd (List.splitBy_eq_nil.mp hnil) hne
  rw [List.concat_eq_append] at hruns
  refine ⟨runs, run, hruns, List.splitBy_eq_iff.mpr ?_⟩
  obtain ⟨hflatten, hnot, hchains, hgaps⟩ := List.splitBy_eq_iff.mp hruns
  have hrun : run ≠ [] := by
    rintro rfl
    exact hnot (List.mem_append_right _ List.mem_cons_self)
  have hy : run.getLast? = some y := by
    rw [← hlast, hflatten, List.flatten_append, List.flatten_singleton,
      List.getLast?_append_of_ne_nil _ hrun]
  refine ⟨?_, ?_, fun m hm => ?_, ?_⟩
  · rw [hflatten, List.flatten_append, List.flatten_append, List.append_assoc]
    simp
  · intro hmem
    rcases List.mem_append.mp hmem with hmem | hmem
    · exact hnot (List.mem_append_left _ hmem)
    · simp at hmem
  · rcases List.mem_append.mp hm with hm | hm
    · exact hchains m (List.mem_append_left _ hm)
    · obtain rfl := List.mem_singleton.mp hm
      refine List.isChain_append.mpr ⟨hchains run (List.mem_append_right _ List.mem_cons_self),
        List.isChain_singleton _, fun a ha b hb => ?_⟩
      rw [hy] at ha
      obtain rfl := Option.some.inj ha
      obtain rfl := Option.some.inj hb
      exact hxy
  · obtain ⟨hbefore, -, hgap⟩ := List.isChain_append.mp hgaps
    refine List.isChain_append.mpr ⟨hbefore, List.isChain_singleton _, fun a ha b hb => ?_⟩
    obtain rfl := Option.some.inj hb
    obtain ⟨hane, hbne, hr⟩ := hgap a ha run rfl
    refine ⟨hane, List.append_ne_nil_of_left_ne_nil hbne _, ?_⟩
    rwa [List.head_append_of_ne_nil]

/-- What does not starts a run. -/
theorem splitBy_concat_of_not_joined (h : ∀ y ∈ l.getLast?, r y x = false) :
    (l ++ [x]).splitBy r = l.splitBy r ++ [[x]] := List.splitBy_append_cons [] h

/-- What corresponds to a list with a last element has a last element. -/
theorem forall₂_concat_left {β : Type} {R : α → β → Prop} {m : List β}
    (h : List.Forall₂ R (l ++ [x]) m) :
    ∃ before y, m = before ++ [y] ∧ List.Forall₂ R l before ∧ R x y := by
  induction l generalizing m with
  | nil =>
    obtain ⟨y, rest, hy, hrest, rfl⟩ := List.forall₂_cons_left_iff.mp h
    obtain rfl := List.forall₂_nil_left_iff.mp hrest
    exact ⟨[], y, rfl, .nil, hy⟩
  | cons a l ih =>
    obtain ⟨b, rest, hb, hrest, rfl⟩ := List.forall₂_cons_left_iff.mp h
    obtain ⟨before, y, rfl, hbefore, hy⟩ := ih hrest
    exact ⟨b :: before, y, rfl, .cons hb hbefore, hy⟩

end Runs
