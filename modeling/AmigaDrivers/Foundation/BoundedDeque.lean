import Mathlib.Data.List.Basic

/-!
# A deque with a largest length

What is appended at one end pushes out what is at the other.

* `keepLast`: the last elements of a list.
* `foldl_pushBounded`: appending one by one keeps the last ones of all.
-/

variable {α : Type}

/-- The last `n` elements, or all if there are fewer. -/
def keepLast (n : Nat) (l : List α) : List α := l.drop (l.length - n)

/-- `deque(maxlen=n).append`. -/
def pushBounded (n : Nat) (l : List α) (x : α) : List α := keepLast n (l ++ [x])

theorem keepLast_suffix (n : Nat) (l : List α) : keepLast n l <:+ l := List.drop_suffix _ _

theorem keepLast_of_length_le {n : Nat} {l : List α} (h : l.length ≤ n) : keepLast n l = l := by
  unfold keepLast
  rw [Nat.sub_eq_zero_of_le h, List.drop_zero]

theorem map_keepLast {β : Type} (f : α → β) (n : Nat) (l : List α) :
    (keepLast n l).map f = keepLast n (l.map f) := by
  unfold keepLast
  rw [List.map_drop, List.length_map]

/-- The last elements of the last elements and more are the last elements of all. -/
theorem keepLast_append (n : Nat) (l more : List α) :
    keepLast n (keepLast n l ++ more) = keepLast n (l ++ more) := by
  unfold keepLast
  rw [List.length_append, List.length_drop, List.length_append]
  obtain hle | hlt := Nat.le_total l.length n
  · rw [Nat.sub_eq_zero_of_le hle, List.drop_zero, Nat.sub_zero]
  · rw [← List.drop_append_of_le_length (by omega), List.drop_drop]
    congr 1
    omega

theorem foldl_pushBounded (n : Nat) (l more : List α) :
    more.foldl (pushBounded n) (keepLast n l) = keepLast n (l ++ more) := by
  induction more generalizing l with
  | nil => rw [List.foldl_nil, List.append_nil]
  | cons x more ih =>
    rw [List.foldl_cons, pushBounded, keepLast_append, ih, List.append_assoc, List.singleton_append]
