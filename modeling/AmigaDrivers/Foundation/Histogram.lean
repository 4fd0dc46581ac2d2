import Mathlib.Algebra.BigOperators.Group.Finset.Piecewise
import Mathlib.Algebra.Order.BigOperators.Group.Finset
import Mathlib.Data.List.GetD
import Mathlib.Data.List.Sort
import Mathlib.Data.Rat.Floor

/-!
# Order statistics from a histogram

How often each value occurs in a list of natural numbers determines its sum, its length and, with
the running totals of the counts, the element at every rank of the sorted list.

* `histogram`: the counts of the values below a bound.
* `countP_le_iff_lt_getElem`: a rank of a sorted list, by counting.
* `rank_histogram`: the rank search in the running totals finds the element at the rank.
* `percentileOf_eq`: so it finds interpolated percentiles.
* `percentile_whole`, `percentile_between`: the percentiles at a rank and halfway to the next.
-/

namespace Histogram

/-- The counts of the values below `n`. -/
def histogram (n : Nat) (l : List Nat) : List Nat := (List.range n).map fun v => l.count v

/-- The running totals from a start. -/
def cumsum : Nat → List Nat → List Nat
  | _, [] => []
  | acc, x :: xs => (acc + x) :: cumsum (acc + x) xs

/-- The first index whose entry is larger. -/
def searchsortedRight (totals : List Nat) (rank : Nat) : Nat := totals.findIdx fun c => rank < c

/-- The sorted list. -/
def sorted (l : List Nat) : List Nat := l.mergeSort fun a b => decide (a ≤ b)

theorem perm_sorted (l : List Nat) : (sorted l).Perm l := List.mergeSort_perm l _

theorem length_sorted (l : List Nat) : (sorted l).length = l.length := (perm_sorted l).length_eq

theorem pairwise_sorted (l : List Nat) : (sorted l).Pairwise (· ≤ ·) := by
  have htrans (a b c : Nat) (hab : decide (a ≤ b) = true) (hbc : decide (b ≤ c) = true) :
      decide (a ≤ c) = true :=
    decide_eq_true (Nat.le_trans (of_decide_eq_true hab) (of_decide_eq_true hbc))
  have htotal (a b : Nat) : (decide (a ≤ b) || decide (b ≤ a)) = true := by
    simpa using Nat.le_total a b
  exact (List.pairwise_mergeSort htrans htotal l).imp of_decide_eq_true

/-! ## Ranks by counting -/

/-- At most `r` elements are at most `v` exactly if the element at rank `r` is larger. -/
theorem countP_le_iff_lt_getElem {s : List Nat} (hs : s.Pairwise (· ≤ ·)) {r : Nat}
    (hr : r < s.length) (v : Nat) : s.countP (fun x => x ≤ v) ≤ r ↔ v < s[r] := by
  have hsplit : s.countP (fun x => x ≤ v) =
      (s.take r).countP (fun x => x ≤ v) + (s.drop r).countP (fun x => x ≤ v) := by
    rw [← List.countP_append, List.take_append_drop]
  have htake : (s.take r).length = r := List.length_take_of_le hr.le
  constructor
  · intro hfew
    by_contra hle
    -- then the elements up to the rank are at most `v`
    have hall : (s.take (r + 1)).countP (fun x => x ≤ v) = r + 1 := by
      rw [List.countP_eq_length.mpr, List.length_take_of_le hr]
      intro x hx
      obtain ⟨i, hi, rfl⟩ := List.mem_iff_getElem.mp hx
      rw [List.getElem_take]
      rw [List.length_take_of_le hr] at hi
      have hxr : s[i] ≤ s[r] := hs.rel_get_of_le (Nat.le_of_lt_succ hi)
      exact decide_eq_true (hxr.trans (Nat.not_lt.mp hle))
    have hmore : (s.take (r + 1)).countP (fun x => x ≤ v) ≤ s.countP (fun x => x ≤ v) :=
      (List.take_sublist _ _).countP_le
    omega
  · intro hlt
    have hnone : (s.drop r).countP (fun x => x ≤ v) = 0 := by
      rw [List.countP_eq_zero]
      intro x hx
      obtain ⟨i, hi, rfl⟩ := List.mem_iff_getElem.mp hx
      rw [List.getElem_drop]
      rw [List.length_drop] at hi
      have hrx : s[r] ≤ s[r + i] := hs.rel_get_of_le (Nat.le_add_right r i)
      simpa using hlt.trans_le hrx
    have hle : (s.take r).countP (fun x => x ≤ v) ≤ (s.take r).length := List.countP_le_length
    omega

/-! ## The counts -/

section Counts

variable {l : List Nat} {n : Nat}

theorem length_histogram (n : Nat) (l : List Nat) : (histogram n l).length = n := by
  unfold histogram
  rw [List.length_map, List.length_range]

theorem histogram_succ (n : Nat) (l : List Nat) :
    histogram (n + 1) l = histogram n l ++ [l.count n] := by
  unfold histogram
  rw [List.range_succ, List.map_append, List.map_singleton]

/-- One value more. -/
theorem countP_lt_succ (l : List Nat) (v : Nat) :
    l.countP (fun x => x < v + 1) = l.countP (fun x => x < v) + l.count v := by
  induction l with
  | nil => rfl
  | cons x l ih =>
    simp only [List.countP_cons, List.count_cons, ih, beq_iff_eq, decide_eq_true_eq]
    split_ifs <;> omega

/-- The counts together count the values below the bound. -/
theorem sum_histogram (l : List Nat) (n : Nat) :
    (histogram n l).sum = l.countP fun x => x < n := by
  induction n with
  | zero => exact (List.countP_eq_zero.mpr (by simp)).symm
  | succ n ih => rw [histogram_succ, List.sum_append, ih, List.sum_singleton, countP_lt_succ]

/-- The counts of two lists one behind another. -/
theorem zipWith_histogram (n : Nat) (l l' : List Nat) :
    List.zipWith (· + ·) (histogram n l) (histogram n l') = histogram n (l ++ l') := by
  unfold histogram
  rw [List.zipWith_map, List.zipWith_self]
  exact List.map_congr_left fun v _ => (List.count_append).symm

/-- Values that do not occur have the count 0. -/
theorem histogram_pad (hl : ∀ x ∈ l, x < n) (k : Nat) :
    histogram (n + k) l = histogram n l ++ List.replicate k 0 := by
  induction k with
  | zero => exact (List.append_nil _).symm
  | succ k ih =>
    have hnone : l.count (n + k) = 0 := by
      rw [List.count_eq_zero]
      intro hmem
      exact absurd (hl _ hmem) (Nat.not_lt.mpr (Nat.le_add_right n k))
    rw [← Nat.add_assoc, histogram_succ, ih, hnone, List.append_assoc, ← List.replicate_succ']

/-- The counts weighted with their values make the sum. -/
theorem sum_zipWith_histogram (hl : ∀ x ∈ l, x < n) :
    (List.zipWith (· * ·) (histogram n l) (List.range n)).sum = l.sum := by
  have hmap (l : List Nat) : List.zipWith (· * ·) (histogram n l) (List.range n) =
      (List.range n).map fun v => l.count v * v := by
    unfold histogram
    rw [List.zipWith_map_left, List.zipWith_self]
  have hsum (f : Nat → Nat) : ((List.range n).map f).sum = ∑ v ∈ Finset.range n, f v := rfl
  rw [hmap, hsum]
  induction l with
  | nil => simp
  | cons x l ih =>
    have hx := hl x List.mem_cons_self
    have hone : ∑ v ∈ Finset.range n, (if x = v then v else 0) = x := by
      rw [Finset.sum_ite_eq, if_pos (Finset.mem_range.mpr hx)]
    rw [List.sum_cons, ← ih fun y hy => hl y (List.mem_cons_of_mem x hy)]
    conv_rhs => rw [← hone, ← Finset.sum_add_distrib]
    refine Finset.sum_congr rfl fun v _ => ?_
    rw [List.count_cons, Nat.add_mul, Nat.add_comm]
    congr 1
    by_cases hv : x = v
    · simp [hv]
    · simp [hv]

/-- The counts from a value on count the values from it on. -/
theorem sum_drop_histogram (hl : ∀ x ∈ l, x < n) {v : Nat} (hv : v ≤ n) :
    ((histogram n l).drop v).sum = l.countP fun x => v ≤ x := by
  have htake : (histogram n l).take v = histogram v l := by
    unfold histogram
    rw [← List.map_take, List.take_range, Nat.min_eq_left hv]
  have hsum : ((histogram n l).take v).sum + ((histogram n l).drop v).sum = (histogram n l).sum := by
    rw [← List.sum_append, List.take_append_drop]
  have hall : l.countP (fun x => x < n) = l.length := by
    rw [List.countP_eq_length]
    exact fun x hx => decide_eq_true (hl x hx)
  have hsplit : l.length = l.countP (fun x => x < v) + l.countP (fun x => v ≤ x) := by
    rw [l.length_eq_countP_add_countP fun x => decide (x < v)]
    congr 1
    exact List.countP_congr fun x _ => by simp
  rw [htake, sum_histogram, sum_histogram, hall] at hsum
  omega

/-! ## The running totals -/

theorem cumsum_append (xs : List Nat) (y : Nat) : ∀ acc,
    cumsum acc (xs ++ [y]) = cumsum acc xs ++ [acc + xs.sum + y] := by
  induction xs with
  | nil => exact fun acc => rfl
  | cons x xs ih =>
    intro acc
    rw [List.cons_append, cumsum, cumsum, ih, List.cons_append, List.sum_cons, Nat.add_assoc acc]

/-- The running totals count the values up to each value. -/
theorem cumsum_histogram (l : List Nat) (n : Nat) :
    cumsum 0 (histogram n l) = (List.range n).map fun v => l.countP fun x => x ≤ v := by
  induction n with
  | zero => rfl
  | succ n ih =>
    have hle : l.countP (fun x => x ≤ n) = l.countP (fun x => x < n + 1) :=
      List.countP_congr fun x _ => by
        rw [decide_eq_true_iff, decide_eq_true_iff, Nat.lt_succ_iff]
    rw [histogram_succ, cumsum_append, ih, sum_histogram, List.range_succ, List.map_append,
      List.map_singleton, hle, countP_lt_succ, Nat.zero_add]

/-- **The rank search finds the element at the rank.** -/
theorem rank_histogram (hl : ∀ x ∈ l, x < n) {r : Nat} (hr : r < l.length) :
    searchsortedRight (cumsum 0 (histogram n l)) r = (sorted l).getD r 0 := by
  have hr' : r < (sorted l).length := (length_sorted l).symm ▸ hr
  rw [List.getD_eq_getElem (sorted l) 0 hr']
  have hmem : (sorted l)[r] ∈ l := (perm_sorted l).mem_iff.mp (List.getElem_mem hr')
  have hcount (v : Nat) : l.countP (fun x => x ≤ v) = (sorted l).countP fun x => x ≤ v :=
    ((perm_sorted l).countP_eq _).symm
  have htotal (v : Nat) : r < l.countP (fun x => x ≤ v) ↔ (sorted l)[r] ≤ v := by
    rw [hcount, ← not_iff_not, Nat.not_lt, Nat.not_le]
    exact countP_le_iff_lt_getElem (pairwise_sorted l) hr' v
  rw [cumsum_histogram, searchsortedRight, List.findIdx_eq (by simpa using hl _ hmem)]
  simp only [List.getElem_map, List.getElem_range, decide_eq_true_eq, htotal]
  exact ⟨Nat.le_refl _, fun v hv => by simpa [htotal] using hv⟩

end Counts

/-! ## Percentiles -/

/-- The interpolated percentile of a list at `q`, between its neighbours in the sorted list. -/
def percentile (l : List Nat) (q : ℚ) : ℚ :=
  let rank := ((l.length : ℚ) - 1) * q
  let below := rank.floor.toNat
  let above := min (below + 1) (l.length - 1)
  let a : ℚ := (sorted l).getD below 0
  let b : ℚ := (sorted l).getD above 0
  a + (b - a) * (rank - below)

/-- The same from a rank search. -/
def percentileOf (search : Nat → Nat) (count : Nat) (q : ℚ) : ℚ :=
  let rank := ((count : ℚ) - 1) * q
  let low := rank.floor.toNat
  let high := rank.ceil.toNat
  let a : ℚ := search low
  let b : ℚ := search high
  a + (b - a) * (rank - low)

/-- A rank search finds the percentiles. -/
theorem percentileOf_eq {l : List Nat} (hl : l ≠ []) {search : Nat → Nat}
    (hsearch : ∀ r < l.length, search r = (sorted l).getD r 0) {q : ℚ} (hq : 0 ≤ q) (hq' : q ≤ 1) :
    percentileOf search l.length q = percentile l q := by
  obtain ⟨last, hlast⟩ := Nat.exists_eq_succ_of_ne_zero (List.length_pos_iff.mpr hl).ne'
  have hcount : (l.length : ℚ) - 1 = last := by
    rw [hlast]
    push_cast
    ring
  unfold percentileOf percentile
  rw [hcount]
  have hrank0 : 0 ≤ (last : ℚ) * q := mul_nonneg (Nat.cast_nonneg last) hq
  have hrank1 : (last : ℚ) * q ≤ last := mul_le_of_le_one_right (Nat.cast_nonneg last) hq'
  generalize (last : ℚ) * q = rank at hrank0 hrank1 ⊢
  -- the rank lies between a natural number and the next
  obtain ⟨below, hbelow⟩ := Int.eq_ofNat_of_zero_le (Rat.le_floor_iff.mpr hrank0 : 0 ≤ rank.floor)
  have hle : (below : ℚ) ≤ rank := by
    have hfloor := Rat.floor_le rank
    rwa [hbelow] at hfloor
  have hlt : rank < below + 1 := by
    have hfloor := Rat.lt_floor_add_one rank
    rw [hbelow] at hfloor
    exact_mod_cast hfloor
  have hin : below ≤ last := by
    have hcast : (below : ℚ) ≤ last := hle.trans hrank1
    exact_mod_cast hcast
  dsimp only
  rw [hbelow, Int.toNat_natCast, hsearch below (by omega)]
  obtain hwhole | hbetween := hle.eq_or_lt
  · rw [← hwhole, sub_self, mul_zero, mul_zero]
  · have hceil : rank.ceil = (below + 1 : Nat) := by
      refine le_antisymm (Rat.ceil_le_iff.mpr ?_) ?_
      · exact_mod_cast hlt.le
      · have hceil : (below : Int) < rank.ceil := Rat.lt_ceil_iff.mpr (by exact_mod_cast hbetween)
        push_cast
        exact Int.add_one_le_iff.mpr hceil
    have hnext : below + 1 ≤ last := by
      have hcast : (below : ℚ) < last := hbetween.trans_le hrank1
      exact_mod_cast hcast
    have hmin : min (below + 1) (l.length - 1) = below + 1 := by omega
    rw [hceil, Int.toNat_natCast, hsearch (below + 1) (by omega), hmin]

/-- The rank that a rational number reaches. -/
theorem floor_eq_of_between {rank : ℚ} {k : Nat} (hle : (k : ℚ) ≤ rank) (hlt : rank < k + 1) :
    rank.floor = k := by
  refine le_antisymm (Int.lt_add_one_iff.mp (Rat.floor_lt_iff.mpr ?_)) (Rat.le_floor_iff.mpr ?_)
  · exact_mod_cast hlt
  · exact_mod_cast hle

/-- A percentile at a whole rank. -/
theorem percentile_whole {l : List Nat} {q : ℚ} {k : Nat} (hrank : ((l.length : ℚ) - 1) * q = k) :
    percentile l q = (sorted l).getD k 0 := by
  unfold percentile
  dsimp only
  have hfloor : (k : ℚ).floor = k := floor_eq_of_between le_rfl (lt_add_one _)
  rw [hrank, hfloor, Int.toNat_natCast, sub_self, mul_zero, add_zero]

/-- A percentile between two ranks. -/
theorem percentile_between {l : List Nat} {q : ℚ} {k : Nat}
    (hrank : ((l.length : ℚ) - 1) * q = k + 1 / 2) (hk : k + 1 < l.length) :
    percentile l q = (((sorted l).getD k 0 : ℚ) + (sorted l).getD (k + 1) 0) / 2 := by
  unfold percentile
  dsimp only
  have hfloor : ((k : ℚ) + 1 / 2).floor = k :=
    floor_eq_of_between (by linarith) (by linarith)
  have hmin : min (k + 1) (l.length - 1) = k + 1 := by omega
  rw [hrank, hfloor, Int.toNat_natCast, hmin]
  ring

/-- The first element of the sorted list is the smallest. -/
theorem getD_sorted_zero {l : List Nat} (hl : l ≠ []) :
    (sorted l).getD 0 0 = l.min?.getD 0 := by
  have hpos : 0 < (sorted l).length := (length_sorted l).symm ▸ List.length_pos_iff.mpr hl
  have hmin : l.min? = some (sorted l)[0] := by
    rw [List.min?_eq_some_iff]
    refine ⟨(perm_sorted l).mem_iff.mp (List.getElem_mem hpos), fun x hx => ?_⟩
    obtain ⟨i, hi, rfl⟩ := List.mem_iff_getElem.mp ((perm_sorted l).mem_iff.mpr hx)
    exact (pairwise_sorted l).rel_get_of_le (Nat.zero_le i)
  rw [List.getD_eq_getElem _ 0 hpos, hmin, Option.getD_some]

/-- The last element of the sorted list is the largest. -/
theorem getD_sorted_last {l : List Nat} (hl : l ≠ []) :
    (sorted l).getD (l.length - 1) 0 = l.max?.getD 0 := by
  have hpos : 0 < l.length := List.length_pos_iff.mpr hl
  have hlen := length_sorted l
  have hlast : l.length - 1 < (sorted l).length := by omega
  have hmax : l.max? = some (sorted l)[l.length - 1] := by
    rw [List.max?_eq_some_iff]
    refine ⟨(perm_sorted l).mem_iff.mp (List.getElem_mem hlast), fun x hx => ?_⟩
    obtain ⟨i, hi, rfl⟩ := List.mem_iff_getElem.mp ((perm_sorted l).mem_iff.mpr hx)
    have hle : i ≤ l.length - 1 := by omega
    exact (pairwise_sorted l).rel_get_of_le hle
  rw [List.getD_eq_getElem _ 0 hlast, hmax, Option.getD_some]

end Histogram
