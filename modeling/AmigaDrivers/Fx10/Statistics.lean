import AmigaDrivers.Foundation.Histogram
import Mathlib.Tactic.Linarith

/-!
# The spectral statistics of a reference capture

The statistics of a capture are computed in two ways. `spectrum` reads a whole cube. A
`BandHistograms` takes the cube in batches, keeps how often each value occurs in each band and
recovers the order statistics from the counts. Means and percentiles are exact here.

* `spectrum`: the statistics of a cube.
* `BandHistograms.init`, `BandHistograms.add`, `BandHistograms.finish`: the streaming ones.
* `Counted`: what the histograms say about the frames added.
* `streaming_statistics`: both agree, however the frames are split.
-/

namespace AmigaDrivers.Fx10

open Histogram

/-! ## The statistics of a cube -/

/-- Frames in their order, with a value for each band and spatial sample. -/
abbrev Cube (bands samples : Nat) := List (Fin bands → Fin samples → Nat)

variable {bands samples : Nat}

/-- The pixels of a band. -/
def Cube.band (cube : Cube bands samples) (b : Fin bands) : List Nat :=
  cube.flatMap fun frame => List.ofFn (frame b)

/-- The pixels of each band. -/
def Cube.perBand (cube : Cube bands samples) : List (List Nat) := (List.finRange bands).map cube.band

/-- All pixels. -/
def Cube.pixels (cube : Cube bands samples) : List Nat :=
  cube.flatMap fun frame => (List.finRange bands).flatMap fun b => List.ofFn (frame b)

/-- The statistics for each band, the mean and the percentage at or above full scale. -/
structure Statistics where
  mean : List ℚ
  median : List ℚ
  max : List ℚ
  min : List ℚ
  p90 : List ℚ
  overall : ℚ
  clipped : ℚ
deriving DecidableEq

/-- The mean of some pixels. -/
def mean (pixels : List Nat) : ℚ := (pixels.sum : ℚ) / pixels.length

/-- The middle of the sorted pixels, or the mean of the two middle ones. -/
def median (pixels : List Nat) : ℚ :=
  let middle := pixels.length / 2
  if pixels.length % 2 = 1 then (sorted pixels).getD middle 0
  else (((sorted pixels).getD (middle - 1) 0 : ℚ) + (sorted pixels).getD middle 0) / 2

/-- The statistics of a cube. -/
def spectrum (cube : Cube bands samples) (fullScale : Nat) : Statistics where
  mean := cube.perBand.map mean
  median := cube.perBand.map median
  max := cube.perBand.map fun pixels => (pixels.max?.getD 0 : ℚ)
  min := cube.perBand.map fun pixels => (pixels.min?.getD 0 : ℚ)
  p90 := cube.perBand.map fun pixels => percentile pixels (9 / 10)
  overall := Fx10.mean cube.pixels
  clipped := (cube.pixels.countP fun x => fullScale ≤ x : ℚ) / cube.pixels.length * 100

/-! ## The streaming statistics -/

/-- What the streaming statistics raise. -/
inductive Failure where
  | valueError (text : String)
  | zeroDivision
deriving DecidableEq

/-- The memory that the histograms may take. -/
def maxHistogramBytes : Nat := 128 * 1024 * 1024

/-- How often each value occurred in each band. -/
structure BandHistograms where
  fullScale : Nat
  memoryBytes : Nat
  histograms : List (List Nat)
  count : Nat
deriving DecidableEq

namespace BandHistograms

/-- Empty histograms up to full scale. -/
def init (bands fullScale : Nat) : Except Failure BandHistograms :=
  let memoryBytes := bands * (fullScale + 1) * 8
  if memoryBytes > maxHistogramBytes then
    .error (.valueError "Reference geometry exceeds the statistics memory budget")
  else
    .ok ⟨fullScale, memoryBytes, List.replicate bands (List.replicate (fullScale + 1) 0), 0⟩

/-- The counts of some values, for at least `minlength` values. -/
def bincount (pixels : List Nat) (minlength : Nat) : List Nat :=
  histogram (max minlength (pixels.foldr (fun x n => max (x + 1) n) 0)) pixels

/-- Adds the pixels of one band to its histogram, which grows when a value lies above it. -/
def addBand (memoryBytes : Nat) (pixels : List Nat) (histogram : List Nat) :
    Except Failure (Nat × List Nat) :=
  let counts := bincount pixels histogram.length
  if counts.length > histogram.length then
    -- samples above nominal full scale are kept
    let extra := (counts.length - histogram.length) * 8
    if memoryBytes + extra > maxHistogramBytes then
      .error (.valueError "Reference values exceed the statistics memory budget")
    else
      let padded := histogram ++ List.replicate (counts.length - histogram.length) 0
      .ok (memoryBytes + extra, List.zipWith (· + ·) padded counts)
  else .ok (memoryBytes, List.zipWith (· + ·) histogram counts)

/-- Adds the bands one after another. -/
def addBands : Nat → List (List Nat) → List (List Nat) → Except Failure (Nat × List (List Nat))
  | memoryBytes, pixels :: bands, histogram :: histograms => do
    let (memoryBytes, histogram) ← addBand memoryBytes pixels histogram
    let (memoryBytes, histograms) ← addBands memoryBytes bands histograms
    return (memoryBytes, histogram :: histograms)
  | memoryBytes, _, _ => .ok (memoryBytes, [])

/-- Adds a batch of frames. -/
def add (h : BandHistograms) (cube : Cube bands samples) : Except Failure BandHistograms :=
  let added := cube.length * samples
  if h.count + added > 2 ^ 53 then
    .error (.valueError "Reference is too large for exact percentile rank calculation")
  else do
    let (memoryBytes, histograms) ← addBands h.memoryBytes cube.perBand h.histograms
    return { h with memoryBytes := memoryBytes, histograms := histograms, count := h.count + added }

/-- The sum of the values that a histogram counts. -/
def dnSum (histogram : List Nat) : Nat :=
  (List.zipWith (· * ·) histogram (List.range histogram.length)).sum

/-- A percentile, by searching its ranks in the running totals. -/
def percentile (count : Nat) (q : ℚ) (histogram : List Nat) : ℚ :=
  percentileOf (searchsortedRight (cumsum 0 histogram)) count q

/-- The statistics of what has been added. -/
def finish (h : BandHistograms) : Except Failure Statistics :=
  let totalDn := (h.histograms.map dnSum).sum
  let clipped := (h.histograms.map fun histogram => (histogram.drop h.fullScale).sum).sum
  let totalPixels := h.count * h.histograms.length
  if h.count = 0 then .error (.valueError "No valid reference image frames")
  else if totalPixels = 0 then .error .zeroDivision
  else .ok {
    mean := h.histograms.map fun histogram => (dnSum histogram : ℚ) / h.count
    median := h.histograms.map (percentile h.count (1 / 2))
    max := h.histograms.map (percentile h.count 1)
    min := h.histograms.map (percentile h.count 0)
    p90 := h.histograms.map (percentile h.count (9 / 10))
    overall := (totalDn : ℚ) / totalPixels
    clipped := (clipped : ℚ) / totalPixels * 100 }

end BandHistograms

/-! ## What the histograms say -/

/-- A histogram with room for full scale counts the pixels of a band. -/
def Counts (fullScale count : Nat) (pixels counts : List Nat) : Prop :=
  pixels.length = count ∧ ∃ n, fullScale < n ∧ (∀ x ∈ pixels, x < n) ∧ counts = histogram n pixels

/-- The histograms count the pixels of a cube. -/
structure Counted (h : BandHistograms) (fullScale : Nat) (cube : Cube bands samples) : Prop where
  fullScale_eq : h.fullScale = fullScale
  count_eq : h.count = cube.length * samples
  counts : List.Forall₂ (Counts fullScale (cube.length * samples)) cube.perBand h.histograms

theorem length_band (cube : Cube bands samples) (b : Fin bands) :
    (cube.band b).length = cube.length * samples := by
  unfold Cube.band
  rw [List.length_flatMap]
  simp

theorem length_perBand (cube : Cube bands samples) : cube.perBand.length = bands := by
  unfold Cube.perBand
  rw [List.length_map, List.length_finRange]

theorem perBand_append (cube batch : Cube bands samples) :
    Cube.perBand (cube ++ batch) = List.zipWith (· ++ ·) cube.perBand batch.perBand := by
  unfold Cube.perBand
  rw [List.zipWith_map, List.zipWith_self]
  exact List.map_congr_left fun b _ => List.flatMap_append

/-- The pixels of a cube are those of its bands. -/
theorem pixels_perm (cube : Cube bands samples) : cube.pixels.Perm cube.perBand.flatten := by
  induction cube with
  | nil =>
    have hnil : (Cube.perBand ([] : Cube bands samples)).flatten = [] := by
      rw [List.flatten_eq_nil_iff]
      simp [Cube.perBand, Cube.band]
    rw [hnil]
    exact List.Perm.nil
  | cons frame cube ih =>
    have hband : (Cube.perBand (frame :: cube)).flatten =
        (List.finRange bands).flatMap fun b => List.ofFn (frame b) ++ Cube.band cube b := rfl
    have hpixels : Cube.pixels (frame :: cube) =
        ((List.finRange bands).flatMap fun b => List.ofFn (frame b)) ++ Cube.pixels cube := rfl
    rw [hband, hpixels]
    exact (ih.append_left _).trans (List.flatMap_append_perm _ _ _)

/-! ### Adding a batch -/

/-- A computation that succeeds takes its first step first. -/
theorem bind_ok {α β : Type} {x : Except Failure α} {f : α → Except Failure β} {r : β}
    (hok : (x >>= f) = .ok r) : ∃ a, x = .ok a ∧ f a = .ok r := by
  cases x with
  | error failure => cases hok
  | ok a => exact ⟨a, rfl, hok⟩

theorem forall₂_replicate {α β : Type} {R : α → β → Prop} {a : α} {b : β} (hab : R a b) (n : Nat) :
    List.Forall₂ R (List.replicate n a) (List.replicate n b) := by
  induction n with
  | zero => exact .nil
  | succ n ih => exact .cons hab ih

namespace BandHistograms

theorem lt_top (pixels : List Nat) :
    ∀ x ∈ pixels, x < pixels.foldr (fun x n => max (x + 1) n) 0 := by
  induction pixels with
  | nil => simp
  | cons y pixels ih =>
    intro x hx
    rw [List.foldr_cons]
    obtain rfl | hx := List.mem_cons.mp hx
    · omega
    · have hlt := ih x hx
      omega

/-- One band: the histogram counts the new pixels too. -/
theorem addBand_counts {fullScale count memory memory' : Nat} {old new g g' : List Nat}
    (hold : Counts fullScale count old g) (hadd : addBand memory new g = .ok (memory', g')) :
    Counts fullScale (count + new.length) (old ++ new) g' := by
  obtain ⟨hcount, n, hfull, hin, rfl⟩ := hold
  have htop := lt_top new
  simp only [addBand, bincount, length_histogram] at hadd
  generalize new.foldr (fun x n => max (x + 1) n) 0 = top at htop hadd
  -- both ways the counts reach up to the larger of the two sizes
  have hg : g' = histogram (max n top) (old ++ new) := by
    split_ifs at hadd with hgrow hbudget
    · rw [← histogram_pad hin, Nat.add_sub_cancel' hgrow.le, zipWith_histogram] at hadd
      injection hadd with hadd
      exact (congrArg Prod.snd hadd).symm
    · have hmax : max n top = n := by omega
      rw [hmax, zipWith_histogram] at hadd
      injection hadd with hadd
      rw [hmax]
      exact (congrArg Prod.snd hadd).symm
  refine ⟨by rw [List.length_append, hcount], max n top, by omega, ?_, hg⟩
  intro x hx
  obtain hx | hx := List.mem_append.mp hx
  · exact lt_max_of_lt_left (hin x hx)
  · exact lt_max_of_lt_right (htop x hx)

/-- All bands. -/
theorem addBands_counts {fullScale count added : Nat} {olds gs : List (List Nat)}
    (hold : List.Forall₂ (Counts fullScale count) olds gs) :
    ∀ {news gs' : List (List Nat)} {memory memory' : Nat}, news.length = olds.length →
      (∀ new ∈ news, new.length = added) → addBands memory news gs = .ok (memory', gs') →
      List.Forall₂ (Counts fullScale (count + added)) (List.zipWith (· ++ ·) olds news) gs' := by
  induction hold with
  | nil =>
    intro news gs' memory memory' hlen _ hadd
    obtain rfl := List.length_eq_zero_iff.mp hlen
    injection hadd with hadd
    obtain rfl : [] = gs' := congrArg Prod.snd hadd
    exact List.Forall₂.nil
  | @cons old g olds gs hcounts _ ih =>
    intro news gs' memory memory' hlen hadded hadd
    obtain _ | ⟨new, news⟩ := news
    · exact absurd hlen (by simp)
    obtain ⟨⟨memory₁, g'⟩, hband, hadd⟩ := bind_ok hadd
    obtain ⟨⟨memory₂, gs₂⟩, hrest, hadd⟩ := bind_ok hadd
    injection hadd with hadd
    obtain rfl : g' :: gs₂ = gs' := congrArg Prod.snd hadd
    have hfirst := addBand_counts hcounts hband
    rw [hadded new List.mem_cons_self] at hfirst
    have hlen' : news.length = olds.length := Nat.succ.inj hlen
    exact .cons hfirst
      (ih hlen' (fun new hnew => hadded new (List.mem_cons_of_mem _ hnew)) hrest)

theorem init_counted {h : BandHistograms} {fullScale : Nat} (hinit : init bands fullScale = .ok h) :
    Counted h fullScale ([] : Cube bands samples) := by
  unfold init at hinit
  dsimp only at hinit
  split_ifs at hinit
  injection hinit with hinit
  subst hinit
  refine ⟨rfl, (Nat.zero_mul samples).symm, ?_⟩
  have hperBand : Cube.perBand ([] : Cube bands samples) = List.replicate bands [] := by
    rw [List.eq_replicate_iff]
    refine ⟨length_perBand _, fun pixels hpixels => ?_⟩
    obtain ⟨b, -, rfl⟩ := List.mem_map.mp hpixels
    rfl
  have hempty : Counts fullScale 0 [] (List.replicate (fullScale + 1) 0) := by
    refine ⟨rfl, fullScale + 1, Nat.lt_succ_self _, by simp, ?_⟩
    rw [eq_comm, List.eq_replicate_iff]
    refine ⟨length_histogram _ _, fun c hc => ?_⟩
    obtain ⟨v, -, rfl⟩ := List.mem_map.mp hc
    rfl
  rw [hperBand, List.length_nil, Nat.zero_mul]
  exact forall₂_replicate hempty bands

/-- A batch: the histograms count its pixels too. -/
theorem add_counted {h h' : BandHistograms} {fullScale : Nat} {cube batch : Cube bands samples}
    (hcounted : Counted h fullScale cube) (hadd : h.add batch = .ok h') :
    Counted h' fullScale (cube ++ batch) := by
  unfold add at hadd
  dsimp only at hadd
  split_ifs at hadd
  obtain ⟨grown, hbands, hadd⟩ := bind_ok hadd
  injection hadd with hadd
  subst hadd
  have hlen : batch.perBand.length = cube.perBand.length := by
    rw [length_perBand, length_perBand]
  have hadded : ∀ new ∈ batch.perBand, new.length = batch.length * samples := by
    intro new hnew
    obtain ⟨b, -, rfl⟩ := List.mem_map.mp hnew
    exact length_band batch b
  refine ⟨hcounted.fullScale_eq, ?_, ?_⟩
  · rw [List.length_append, Nat.add_mul, ← hcounted.count_eq]
  · rw [List.length_append, Nat.add_mul, perBand_append]
    exact addBands_counts hcounted.counts hlen hadded hbands

/-- The pixels of a band stay countable in 64 bits, and so do the running totals. -/
theorem add_count_le {h h' : BandHistograms} {cube : Cube bands samples}
    (hadd : h.add cube = .ok h') : h'.count ≤ 2 ^ 53 := by
  unfold add at hadd
  dsimp only at hadd
  split_ifs at hadd with hlarge
  obtain ⟨grown, -, hadd⟩ := bind_ok hadd
  injection hadd with hadd
  subst hadd
  exact Nat.not_lt.mp hlarge

/-- Batches one after another. -/
theorem foldlM_add_counted {fullScale : Nat} {batches : List (Cube bands samples)} :
    ∀ {h h' : BandHistograms} {cube : Cube bands samples}, Counted h fullScale cube →
      batches.foldlM add h = .ok h' → Counted h' fullScale (cube ++ batches.flatten) := by
  induction batches with
  | nil =>
    intro h h' cube hcounted hadd
    injection hadd with hadd
    subst hadd
    rwa [List.flatten_nil, List.append_nil]
  | cons batch batches ih =>
    intro h h' cube hcounted hadd
    rw [List.foldlM_cons] at hadd
    obtain ⟨h₁, hfirst, hadd⟩ := bind_ok hadd
    rw [List.flatten_cons, ← List.append_assoc]
    exact ih (add_counted hcounted hfirst) hadd

end BandHistograms

/-! ### The statistics recovered -/

section Recovered

variable {fullScale count : Nat} {pixels counts : List Nat}

theorem Counts.dnSum_eq (h : Counts fullScale count pixels counts) :
    BandHistograms.dnSum counts = pixels.sum := by
  obtain ⟨-, n, -, hin, rfl⟩ := h
  unfold BandHistograms.dnSum
  rw [length_histogram, sum_zipWith_histogram hin]

/-- The counts of a band together are its pixels. -/
theorem Counts.sum_eq (h : Counts fullScale count pixels counts) : counts.sum = count := by
  obtain ⟨rfl, n, -, hin, rfl⟩ := h
  rw [sum_histogram, List.countP_eq_length]
  exact fun x hx => decide_eq_true (hin x hx)

theorem Counts.clipped_eq (h : Counts fullScale count pixels counts) :
    (counts.drop fullScale).sum = pixels.countP fun x => fullScale ≤ x := by
  obtain ⟨-, n, hfull, hin, rfl⟩ := h
  exact sum_drop_histogram hin hfull.le

/-- The percentiles of a band that has pixels. -/
theorem Counts.percentile_eq (h : Counts fullScale count pixels counts) (hcount : count ≠ 0) {q : ℚ}
    (hq : 0 ≤ q) (hq' : q ≤ 1) : BandHistograms.percentile count q counts = percentile pixels q := by
  obtain ⟨rfl, n, -, hin, rfl⟩ := h
  have hpixels : pixels ≠ [] := fun hnil => hcount (hnil ▸ rfl)
  exact percentileOf_eq hpixels (fun r hr => rank_histogram hin hr) hq hq'

theorem percentile_zero (hpixels : pixels ≠ []) : percentile pixels 0 = (pixels.min?.getD 0 : ℚ) := by
  have hrank : ((pixels.length : ℚ) - 1) * 0 = (0 : Nat) := by rw [mul_zero, Nat.cast_zero]
  rw [percentile_whole hrank, getD_sorted_zero hpixels]

theorem percentile_one (hpixels : pixels ≠ []) : percentile pixels 1 = (pixels.max?.getD 0 : ℚ) := by
  have hpos : 1 ≤ pixels.length := List.length_pos_iff.mpr hpixels
  have hrank : ((pixels.length : ℚ) - 1) * 1 = (pixels.length - 1 : Nat) := by
    rw [mul_one, Nat.cast_sub hpos, Nat.cast_one]
  rw [percentile_whole hrank, getD_sorted_last hpixels]

theorem percentile_half (hpixels : pixels ≠ []) : percentile pixels (1 / 2) = median pixels := by
  have hpos : 0 < pixels.length := List.length_pos_iff.mpr hpixels
  unfold median
  dsimp only
  obtain ⟨k, heven | hodd⟩ := pixels.length.even_or_odd'
  · -- the rank lies halfway between the two middle ones
    obtain ⟨j, rfl⟩ : ∃ j, k = j + 1 := ⟨k - 1, by omega⟩
    have hrank : ((pixels.length : ℚ) - 1) * (1 / 2) = j + 1 / 2 := by
      rw [heven]
      push_cast
      ring
    have hmiddle : pixels.length / 2 = j + 1 := by omega
    rw [percentile_between hrank (by omega), if_neg (by omega), hmiddle, Nat.add_sub_cancel]
  · have hrank : ((pixels.length : ℚ) - 1) * (1 / 2) = k := by
      rw [hodd]
      push_cast
      ring
    have hmiddle : pixels.length / 2 = k := by omega
    rw [percentile_whole hrank, if_pos (by omega), hmiddle]

end Recovered

/-- What holds of each band holds of the lists of the bands. -/
theorem map_eq_of_forall₂ {α β γ : Type} {R : α → β → Prop} {f : α → γ} {g : β → γ} {xs : List α}
    {ys : List β} (hxy : List.Forall₂ R xs ys) (hfg : ∀ x y, R x y → g y = f x) :
    ys.map g = xs.map f := by
  induction hxy with
  | nil => rfl
  | cons hfirst _ ih => rw [List.map_cons, List.map_cons, ih, hfg _ _ hfirst]

theorem length_pixels (cube : Cube bands samples) :
    cube.pixels.length = cube.length * samples * bands := by
  have hsum : (cube.perBand.map List.length) = List.replicate bands (cube.length * samples) := by
    rw [List.eq_replicate_iff]
    refine ⟨by rw [List.length_map, length_perBand], fun n hn => ?_⟩
    obtain ⟨pixels, hpixels, rfl⟩ := List.mem_map.mp hn
    obtain ⟨b, -, rfl⟩ := List.mem_map.mp hpixels
    exact length_band cube b
  rw [(pixels_perm cube).length_eq, List.length_flatten, hsum, List.sum_replicate_nat,
    Nat.mul_comm]

/-- Histograms that count the pixels of a cube give its statistics. -/
theorem Counted.finish_eq {h : BandHistograms} {fullScale : Nat} {cube : Cube bands samples}
    (hcounted : Counted h fullScale cube) (hcube : cube.pixels ≠ []) :
    h.finish = .ok (spectrum cube fullScale) := by
  have hlen : cube.pixels.length ≠ 0 := fun hzero => hcube (List.length_eq_zero_iff.mp hzero)
  rw [length_pixels] at hlen
  obtain ⟨hcount, hbands⟩ := Nat.mul_ne_zero_iff.mp hlen
  have hcounts := hcounted.counts
  have hhistograms : h.histograms.length = bands := by
    rw [← hcounts.length_eq, length_perBand]
  have htotal : h.count * h.histograms.length = cube.pixels.length := by
    rw [hcounted.count_eq, hhistograms, length_pixels]
  have hpixels {pixels counts : List Nat}
      (hband : Counts fullScale (cube.length * samples) pixels counts) : pixels ≠ [] :=
    fun hnil => hcount (hband.1.symm.trans (hnil ▸ rfl))
  have hmean : h.histograms.map (fun counts => (BandHistograms.dnSum counts : ℚ) / h.count) =
      cube.perBand.map mean := by
    refine map_eq_of_forall₂ hcounts fun pixels counts hband => ?_
    rw [hband.dnSum_eq, hcounted.count_eq, ← hband.1, mean]
  have hmedian : h.histograms.map (BandHistograms.percentile h.count (1 / 2)) =
      cube.perBand.map median := by
    refine map_eq_of_forall₂ hcounts fun pixels counts hband => ?_
    rw [hcounted.count_eq, hband.percentile_eq hcount (by norm_num) (by norm_num),
      percentile_half (hpixels hband)]
  have hmax : h.histograms.map (BandHistograms.percentile h.count 1) =
      cube.perBand.map fun pixels => (pixels.max?.getD 0 : ℚ) := by
    refine map_eq_of_forall₂ hcounts fun pixels counts hband => ?_
    rw [hcounted.count_eq, hband.percentile_eq hcount zero_le_one le_rfl,
      percentile_one (hpixels hband)]
  have hmin : h.histograms.map (BandHistograms.percentile h.count 0) =
      cube.perBand.map fun pixels => (pixels.min?.getD 0 : ℚ) := by
    refine map_eq_of_forall₂ hcounts fun pixels counts hband => ?_
    rw [hcounted.count_eq, hband.percentile_eq hcount le_rfl zero_le_one,
      percentile_zero (hpixels hband)]
  have hp90 : h.histograms.map (BandHistograms.percentile h.count (9 / 10)) =
      cube.perBand.map fun pixels => percentile pixels (9 / 10) := by
    refine map_eq_of_forall₂ hcounts fun pixels counts hband => ?_
    rw [hcounted.count_eq, hband.percentile_eq hcount (by norm_num) (by norm_num)]
  have hsum : (h.histograms.map BandHistograms.dnSum).sum = cube.pixels.sum := by
    rw [(pixels_perm cube).sum_eq, List.sum_flatten]
    exact congrArg List.sum (map_eq_of_forall₂ hcounts fun _ _ hband => hband.dnSum_eq)
  have hclipped : (h.histograms.map fun counts => (counts.drop h.fullScale).sum).sum =
      cube.pixels.countP fun x => fullScale ≤ x := by
    rw [(pixels_perm cube).countP_eq, List.countP_flatten, hcounted.fullScale_eq]
    exact congrArg List.sum (map_eq_of_forall₂ hcounts fun _ _ hband => hband.clipped_eq)
  unfold BandHistograms.finish
  dsimp only
  rw [if_neg (hcounted.count_eq ▸ hcount), htotal, if_neg (by rwa [length_pixels]), hmean, hmedian,
    hmax, hmin, hp90, hsum, hclipped]
  rfl

/-- **The streaming statistics are the direct ones**: however the frames of a cube with pixels are
split into batches that the histograms accept, they give the statistics of the whole cube. -/
theorem streaming_statistics {fullScale : Nat} {h₀ h : BandHistograms}
    {batches : List (Cube bands samples)} (hinit : BandHistograms.init bands fullScale = .ok h₀)
    (hadd : batches.foldlM BandHistograms.add h₀ = .ok h)
    (hpixels : Cube.pixels batches.flatten ≠ []) :
    h.finish = .ok (spectrum batches.flatten fullScale) := by
  have hcounted := BandHistograms.foldlM_add_counted (BandHistograms.init_counted hinit) hadd
  rw [List.nil_append] at hcounted
  exact hcounted.finish_eq hpixels

/-- Two batches, the second one with values above full scale. -/
theorem streaming_statistics_above_full_scale :
    (⟨2, 48, [[1, 2, 1, 0, 1, 1]], 6⟩ : BandHistograms).finish =
      .ok (spectrum ([fun _ s => 2 * s, fun _ s => s + 4, fun _ _ => 1] : Cube 1 2) 2) :=
  @streaming_statistics 1 2 2 ⟨2, 24, [[0, 0, 0]], 0⟩ _
    [[fun _ s => 2 * s], [fun _ s => s + 4, fun _ _ => 1]] rfl rfl (by decide)

end AmigaDrivers.Fx10
