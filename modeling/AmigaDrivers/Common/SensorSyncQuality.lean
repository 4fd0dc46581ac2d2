import Mathlib.Algebra.Ring.Int.Defs
import Mathlib.Algebra.Ring.Nat
import Mathlib.Data.List.Chain
import Mathlib.Data.List.Nodup
import Mathlib.Data.List.Perm.Subperm
import Mathlib.Data.List.Range

/-!
# The exposures of a session

`SensorSyncQuality` looks at the edges of a session's log one at a time.  A camera's exposure raises
and lowers its line; the log numbers the edges and gives each its tick.  The numbers of the source
have 64 bits.

* `Edges.observe`: what is kept of the edges, with the verdict so far.
* `inspectRecord`: the edge lines that reach it.
* `Exposures`: the edges of a number of whole exposures.
* `exposure_check`: the verdict is that, and the whole verdict counts the frames.
-/

namespace AmigaDrivers
namespace SensorSync

/-! ## The code -/

/-- An edge of a line. -/
structure Edge where
  seq : UInt64
  level : UInt32
  tick : UInt64
  deriving DecidableEq, Repr

/-- `Edges`. -/
structure Edges where
  rises : UInt64 := 0
  falls : UInt64 := 0
  lastSeq : UInt64 := 0
  lastTick : UInt64 := 0
  lastLevel : UInt32 := 0
  seen : Bool := false
  valid : Bool := true
  deriving DecidableEq, Repr

/-- `Observe`. -/
def Edges.observe (e : Edges) (x : Edge) : Edges :=
  { rises := if x.level ≠ 0 then e.rises + 1 else e.rises
    falls := if x.level ≠ 0 then e.falls else e.falls + 1
    lastSeq := x.seq
    lastTick := x.tick
    lastLevel := x.level
    seen := true
    valid :=
      if x.seq ≠ e.lastSeq + 1 ∨ e.seen = true ∧ (x.tick ≤ e.lastTick ∨ x.level = e.lastLevel) then
        false
      else e.valid }

/-- `SensorSyncQuality`. -/
structure SensorSyncQuality where
  trigger : Edges := {}
  exposure : Edges := {}
  readable : Bool := true
  protocolComplete : Bool := false
  polaritySupported : Bool := false
  triggerTruncated : Bool := false
  frames : UInt64 := 0
  missing : UInt64 := 0
  externallyTriggered : Bool := false
  deriving DecidableEq, Repr

namespace SensorSyncQuality

/-- `CountsReconciled`. -/
def countsReconciled (q : SensorSyncQuality) : Bool :=
  if q.missing > UInt64.ofNat (2 ^ 64 - 1) - q.frames then false
  else
    decide (q.frames ≠ 0) && q.exposure.rises == q.frames + q.missing &&
      (!q.externallyTriggered || q.trigger.rises == q.exposure.rises)

/-- `ExposureComplete`. -/
def exposureComplete (q : SensorSyncQuality) : Bool :=
  q.exposure.seen && q.exposure.valid && q.exposure.rises == q.exposure.falls &&
    q.exposure.lastLevel == 0

/-- `Ok`. -/
def ok (q : SensorSyncQuality) : Bool :=
  let triggerComplete :=
    !q.externallyTriggered ||
      (q.trigger.seen && q.trigger.valid &&
        ((q.trigger.rises == q.trigger.falls && q.trigger.lastLevel == 0) ||
          (q.triggerTruncated && q.trigger.rises == q.trigger.falls + 1 &&
            q.trigger.lastLevel == 1)))
  q.readable && q.protocolComplete && q.polaritySupported && triggerComplete &&
    q.exposureComplete && q.countsReconciled && q.missing == 0

end SensorSyncQuality

/-- The numbers of an edge line, `T` or `S`. -/
structure EdgeRecord where
  exposure : Bool
  seq : UInt64
  channel : UInt64
  level : UInt64
  tick : UInt64
  deriving DecidableEq, Repr

/-- What `InspectSensorSync` does with the numbers of an edge line. -/
def inspectRecord (channel : UInt64) (q : SensorSyncQuality) (r : EdgeRecord) : SensorSyncQuality :=
  if r.channel ≥ 4 ∨ r.level > 1 then { q with readable := false }
  else if r.channel ≠ channel then q
  else if r.exposure then
    { q with exposure := q.exposure.observe ⟨r.seq, r.level.toUInt32, r.tick⟩ }
  else { q with trigger := q.trigger.observe ⟨r.seq, r.level.toUInt32, r.tick⟩ }

/-- The edge lines of a log. -/
def inspectRecords (channel : UInt64) (records : List EdgeRecord) : SensorSyncQuality :=
  records.foldl (inspectRecord channel) {}

/-! ## The edges that are looked at -/

/-- The line of a record is looked at as one of the channel. -/
def IsEdgeOf (channel : UInt64) (exposure : Bool) (r : EdgeRecord) : Prop :=
  r.channel < 4 ∧ r.level ≤ 1 ∧ r.channel = channel ∧ r.exposure = exposure

instance (channel : UInt64) (exposure : Bool) : DecidablePred (IsEdgeOf channel exposure) :=
  fun _ => inferInstanceAs (Decidable (_ ∧ _))

/-- The edges of a channel that a log has, of its exposures or of its triggers. -/
def edgesOf (channel : UInt64) (exposure : Bool) (records : List EdgeRecord) : List Edge :=
  (records.filter fun r => IsEdgeOf channel exposure r).map
    fun r => ⟨r.seq, r.level.toUInt32, r.tick⟩

/-- All edges of a line. -/
def observeAll (edges : List Edge) : Edges := edges.foldl Edges.observe {}

/-- What a record does to the edges of its line. -/
theorem inspectRecord_edges (channel : UInt64) (q : SensorSyncQuality) (r : EdgeRecord) :
    (inspectRecord channel q r).exposure = (edgesOf channel true [r]).foldl Edges.observe q.exposure ∧
      (inspectRecord channel q r).trigger =
        (edgesOf channel false [r]).foldl Edges.observe q.trigger := by
  have hedges (b : Bool) : edgesOf channel b [r] =
      if IsEdgeOf channel b r then [⟨r.seq, r.level.toUInt32, r.tick⟩] else [] := by
    unfold edgesOf
    rw [List.filter_singleton]
    by_cases h : IsEdgeOf channel b r
    · rw [if_pos h, decide_eq_true h]
      rfl
    · rw [if_neg h, decide_eq_false h]
      rfl
  rw [hedges, hedges]
  unfold inspectRecord
  by_cases hbad : r.channel ≥ 4 ∨ r.level > 1
  · have hno (b : Bool) : ¬ IsEdgeOf channel b r := fun h =>
      hbad.elim (UInt64.not_le.mpr h.1) (UInt64.not_lt.mpr h.2.1)
    rw [if_pos hbad, if_neg (hno true), if_neg (hno false)]
    exact ⟨rfl, rfl⟩
  · have hgood := not_or.mp hbad
    rw [if_neg hbad]
    by_cases hchannel : r.channel = channel
    · rw [if_neg (not_not.mpr hchannel)]
      have hedge (b : Bool) : IsEdgeOf channel b r ↔ r.exposure = b :=
        ⟨fun h => h.2.2.2, fun h => ⟨UInt64.not_le.mp hgood.1, UInt64.not_lt.mp hgood.2, hchannel, h⟩⟩
      simp only [hedge]
      cases r.exposure <;> exact ⟨rfl, rfl⟩
    · have hno (b : Bool) : ¬ IsEdgeOf channel b r := fun h => hchannel h.2.2.1
      rw [if_pos hchannel, if_neg (hno true), if_neg (hno false)]
      exact ⟨rfl, rfl⟩

theorem inspectRecords_edges (channel : UInt64) (records : List EdgeRecord) :
    (inspectRecords channel records).exposure = observeAll (edgesOf channel true records) ∧
      (inspectRecords channel records).trigger = observeAll (edgesOf channel false records) := by
  have hrun (q : SensorSyncQuality) :
      (records.foldl (inspectRecord channel) q).exposure =
          (edgesOf channel true records).foldl Edges.observe q.exposure ∧
        (records.foldl (inspectRecord channel) q).trigger =
          (edgesOf channel false records).foldl Edges.observe q.trigger := by
    induction records generalizing q with
    | nil => exact ⟨rfl, rfl⟩
    | cons r records ih =>
      have hcons (b : Bool) :
          edgesOf channel b (r :: records) = edgesOf channel b [r] ++ edgesOf channel b records := by
        unfold edgesOf
        rw [← List.map_append, ← List.filter_append, List.singleton_append]
      obtain ⟨hexposure, htrigger⟩ := ih (inspectRecord channel q r)
      rw [List.foldl_cons, hexposure, htrigger, hcons, hcons, List.foldl_append, List.foldl_append,
        (inspectRecord_edges channel q r).1, (inspectRecord_edges channel q r).2]
      exact ⟨rfl, rfl⟩
  exact hrun {}

theorem level_of_mem_edgesOf {channel : UInt64} {exposure : Bool} {records : List EdgeRecord}
    {x : Edge} (h : x ∈ edgesOf channel exposure records) : x.level = 0 ∨ x.level = 1 := by
  obtain ⟨r, hr, rfl⟩ := List.mem_map.mp h
  have hlevel : r.level ≤ 1 := (of_decide_eq_true (List.mem_filter.mp hr).2).2.1
  have hsmall : r.level = 0 ∨ r.level = 1 := by
    rw [UInt64.le_iff_toNat_le] at hlevel
    have htwo : r.level.toNat = 0 ∨ r.level.toNat = 1 := Nat.le_one_iff_eq_zero_or_eq_one.mp hlevel
    exact htwo.imp (fun h => UInt64.toNat_inj.mp h) fun h => UInt64.toNat_inj.mp h
  obtain h | h := hsmall
  · rw [h]
    exact .inl rfl
  · rw [h]
    exact .inr rfl

/-! ## The verdict so far -/

/-- An edge behind another. -/
def Follows (x y : Edge) : Prop := y.seq = x.seq + 1 ∧ x.tick < y.tick ∧ y.level ≠ x.level

/-- The edges so far are in order. -/
theorem valid_foldl (edges : List Edge) : ∀ {e : Edges} {x : Edge}, e.seen = true →
    e.lastSeq = x.seq → e.lastTick = x.tick → e.lastLevel = x.level →
    ((edges.foldl Edges.observe e).valid = true ↔ e.valid = true ∧ (x :: edges).IsChain Follows) := by
  induction edges with
  | nil =>
    intro e x _ _ _ _
    exact (and_iff_left (List.isChain_singleton x)).symm
  | cons y edges ih =>
    intro e x hseen hseq htick hlevel
    rw [List.foldl_cons, ih rfl rfl rfl rfl, List.isChain_cons_cons, ← and_assoc]
    refine and_congr_left fun _ => ?_
    unfold Edges.observe Follows
    dsimp only
    rw [hseen, hseq, htick, hlevel]
    split_ifs with hbad
    · refine ⟨nofun, fun ⟨_, hgood, hlater, hother⟩ => ?_⟩
      obtain hbad | ⟨-, hbad | hbad⟩ := hbad
      · exact absurd hgood hbad
      · exact absurd hlater (UInt64.not_lt.mpr hbad)
      · exact absurd hbad hother
    · simp only [not_or, not_and, true_implies, not_not, UInt64.not_le] at hbad
      exact (and_iff_left ⟨hbad.1, hbad.2.1, hbad.2.2⟩).symm

/-- All edges of a line are in order. -/
theorem valid_observeAll (edges : List Edge) :
    (observeAll edges).valid = true ↔
      (∀ x ∈ edges.head?, x.seq = 1) ∧ edges.IsChain Follows := by
  cases edges with
  | nil => exact ⟨fun _ => ⟨nofun, .nil⟩, fun _ => rfl⟩
  | cons x edges =>
    have hfirst : (Edges.observe {} x).valid = true ↔ x.seq = 1 := by
      unfold Edges.observe
      simp
    unfold observeAll
    rw [List.foldl_cons, valid_foldl edges rfl rfl rfl rfl, hfirst]
    simp

/-- What is kept of the last edge. -/
theorem last_observeAll (edges : List Edge) (x : Edge) :
    (observeAll (edges ++ [x])).seen = true ∧ (observeAll (edges ++ [x])).lastLevel = x.level := by
  unfold observeAll
  rw [List.foldl_append]
  exact ⟨rfl, rfl⟩

/-- The edges are counted, with 64 bits. -/
theorem counts_observeAll (edges : List Edge) :
    (observeAll edges).rises = UInt64.ofNat (edges.countP fun x => x.level ≠ 0) ∧
      (observeAll edges).falls = UInt64.ofNat (edges.countP fun x => x.level = 0) := by
  induction edges using List.reverseRecOn with
  | nil => exact ⟨rfl, rfl⟩
  | append_singleton edges x ih =>
    unfold observeAll at ih ⊢
    rw [List.foldl_append, List.countP_append, List.countP_append, UInt64.ofNat_add, UInt64.ofNat_add,
      ← ih.1, ← ih.2]
    by_cases hlevel : x.level = 0
    · simp [Edges.observe, hlevel]
    · simp [Edges.observe, hlevel]

/-! ## Whole exposures -/

/-- The levels of `k` exposures. -/
def exposureLevels (k : Nat) : List UInt32 := (List.replicate k [1, 0]).flatten

/-- The edges are those of `k` exposures: they rise and fall in turn, are numbered from 1, and their
ticks increase. -/
structure Exposures (k : Nat) (edges : List Edge) : Prop where
  levels : edges.map Edge.level = exposureLevels k
  seqs : edges.map Edge.seq = (List.range (2 * k)).map fun i => UInt64.ofNat (i + 1)
  ticks : (edges.map Edge.tick).Pairwise (· < ·)

theorem exposureLevels_succ (k : Nat) : exposureLevels (k + 1) = 1 :: 0 :: exposureLevels k := rfl

theorem length_exposureLevels (k : Nat) : (exposureLevels k).length = 2 * k := by
  induction k with
  | zero => rfl
  | succ k ih =>
    rw [exposureLevels_succ, List.length_cons, List.length_cons, ih]
    rfl

theorem countP_exposureLevels (k : Nat) :
    (exposureLevels k).countP (fun l => l ≠ 0) = k ∧ (exposureLevels k).countP (fun l => l = 0) = k := by
  induction k with
  | zero => exact ⟨rfl, rfl⟩
  | succ k ih =>
    rw [exposureLevels_succ]
    simp only [List.countP_cons, ih.1, ih.2]
    exact ⟨rfl, rfl⟩

theorem getLast_exposureLevels (k : Nat) : (exposureLevels (k + 1)).getLast? = some 0 := by
  induction k with
  | zero => rfl
  | succ k ih =>
    rw [exposureLevels_succ, List.getLast?_cons, List.getLast?_cons, ih]
    rfl

theorem isChain_exposureLevels (k : Nat) : (exposureLevels k).IsChain fun x y => y ≠ x := by
  induction k with
  | zero => exact .nil
  | succ k ih =>
    rw [exposureLevels_succ, List.isChain_cons_cons]
    refine ⟨by decide, ?_⟩
    cases k with
    | zero => exact .singleton _
    | succ k =>
      rw [exposureLevels_succ] at ih ⊢
      exact List.isChain_cons_cons.mpr ⟨by decide, ih⟩

/-- Levels that change every time and end low are those of whole exposures, perhaps behind a fall. -/
theorem levels_of_isChain {levels : List UInt32} (hlevel : ∀ l ∈ levels, l = 0 ∨ l = 1)
    (hchain : levels.IsChain fun x y => y ≠ x) (hlast : levels.getLast? = some 0) :
    ∃ k, levels = exposureLevels (k + 1) ∨ levels = 0 :: exposureLevels k := by
  induction levels with
  | nil => exact nomatch hlast
  | cons l levels ih =>
    cases levels with
    | nil =>
      obtain rfl : l = 0 := Option.some.inj hlast
      exact ⟨0, .inr rfl⟩
    | cons l' levels =>
      obtain ⟨hne, htail⟩ := List.isChain_cons_cons.mp hchain
      obtain ⟨k, hk⟩ := ih (fun x hx => hlevel x (List.mem_cons_of_mem l hx)) htail
        (by rwa [List.getLast?_cons_cons] at hlast)
      have hl := hlevel l List.mem_cons_self
      obtain hk | hk := hk
      · rw [exposureLevels_succ, List.cons.injEq] at hk
        obtain ⟨rfl, rfl⟩ := hk
        obtain rfl := hl.resolve_right hne.symm
        exact ⟨k + 1, .inr rfl⟩
      · rw [List.cons.injEq] at hk
        obtain ⟨rfl, rfl⟩ := hk
        obtain rfl := hl.resolve_left hne.symm
        exact ⟨k, .inl rfl⟩

theorem map_range_succ (first : UInt64) (n : Nat) :
    (List.range (n + 1)).map (fun i => first + UInt64.ofNat i) =
      first :: (List.range n).map fun i => first + 1 + UInt64.ofNat i := by
  rw [List.range_succ_eq_map, List.map_cons, List.map_map, List.cons.injEq]
  refine ⟨UInt64.add_zero first, List.map_congr_left fun i _ => ?_⟩
  rw [Function.comp_apply, Nat.succ_eq_add_one, UInt64.ofNat_add, UInt64.add_assoc, UInt64.add_comm]
  rw [UInt64.add_comm 1, UInt64.add_comm first]
  rfl

/-- Numbers that count on. -/
theorem isChain_succ_iff (rest : List UInt64) : ∀ first : UInt64,
    ((first :: rest).IsChain fun x y => y = x + 1) ↔
      first :: rest = (List.range (rest.length + 1)).map fun i => first + UInt64.ofNat i := by
  induction rest with
  | nil =>
    intro first
    refine ⟨fun _ => ?_, fun _ => .singleton _⟩
    simp
  | cons second rest ih =>
    intro first
    rw [List.isChain_cons_cons, ih second, List.length_cons, map_range_succ first, List.cons.injEq,
      and_iff_right rfl]
    constructor
    · rintro ⟨rfl, hrest⟩
      exact hrest
    · intro hrest
      have hnext : second = first + 1 := by
        rw [map_range_succ, List.cons.injEq] at hrest
        exact hrest.1
      rw [hnext] at hrest ⊢
      exact ⟨rfl, hrest⟩

/-- Edges in order, part by part. -/
theorem isChain_follows_iff {edges : List Edge} :
    edges.IsChain Follows ↔
      (edges.map Edge.seq).IsChain (fun x y => y = x + 1) ∧
        (edges.map Edge.tick).Pairwise (· < ·) ∧
          (edges.map Edge.level).IsChain fun x y => y ≠ x := by
  have htrans : Trans (α := UInt64) (· < ·) (· < ·) (· < ·) := ⟨UInt64.lt_trans⟩
  rw [← List.isChain_iff_pairwise, List.isChain_map, List.isChain_map, List.isChain_map]
  simp only [List.isChain_iff_getElem, Follows]
  exact ⟨fun h => ⟨fun i hi => (h i hi).1, fun i hi => (h i hi).2.1, fun i hi => (h i hi).2.2⟩,
    fun h i hi => ⟨h.1 i hi, h.2.1 i hi, h.2.2 i hi⟩⟩

/-- Numbers from 1 on. -/
theorem seqs_iff {edges : List Edge} {n : Nat} (hlength : edges.length = n + 1) :
    (∀ x ∈ edges.head?, x.seq = 1) ∧ (edges.map Edge.seq).IsChain (fun x y => y = x + 1) ↔
      edges.map Edge.seq = (List.range (n + 1)).map fun i => UInt64.ofNat (i + 1) := by
  have hone : (fun i => UInt64.ofNat (i + 1)) = fun i => (1 : UInt64) + UInt64.ofNat i := by
    funext i
    rw [UInt64.ofNat_add, UInt64.add_comm]
    rfl
  cases edges with
  | nil => exact nomatch hlength
  | cons x edges =>
    obtain rfl : edges.length = n := Nat.succ.inj hlength
    rw [List.map_cons, isChain_succ_iff, List.length_map, hone]
    constructor
    · rintro ⟨hfirst, hseqs⟩
      rw [hseqs, hfirst x rfl]
    · intro hseqs
      have hfirst : x.seq = 1 := by
        have hhead := congrArg List.head? hseqs
        rw [List.range_succ_eq_map, List.map_cons] at hhead
        exact Option.some.inj hhead
      refine ⟨?_, by rw [hfirst]; exact hfirst ▸ hseqs⟩
      rintro _ ⟨⟩
      exact hfirst

/-- **Exposures.**  The verdict on the edges is that they are whole exposures. -/
theorem complete_iff {edges : List Edge} (hlevel : ∀ x ∈ edges, x.level = 0 ∨ x.level = 1) :
    ((observeAll edges).seen = true ∧ (observeAll edges).valid = true ∧
        (observeAll edges).rises = (observeAll edges).falls ∧ (observeAll edges).lastLevel = 0) ↔
      ∃ k, 1 ≤ k ∧ Exposures k edges := by
  cases edges using List.reverseRecOn with
  | nil =>
    refine ⟨fun h => absurd h.1 (by decide), ?_⟩
    rintro ⟨k, hk, h⟩
    have hlength := congrArg List.length h.levels
    rw [length_exposureLevels, List.map_nil, List.length_nil] at hlength
    omega
  | append_singleton edges x =>
    obtain ⟨hseen, hlast⟩ := last_observeAll edges x
    have hlength : (edges ++ [x]).length = edges.length + 1 := List.length_append
    have hlevels : ∀ l ∈ (edges ++ [x]).map Edge.level, l = 0 ∨ l = 1 := by
      intro l hl
      obtain ⟨y, hy, rfl⟩ := List.mem_map.mp hl
      exact hlevel y hy
    have hend : ((edges ++ [x]).map Edge.level).getLast? = some x.level := by simp
    have hcounts (p : UInt32 → Bool) : (edges ++ [x]).countP (fun y => p y.level) =
        ((edges ++ [x]).map Edge.level).countP p := (List.countP_map).symm
    obtain ⟨hrises, hfalls⟩ := counts_observeAll (edges ++ [x])
    rw [and_iff_right hseen, hlast, valid_observeAll, isChain_follows_iff, hrises, hfalls]
    constructor
    · rintro ⟨⟨hfirst, hseqs, hticks, hchange⟩, hbalance, hlow⟩
      have hnumbers := (seqs_iff hlength).1 ⟨hfirst, hseqs⟩
      obtain ⟨k, hk | hk⟩ := levels_of_isChain hlevels hchange (hlow ▸ hend)
      · refine ⟨k + 1, Nat.succ_pos k, hk, ?_, hticks⟩
        rw [hnumbers, ← hlength, ← length_exposureLevels, ← hk, List.length_map]
      · -- one fall more than there are rises
        have hrise := hcounts fun l => l ≠ 0
        have hfall := hcounts fun l => l = 0
        rw [hk, List.countP_cons] at hrise hfall
        rw [(countP_exposureLevels k).1] at hrise
        rw [(countP_exposureLevels k).2] at hfall
        rw [hrise, hfall, if_neg (by decide), if_pos (by decide), Nat.add_zero, UInt64.ofNat_add,
          UInt64.left_eq_add] at hbalance
        exact absurd hbalance (by decide)
    · rintro ⟨k, hk, h⟩
      obtain ⟨k, rfl⟩ := Nat.exists_eq_succ_of_ne_zero (Nat.ne_of_gt hk)
      have hrise := hcounts fun l => l ≠ 0
      have hfall := hcounts fun l => l = 0
      have htwice := congrArg List.length h.levels
      have hlow := hend
      rw [h.levels] at hrise hfall hlow
      rw [List.length_map, length_exposureLevels] at htwice
      rw [(countP_exposureLevels (k + 1)).1] at hrise
      rw [(countP_exposureLevels (k + 1)).2] at hfall
      rw [getLast_exposureLevels] at hlow
      have hnumbers := h.seqs
      rw [← htwice, hlength] at hnumbers
      obtain ⟨hfirst, hseqs⟩ := (seqs_iff hlength).2 hnumbers
      refine ⟨⟨hfirst, hseqs, h.ticks, h.levels ▸ isChain_exposureLevels (k + 1)⟩, ?_, ?_⟩
      · rw [hrise, hfall]
      · exact (Option.some.inj hlow).symm

/-! ## The whole verdict -/

/-- Increasing ticks of 64 bits are not more than there are of them. -/
theorem length_le_of_ticks {edges : List Edge} (h : (edges.map Edge.tick).Pairwise (· < ·)) :
    edges.length ≤ 2 ^ 64 := by
  have hnodup : (edges.map fun x => x.tick.toNat).Nodup := by
    rw [List.Nodup, List.pairwise_map]
    rw [List.pairwise_map] at h
    exact h.imp fun hlt => Nat.ne_of_lt (UInt64.lt_iff_toNat_lt.mp hlt)
  have hsubset : (edges.map fun x => x.tick.toNat) ⊆ List.range (2 ^ 64) := by
    intro t ht
    obtain ⟨x, -, rfl⟩ := List.mem_map.mp ht
    exact List.mem_range.mpr x.tick.toNat_lt
  have hle := (List.subperm_of_subset hnodup hsubset).length_le
  rwa [List.length_map, List.length_range] at hle

theorem Exposures.count_lt {k : Nat} {edges : List Edge} (h : Exposures k edges) : k < 2 ^ 64 := by
  have hle := length_le_of_ticks h.ticks
  have htwice := congrArg List.length h.levels
  rw [List.length_map, length_exposureLevels] at htwice
  omega

theorem Exposures.rises {k : Nat} {edges : List Edge} (h : Exposures k edges) :
    edges.countP (fun x => x.level ≠ 0) = k := by
  have hmap : edges.countP (fun x => x.level ≠ 0) =
      (edges.map Edge.level).countP (fun l => l ≠ 0) :=
    (List.countP_map (p := fun l => decide (l ≠ 0)) (f := Edge.level)).symm
  rw [hmap, h.levels, (countP_exposureLevels k).1]

/-- **Exposures and frames.**  Whatever else stands in the log: the exposures are complete exactly if
the edges of the channel are those of `k` exposures, at least one; and if all is well `k` is the
number of frames, and of the rises of the trigger where one is used. -/
theorem exposure_check (channel : UInt64) (records : List EdgeRecord) (log : SensorSyncQuality) :
    let q : SensorSyncQuality :=
      { log with
        exposure := (inspectRecords channel records).exposure
        trigger := (inspectRecords channel records).trigger }
    (q.exposureComplete = true ↔ ∃ k, 1 ≤ k ∧ Exposures k (edgesOf channel true records)) ∧
    (q.ok = true → ∃ k, 1 ≤ k ∧ Exposures k (edgesOf channel true records) ∧ k = q.frames.toNat ∧
      (q.externallyTriggered = true →
        (edgesOf channel false records).countP (fun x => x.level ≠ 0) = k)) := by
  obtain ⟨hexposure, htrigger⟩ := inspectRecords_edges channel records
  intro q
  have hcomplete : q.exposureComplete = true ↔
      ∃ k, 1 ≤ k ∧ Exposures k (edgesOf channel true records) := by
    rw [← complete_iff fun x hx => level_of_mem_edgesOf hx, ← hexposure]
    unfold SensorSyncQuality.exposureComplete
    simp only [Bool.and_eq_true, beq_iff_eq, and_assoc]
    exact Iff.rfl
  refine ⟨hcomplete, fun hok => ?_⟩
  unfold SensorSyncQuality.ok at hok
  simp only [Bool.and_eq_true, beq_iff_eq] at hok
  obtain ⟨⟨⟨⟨-, htriggers⟩, hexposures⟩, hcounts⟩, hmissing⟩ := hok
  obtain ⟨k, hk, h⟩ := hcomplete.1 hexposures
  have hrises : q.exposure.rises = UInt64.ofNat k := by
    have hcount := (counts_observeAll (edgesOf channel true records)).1
    rw [h.rises, ← hexposure] at hcount
    exact hcount
  have htoNat : q.exposure.rises.toNat = k := by
    rw [hrises, UInt64.toNat_ofNat_of_lt' h.count_lt]
  unfold SensorSyncQuality.countsReconciled at hcounts
  split_ifs at hcounts
  simp only [Bool.and_eq_true, beq_iff_eq, hmissing, Bool.or_eq_true, Bool.not_eq_true'] at hcounts
  obtain ⟨⟨-, hframes⟩, hsame⟩ := hcounts
  refine ⟨k, hk, h, ?_, fun hexternal => ?_⟩
  · rw [← htoNat, hframes]
    exact congrArg UInt64.toNat (UInt64.add_zero _)
  · have hsame := hsame.resolve_left (by rw [hexternal]; decide)
    simp only [hexternal, Bool.not_true, Bool.false_or, Bool.and_eq_true] at htriggers
    have hvalid : (observeAll (edgesOf channel false records)).valid = true := by
      rw [← htrigger]
      exact htriggers.1.2
    have hticks := (isChain_follows_iff.1 ((valid_observeAll _).1 hvalid).2).2.1
    have hcount := (counts_observeAll (edgesOf channel false records)).1
    rw [← htrigger, hsame, hrises] at hcount
    have hmod := congrArg UInt64.toNat hcount
    rw [UInt64.toNat_ofNat_of_lt' h.count_lt, UInt64.toNat_ofNat'] at hmod
    have hlength := length_le_of_ticks hticks
    have hfew : (edgesOf channel false records).countP (fun x => x.level ≠ 0) ≤
        (edgesOf channel false records).length := List.countP_le_length
    generalize (edgesOf channel false records).countP (fun x => x.level ≠ 0) = n at hmod hfew ⊢
    -- no wrap but a full one, and then there is no exposure
    omega

end SensorSync
end AmigaDrivers
