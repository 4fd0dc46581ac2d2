import AmigaDrivers.App.TelemetryCsv
import AmigaDrivers.Common.Double
import AmigaDrivers.Foundation.Runs
import Mathlib.Algebra.BigOperators.Group.List.Basic
import Mathlib.Order.Bounds.Basic
import Mathlib.Order.WithBot

/-!
# The track of a session

`read_track` reads the route of a whole session from its telemetry.  Rows that cannot be joined to
the row before them start another segment, and when there are too many points for the display every
segment is thinned, as often as it takes.

* `thin`, `addPoint`, `readRow`, `readTrack`: the reader.
* `runs`: what the segments stand for, said without the loop.
* `Kept`: what thinning leaves of a run.
* `track_of_accepted`: **what is displayed** of a file that is accepted.
-/

namespace AmigaDrivers
namespace App
namespace TelemetryTrack

open TelemetryCsv
open Lines (lines unfinished readline readlines)

/-- `MAX_TRACK_BYTES`. -/
def maxTrackBytes : Nat := 512 * 1024 * 1024

/-- `MAX_TRACK_ROWS`. -/
def maxTrackRows : Nat := 5000000

/-- `MAX_TRACK_POINTS`. -/
def maxTrackPoints : Nat := 10000

/-- `MAX_TRACK_SEGMENTS`. -/
def maxTrackSegments : Nat := 1000

/-- `TRACK_GAP_NS`. -/
def trackGapNs : Int := 2000000000

/-- Latitude and longitude. -/
abbrev Point : Type := ℚ × ℚ

/-- Why a track is not displayed. -/
inductive TrackError
  | cancelled
  | tooLarge
  | header
  | columns (text : String)
  | scanLimit
  | oversizedRow
  | tooManySections
  | pointBudget
  | changed
  | noCoordinates
  deriving DecidableEq

/-- What the exception says. -/
def TrackError.text : TrackError → String
  | .cancelled => ""
  | .tooLarge =>
    "Track CSV exceeds the 512 MiB history display limit; no partial range is shown"
  | .header => "Incomplete or oversized AsteRx track header"
  | .columns text => text
  | .scanLimit =>
    "Track CSV exceeds the history display scan limit; no partial range is shown"
  | .oversizedRow => "Oversized AsteRx track row; no partial range is shown"
  | .tooManySections =>
    "Track has too many disconnected sections for display; no partial range is shown"
  | .pointBudget =>
    "Track sections exceed the display point budget; no partial range is shown"
  | .changed => "Track CSV changed while reading; retry after recording has stopped"
  | .noCoordinates => "No valid timestamped coordinates in this recording"

/-- `_fingerprint`. -/
structure Fingerprint where
  device : Nat
  inode : Nat
  size : Nat
  mtimeNs : Nat
  deriving DecidableEq

/-- The file as it is met: what is read from it, what `fstat` says before and after, and what `stat`
says of its path after. -/
structure TrackFile where
  content : List UInt8
  initial : Fingerprint
  final : Fingerprint
  path : Fingerprint

/-- `SessionTrack`. -/
structure SessionTrack where
  segments : List (List Point)
  bounds : (WithTop ℚ × WithTop ℚ) × (WithBot ℚ × WithBot ℚ)
  rows : Nat
  validPoints : Nat
  displayedPoints : Nat
  skippedRows : Nat
  partialRows : Nat
  breaks : Nat
  simplified : Bool

/-- The variables of `read_track`. -/
structure Track where
  segments : List (List Point) := []
  rows : Nat := 0
  valid : Nat := 0
  displayed : Nat := 0
  skipped : Nat := 0
  partials : Nat := 0
  breaks : Nat := 0
  simplified : Bool := false
  previousNs : Option Int := none
  connected : Bool := false
  south : WithTop ℚ := ⊤
  west : WithTop ℚ := ⊤
  north : WithBot ℚ := ⊥
  east : WithBot ℚ := ⊥

/-! ## Points -/

section Read

-- `int` and `float` of a text, where they do not raise, and what the decoder's exception says
variable (toInt : String → Option Int) (toFloat : String → Option Double)
  (unicodeError : List UInt8 → String)

/-- `float`, where it is finite. -/
def toFinite (text : String) : Option ℚ :=
  match toFloat text with
  | some (.finite value) => some value
  | _ => none

/-- `_point`. -/
def point (columns : List String) (raw : List UInt8) : Option (Int × Point) := do
  let fields ← csvFields raw columns
  let stamp ← fields[columns.idxOf "host_unix_ns"]? >>= toInt
  let lat ← fields[columns.idxOf "lat_deg"]? >>= toFinite toFloat
  let lon ← fields[columns.idxOf "lon_deg"]? >>= toFinite toFloat
  if stamp ≤ 0 then none
  else if -90 ≤ lat ∧ lat ≤ 90 ∧ -180 ≤ lon ∧ lon ≤ 180 then some (stamp, (lat, lon))
  else none

/-! ## Segments -/

/-- `points[::2]`. -/
def everySecond : List Point → List Point
  | [] => []
  | [p] => [p]
  | p :: _ :: points => p :: everySecond points

/-- The body of the loop of `_thin`. -/
def thinSegment (points : List Point) : List Point :=
  if 2 < points.length then
    if points.length % 2 = 0 then everySecond points ++ points.getLast?.toList
    else everySecond points
  else points

/-- `_thin`, without its result. -/
def thin (segments : List (List Point)) : List (List Point) := segments.map thinSegment

/-- `sum(len(points) for points in segments)`. -/
def pointCount (segments : List (List Point)) : Nat := (segments.map List.length).sum

/-- The part of `read_track` that appends a point to the last segment. -/
def addPoint (t : Track) (p : Point) : Except TrackError Track :=
  let points := t.segments.getLast?.getD []
  if points.getLast? = some p then .ok t
  else
    let t := { t with
      segments := t.segments.dropLast ++ [points ++ [p]], displayed := t.displayed + 1 }
    if maxTrackPoints < t.displayed then
      let segments := thin t.segments
      let t := { t with segments, displayed := pointCount segments, simplified := true }
      if maxTrackPoints < t.displayed then .error .pointBudget else .ok t
    else .ok t

/-- Whether the route is drawn from the row before. -/
def stillConnected (t : Track) (stamp : Int) : Bool :=
  match t.previousNs with
  | some previous => t.connected && !(stamp < previous || stamp - previous > trackGapNs)
  | none => t.connected

/-- What `read_track` does with a valid row. -/
def addRow (t : Track) (stamp : Int) (p : Point) : Except TrackError Track := do
  let t := { t with
    valid := t.valid + 1
    south := min t.south p.1, north := max t.north p.1
    west := min t.west p.2, east := max t.east p.2
    connected := stillConnected t stamp }
  let t ←
    if t.connected then pure t
    else if maxTrackSegments ≤ t.segments.length then .error .tooManySections
    else pure { t with
      breaks := if t.segments = [] then t.breaks else t.breaks + 1
      segments := t.segments ++ [[]], connected := true }
  let t ← addPoint t p
  pure { t with previousNs := some stamp }

/-- What `read_track` does with a row that is complete. -/
def readRow (columns : List String) (t : Track) (raw : List UInt8) : Except TrackError Track :=
  match point toInt toFloat columns raw with
  | none => .ok { t with skipped := t.skipped + 1, connected := false, previousNs := none }
  | some (stamp, p) => addRow t stamp p

/-- The loop of `read_track`.  `cancelled` is what `cancel.is_set()` says, time after time. -/
def readRows (columns : List String) (cancelled : Nat → Bool) :
    Track → Nat → List (List UInt8) → Except TrackError Track
  | t, _, [] => if cancelled (t.rows + 1) then .error .cancelled else .ok t
  | t, position, line :: rest =>
    let raw := line.take (maxRowBytes + 1)
    if cancelled (t.rows + 1) then .error .cancelled
    else if maxTrackRows < t.rows + 1 ∨ maxTrackBytes < position + raw.length then
      .error .scanLimit
    else if maxRowBytes < raw.length then .error .oversizedRow
    else if raw.getLast? = some newline then
      match readRow toInt toFloat columns { t with rows := t.rows + 1 } raw with
      | .error e => .error e
      | .ok t => readRows columns cancelled t (position + raw.length) rest
    else .ok { t with rows := t.rows + 1, partials := t.partials + 1 }

/-- The track that the variables give. -/
def Track.session (t : Track) : SessionTrack where
  segments := t.segments
  bounds := ((t.south, t.west), (t.north, t.east))
  rows := t.rows
  validPoints := t.valid
  displayedPoints := t.displayed
  skippedRows := t.skipped
  partialRows := t.partials
  breaks := t.breaks
  simplified := t.simplified

/-- `read_track`. -/
def readTrack (cancelled : Nat → Bool) (file : TrackFile) : Except TrackError SessionTrack :=
  let header := (readline newline file.content).take (maxRowBytes + 1)
  if cancelled 0 then .error .cancelled
  else if maxTrackBytes < file.initial.size then .error .tooLarge
  else if maxRowBytes < header.length ∨ header.getLast? ≠ some newline then .error .header
  else
    match csvHeader unicodeError .insNavGeod header with
    | .error e => .error (.columns e)
    | .ok columns =>
      match readRows toInt toFloat columns cancelled {} header.length
          (readlines newline (file.content.drop header.length)) with
      | .error e => .error e
      | .ok t =>
        if file.final ≠ file.initial ∨ file.path ≠ file.initial then .error .changed
        else if cancelled (t.rows + 2) then .error .cancelled
        else if t.valid = 0 then .error .noCoordinates
        else .ok t.session

end Read

/-! ## What the segments stand for -/

/-- A row that is valid, and which one it is. -/
structure ValidRow where
  index : Nat
  stamp : Int
  point : Point
  deriving DecidableEq

/-- What complete rows give, in order. -/
abbrev RowValues : Type := List (Option (Int × Point))

/-- The rows that are valid. -/
def validRows (values : RowValues) : List ValidRow :=
  values.zipIdx.filterMap fun value => value.1.map fun v => ⟨value.2, v.1, v.2⟩

/-- Two valid rows are joined: no row lies between them, and the time of the host neither goes back
nor jumps. -/
def joined (a b : ValidRow) : Bool :=
  b.index = a.index + 1 && a.stamp ≤ b.stamp && b.stamp - a.stamp ≤ trackGapNs

/-- The runs of rows that are joined. -/
def runs (values : RowValues) : List (List ValidRow) := (validRows values).splitBy joined

/-- What is displayed of a run: some of its points in order, with the first and the last. -/
structure Kept (run : List ValidRow) (segment : List Point) : Prop where
  sublist : segment.Sublist (run.map ValidRow.point)
  first : segment.head? = (run.map ValidRow.point).head?
  last : segment.getLast? = (run.map ValidRow.point).getLast?

theorem validRows_concat (values : RowValues) (value : Option (Int × Point)) :
    validRows (values ++ [value]) =
      validRows values ++ (value.map fun v => ⟨values.length, v.1, v.2⟩).toList := by
  unfold validRows
  rw [List.zipIdx_append, List.filterMap_append, Nat.zero_add]
  cases value <;> rfl

/-! ## Thinning -/

theorem length_everySecond (points : List Point) :
    (everySecond points).length = (points.length + 1) / 2 := by
  induction points using everySecond.induct with
  | case1 => rfl
  | case2 p => simp [everySecond]
  | case3 p q points ih =>
    rw [everySecond, List.length_cons, ih, List.length_cons, List.length_cons]
    omega

theorem everySecond_sublist (points : List Point) : (everySecond points).Sublist points := by
  induction points using everySecond.induct with
  | case1 => exact List.Sublist.refl _
  | case2 p => exact List.Sublist.refl _
  | case3 p q points ih => exact (ih.cons q).cons_cons p

theorem head_everySecond (points : List Point) : (everySecond points).head? = points.head? := by
  induction points using everySecond.induct with
  | case1 => rfl
  | case2 p => rfl
  | case3 p q points _ => rfl

/-- Two points at the start do not change the last one. -/
theorem getLast_cons_cons {points : List Point} (h : points ≠ []) (p q : Point) :
    (p :: q :: points).getLast? = points.getLast? := by
  obtain ⟨z, hz⟩ := Option.ne_none_iff_exists'.mp (mt List.getLast?_eq_none_iff.mp h)
  rw [List.getLast?_cons, List.getLast?_cons, hz]
  rfl

/-- The last point of an odd number of them is kept. -/
theorem getLast_everySecond {points : List Point} (h : points.length % 2 = 1) :
    (everySecond points).getLast? = points.getLast? := by
  induction points using everySecond.induct with
  | case1 => rfl
  | case2 p => rfl
  | case3 p q points ih =>
    rw [List.length_cons, List.length_cons] at h
    have hne : points ≠ [] := by
      rintro rfl
      simp at h
    obtain ⟨z, hz⟩ := Option.ne_none_iff_exists'.mp (mt List.getLast?_eq_none_iff.mp hne)
    rw [getLast_cons_cons hne, everySecond, List.getLast?_cons, ih (by omega), hz]
    rfl

/-- The last point of an even number of them can be appended. -/
theorem everySecond_append_sublist {points : List Point} (h : points.length % 2 = 0) :
    (everySecond points ++ points.getLast?.toList).Sublist points := by
  induction points using everySecond.induct with
  | case1 => exact List.Sublist.refl _
  | case2 p => simp at h
  | case3 p q points ih =>
    rw [List.length_cons, List.length_cons] at h
    by_cases hne : points = []
    · rw [hne]
      exact List.Sublist.refl _
    · rw [getLast_cons_cons hne, everySecond, List.cons_append]
      exact ((ih (by omega)).cons q).cons_cons p

theorem thinSegment_sublist (points : List Point) : (thinSegment points).Sublist points := by
  unfold thinSegment
  split_ifs with hlong heven
  · exact everySecond_append_sublist heven
  · exact everySecond_sublist points
  · exact List.Sublist.refl _

theorem head_thinSegment (points : List Point) : (thinSegment points).head? = points.head? := by
  unfold thinSegment
  split_ifs with hlong heven
  · rw [List.head?_append_of_ne_nil, head_everySecond]
    intro hnil
    have hlength := length_everySecond points
    rw [hnil, List.length_nil] at hlength
    omega
  · exact head_everySecond points
  · rfl

theorem getLast_thinSegment (points : List Point) :
    (thinSegment points).getLast? = points.getLast? := by
  unfold thinSegment
  split_ifs with hlong heven
  · cases hlast : points.getLast? with
    | none =>
      rw [List.getLast?_eq_none_iff.mp hlast, List.length_nil] at hlong
      exact absurd hlong (by decide)
    | some p => exact List.getLast?_concat
  · exact getLast_everySecond (by omega)
  · rfl

/-- A segment that is thinned is about half as long. -/
theorem length_thinSegment (points : List Point) :
    2 * (thinSegment points).length ≤ points.length + 2 := by
  unfold thinSegment
  split_ifs with hlong heven
  · have htail : points.getLast?.toList.length ≤ 1 := by
      cases points.getLast? <;> simp
    rw [List.length_append, length_everySecond]
    omega
  · rw [length_everySecond]
    omega
  · omega

/-- **Thinning a segment keeps what a run needs.** -/
theorem Kept.thin {run : List ValidRow} {segment : List Point} (h : Kept run segment) :
    Kept run (thinSegment segment) where
  sublist := (thinSegment_sublist segment).trans h.sublist
  first := (head_thinSegment segment).trans h.first
  last := (getLast_thinSegment segment).trans h.last

/-- **Thinning is enough for the display**, as there are not too many segments. -/
theorem pointCount_thin (segments : List (List Point)) :
    2 * pointCount (thin segments) ≤ pointCount segments + 2 * segments.length := by
  unfold pointCount thin
  induction segments with
  | nil => exact Nat.le_refl _
  | cons segment segments ih =>
    have hsegment := length_thinSegment segment
    simp only [List.map_cons, List.sum_cons, List.length_cons] at ih ⊢
    omega

theorem forall₂_thin {groups : List (List ValidRow)} {segments : List (List Point)}
    (h : List.Forall₂ Kept groups segments) : List.Forall₂ Kept groups (thin segments) := by
  induction h with
  | nil => exact .nil
  | cons hkept _ ih => exact .cons hkept.thin ih

/-! ## Reading rows -/

/-- A run with one more row, of which a point is appended unless it is the last one already. -/
theorem Kept.concat {run : List ValidRow} {segment : List Point} (h : Kept run segment)
    (hne : run ≠ []) (row : ValidRow) :
    Kept (run ++ [row])
      (if segment.getLast? = some row.point then segment else segment ++ [row.point]) := by
  have hmap : (run ++ [row]).map ValidRow.point = run.map ValidRow.point ++ [row.point] := by
    rw [List.map_append]
    rfl
  have hrun : run.map ValidRow.point ≠ [] := mt List.map_eq_nil_iff.mp hne
  have hhead : (run.map ValidRow.point ++ [row.point]).head? = (run.map ValidRow.point).head? :=
    List.head?_append_of_ne_nil _ hrun
  constructor
  · rw [hmap]
    split_ifs
    · exact h.sublist.trans (List.sublist_append_left _ _)
    · exact h.sublist.append_right _
  · rw [hmap, hhead, ← h.first]
    split_ifs
    · rfl
    · rw [List.head?_append_of_ne_nil]
      intro hnil
      have hfirst := h.first
      rw [hnil] at hfirst
      exact hrun (List.head?_eq_none_iff.mp hfirst.symm)
  · rw [hmap, List.getLast?_concat]
    split_ifs with hlast
    · exact hlast
    · exact List.getLast?_concat

/-- A run of one row. -/
theorem Kept.single (row : ValidRow) : Kept [row] [row.point] :=
  ⟨List.Sublist.refl _, rfl, rfl⟩

/-- The points of the rows that are valid. -/
def validPoints (values : RowValues) : List Point := (validRows values).map ValidRow.point

/-- Some values, and the one that stands for none. -/
def withNone {β : Type} (none : β) (f : ℚ → β) (values : List ℚ) : Set β :=
  insert none {y | ∃ x ∈ values, f x = y}

theorem withNone_concat {β : Type} (none : β) (f : ℚ → β) (values : List ℚ) (x : ℚ) :
    withNone none f (values ++ [x]) = insert (f x) (withNone none f values) := by
  unfold withNone
  ext y
  simp only [List.mem_append, List.mem_singleton, Set.mem_insert_iff, Set.mem_ofPred_eq]
  constructor
  · rintro (rfl | ⟨z, hz | rfl, rfl⟩)
    · exact .inr (.inl rfl)
    · exact .inr (.inr ⟨z, hz, rfl⟩)
    · exact .inl rfl
  · rintro (rfl | rfl | ⟨z, hz, rfl⟩)
    · exact .inr ⟨x, .inr rfl, rfl⟩
    · exact .inl rfl
    · exact .inr ⟨z, .inl hz, rfl⟩

theorem withNone_nil {β : Type} (none : β) (f : ℚ → β) : withNone none f [] = {none} := by
  unfold withNone
  ext y
  simp

/-- The least of the values that have been read. -/
def Least (values : List ℚ) (least : WithTop ℚ) : Prop := IsLeast (withNone ⊤ (↑) values) least

/-- The greatest of them. -/
def Greatest (values : List ℚ) (greatest : WithBot ℚ) : Prop :=
  IsGreatest (withNone ⊥ (↑) values) greatest

theorem least_nil : Least [] ⊤ := by
  unfold Least
  rw [withNone_nil]
  exact isLeast_singleton

theorem greatest_nil : Greatest [] ⊥ := by
  unfold Greatest
  rw [withNone_nil]
  exact isGreatest_singleton

theorem Least.concat {values : List ℚ} {least : WithTop ℚ} (h : Least values least) (x : ℚ) :
    Least (values ++ [x]) (min least x) := by
  unfold Least
  rw [withNone_concat, min_comm]
  exact IsLeast.insert _ h

theorem Greatest.concat {values : List ℚ} {greatest : WithBot ℚ} (h : Greatest values greatest)
    (x : ℚ) : Greatest (values ++ [x]) (max greatest x) := by
  unfold Greatest
  rw [withNone_concat, max_comm]
  exact IsGreatest.insert _ h

/-- Where there are values, the least one is among them. -/
theorem Least.exists {values : List ℚ} {least : WithTop ℚ} (h : Least values least)
    (hne : values ≠ []) : ∃ x : ℚ, least = x ∧ IsLeast {y | y ∈ values} x := by
  obtain ⟨hmem, hlower⟩ := h
  obtain ⟨first, hfirst⟩ := List.exists_mem_of_ne_nil values hne
  have hle : least ≤ first := hlower (.inr ⟨first, hfirst, rfl⟩)
  rcases hmem with rfl | ⟨x, hx, rfl⟩
  · exact absurd (top_le_iff.mp hle) (WithTop.coe_ne_top)
  · refine ⟨x, rfl, hx, fun y hy => ?_⟩
    exact WithTop.coe_le_coe.mp (hlower (.inr ⟨y, hy, rfl⟩))

theorem Greatest.exists {values : List ℚ} {greatest : WithBot ℚ} (h : Greatest values greatest)
    (hne : values ≠ []) : ∃ x : ℚ, greatest = x ∧ IsGreatest {y | y ∈ values} x := by
  obtain ⟨hmem, hupper⟩ := h
  obtain ⟨first, hfirst⟩ := List.exists_mem_of_ne_nil values hne
  have hle : (first : WithBot ℚ) ≤ greatest := hupper (.inr ⟨first, hfirst, rfl⟩)
  rcases hmem with rfl | ⟨x, hx, rfl⟩
  · exact absurd (le_bot_iff.mp hle) (WithBot.coe_ne_bot)
  · refine ⟨x, rfl, hx, fun y hy => ?_⟩
    exact WithBot.coe_le_coe.mp (hupper (.inr ⟨y, hy, rfl⟩))

/-- What the segments and their counters are for some runs. -/
structure Drawn (groups : List (List ValidRow)) (t : Track) : Prop where
  kept : List.Forall₂ Kept groups t.segments
  displayed : t.displayed = pointCount t.segments
  points_le : t.displayed ≤ maxTrackPoints
  segments_le : t.segments.length ≤ maxTrackSegments

/-- **What the variables of the loop are**, once some rows have been read. -/
structure Reading (values : RowValues) (t : Track) : Prop extends Drawn (runs values) t where
  rows : t.rows = values.length
  valid : t.valid = (validRows values).length
  skipped : t.skipped = values.countP Option.isNone
  partials : t.partials = 0
  previous : t.previousNs = values.getLast?.join.map Prod.fst
  connected : t.connected = values.getLast?.join.isSome
  south : Least ((validPoints values).map Prod.fst) t.south
  west : Least ((validPoints values).map Prod.snd) t.west
  north : Greatest ((validPoints values).map Prod.fst) t.north
  east : Greatest ((validPoints values).map Prod.snd) t.east

theorem reading_nil : Reading [] {} where
  kept := .nil
  displayed := rfl
  points_le := Nat.zero_le _
  segments_le := Nat.zero_le _
  rows := rfl
  valid := rfl
  skipped := rfl
  partials := rfl
  previous := rfl
  connected := rfl
  south := least_nil
  west := least_nil
  north := greatest_nil
  east := greatest_nil

theorem pointCount_append (segments more : List (List Point)) :
    pointCount (segments ++ more) = pointCount segments + pointCount more := by
  unfold pointCount
  rw [List.map_append, List.sum_append]

/-- **A point is appended, and there is always room for it.** -/
theorem addPoint_eq {groups : List (List ValidRow)} {segments : List (List Point)}
    {segment : List Point} {t : Track} {p : Point} (hsegments : t.segments = segments ++ [segment])
    (hkept : List.Forall₂ Kept groups
      (segments ++ [if segment.getLast? = some p then segment else segment ++ [p]]))
    (hdisplayed : t.displayed = pointCount t.segments) (hpoints : t.displayed ≤ maxTrackPoints)
    (hcount : t.segments.length ≤ maxTrackSegments) :
    ∃ segments displayed simplified,
      addPoint t p = .ok { t with segments, displayed, simplified } ∧
        Drawn groups { t with segments, displayed, simplified } := by
  unfold addPoint
  rw [hsegments, List.getLast?_concat, List.dropLast_concat, Option.getD_some]
  by_cases hlast : segment.getLast? = some p
  · rw [if_pos hlast] at hkept ⊢
    refine ⟨t.segments, t.displayed, t.simplified, rfl, ?_, hdisplayed, hpoints, hcount⟩
    rw [hsegments]
    exact hkept
  · rw [if_neg hlast] at hkept ⊢
    dsimp only
    have hnew : t.displayed + 1 = pointCount (segments ++ [segment ++ [p]]) := by
      rw [hdisplayed, hsegments, pointCount_append, pointCount_append]
      unfold pointCount
      simp only [List.map_cons, List.map_nil, List.sum_cons, List.sum_nil, List.length_append,
        List.length_singleton]
      omega
    have hlength : (segments ++ [segment ++ [p]]).length ≤ maxTrackSegments := by
      rw [hsegments] at hcount
      simpa only [List.length_append, List.length_singleton] using hcount
    by_cases hmany : maxTrackPoints < t.displayed + 1
    · have hthin := pointCount_thin (segments ++ [segment ++ [p]])
      have hroom : pointCount (thin (segments ++ [segment ++ [p]])) ≤ maxTrackPoints := by
        unfold maxTrackPoints at hpoints hmany ⊢
        unfold maxTrackSegments at hlength
        omega
      rw [if_pos hmany, if_neg (Nat.not_lt.mpr hroom)]
      refine ⟨_, _, _, rfl, forall₂_thin hkept, rfl, hroom, ?_⟩
      unfold thin
      rw [List.length_map]
      exact hlength
    · rw [if_neg hmany]
      exact ⟨_, _, _, rfl, hkept, hnew, Nat.not_lt.mp hmany, hlength⟩

/-- The row before, if it is valid, is the last one that is. -/
theorem getLast_validRows {values : RowValues} {value : Int × Point}
    (h : values.getLast?.join = some value) :
    (validRows values).getLast? = some ⟨values.length - 1, value.1, value.2⟩ := by
  rcases List.eq_nil_or_concat values with rfl | ⟨before, last, rfl⟩
  · exact nomatch h
  · rw [List.concat_eq_append, List.getLast?_concat] at h
    obtain rfl : last = some value := h
    rw [List.concat_eq_append, validRows_concat, List.length_append]
    exact List.getLast?_concat

/-- The rows that are valid come before the next one. -/
theorem index_lt_of_mem {values : RowValues} {row : ValidRow} (h : row ∈ validRows values) :
    row.index < values.length := by
  unfold validRows at h
  obtain ⟨⟨value, index⟩, hmem, hrow⟩ := List.mem_filterMap.mp h
  obtain ⟨v, -, rfl⟩ := Option.map_eq_some_iff.mp hrow
  have hlt := List.snd_lt_of_mem_zipIdx hmem
  omega

/-- A row behind one that is not valid joins nothing. -/
theorem not_joined_of_none {values : RowValues} (h : values.getLast?.join = none) (stamp : Int)
    (p : Point) :
    ∀ row ∈ (validRows values).getLast?, joined row ⟨values.length, stamp, p⟩ = false := by
  intro row hrow
  have hne : values.length ≠ row.index + 1 := by
    rcases List.eq_nil_or_concat values with rfl | ⟨before, last, rfl⟩
    · exact nomatch hrow
    · rw [List.concat_eq_append, List.getLast?_concat] at h
      obtain rfl : last = none := h
      rw [List.concat_eq_append, validRows_concat, Option.map_none, Option.toList_none,
        List.append_nil] at hrow
      have hlt := index_lt_of_mem (List.mem_of_mem_getLast? hrow)
      rw [List.concat_eq_append, List.length_append, List.length_singleton]
      omega
  unfold joined
  simp [hne]

variable {t : Track} {values : RowValues}

/-- **Whether a row is joined** is what the loop keeps in its variables. -/
theorem Reading.stillConnected_iff (h : Reading values t) (stamp : Int) (p : Point) :
    stillConnected t stamp = true ↔
      ∃ row, (validRows values).getLast? = some row ∧
        joined row ⟨values.length, stamp, p⟩ = true := by
  unfold stillConnected
  rw [h.previous, h.connected]
  cases hlast : values.getLast?.join with
  | none =>
    constructor
    · exact nofun
    · rintro ⟨row, hrow, hjoined⟩
      rw [not_joined_of_none hlast stamp p row hrow] at hjoined
      exact nomatch hjoined
  | some value =>
    have hrow := getLast_validRows hlast
    have hlength : values.length = values.length - 1 + 1 := by
      rcases List.eq_nil_or_concat values with rfl | ⟨before, last, rfl⟩
      · exact nomatch hlast
      · rw [List.concat_eq_append, List.length_append, List.length_singleton]
        omega
    rw [hrow]
    simp only [Option.map_some, Option.isSome_some, Bool.true_and, Option.some.injEq,
      exists_eq_left', joined, ← hlength, decide_true]
    simp

/-- The variables once a valid row has been drawn. -/
theorem Reading.of_drawn (h : Reading values t) {stamp : Int} {p : Point} {u : Track}
    (hdrawn : Drawn (runs (values ++ [some (stamp, p)])) u) (hrows : u.rows = t.rows + 1)
    (hvalid : u.valid = t.valid + 1) (hskipped : u.skipped = t.skipped)
    (hpartials : u.partials = t.partials) (hconnected : u.connected = true)
    (hnorth : u.south = min t.south p.1 ∧ u.north = max t.north p.1)
    (heast : u.west = min t.west p.2 ∧ u.east = max t.east p.2) :
    Reading (values ++ [some (stamp, p)]) { u with previousNs := some stamp } := by
  have hvalidRows := validRows_concat values (some (stamp, p))
  have hpoints : validPoints (values ++ [some (stamp, p)]) = validPoints values ++ [p] := by
    unfold validPoints
    rw [hvalidRows, List.map_append]
    rfl
  constructor
  · exact ⟨hdrawn.kept, hdrawn.displayed, hdrawn.points_le, hdrawn.segments_le⟩
  · rw [List.length_append, ← h.rows]
    exact hrows
  · rw [hvalidRows, List.length_append, ← h.valid]
    exact hvalid
  · rw [List.countP_append, ← h.skipped]
    exact hskipped
  · exact hpartials.trans h.partials
  · rw [List.getLast?_concat]
    rfl
  · rw [List.getLast?_concat]
    exact hconnected
  · rw [hpoints, List.map_append]
    exact hnorth.1 ▸ h.south.concat p.1
  · rw [hpoints, List.map_append]
    exact heast.1 ▸ h.west.concat p.2
  · rw [hpoints, List.map_append]
    exact hnorth.2 ▸ h.north.concat p.1
  · rw [hpoints, List.map_append]
    exact heast.2 ▸ h.east.concat p.2

/-- **A valid row**: its point is in the segment of the row before, or starts another one. -/
theorem Reading.addRow (h : Reading values t) (stamp : Int) (p : Point) :
    (∃ t', addRow { t with rows := t.rows + 1 } stamp p = .ok t' ∧
      Reading (values ++ [some (stamp, p)]) t') ∨
      addRow { t with rows := t.rows + 1 } stamp p = .error .tooManySections := by
  have hvalidRows := validRows_concat values (some (stamp, p))
  have hstill : stillConnected { t with rows := t.rows + 1 } stamp = stillConnected t stamp := rfl
  -- the variables before the point is appended
  let u : Track := { t with
    rows := t.rows + 1, valid := t.valid + 1
    south := min t.south p.1, north := max t.north p.1
    west := min t.west p.2, east := max t.east p.2, connected := true }
  unfold TelemetryTrack.addRow
  dsimp only
  rw [hstill]
  by_cases hconnected : stillConnected t stamp = true
  · obtain ⟨row, hrow, hjoined⟩ := (h.stillConnected_iff stamp p).mp hconnected
    obtain ⟨groups, group, hruns, hnext⟩ := Runs.splitBy_concat_of_joined hrow hjoined
    have hkept : List.Forall₂ Kept (groups ++ [group]) t.segments := hruns ▸ h.kept
    obtain ⟨segments, segment, hsegments, hbefore, hlast⟩ := Runs.forall₂_concat_left hkept
    have hgroup : group ≠ [] := by
      refine List.ne_nil_of_mem_splitBy (r := joined) (l := validRows values) ?_
      rw [hruns]
      exact List.mem_append_right _ List.mem_cons_self
    have hnext' : runs (values ++ [some (stamp, p)]) =
        groups ++ [group ++ [⟨values.length, stamp, p⟩]] := by
      unfold runs
      rw [hvalidRows]
      exact hnext
    have hdraw : List.Forall₂ Kept (runs (values ++ [some (stamp, p)]))
        (segments ++ [if segment.getLast? = some p then segment else segment ++ [p]]) := by
      rw [hnext']
      exact List.rel_append hbefore
        (.cons (hlast.concat hgroup ⟨values.length, stamp, p⟩) .nil)
    obtain ⟨segments', displayed, simplified, hadd, hdrawn⟩ := addPoint_eq (t := u) hsegments
      hdraw h.displayed h.points_le h.segments_le
    left
    rw [if_pos hconnected, hconnected]
    refine ⟨_, ?_, h.of_drawn hdrawn rfl rfl rfl rfl rfl ⟨rfl, rfl⟩ ⟨rfl, rfl⟩⟩
    show (addPoint u p >>= fun t => pure { t with previousNs := some stamp }) = _
    rw [hadd]
    rfl
  · rw [if_neg hconnected]
    by_cases hmany : maxTrackSegments ≤ t.segments.length
    · right
      rw [if_pos hmany]
      rfl
    · have hnone : ∀ row ∈ (validRows values).getLast?,
          joined row ⟨values.length, stamp, p⟩ = false := by
        intro row hrow
        by_contra hjoined
        exact hconnected ((h.stillConnected_iff stamp p).mpr
          ⟨row, hrow, Bool.eq_true_of_not_eq_false hjoined⟩)
      have hnext : runs (values ++ [some (stamp, p)]) =
          runs values ++ [[⟨values.length, stamp, p⟩]] := by
        unfold runs
        rw [hvalidRows]
        exact Runs.splitBy_concat_of_not_joined hnone
      let v : Track := { u with
        breaks := if t.segments = [] then t.breaks else t.breaks + 1
        segments := t.segments ++ [[]] }
      have hlength : (t.segments ++ [[]]).length ≤ maxTrackSegments := by
        rw [List.length_append, List.length_singleton]
        omega
      have hcount : t.displayed = pointCount (t.segments ++ [[]]) := by
        rw [pointCount_append]
        exact h.displayed
      have hdraw : List.Forall₂ Kept (runs (values ++ [some (stamp, p)]))
          (t.segments ++ [[p]]) := by
        rw [hnext]
        exact List.rel_append h.kept (.cons (Kept.single ⟨values.length, stamp, p⟩) .nil)
      obtain ⟨segments', displayed, simplified, hadd, hdrawn⟩ := addPoint_eq (t := v) (p := p) rfl
        hdraw hcount h.points_le hlength
      left
      rw [if_neg hmany]
      refine ⟨_, ?_, h.of_drawn hdrawn rfl rfl rfl rfl rfl ⟨rfl, rfl⟩ ⟨rfl, rfl⟩⟩
      show (addPoint v p >>= fun t => pure { t with previousNs := some stamp }) = _
      rw [hadd]
      rfl

section ReadRows

variable {toInt : String → Option Int} {toFloat : String → Option Double}
  {unicodeError : List UInt8 → String} {columns : List String} {cancelled : Nat → Bool}

/-- A row that is complete, valid or not. -/
theorem Reading.readRow (h : Reading values t) (raw : List UInt8) :
    (∃ t', readRow toInt toFloat columns { t with rows := t.rows + 1 } raw = .ok t' ∧
      Reading (values ++ [point toInt toFloat columns raw]) t') ∨
      readRow toInt toFloat columns { t with rows := t.rows + 1 } raw = .error .tooManySections := by
  unfold TelemetryTrack.readRow
  cases hpoint : point toInt toFloat columns raw with
  | some value => exact h.addRow value.1 value.2
  | none =>
    have hvalidRows : validRows (values ++ [none]) = validRows values := by
      rw [validRows_concat]
      exact List.append_nil _
    have hruns : runs (values ++ [none]) = runs values := by
      unfold runs
      rw [hvalidRows]
    have hpoints : validPoints (values ++ [none]) = validPoints values := by
      unfold validPoints
      rw [hvalidRows]
    refine .inl ⟨_, rfl, ⟨hruns ▸ h.kept, h.displayed, h.points_le, h.segments_le⟩, ?_, ?_, ?_,
      h.partials, ?_, ?_, hpoints ▸ h.south, hpoints ▸ h.west, hpoints ▸ h.north,
      hpoints ▸ h.east⟩
    · rw [List.length_append, ← h.rows]
      rfl
    · rw [hvalidRows]
      exact h.valid
    · rw [List.countP_append, ← h.skipped]
      rfl
    · rw [List.getLast?_concat]
      rfl
    · rw [List.getLast?_concat]
      rfl

/-- A row that is cut off at the end of the file. -/
def addPartial (t : Track) (tail : List (List UInt8)) : Track :=
  if tail = [] then t else { t with rows := t.rows + 1, partials := t.partials + 1 }

theorem addPartial_valid (t : Track) (tail : List (List UInt8)) :
    (addPartial t tail).valid = t.valid := by
  unfold addPartial
  split_ifs <;> rfl

/-- How the loop ends: with all rows, or with an error that is not the one of the point budget. -/
def Ends (values : RowValues) (tail : List (List UInt8)) (result : Except TrackError Track) : Prop :=
  (∃ u, Reading values u ∧ result = .ok (addPartial u tail)) ∨
    ∃ e, e ≠ .pointBudget ∧ result = .error e

theorem Ends.error {tail : List (List UInt8)} {e : TrackError} (h : e ≠ .pointBudget) :
    Ends values tail (.error e) := .inr ⟨e, h, rfl⟩

/-- **The loop reads every complete row**, and what is cut off behind them. -/
theorem Reading.readRows (h : Reading values t) {ls tail : List (List UInt8)}
    (hls : ∀ line ∈ ls, newline ∉ line)
    (htail : tail = [] ∨ ∃ line, tail = [line] ∧ newline ∉ line) (position : Nat) :
    Ends (values ++ ls.map fun line => point toInt toFloat columns (line ++ [newline])) tail
      (readRows toInt toFloat columns cancelled t position
        (ls.map (· ++ [newline]) ++ tail)) := by
  induction ls generalizing values t position with
  | nil =>
    rw [List.map_nil, List.append_nil, List.map_nil, List.nil_append]
    rcases htail with rfl | ⟨line, rfl, hline⟩
    · rw [TelemetryTrack.readRows]
      split_ifs
      · exact .error nofun
      · exact .inl ⟨t, h, rfl⟩
    · have hlast : (line.take (maxRowBytes + 1)).getLast? ≠ some newline := fun hlast =>
        hline (List.mem_of_mem_take (List.mem_of_getLast? hlast))
      rw [TelemetryTrack.readRows]
      rw [if_neg hlast]
      split_ifs
      · exact .error nofun
      · exact .error nofun
      · exact .error nofun
      · exact .inl ⟨t, h, rfl⟩
  | cons line ls ih =>
    rw [List.map_cons, List.map_cons, List.cons_append, TelemetryTrack.readRows]
    by_cases hlong : maxRowBytes < ((line ++ [newline]).take (maxRowBytes + 1)).length
    · rw [if_pos hlong]
      split_ifs
      · exact .error nofun
      · exact .error nofun
      · exact .error nofun
    · have hraw : (line ++ [newline]).take (maxRowBytes + 1) = line ++ [newline] := by
        rw [List.length_take] at hlong
        exact List.take_of_length_le (by omega)
      rw [if_neg hlong, hraw, if_pos List.getLast?_concat]
      split_ifs
      · exact .error nofun
      · exact .error nofun
      · rcases h.readRow (line ++ [newline]) with ⟨u, hu, hreading⟩ | herror
        · rw [hu]
          have hrest := ih hreading (fun l hl => hls l (List.mem_cons_of_mem _ hl))
            (position + (line ++ [newline]).length)
          rw [List.append_assoc] at hrest
          exact hrest
        · rw [herror]
          exact .error nofun

end ReadRows

/-! ## The main result -/

section ReadTrack

variable (toInt : String → Option Int) (toFloat : String → Option Double)
  (unicodeError : List UInt8 → String) (cancelled : Nat → Bool)

/-- What follows the header. -/
def body (content : List UInt8) : List UInt8 :=
  content.drop (readline newline content).length

/-- What the complete rows of a file give. -/
def rowValues (columns : List String) (content : List UInt8) : RowValues :=
  (lines newline (body content)).map fun line => point toInt toFloat columns (line ++ [newline])

/-- **What is displayed**, for what the complete rows give and whether a row is cut off. -/
structure Displayed (values : RowValues) (cutOff : Nat) (track : SessionTrack) : Prop where
  runs : (runs values).flatten = validRows values ∧
    (∀ run ∈ runs values, run.IsChain fun a b => joined a b = true) ∧
    (runs values).IsChain fun a b => ∃ ha hb, joined (a.getLast ha) (b.head hb) = false
  segments : List.Forall₂ Kept (TelemetryTrack.runs values) track.segments
  bounds : ∃ south west north east : ℚ,
    track.bounds = ((↑south, ↑west), (↑north, ↑east)) ∧
    IsLeast {x | x ∈ (validPoints values).map Prod.fst} south ∧
    IsLeast {x | x ∈ (validPoints values).map Prod.snd} west ∧
    IsGreatest {x | x ∈ (validPoints values).map Prod.fst} north ∧
    IsGreatest {x | x ∈ (validPoints values).map Prod.snd} east
  rows : track.rows = track.validPoints + track.skippedRows + track.partialRows
  valid : track.validPoints = (validPoints values).length
  skipped : track.skippedRows = values.countP Option.isNone
  cutOff : track.partialRows = cutOff
  displayed : track.displayedPoints = (track.segments.map List.length).sum
  displayed_le : track.displayedPoints ≤ maxTrackPoints

/-- Neighbours are in one run exactly if they are joined. -/
theorem runs_joined (values : RowValues) : (runs values).flatten = validRows values ∧
    (∀ run ∈ runs values, run.IsChain fun a b => joined a b = true) ∧
    (runs values).IsChain fun a b => ∃ ha hb, joined (a.getLast ha) (b.head hb) = false :=
  ⟨List.flatten_splitBy _ _, fun _ => List.isChain_of_mem_splitBy,
    List.isChain_getLast_head_splitBy _ _⟩

theorem length_values (values : RowValues) :
    values.length = (validRows values).length + values.countP Option.isNone := by
  induction values using List.reverseRecOn with
  | nil => rfl
  | append_singleton values value ih =>
    rw [validRows_concat, List.length_append, List.length_append, List.countP_append, ih]
    cases value <;> simp <;> omega

/-- The variables at the end give what is displayed. -/
theorem Reading.session (h : Reading values t) {tail : List (List UInt8)} (hvalid : t.valid ≠ 0) :
    Displayed values (if tail = [] then 0 else 1) (addPartial t tail).session := by
  have hne : validPoints values ≠ [] := by
    intro hnil
    refine hvalid ?_
    rw [h.valid, List.map_eq_nil_iff.mp hnil]
    rfl
  have hrows := length_values values
  rw [← h.rows, ← h.valid, ← h.skipped] at hrows
  have hnone := h.partials
  obtain ⟨south, hsouth, hsouthLeast⟩ := h.south.exists (mt List.map_eq_nil_iff.mp hne)
  obtain ⟨west, hwest, hwestLeast⟩ := h.west.exists (mt List.map_eq_nil_iff.mp hne)
  obtain ⟨north, hnorth, hnorthGreatest⟩ := h.north.exists (mt List.map_eq_nil_iff.mp hne)
  obtain ⟨east, heast, heastGreatest⟩ := h.east.exists (mt List.map_eq_nil_iff.mp hne)
  have hbounds : ((t.south, t.west), (t.north, t.east)) =
      (((south : WithTop ℚ), (west : WithTop ℚ)), ((north : WithBot ℚ), (east : WithBot ℚ))) := by
    rw [hsouth, hwest, hnorth, heast]
  have hlength : t.valid = (validPoints values).length := by
    unfold validPoints
    rw [List.length_map]
    exact h.valid
  unfold addPartial
  split_ifs with htail
  · exact ⟨runs_joined values, h.kept, ⟨south, west, north, east, hbounds, hsouthLeast,
      hwestLeast, hnorthGreatest, heastGreatest⟩, by show t.rows = t.valid + t.skipped + t.partials; omega, hlength, h.skipped,
      h.partials, h.displayed, h.points_le⟩
  · exact ⟨runs_joined values, h.kept, ⟨south, west, north, east, hbounds, hsouthLeast,
      hwestLeast, hnorthGreatest, heastGreatest⟩, by show t.rows + 1 = t.valid + t.skipped + (t.partials + 1); omega, hlength,
      h.skipped, by show t.partials + 1 = 1; omega, h.displayed, h.points_le⟩

variable {toInt toFloat unicodeError cancelled} {file : TrackFile}

/-- **The track of a file that is accepted**, and that the point budget is never exceeded. -/
theorem track_of_accepted :
    (∀ track, readTrack toInt toFloat unicodeError cancelled file = .ok track →
      ∃ columns, csvHeader unicodeError .insNavGeod (readline newline file.content) = .ok columns ∧
        Displayed (rowValues toInt toFloat columns file.content)
          (if unfinished newline (body file.content) = [] then 0 else 1) track) ∧
    readTrack toInt toFloat unicodeError cancelled file ≠ .error .pointBudget := by
  unfold readTrack
  dsimp only
  by_cases hcancelled : cancelled 0 = true
  · rw [if_pos hcancelled]
    exact ⟨nofun, nofun⟩
  by_cases hlarge : maxTrackBytes < file.initial.size
  · rw [if_neg hcancelled, if_pos hlarge]
    exact ⟨nofun, nofun⟩
  by_cases hlong : maxRowBytes < ((readline newline file.content).take (maxRowBytes + 1)).length ∨
      ((readline newline file.content).take (maxRowBytes + 1)).getLast? ≠ some newline
  · rw [if_neg hcancelled, if_neg hlarge, if_pos hlong]
    exact ⟨nofun, nofun⟩
  rw [if_neg hcancelled, if_neg hlarge, if_neg hlong]
  have hheader : (readline newline file.content).take (maxRowBytes + 1) =
      readline newline file.content := by
    rw [List.length_take] at hlong
    exact List.take_of_length_le (by omega)
  rw [hheader]
  cases hcolumns : csvHeader unicodeError .insNavGeod (readline newline file.content) with
  | error e => exact ⟨nofun, nofun⟩
  | ok columns =>
    dsimp only
    obtain ⟨tail, hlines, htail⟩ := Lines.exists_readlines (body file.content)
    have hcut : (if unfinished newline (body file.content) = [] then 0 else 1) =
        if tail = [] then 0 else 1 := by
      rcases htail with ⟨hnil, rfl⟩ | ⟨hne, rfl⟩
      · rw [if_pos hnil, if_pos rfl]
      · rw [if_neg hne, if_neg (List.cons_ne_nil _ _)]
    have hends : Ends (rowValues toInt toFloat columns file.content) tail
        (readRows toInt toFloat columns cancelled {} (readline newline file.content).length
          (readlines newline (body file.content))) := by
      rw [hlines]
      refine reading_nil.readRows (fun line hline => Lines.sep_notMem_of_mem_lines hline) ?_ _
      exact htail.imp And.right fun h => ⟨_, h.2, Lines.sep_notMem_unfinished _⟩
    unfold body at hends
    rcases hends with ⟨u, hu, hresult⟩ | ⟨e, he, hresult⟩
    · rw [hresult, hcut]
      dsimp only
      by_cases hchanged : file.final ≠ file.initial ∨ file.path ≠ file.initial
      · rw [if_pos hchanged]
        exact ⟨nofun, nofun⟩
      by_cases hstopped : cancelled ((addPartial u tail).rows + 2) = true
      · rw [if_neg hchanged, if_pos hstopped]
        exact ⟨nofun, nofun⟩
      by_cases hnone : (addPartial u tail).valid = 0
      · rw [if_neg hchanged, if_neg hstopped, if_pos hnone]
        exact ⟨nofun, nofun⟩
      rw [if_neg hchanged, if_neg hstopped, if_neg hnone]
      refine ⟨fun track htrack => ⟨columns, rfl, ?_⟩, nofun⟩
      obtain rfl := Except.ok.inj htrack
      rw [addPartial_valid] at hnone
      exact hu.session hnone
    · rw [hresult]
      exact ⟨nofun, fun h => he (Except.error.inj h)⟩

end ReadTrack

/-! ## A file -/

/-- `int` of a text in digits. -/
def digits (text : String) : Option Int :=
  if text ≠ "" ∧ text.toList.all Char.isDigit = true then
    some (text.toList.foldl (fun n c => n * 10 + (c.toNat - 48 : Nat)) 0)
  else none

/-- Three rows, of which one is not valid, and the start of another one. -/
def shortText : String :=
  "host_unix_ns,lat_deg,lon_deg,tow_ms,gnss_mode,error,info,gnss_age_s,height_m,accuracy_m," ++
    "heading_deg,pitch_deg,roll_deg\n1,50,8,,,,,,,,,,\n2,50,9,,,,,,,,,,\n0,50,9,,,,,,,,,,\n3,51"

/-- The file of that text. -/
def shortFile : TrackFile where
  content := shortText.toList.map fun c => UInt8.ofNat c.toNat
  initial := ⟨0, 0, 0, 0⟩
  final := ⟨0, 0, 0, 0⟩
  path := ⟨0, 0, 0, 0⟩

/-- The file is accepted, and its row that is cut off is counted. -/
theorem track_of_shortFile : ∃ track,
    readTrack digits (fun text => (digits text).map fun n => .finite n) (fun _ => "")
      (fun _ => false) shortFile = .ok track ∧
    track.rows = track.validPoints + track.skippedRows + track.partialRows := by
  have hok : (readTrack digits (fun text => (digits text).map fun n => .finite n) (fun _ => "")
      (fun _ => false) shortFile).isOk = true := by decide +kernel
  cases hread : readTrack digits (fun text => (digits text).map fun n => .finite n) (fun _ => "")
      (fun _ => false) shortFile with
  | error e =>
    rw [hread] at hok
    exact nomatch hok
  | ok track =>
    obtain ⟨columns, -, hdisplayed⟩ := track_of_accepted.1 track hread
    exact ⟨track, rfl, hdisplayed.rows⟩

end TelemetryTrack
end App
end AmigaDrivers
