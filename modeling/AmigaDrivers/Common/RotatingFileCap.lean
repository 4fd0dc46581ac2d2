import AmigaDrivers.Common.RotatingFileLayout
import AmigaDrivers.Foundation.History

/-!
# The hard size cap of a rotating writer

With `precheck_size_cap`, `max_file_bytes` is meant to be a hard cap of every file.  The test
before a write compares the record with what the current file holds, but not with the header that
`on_new_file` writes to the next one.

* `header_breaks_cap`: a record that fits no fresh file is written all the same.
* `hard_cap`: **where every record fits the current file or the next one behind its header, no file
  passes the cap, and the accepted records are in the files, whole and in order.**
-/

namespace AmigaDrivers
namespace RotatingFileWriter

/-! ## The runs -/

/-- The options of a writer with a hard cap. -/
structure CapOptions where
  maxFileBytes : Nat
  rotateInterval : Nat := 0
  onNewFile : Option (Nat → List UInt8) := none
  positive : 0 < maxFileBytes

/-- The writer as it is constructed. -/
def newCapped (o : CapOptions) : RotatingFileWriter where
  maxFileBytes := o.maxFileBytes
  rotateInterval := o.rotateInterval
  precheckSizeCap := true
  onNewFile := o.onNewFile

/-- A writer and the records for which `Append` returned true. -/
structure CapRun where
  writer : RotatingFileWriter
  accepted : List (List UInt8) := []

/-- A call, with the results of its stream operations.  `EndSegment` and `Close` are the same. -/
inductive CapCall
  | append (data : List UInt8) (r : AppendResult)
  | openNext (r : OpenResult)
  | close (flush close : StreamResult)

/-- The calls on a writer with a hard cap, in any order. -/
def capped (o : CapOptions) : StepSystem CapRun CapCall where
  Init s := s = { writer := newCapped o }
  step s
    | .append data r =>
      some
        { writer := (s.writer.append data r).1
          accepted := if (s.writer.append data r).2 then s.accepted ++ [data] else s.accepted }
    | .openNext r => some { s with writer := (s.writer.openNext r).1 }
    | .close flush close => some { s with writer := (s.writer.close flush close).1 }

/-! ## The condition -/

/-- What the file holds to which the next record goes, unless the size test rotates. -/
def here (w : RotatingFileWriter) : Nat :=
  if w.isOpen then w.currentBytes else (w.header w.filesOpened).length

/-- What the file begins with to which the record goes when it does. -/
def fresh (w : RotatingFileWriter) : Nat :=
  (w.header (if w.isOpen then w.filesOpened else w.filesOpened + 1)).length

/-- A record of that size fits the current file, or the next one behind its header. -/
def Room (w : RotatingFileWriter) (size : Nat) : Prop :=
  w.here + size ≤ w.maxFileBytes ∨ w.fresh + size ≤ w.maxFileBytes

instance (w : RotatingFileWriter) (size : Nat) : Decidable (w.Room size) :=
  inferInstanceAs (Decidable (_ ∨ _))

/-- The record that is appended has room, unless it is longer than the cap by itself. -/
def roomy (s : CapRun) : CapCall → Bool
  | .append data _ =>
    s.writer.failed || decide (s.writer.maxFileBytes < data.length) ||
      decide (s.writer.Room data.length)
  | _ => true

/-! ## The size test -/

section Test

variable {w : RotatingFileWriter} {blocks : List (List (List UInt8))} {torn : List UInt8}

theorem room_fitted (h : Laid w blocks torn) (hcap : w.precheckSizeCap = true)
    (hmax : 0 < w.maxFileBytes) {data : List UInt8} {r : AppendResult}
    (hfit : (w.fitted data r).2 = true) :
    data.length ≤ w.maxFileBytes ∧
      (w.currentBytes + data.length ≤ w.maxFileBytes ∨
          (w.header w.filesOpened).length + data.length ≤ w.maxFileBytes ↔
        (w.fitted data r).1.currentBytes + data.length ≤ w.maxFileBytes) := by
  unfold fitted at hfit ⊢
  rw [if_pos ⟨hcap, hmax⟩] at hfit ⊢
  split_ifs at hfit ⊢ with hlarge hfull
  · refine ⟨Nat.le_of_not_lt hlarge, ?_⟩
    obtain ⟨hoptions, hnext | ⟨-, hbad⟩, hok⟩ := h.openNext r.precheck
    · obtain ⟨hopen, hfailed⟩ := hok hfit
      rw [hnext.currentBytes_fresh hopen hfailed, hoptions.header, ← h.count]
      exact or_iff_right fun hhere => by omega
    · exact nomatch hbad.symm.trans hfit
  · have hhere : w.currentBytes + data.length ≤ w.maxFileBytes := by omega
    exact ⟨Nat.le_of_not_lt hlarge, iff_of_true (.inl hhere) hhere⟩

/-- Behind the size test, a record fits the file exactly when it had room. -/
theorem room_prepared (h : Laid w blocks torn) (hcap : w.precheckSizeCap = true)
    (hmax : 0 < w.maxFileBytes) {data : List UInt8} {r : AppendResult}
    (hok : (w.prepared data r).2 = true) :
    data.length ≤ w.maxFileBytes ∧
      (w.Room data.length ↔ (w.prepared data r).1.currentBytes + data.length ≤ w.maxFileBytes) := by
  unfold prepared at hok ⊢
  unfold Room here fresh
  split_ifs at hok ⊢ with hfailed hopen
  · exact room_fitted h hcap hmax hok
  · obtain ⟨hoptions, hnext, hgood⟩ := h.openNext r.first
    generalize w.openNext r.first = p at hoptions hnext hgood hok
    obtain ⟨w', _ | _⟩ := p
    · exact nomatch hok
    · obtain hnext | ⟨-, hbad⟩ := hnext
      · obtain ⟨hopen', hfailed'⟩ := hgood rfl
        have hsize := hnext.currentBytes_fresh hopen' hfailed'
        have hcount : w'.filesOpened = w.filesOpened + 1 := by
          rw [hnext.count, h.count, List.length_append]
          rfl
        have hfitted := room_fitted hnext (hoptions.precheckSizeCap.trans hcap)
          (hoptions.maxFileBytes ▸ hmax) hok
        rw [hoptions.maxFileBytes, hsize, hcount, ← h.count, hoptions.header] at hfitted
        exact hfitted
      · exact nomatch hbad

/-- A record longer than the cap is refused. -/
theorem refused_of_long (h : Laid w blocks torn) (hcap : w.precheckSizeCap = true)
    (hmax : 0 < w.maxFileBytes) {data : List UInt8} (hlong : w.maxFileBytes < data.length)
    (r : AppendResult) :
    (w.append data r).2 = false ∧ (w.append data r).1.failed = true ∧
      (w.append data r).1.recordsWritten = w.recordsWritten := by
  obtain ⟨-, n, -, ⟨-, hrefused, hlaid⟩ | ⟨⟨hok, -⟩, -⟩⟩ := h.append data r
  · refine ⟨hrefused, failed_of_append (Prod.ext rfl hrefused), ?_⟩
    rw [hlaid.records, h.records, flatten_grown]
  · exact absurd (room_prepared h hcap hmax hok).1 (Nat.not_le.mpr hlong)

/-- A record that is written without room takes its file past the cap. -/
theorem exceeds_of_no_room (h : Laid w blocks torn) (hcap : w.precheckSizeCap = true)
    (hmax : 0 < w.maxFileBytes) {data : List UInt8} {r : AppendResult} {w' : RotatingFileWriter}
    (hroom : ¬ w.Room data.length) (hwritten : w.written data r = some w') :
    w.maxFileBytes < w'.currentBytes := by
  have hfits : (w.prepared data r).2 = true → _ := fun hok => (room_prepared h hcap hmax hok).2
  obtain ⟨-, -, hok⟩ := h.prepared data r
  obtain ⟨-, n, -, ⟨hnone, -⟩ | ⟨⟨-, -, hopen, hgood, hlaid⟩, -⟩⟩ := h.append data r
  · exact nomatch hnone.symm.trans hwritten
  · unfold written at hwritten
    generalize w.prepared data r = p at hwritten hfits hopen hgood hlaid
    obtain ⟨prepared, _ | _⟩ := p
    · exact nomatch hwritten
    · have hsize := mt (hfits rfl).mpr hroom
      dsimp only at hwritten hsize hopen hgood hlaid
      rw [streamWrite_eq (hlaid.good hopen hgood)] at hwritten
      split_ifs at hwritten
      obtain rfl := Option.some.inj hwritten
      exact Nat.not_le.mp hsize

end Test

/-! ## The sizes of the files -/

/-- No file passes the cap. -/
def Within (max : Nat) (files : List (List UInt8)) : Prop := ∀ file ∈ files, file.length ≤ max

section Sizes

variable {w : RotatingFileWriter} {max : Nat} {blocks : List (List (List UInt8))}

theorem within_concat {files : List (List UInt8)} {file : List UInt8} :
    Within max (files ++ [file]) ↔ Within max files ∧ file.length ≤ max := by
  unfold Within
  rw [List.forall_mem_append, List.forall_mem_singleton]

/-- Files that hold their headers alone are within the cap when the headers are. -/
theorem within_grown (hheader : ∀ seq, (w.header seq).length ≤ max)
    (h : Within max (w.planned blocks)) (n : Nat) :
    Within max (w.planned (blocks ++ List.replicate n [])) := by
  induction n with
  | zero =>
    rw [List.replicate_zero, List.append_nil]
    exact h
  | succ n ih =>
    rw [List.replicate_succ', ← List.append_assoc, planned_concat, within_concat,
      List.flatten_nil, List.append_nil]
    exact ⟨ih, hheader _⟩

/-- A record that fits the last file leaves it within the cap. -/
theorem within_record (h : Within max (w.planned blocks)) {before : List (List (List UInt8))}
    {records : List (List UInt8)} {data : List UInt8} (hblocks : blocks = before ++ [records])
    (hsize : (w.header before.length ++ records.flatten).length + data.length ≤ max) :
    Within max (appendToFile (w.planned blocks) data) := by
  subst hblocks
  rw [planned_concat, within_concat] at h
  rw [planned_concat, appendToFile_concat, within_concat, List.length_append]
  exact ⟨h.1, hsize⟩

end Sizes

/-! ## Runs -/

/-- What always holds of a run: the files are laid out and within the cap, and the records in them
are the accepted ones, with at most one behind them whose append failed after its write. -/
structure CapInvariant (o : CapOptions) (s : CapRun) : Prop where
  options : SameOptions (newCapped o) s.writer
  files : ∃ blocks torn, s.writer.Laid blocks torn ∧
    Within o.maxFileBytes (appendToFile (s.writer.planned blocks) torn) ∧
    s.accepted <+: blocks.flatten ∧ (s.writer.failed = false → blocks.flatten = s.accepted)

theorem capInvariant_new (o : CapOptions) : CapInvariant o { writer := newCapped o } where
  options := .refl _
  files :=
    ⟨[], [], .unused rfl rfl rfl rfl rfl rfl, nofun, List.prefix_refl _, fun _ => rfl⟩

section Step

variable {o : CapOptions} {s : CapRun}

theorem capInvariant_append (h : CapInvariant o s)
    (hheader : ∀ seq, ((newCapped o).header seq).length ≤ o.maxFileBytes) {data : List UInt8}
    {r : AppendResult} (hroomy : roomy s (.append data r) = true) :
    CapInvariant o
      { writer := (s.writer.append data r).1
        accepted := if (s.writer.append data r).2 then s.accepted ++ [data] else s.accepted } := by
  obtain ⟨hsame, blocks, torn, hlaid, hwithin, hprefix, hall⟩ := h
  obtain ⟨hoptions, n, hn, hcases⟩ := hlaid.append data r
  have hheader' : ∀ seq, (s.writer.header seq).length ≤ o.maxFileBytes := by
    rw [hsame.header]
    exact hheader
  have hcap : s.writer.precheckSizeCap = true := hsame.precheckSizeCap
  have hmax : s.writer.maxFileBytes = o.maxFileBytes := hsame.maxFileBytes
  refine ⟨hsame.trans hoptions, ?_⟩
  obtain ⟨-, hrefused, hlaid'⟩ | ⟨⟨hok, hfailed, hopen, hgood, hprepared⟩, hwrite⟩ := hcases
  · have hlatched := failed_of_append (Prod.ext rfl hrefused)
    rw [hrefused]
    refine ⟨_, _, hlaid', ?_, (flatten_grown blocks n).symm ▸ hprefix,
      fun hf => nomatch hf.symm.trans hlatched⟩
    rw [planned_congr _ _ hoptions.onNewFile]
    cases hfirst : s.writer.failed with
    | true =>
      obtain rfl := hn hfirst
      rw [List.replicate_zero, List.append_nil]
      exact hwithin
    | false =>
      rw [hlaid.torn hfirst, appendToFile_nil] at hwithin ⊢
      exact within_grown hheader' hwithin n
  · -- the record has room where it is written
    rw [hlaid.torn hfailed, appendToFile_nil] at hwithin
    obtain ⟨hshort, hroom⟩ := room_prepared hlaid hcap (hmax ▸ o.positive) hok
    unfold roomy at hroomy
    dsimp only at hroomy
    rw [hfailed, Bool.false_or, Bool.or_eq_true, decide_eq_true_iff, decide_eq_true_iff] at hroomy
    have hfits := hroom.mp (hroomy.resolve_left (Nat.not_lt.mpr hshort))
    obtain ⟨before, records, hblocks, hsize⟩ := hprepared.size hopen hgood
    rw [hsize, (hlaid.prepared data r).1.header, hmax] at hfits
    have hrecord := within_record (within_grown hheader' hwithin n) hblocks hfits
    have haccepted := hall hfailed
    obtain ⟨-, hrefused, hlaid'⟩ | ⟨hwritten, m, hlaid'⟩ := hwrite
    · have hlatched := failed_of_append (Prod.ext rfl hrefused)
      rw [hrefused]
      refine ⟨_, _, hlaid', ?_, (flatten_grown blocks n).symm ▸ hprefix,
        fun hf => nomatch hf.symm.trans hlatched⟩
      rw [planned_congr _ _ hoptions.onNewFile]
      exact hrecord
    · have hflatten : (addRecord (blocks ++ List.replicate n []) data ++
          List.replicate m []).flatten = s.accepted ++ [data] := by
        have hne : blocks ++ List.replicate n [] ≠ [] := by
          rw [hblocks]
          exact List.append_ne_nil_of_right_ne_nil _ (List.cons_ne_nil _ _)
        rw [flatten_grown, flatten_addRecord hne, flatten_grown, haccepted]
      refine ⟨_, _, hlaid', ?_, ?_, ?_⟩
      · rw [planned_congr _ _ hoptions.onNewFile, hlaid.torn hfailed, appendToFile_nil]
        refine within_grown hheader' ?_ m
        rw [planned_addRecord]
        exact hrecord
      · rw [hflatten]
        split_ifs
        · exact List.prefix_refl _
        · exact List.prefix_append _ _
      · intro hf
        rw [hflatten]
        split_ifs with hdone
        · rfl
        · have hlatched := failed_of_append (Prod.ext rfl (eq_false_of_ne_true hdone))
          exact nomatch hf.symm.trans hlatched

theorem capInvariant_close (h : CapInvariant o s) (flush close : StreamResult) :
    CapInvariant o { s with writer := (s.writer.close flush close).1 } := by
  obtain ⟨hsame, blocks, torn, hlaid, hwithin, hprefix, hall⟩ := h
  have hoptions := sameOptions_closeCurrent s.writer flush close
  refine ⟨hsame.trans hoptions, _, _, hlaid.closeCurrent flush close, ?_, hprefix, fun hf => ?_⟩
  · exact (planned_congr s.writer blocks hoptions.onNewFile).symm ▸ hwithin
  · refine hall (eq_false_of_ne_true fun hfailed => ?_)
    exact nomatch hf.symm.trans (failed_closeCurrent flush close hfailed)

theorem capInvariant_openNext (h : CapInvariant o s)
    (hheader : ∀ seq, ((newCapped o).header seq).length ≤ o.maxFileBytes) (r : OpenResult) :
    CapInvariant o { s with writer := (s.writer.openNext r).1 } := by
  cases hfailed : s.writer.failed with
  | true =>
    rw [openNext_of_failed hfailed]
    exact capInvariant_close h r.flush r.close
  | false =>
    obtain ⟨hsame, blocks, torn, hlaid, hwithin, hprefix, hall⟩ := h
    obtain ⟨hoptions, hnext | ⟨hnext, -⟩, -⟩ := hlaid.openNext r
    · have hheader' : ∀ seq, (s.writer.header seq).length ≤ o.maxFileBytes := by
        rw [hsame.header]
        exact hheader
      have hflatten : (blocks ++ [[]]).flatten = blocks.flatten := flatten_grown blocks 1
      rw [hlaid.torn hfailed, appendToFile_nil] at hwithin
      refine ⟨hsame.trans hoptions, _, _, hnext, ?_, hflatten ▸ hprefix,
        fun _ => hflatten.trans (hall hfailed)⟩
      rw [planned_congr _ _ hoptions.onNewFile, hlaid.torn hfailed, appendToFile_nil]
      exact within_grown hheader' hwithin 1
    · refine ⟨hsame.trans hoptions, _, _, hnext, ?_, hprefix, fun _ => hall hfailed⟩
      rw [planned_congr _ _ hoptions.onNewFile]
      exact hwithin

end Step

theorem capInvariant_of_reachable {o : CapOptions}
    (hheader : ∀ seq, ((newCapped o).header seq).length ≤ o.maxFileBytes) {s : CapRun}
    (h : ((capped o).guarded roomy).Reachable s) : CapInvariant o s := by
  refine h.invariant ?_ ?_
  · rintro s rfl
    exact capInvariant_new o
  · intro s a s' hs hstep
    obtain ⟨hroomy, hstep⟩ := StepSystem.guarded_step hstep
    cases a with
    | append data r => exact Option.some.inj hstep ▸ capInvariant_append hs hheader hroomy
    | openNext r => exact Option.some.inj hstep ▸ capInvariant_openNext hs hheader r
    | close flush close => exact Option.some.inj hstep ▸ capInvariant_close hs flush close

/-- **A hard cap where the records have room.**  When no header passes the cap and every record has
room where it is appended, no file passes the cap; the accepted records are in the files, each
once, whole and in order, and nothing else is while the writer has not failed; and a record without
room is refused with the failure latched.  An append that is left out breaks the cap when its write
is taken. -/
theorem hard_cap {o : CapOptions}
    (hheader : ∀ seq, ((newCapped o).header seq).length ≤ o.maxFileBytes) {s : CapRun}
    (h : ((capped o).guarded roomy).Reachable s) :
    (∀ file ∈ s.writer.files, file.length ≤ o.maxFileBytes) ∧
    (∃ blocks torn, s.writer.Laid blocks torn ∧ s.accepted <+: blocks.flatten ∧
      (s.writer.failed = false → blocks.flatten = s.accepted ∧
        (s.writer.isOpen = false → s.writer.files = s.writer.planned blocks))) ∧
    (∀ data r, roomy s (.append data r) = true → ¬ s.writer.Room data.length →
      (s.writer.append data r).2 = false ∧ (s.writer.append data r).1.failed = true ∧
        (s.writer.append data r).1.recordsWritten = s.writer.recordsWritten) ∧
    ∀ data r w', roomy s (.append data r) = false → s.writer.written data r = some w' →
      o.maxFileBytes < w'.currentBytes := by
  obtain ⟨hsame, blocks, torn, hlaid, hwithin, hprefix, hall⟩ := capInvariant_of_reachable hheader h
  have hcap : s.writer.precheckSizeCap = true := hsame.precheckSizeCap
  have hmax : s.writer.maxFileBytes = o.maxFileBytes := hsame.maxFileBytes
  have hpos : 0 < s.writer.maxFileBytes := hmax ▸ o.positive
  refine ⟨fun file hfile => ?_, ⟨blocks, torn, hlaid, hprefix, fun hfailed =>
    ⟨hall hfailed, hlaid.files_eq hfailed⟩⟩, fun data r hroomy hroom => ?_,
    fun data r w' hroomy hwritten => ?_⟩
  · obtain ⟨whole, hwhole, hpart⟩ := hlaid.exists_completion hfile
    exact Nat.le_trans hpart.length_le (hwithin whole hwhole)
  · unfold roomy at hroomy
    simp only [Bool.or_eq_true, decide_eq_true_iff] at hroomy
    obtain (hfailed | hlong) | hbad := hroomy
    · have hrefused : s.writer.append data r = (s.writer, false) := by
        unfold append
        rw [if_pos hfailed]
      rw [hrefused]
      exact ⟨rfl, hfailed, rfl⟩
    · exact refused_of_long hlaid hcap hpos hlong r
    · exact absurd hbad hroom
  · unfold roomy at hroomy
    simp only [Bool.or_eq_false_iff, decide_eq_false_iff_not] at hroomy
    exact hmax ▸ exceeds_of_no_room hlaid hcap hpos hroomy.2 hwritten

/-- Two records of four bytes behind headers of two, in files of ten bytes. -/
theorem hard_cap_of_two_records :
    let o : CapOptions :=
      { maxFileBytes := 10, onNewFile := some fun _ => [72, 72], positive := by decide }
    ∃ s, ((capped o).guarded roomy).Reachable s ∧ s.accepted = [[1, 2, 3, 4], [5, 6, 7, 8]] ∧
      s.writer.files = [[72, 72, 1, 2, 3, 4, 5, 6, 7, 8], [72, 72]] ∧
      ∀ file ∈ s.writer.files, file.length ≤ o.maxFileBytes := by
  intro o
  let done : StreamResult := ⟨true, 0⟩
  let opened : OpenResult := ⟨done, done, true, done, done, done⟩
  let r : AppendResult := ⟨opened, opened, done, false, opened⟩
  have hrun : (((capped o).guarded roomy).exec { writer := newCapped o }
      [.append [1, 2, 3, 4] r, .append [5, 6, 7, 8] r, .close done done]).map
      (fun s => (s.accepted, s.writer.files)) =
        some ([[1, 2, 3, 4], [5, 6, 7, 8]], [[72, 72, 1, 2, 3, 4, 5, 6, 7, 8], [72, 72]]) := by
    decide
  obtain ⟨s, hexec, hs⟩ := Option.map_eq_some_iff.mp hrun
  obtain ⟨haccepted, hfiles⟩ := Prod.mk.inj hs
  have hreach := StepSystem.reachable_of_exec (.init rfl) hexec
  have hheader : ∀ seq, ((newCapped o).header seq).length ≤ o.maxFileBytes :=
    fun _ => show 2 ≤ 10 by decide
  exact ⟨s, hreach, haccepted, hfiles, (hard_cap hheader hreach).1⟩

/-- **The header breaks the cap**: a record of eight bytes does not fit a file of ten behind a
header of six, and is written there. -/
theorem header_breaks_cap :
    ¬ ∀ (o : CapOptions) (s : CapRun), (capped o).Reachable s →
      ∀ file ∈ s.writer.files, file.length ≤ o.maxFileBytes := by
  intro h
  let o : CapOptions :=
    { maxFileBytes := 10
      onNewFile := some fun _ => [72, 72, 72, 72, 72, 72]
      positive := by decide }
  let done : StreamResult := ⟨true, 0⟩
  let opened : OpenResult := ⟨done, done, true, done, done, done⟩
  let r : AppendResult := ⟨opened, opened, done, false, opened⟩
  have hrun : ((capped o).exec { writer := newCapped o }
      [.append [1, 2, 3, 4, 5, 6, 7, 8] r, .close done done]).map
      (fun s => s.writer.files.map List.length) = some [6, 14, 6] := by
    decide
  obtain ⟨s, hexec, hs⟩ := Option.map_eq_some_iff.mp hrun
  have hlong : 14 ∈ s.writer.files.map List.length := by
    rw [hs]
    decide
  obtain ⟨file, hfile, hsize⟩ := List.mem_map.mp hlong
  have hwithin := h o s (StepSystem.reachable_of_exec (.init rfl) hexec) file hfile
  rw [hsize] at hwithin
  exact absurd hwithin (by decide)

end RotatingFileWriter
end AmigaDrivers
