import AmigaDrivers.Lms.RawRecorderStop

/-!
# How a recording is laid out in splits

`lms4xxx::RawRecorder` begins a new split before a telegram that does not fit in the current one.
The index of a split says where its telegrams stand; the sizes and offsets are counted in 64 bits.

* `Split.LaidOut`: the telegrams of a split stand one behind another, where the index says.
* `rotates_eq`, `exhausted_eq`: the checks of `Append` in 64 bits do not wrap.
* `Layout`: how full the splits are, in every reachable state.
* `split_layout`: the layout of a recording.
-/

namespace AmigaDrivers
namespace Lms

/-! ## Offsets -/

/-- Where a record stands behind the ones before it: the sum of their lengths. -/
def offsetOf (records : List RawRecord) (i : Nat) : Nat :=
  ((records.take i).map fun record => record.frame.data.length).sum

theorem length_binOf (records : List RawRecord) :
    (binOf records).length = (records.map fun record => record.frame.data.length).sum := by
  unfold binOf
  rw [List.length_flatMap]

theorem offsetOf_eq (records : List RawRecord) (i : Nat) :
    offsetOf records i = (binOf (records.take i)).length := (length_binOf _).symm

/-- The bytes at the offset of a record, as many as it has, are the record. -/
theorem record_at_offset (records : List RawRecord) (i : Nat) (hi : i < records.length) :
    ((binOf records).drop (offsetOf records i)).take records[i].frame.data.length =
      records[i].frame.data := by
  have hsplit : binOf records =
      binOf (records.take i) ++ (records[i].frame.data ++ binOf (records.drop (i + 1))) := by
    conv_lhs => rw [← List.take_append_drop i records, List.drop_eq_getElem_cons hi]
    unfold binOf
    rw [List.flatMap_append, List.flatMap_cons]
  rw [offsetOf_eq, hsplit, List.drop_left, List.take_left]

/-- The next record stands right behind it. -/
theorem offsetOf_succ (records : List RawRecord) (i : Nat) (hi : i < records.length) :
    offsetOf records (i + 1) = offsetOf records i + records[i].frame.data.length := by
  unfold offsetOf
  rw [List.take_succ_eq_append_getElem hi, List.map_append, List.sum_append]
  rfl

/-- The rows of an index, each with the offset of its record. -/
theorem indexRows_eq (records : List RawRecord) (offset : Nat) :
    indexRows offset records =
      (List.finRange records.length).flatMap fun i : Fin records.length =>
        indexRow (offset + offsetOf records i) (records.get i) := by
  induction records generalizing offset with
  | nil => rfl
  | cons record records ih =>
    rw [indexRows, ih]
    show _ = (List.finRange (records.length + 1)).flatMap fun i : Fin (records.length + 1) =>
      indexRow (offset + offsetOf (record :: records) i) ((record :: records).get i)
    rw [List.finRange_succ, List.flatMap_cons, List.flatMap_map]
    refine congrArg (indexRow offset record ++ ·) (List.flatMap_congr fun i _ => ?_)
    have hoffset : offsetOf (record :: records) (i.succ : Nat) =
        record.frame.data.length + offsetOf records i := by
      simp [offsetOf]
    rw [hoffset, Nat.add_assoc]
    rfl

/-! ## A split -/

/-- The records of a split fit in it, or there is just one. -/
def Fits (maxFileBytes : Nat) (records : List RawRecord) : Prop :=
  (binOf records).length ≤ maxFileBytes ∨ records.length = 1

/-- The layout of a split. -/
structure Split.LaidOut (maxFileBytes : Nat) (split : Split) : Prop where
  /-- the BIN file holds whole telegrams only -/
  bin : split.bin = some (binOf split.records)
  /-- the CSV file has one row for each, with its offset -/
  csv : split.csv = some (indexHeader ++ (List.finRange split.records.length).flatMap
    fun i : Fin split.records.length =>
      indexRow (offsetOf split.records i) (split.records.get i))
  /-- the telegram stands there -/
  found : ∀ i (hi : i < split.records.length),
    ((binOf split.records).drop (offsetOf split.records i)).take
      split.records[i].frame.data.length = split.records[i].frame.data
  /-- the next one stands right behind it -/
  next : ∀ i (hi : i < split.records.length),
    offsetOf split.records (i + 1) =
      offsetOf split.records i + split.records[i].frame.data.length
  /-- the split is no longer than allowed, or has one telegram -/
  fits : Fits maxFileBytes split.records

/-- An intact split that is not too full is laid out. -/
theorem Split.Intact.laidOut {maxFileBytes : Nat} {split : Split} (h : split.Intact)
    (hfits : Fits maxFileBytes split.records) : split.LaidOut maxFileBytes := by
  refine ⟨h.bin, ?_, record_at_offset _, offsetOf_succ _, hfits⟩
  rw [h.csv, csvOf, indexRows_eq]
  simp only [Nat.zero_add]

/-! ## The checks of `Append` -/

/-- The test for a new split, as `Append` computes it. -/
def rotates (splitFrames maxFileBytes splitBytes length : UInt64) : Bool :=
  splitFrames != 0 && maxFileBytes != 0 &&
    (decide (splitBytes ≥ maxFileBytes) || decide (length > maxFileBytes - splitBytes))

/-- The test for the end of the offsets, as `Append` computes it. -/
def exhausted (splitBytes length : UInt64) : Bool :=
  decide (length > UInt64.ofNat maxOffset - splitBytes)

section Checks

variable {splitFrames maxFileBytes splitBytes length : Nat}

/-- The test for a new split does not wrap. -/
theorem rotates_eq (hframes : splitFrames < 2 ^ 64) (hmax : maxFileBytes < 2 ^ 64)
    (hbytes : splitBytes < 2 ^ 64) (hlength : length < 2 ^ 64) :
    rotates (.ofNat splitFrames) (.ofNat maxFileBytes) (.ofNat splitBytes) (.ofNat length) =
      decide (splitFrames ≠ 0 ∧ maxFileBytes ≠ 0 ∧
        (splitBytes ≥ maxFileBytes ∨ length > maxFileBytes - splitBytes)) := by
  have hnat {n : Nat} (h : n < 2 ^ 64) : (UInt64.ofNat n).toNat = n := UInt64.toNat_ofNat_of_lt' h
  have hzero {n : Nat} (h : n < 2 ^ 64) : (UInt64.ofNat n = 0) ↔ n = 0 := by
    rw [← UInt64.toNat_inj, hnat h]
    rfl
  have hle : UInt64.ofNat splitBytes ≥ UInt64.ofNat maxFileBytes ↔ splitBytes ≥ maxFileBytes := by
    rw [ge_iff_le, UInt64.le_iff_toNat_le, hnat hmax, hnat hbytes]
  -- the difference is computed behind the test that it is not negative
  have hlt : ¬splitBytes ≥ maxFileBytes →
      (UInt64.ofNat length > UInt64.ofNat maxFileBytes - UInt64.ofNat splitBytes ↔
        length > maxFileBytes - splitBytes) := by
    intro hbelow
    have hsub : UInt64.ofNat splitBytes ≤ UInt64.ofNat maxFileBytes := by
      rw [UInt64.le_iff_toNat_le, hnat hmax, hnat hbytes]
      omega
    rw [gt_iff_lt, UInt64.lt_iff_toNat_lt, UInt64.toNat_sub_of_le _ _ hsub, hnat hmax,
      hnat hbytes, hnat hlength]
  unfold rotates
  rw [Bool.eq_iff_iff]
  simp only [Bool.and_eq_true, Bool.or_eq_true, bne_iff_ne, ne_eq, decide_eq_true_eq, hzero hframes,
    hzero hmax, hle, and_assoc]
  refine and_congr_right fun _ => and_congr_right fun _ => ?_
  by_cases hbelow : splitBytes ≥ maxFileBytes
  · exact ⟨fun _ => .inl hbelow, fun _ => .inl hbelow⟩
  · exact or_congr_right (hlt hbelow)

/-- Neither does the other one. -/
theorem exhausted_eq (hbytes : splitBytes ≤ maxOffset) (hlength : length < 2 ^ 64) :
    exhausted (.ofNat splitBytes) (.ofNat length) = decide (length > maxOffset - splitBytes) := by
  have hmax : maxOffset < 2 ^ 64 := by decide
  have hnat {n : Nat} (h : n < 2 ^ 64) : (UInt64.ofNat n).toNat = n := UInt64.toNat_ofNat_of_lt' h
  have hsub : UInt64.ofNat splitBytes ≤ UInt64.ofNat maxOffset := by
    rw [UInt64.le_iff_toNat_le, hnat hmax, hnat (by omega)]
    exact hbytes
  unfold exhausted
  rw [decide_eq_decide, gt_iff_lt, UInt64.lt_iff_toNat_lt, UInt64.toNat_sub_of_le _ _ hsub,
    hnat hmax, hnat (by omega), hnat hlength]

end Checks

namespace RawRecorder

/-! ## How full the splits are -/

/-- The bytes of the records of the current split. -/
def recorded (s : RawRecorder) : Nat := (binOf s.files.current.records).length

/-- A telegram may be written to the current split: it is the first one, or it fits. -/
def HasRoom (s : RawRecorder) (t : Telegram) : Prop :=
  s.files.current.records = [] ∨ s.recorded + t.record.frame.data.length ≤ s.maxFileBytes

/-- The lengths `Append` takes. -/
def Valid (t : Telegram) : Prop :=
  0 < t.record.frame.data.length ∧ t.record.frame.data.length ≤ maxOffset

/-- What the worker has found out, at each of its program counters; behind the loop, that nothing
has been left in the queue unless there was a failure. -/
def Checked (s : RawRecorder) : Prop :=
  match s.workerPc with
  | .none => startReturned s.ownerPc = true → s.failed = true
  | .closing _ t | .rotating t => Valid t ∧ s.files.current.records ≠ []
  | .opening _ t => Valid t
  | .checkingOffset t => Valid t ∧ s.HasRoom t
  | .writingBin t | .writingCsv t | .counting t =>
    Valid t ∧ s.HasRoom t ∧ s.recorded + t.record.frame.data.length ≤ maxOffset
  | .refusing pending | .closingQueue pending | .countingPending pending =>
    s.failed = true ∨ pending = none ∧ s.queue.closed = true ∧ s.queue.items = []
  | .discarding =>
    s.failed = true ∨ s.queue.closed = true ∧ s.queue.items = [] ∧ s.discarded = []
  | .closingLast _ | .done => s.failed = true ∨ s.discarded = []
  | .checkingEmpty => s.queue.closed = true
  | .polling | .checkingClosed | .appending _ | .checkingFlush | .syncingBin | .syncingCsv
  | .failing _ => True

/-- How full the splits are. -/
structure Layout (maxFileBytes : Nat) (s : RawRecorder) : Prop where
  limit : s.maxFileBytes = maxFileBytes
  earlier : ∀ split ∈ s.files.earlier, split.records ≠ [] ∧ Fits maxFileBytes split.records
  current : Fits maxFileBytes s.files.current.records
  offsets : s.recorded ≤ maxOffset
  /-- no record is empty -/
  frames : s.files.current.records.length ≤ s.recorded
  checked : s.Checked

theorem Checked.of_same {s s' : RawRecorder} (h : s.Checked)
    (hsame : (s'.files.current.records, s'.maxFileBytes, s'.workerPc, s'.discarded) =
      (s.files.current.records, s.maxFileBytes, s.workerPc, s.discarded))
    (hfailed : s.failed = true → s'.failed = true)
    (hqueue : s.queue.closed = true →
      s'.queue.closed = true ∧ s'.queue.items = s.queue.items)
    (hstart : s.workerPc = .none → startReturned s'.ownerPc = true →
      startReturned s.ownerPc = true ∨ s'.failed = true) : s'.Checked := by
  simp only [Prod.mk.injEq] at hsame
  obtain ⟨hrecords, hlimit, hpc, hdiscarded⟩ := hsame
  unfold Checked HasRoom recorded at h ⊢
  rw [hpc, hrecords, hlimit, hdiscarded]
  generalize s.workerPc = pc at h hstart ⊢
  cases pc with
  | none =>
    intro hreturned
    obtain hbefore | hnow := hstart rfl hreturned
    · exact hfailed (h hbefore)
    · exact hnow
  | refusing | closingQueue | countingPending =>
    obtain hold | ⟨hpending, hclosed, hitems⟩ := h
    · exact .inl (hfailed hold)
    · exact .inr ⟨hpending, (hqueue hclosed).1, (hqueue hclosed).2.trans hitems⟩
  | discarding =>
    obtain hold | ⟨hclosed, hitems, hnothing⟩ := h
    · exact .inl (hfailed hold)
    · exact .inr ⟨(hqueue hclosed).1, (hqueue hclosed).2.trans hitems, hnothing⟩
  | closingLast | done => exact h.imp_left hfailed
  | checkingEmpty => exact (hqueue h).1
  | _ => exact h

/-- A step that leaves the splits alone. -/
theorem Layout.of_same {maxFileBytes : Nat} {s s' : RawRecorder} (h : s.Layout maxFileBytes)
    (hsame : (s'.files.earlier, s'.files.current.records, s'.maxFileBytes) =
      (s.files.earlier, s.files.current.records, s.maxFileBytes))
    (hchecked : s'.Checked) : s'.Layout maxFileBytes := by
  simp only [Prod.mk.injEq] at hsame
  obtain ⟨hearlier, hrecords, hlimit⟩ := hsame
  have hrecorded : s'.recorded = s.recorded := by
    unfold recorded
    rw [hrecords]
  refine ⟨hlimit.trans h.limit, ?_, ?_, ?_, ?_, hchecked⟩
  · rw [hearlier]
    exact h.earlier
  · rw [hrecords]
    exact h.current
  · rw [hrecorded]
    exact h.offsets
  · rw [hrecords, hrecorded]
    exact h.frames

theorem Layout.producer {maxFileBytes : Nat} {s s' : RawRecorder} (hs : s.Layout maxFileBytes)
    (h : ProducerStep s s') : s'.Layout maxFileBytes := by
  cases h with
  | latch hpc =>
    exact hs.of_same rfl (hs.checked.of_same rfl (fun _ => rfl) (fun hclosed => ⟨hclosed, rfl⟩)
      fun _ => .inl)
  | push hpc hopen =>
    exact hs.of_same rfl (hs.checked.of_same rfl id
      (fun hclosed => nomatch hclosed.symm.trans hopen) fun _ => .inl)
  | closeQueue hpc =>
    exact hs.of_same rfl (hs.checked.of_same rfl id (fun _ => ⟨rfl, rfl⟩) fun _ => .inl)
  | _ =>
    exact hs.of_same rfl (hs.checked.of_same rfl id (fun hclosed => ⟨hclosed, rfl⟩) fun _ => .inl)

theorem Layout.owner {maxFileBytes : Nat} {s s' : RawRecorder} {r : IoAnswers}
    (hs : s.Layout maxFileBytes) (hdata : FileData s) (h : OwnerStep s r s') :
    s'.Layout maxFileBytes := by
  have howner := hdata.owner
  unfold OwnerData at howner
  cases h with
  | @move pc hmove =>
    refine hs.of_same rfl (hs.checked.of_same rfl id (fun hclosed => ⟨hclosed, rfl⟩) ?_)
    intro _ hreturned
    generalize s.ownerPc = pc₀ at hmove ⊢
    cases hmove with
    | openThrows => exact nomatch hreturned
    | spawnThrows => exact nomatch hreturned
    | join => exact .inl rfl
  | openDirectory hpc =>
    exact hs.of_same rfl (hs.checked.of_same rfl id (fun hclosed => ⟨hclosed, rfl⟩)
      fun _ hreturned => nomatch hreturned)
  | @openSplit at' hpc =>
    have hframe := s.files.openStep_frame r at'
    simp only [Prod.mk.injEq] at hframe
    obtain ⟨hearlier, hrecords, -⟩ := hframe
    refine hs.of_same (by simp only [hearlier, hrecords]) (hs.checked.of_same
      (by simp only [hrecords]) id (fun hclosed => ⟨hclosed, rfl⟩) fun _ hreturned => ?_)
    dsimp only at hreturned
    split at hreturned <;> exact nomatch hreturned
  | accept hpc =>
    exact hs.of_same rfl (hs.checked.of_same rfl id (fun hclosed => ⟨hclosed, rfl⟩)
      fun _ hreturned => nomatch hreturned)
  | spawn hpc => exact hs.of_same rfl trivial
  | latch hpc =>
    exact hs.of_same rfl (hs.checked.of_same rfl (fun _ => rfl) (fun hclosed => ⟨hclosed, rfl⟩)
      fun _ hreturned => nomatch hreturned)
  | refuse hpc =>
    refine hs.of_same rfl (hs.checked.of_same rfl id (fun hclosed => ⟨hclosed, rfl⟩) ?_)
    intro _ hreturned
    obtain ⟨-, rfl⟩ | ⟨hpc, -⟩ := hpc
    · exact nomatch hreturned
    · exact .inl (hpc ▸ rfl)
  | closeQueue hpc =>
    refine hs.of_same rfl (hs.checked.of_same rfl id (fun _ => ⟨rfl, rfl⟩) ?_)
    intro _ hreturned
    obtain ⟨-, rfl⟩ | ⟨hpc, -⟩ := hpc
    · exact nomatch hreturned
    · exact .inl (hpc ▸ rfl)
  | @closeSplit at' hpc =>
    rw [hpc] at howner
    have hfailed : (s.files.closeStep s.failed r at').2.1 = true := by
      rw [howner]
      exact s.files.closeStep_failed r at'
    have hframe := s.files.closeStep_frame s.failed r at'
    simp only [Prod.mk.injEq] at hframe
    obtain ⟨hearlier, -, -, hrecords, -⟩ := hframe
    exact hs.of_same (by simp only [hearlier, hrecords]) (hs.checked.of_same
      (by simp only [hrecords]) (fun _ => hfailed) (fun hclosed => ⟨hclosed, rfl⟩)
      fun _ _ => .inr hfailed)
  | closeDirectory hpc =>
    have hfailed : s.failed = true → (s.closeDirectory r).failed = true := by
      intro hfailed
      show (s.failed || (s.directoryOpen && !r.ok)) = true
      rw [hfailed]
      rfl
    refine hs.of_same rfl (hs.checked.of_same rfl hfailed (fun hclosed => ⟨hclosed, rfl⟩) ?_)
    intro _ _
    obtain ⟨hpc, -⟩ | ⟨hpc, -⟩ := hpc
    · rw [hpc] at howner
      exact .inr (hfailed howner)
    · exact .inl (hpc ▸ rfl)

/-! ## The worker -/

/-- What the tests of the worker have found. -/
def Found (s s' : RawRecorder) : Prop :=
  match s.workerPc with
  | .checkingClosed => s'.workerPc = .checkingEmpty → s.queue.closed = true
  | .checkingEmpty => s'.workerPc = .refusing none → s.queue.items = []
  | .appending t => s'.workerPc = s.append t
  | .checkingOffset t =>
    s'.workerPc = .writingBin t → t.record.frame.data.length ≤ maxOffset - s.files.splitBytes
  | _ => True

theorem found_of_workerStep {s s' : RawRecorder} {r : IoAnswers} (h : s.workerStep r = some s') :
    s.Found s' := by
  unfold workerStep at h
  unfold Found
  generalize s.workerPc = pc at h
  cases pc with
  | checkingClosed =>
    obtain rfl := Option.some.inj h
    intro hpc
    dsimp only at hpc
    split_ifs at hpc with hclosed
    exact hclosed
  | checkingEmpty =>
    obtain rfl := Option.some.inj h
    intro hpc
    dsimp only at hpc
    split_ifs at hpc with hsize
    exact List.eq_nil_of_length_eq_zero hsize
  | appending t =>
    obtain rfl := Option.some.inj h
    rfl
  | checkingOffset t =>
    intro hpc
    dsimp only at h
    split_ifs at h with hlong <;> obtain rfl := Option.some.inj h
    · exact nomatch hpc
    · exact Nat.le_of_not_lt hlong
  | _ => trivial

/-- `Append` begins a new split for a valid length only, and behind a record. -/
theorem append_eq_closing {s : RawRecorder} {t : Telegram} (h : s.append t = .closing .syncBin t) :
    Valid t ∧ s.files.splitFrames ≠ 0 := by
  unfold append at h
  dsimp only at h
  split_ifs at h with hlength hfull
  exact ⟨by unfold Valid; omega, hfull.1⟩

/-- `Append` stays in the split with a valid length that fits. -/
theorem append_eq_checkingOffset {s : RawRecorder} {t : Telegram}
    (h : s.append t = .checkingOffset t) (hpos : 0 < s.maxFileBytes) :
    Valid t ∧ (s.files.splitFrames = 0 ∨
      s.files.splitBytes + t.record.frame.data.length ≤ s.maxFileBytes) := by
  unfold append at h
  dsimp only at h
  split_ifs at h with hlength hfull
  exact ⟨by unfold Valid; omega, by omega⟩

/-- The steps of the worker that leave the files alone. -/
theorem checked_move {s : RawRecorder} {pc : WorkerPc} (hs : s.Checked) (hdata : FileData s)
    (haccounts : Accounts s) (hpos : 0 < s.maxFileBytes)
    (hfound : s.Found { s with workerPc := pc }) (h : WorkerMove s.workerPc pc) :
    Checked { s with workerPc := pc } := by
  have hcounted := hdata.counted fun t heq => h.not_opening t heq
  have hnothing := haccounts.nothing
  have hrecords : s.files.splitFrames = 0 → s.files.current.records = [] := fun hzero =>
    List.eq_nil_of_length_eq_zero (hcounted.frames ▸ hzero)
  unfold Checked at hs
  unfold Found at hfound
  generalize s.workerPc = pc₀ at hs hfound h hnothing
  cases h with
  | seeClosed => exact hfound rfl
  | leave => exact .inr ⟨rfl, hs, hfound rfl⟩
  | split t =>
    obtain ⟨hvalid, hframes⟩ := append_eq_closing hfound.symm
    refine ⟨hvalid, fun hempty => hframes ?_⟩
    rw [hcounted.frames, hempty]
    rfl
  | stay t =>
    obtain ⟨hvalid, hroom⟩ := append_eq_checkingOffset hfound.symm hpos
    refine ⟨hvalid, hroom.imp hrecords fun hfits => ?_⟩
    rw [hcounted.bytes] at hfits
    exact hfits
  | fits t =>
    have hoffset := hfound rfl
    rw [hcounted.bytes] at hoffset
    refine ⟨hs.1, hs.2, ?_⟩
    have hvalid := hs.1.1
    show (binOf s.files.current.records).length + _ ≤ maxOffset
    omega
  | nothingPending =>
    obtain hold | ⟨-, hclosed, hitems⟩ := hs
    · exact .inl hold
    · exact .inr ⟨hclosed, hitems, hnothing rfl⟩
  | again hpc => trivial
  | throws hpc => trivial
  | flushThrows hpc => trivial
  | _ => trivial

/-- The record that is counted goes into a split with room for it. -/
theorem Layout.count {maxFileBytes : Nat} {s s' : RawRecorder} {t : Telegram}
    (hs : s.Layout maxFileBytes) (hvalid : Valid t) (hroom : s.HasRoom t)
    (hoffset : s.recorded + t.record.frame.data.length ≤ maxOffset)
    (hlimit : s'.maxFileBytes = s.maxFileBytes)
    (hfiles : s'.files = s.files.countRecord t.record) (hchecked : s'.Checked) :
    s'.Layout maxFileBytes := by
  have hrecords : s'.files.current.records = s.files.current.records ++ [t.record] := by
    rw [hfiles]
    rfl
  have hrecorded : s'.recorded = s.recorded + t.record.frame.data.length := by
    unfold recorded
    rw [hrecords, binOf_append, List.length_append]
  refine ⟨hlimit.trans hs.limit, ?_, ?_, ?_, ?_, hchecked⟩
  · rw [hfiles]
    exact hs.earlier
  · obtain hfirst | hfits := hroom
    · right
      rw [hrecords, hfirst]
      rfl
    · left
      rw [hs.limit] at hfits
      show s'.recorded ≤ maxFileBytes
      rw [hrecorded]
      exact hfits
  · rw [hrecorded]
    exact hoffset
  · have hframes := hs.frames
    have hlength := hvalid.1
    rw [hrecords, hrecorded, List.length_append, List.length_singleton]
    omega

theorem Layout.worker {maxFileBytes : Nat} {s s' : RawRecorder} {r : IoAnswers}
    (hs : s.Layout maxFileBytes) (hdata : FileData s) (haccounts : Accounts s)
    (hpos : 0 < maxFileBytes) (hstep : s.workerStep r = some s') : s'.Layout maxFileBytes := by
  have hchecked := hs.checked
  have hworker := hdata.worker
  unfold Checked at hchecked
  cases workerStep_inv hstep with
  | @move pc hmove =>
    have hlimit : 0 < s.maxFileBytes := hs.limit ▸ hpos
    exact hs.of_same rfl
      (checked_move hs.checked hdata haccounts hlimit (found_of_workerStep hstep) hmove)
  | take hpc hitems => exact hs.of_same rfl trivial
  | @closeSplit at' t hpc =>
    rw [hpc] at hchecked
    have hframe := s.files.closeStep_frame s.failed r at'
    simp only [Prod.mk.injEq] at hframe
    obtain ⟨hearlier, -, -, hrecords, -⟩ := hframe
    refine hs.of_same (by simp only [hearlier, hrecords]) ?_
    unfold Checked
    dsimp only
    rw [hrecords]
    cases (s.files.closeStep s.failed r at').2.2 with
    | some next => exact hchecked
    | none => exact hchecked
  | @nextSplit t hpc hfailed =>
    rw [hpc] at hchecked
    refine ⟨hs.limit, ?_, .inl (Nat.zero_le _), Nat.zero_le _, Nat.zero_le _, hchecked.1⟩
    intro split hsplit
    obtain hold | hlast := List.mem_append.mp hsplit
    · exact hs.earlier split hold
    · rw [List.mem_singleton.mp hlast]
      exact ⟨hchecked.2, hs.current⟩
  | @openSplit at' t hpc =>
    unfold WorkerData at hworker
    rw [hpc] at hworker hchecked
    have hframe := s.files.openStep_frame r at'
    simp only [Prod.mk.injEq] at hframe
    obtain ⟨hearlier, hrecords, -⟩ := hframe
    have hopened := SplitFiles.opening_openStep (r := r) hworker
    refine hs.of_same (by simp only [hearlier, hrecords]) ?_
    unfold Checked
    dsimp only
    generalize (s.files.openStep r at').2 = outcome at hopened
    cases outcome with
    | threw => trivial
    | next next => exact hchecked
    | done => exact ⟨hchecked, .inl hopened.2⟩
  | @writeBin t hpc =>
    rw [hpc] at hchecked
    refine hs.of_same rfl ?_
    unfold Checked
    dsimp only
    cases r.write.ok with
    | true => exact hchecked
    | false => trivial
  | @writeCsv t hpc =>
    rw [hpc] at hchecked
    refine hs.of_same rfl ?_
    unfold Checked
    dsimp only
    cases r.write.ok with
    | true => exact hchecked
    | false => trivial
  | @count t hpc =>
    rw [hpc] at hchecked
    exact hs.count hchecked.1 hchecked.2.1 hchecked.2.2 rfl rfl trivial
  | latch hpc => exact hs.of_same rfl (.inl rfl)
  | stopIntake hpc =>
    rw [hpc] at hchecked
    exact hs.of_same rfl hchecked
  | closeQueue hpc =>
    rw [hpc] at hchecked
    exact hs.of_same rfl (hchecked.imp_right fun hclean => ⟨hclean.1, rfl, hclean.2.2⟩)
  | discardPending hpc =>
    rw [hpc] at hchecked
    exact hs.of_same rfl (hchecked.imp_right fun hclean => nomatch hclean.1)
  | discard hpc hitems =>
    rw [hpc] at hchecked
    exact hs.of_same rfl
      (hchecked.imp_right fun hclean => nomatch hclean.2.1.symm.trans hitems)
  | drained hpc hitems =>
    rw [hpc] at hchecked
    exact hs.of_same rfl (hchecked.imp_right fun hclean => hclean.2.2)
  | @closeLast at' hpc =>
    rw [hpc] at hchecked
    have hframe := s.files.closeStep_frame s.failed r at'
    simp only [Prod.mk.injEq] at hframe
    obtain ⟨hearlier, -, -, hrecords, -⟩ := hframe
    refine hs.of_same (by simp only [hearlier, hrecords]) ?_
    have hkeeps : s.failed = true → (s.files.closeStep s.failed r at').2.1 = true := by
      intro hfailed
      rw [hfailed]
      exact s.files.closeStep_failed r at'
    unfold Checked
    dsimp only
    cases (s.files.closeStep s.failed r at').2.2 with
    | some next => exact hchecked.imp_left hkeeps
    | none => exact hchecked.imp_left hkeeps

/-- **The splits are never too full**, whatever the threads do. -/
theorem layout_of_reachable {maxFileBytes capacity : Nat} (hpos : 0 < maxFileBytes)
    {s : RawRecorder} (h : (system maxFileBytes capacity).Reachable s) : s.Layout maxFileBytes := by
  refine h.invariant_of
    (Q := fun s => FileData s ∧ Accounts s)
    (fun s hs => ⟨fileData_of_reachable hs, accounts_of_reachable hs⟩) ?_ ?_
  · rintro s rfl
    exact ⟨rfl, nofun, .inl (Nat.zero_le _), Nat.zero_le _, Nat.zero_le _, nofun⟩
  · intro s a s' hq hs hstep
    cases a with
    | onFrame record =>
      obtain ⟨-, -, rfl⟩ := onFrame_inv hstep
      exact hs.of_same rfl
        (hs.checked.of_same rfl id (fun hclosed => ⟨hclosed, rfl⟩) fun _ => .inl)
    | producer threw => exact hs.producer (producerStep_inv hstep)
    | worker r => exact hs.worker hq.1 hq.2 hpos hstep
    | owner r => exact hs.owner hq.1 (ownerStep_inv hstep)
    | stop =>
      obtain ⟨hmay, rfl⟩ := stop_inv hstep
      refine hs.of_same rfl (hs.checked.of_same rfl id (fun hclosed => ⟨hclosed, rfl⟩) ?_)
      intro _ _
      obtain ⟨ok, hpc⟩ | hpc := hmay <;> exact .inl (hpc ▸ rfl)

/-! ## The layout of a recording -/

/-- The worker is not in the middle of a record, a split or its end. -/
def WorkerPc.betweenWrites : WorkerPc → Bool
  | .polling | .checkingClosed | .checkingEmpty | .appending _ | .closing _ _ | .rotating _
  | .checkingOffset _ | .writingBin _ | .checkingFlush | .syncingBin | .syncingCsv => true
  | .none | .opening _ _ | .writingCsv _ | .counting _ | .failing _ | .refusing _ | .closingQueue _
  | .countingPending _ | .discarding | .closingLast _ | .done => false

/-- How the records of a recording are laid out. -/
structure Recording (maxFileBytes : Nat) (s : RawRecorder) : Prop where
  /-- the splits before the current one -/
  earlier : ∀ split ∈ s.files.earlier, split.LaidOut maxFileBytes ∧ split.records ≠ []
  /-- each record that is written is in one split -/
  records : s.files.splits.flatMap Split.records = s.written.map Telegram.record
  /-- the current split -/
  fits : Fits maxFileBytes s.files.current.records
  current : WorkerPc.betweenWrites s.workerPc = true →
    s.files.current.LaidOut maxFileBytes ∧
      s.files.content = binOf (s.written.map Telegram.record)
  /-- when the recording has ended without a failure -/
  complete : s.ownerPc = .stopped → s.failed = false →
    (∀ split ∈ s.files.splits, split.LaidOut maxFileBytes) ∧
      s.files.content = binOf (s.pushed.map Telegram.record) ∧
      (s.refused = [] → s.producerPc = .idle → s.files.content = binOf s.offered)
  /-- the checks of `Append` in 64 bits, and its counter -/
  rotation : ∀ t, s.workerPc = .appending t → Valid t →
    s.append t =
      if rotates (.ofNat s.files.splitFrames) (.ofNat maxFileBytes) (.ofNat s.files.splitBytes)
          (.ofNat t.record.frame.data.length)
      then .closing .syncBin t else .checkingOffset t
  offset : ∀ t r, s.workerPc = .checkingOffset t →
    s.workerStep r =
      some { s with
        workerPc :=
          if exhausted (.ofNat s.files.splitBytes) (.ofNat t.record.frame.data.length)
          then .failing (some t) else .writingBin t }
  counter : ∀ t, s.workerPc = .counting t →
    (UInt64.ofNat s.files.splitBytes + UInt64.ofNat t.record.frame.data.length).toNat =
      s.files.splitBytes + t.record.frame.data.length

/-- Between two writes the current split is intact. -/
theorem intact_of_betweenWrites {s : RawRecorder} (h : s.WorkerData)
    (hpc : WorkerPc.betweenWrites s.workerPc = true) : s.files.current.Intact := by
  unfold WorkerData at h
  generalize s.workerPc = pc at h hpc
  cases pc with
  | polling | checkingClosed | checkingEmpty | appending | checkingOffset | writingBin
  | checkingFlush | syncingBin | syncingCsv => exact h.intact
  | closing => exact h.1
  | rotating => exact h
  | _ => exact nomatch hpc

/-- The BIN files of a recording whose current split is intact. -/
theorem content_of_intact {s : RawRecorder} (hdata : FileData s)
    (hintact : s.files.current.Intact) :
    s.files.content = binOf (s.written.map Telegram.record) := by
  have hcurrent : s.files.current.bin.getD [] = binOf s.files.current.records ++ [] := by
    rw [hintact.bin, List.append_nil]
    rfl
  rw [content_eq hdata hcurrent, List.append_nil]

/-- Without a failure a stopped recorder has written all that was pushed. -/
theorem written_of_stopped {s : RawRecorder} (hgates : Gates s) (haccounts : Accounts s)
    (hdata : FileData s) (hchecked : s.Checked) (hstop : s.ownerPc = .stopped)
    (hfailed : s.failed = false) : s.files.current.Intact ∧ s.pushed = s.written := by
  have hworker := hdata.worker
  have hpushed := (atRest_of_stopped hgates haccounts hdata hstop).1
  have hno : ¬s.failed = true := ne_true_of_eq_false hfailed
  unfold WorkerData at hworker
  unfold Checked at hchecked
  obtain hpc | hpc := hgates.joined (.inr hstop) <;> rw [hpc] at hworker hchecked
  · exact absurd (hchecked (hstop ▸ rfl)) hno
  · have hdiscarded := hchecked.resolve_left hno
    rw [hdiscarded, List.append_nil] at hpushed
    exact ⟨hworker.resolve_left fun h => hno h.1, hpushed⟩

/-- What is offered and neither refused nor still in `OnFrame` has been pushed, in order. -/
theorem pushed_of_none_refused {s : RawRecorder} (haccounts : Accounts s) (hrefused : s.refused = [])
    (hidle : s.producerPc = .idle) : s.pushed.map Telegram.record = s.offered := by
  have hoffered := haccounts.offered
  have horder := haccounts.order
  rw [hidle, ProducerPc.held, List.append_nil] at hoffered horder
  rw [hrefused, List.append_nil] at hoffered
  rw [horder.eq_of_length hoffered.length_eq, map_record_numbered]

/-- `Append` decides in 64 bits what it decides in natural numbers. -/
theorem append_eq_rotates {s : RawRecorder} {t : Telegram} (hvalid : Valid t)
    (hframes : s.files.splitFrames ≤ maxOffset) (hbytes : s.files.splitBytes ≤ maxOffset)
    (hmax : s.maxFileBytes < 2 ^ 64) :
    s.append t =
      if rotates (.ofNat s.files.splitFrames) (.ofNat s.maxFileBytes) (.ofNat s.files.splitBytes)
          (.ofNat t.record.frame.data.length)
      then .closing .syncBin t else .checkingOffset t := by
  have hwide : maxOffset < 2 ^ 64 := by decide
  have hrotates := rotates_eq (Nat.lt_of_le_of_lt hframes hwide) hmax
    (Nat.lt_of_le_of_lt hbytes hwide) (Nat.lt_of_le_of_lt hvalid.2 hwide)
  have hlength : ¬(t.record.frame.data.length = 0 ∨ t.record.frame.data.length > maxOffset) := by
    unfold Valid at hvalid
    omega
  rw [hrotates]
  unfold append
  dsimp only
  rw [if_neg hlength]
  simp only [decide_eq_true_eq]

/-- So does the test for the end of the offsets. -/
theorem workerStep_checkingOffset {s : RawRecorder} {t : Telegram} (hvalid : Valid t)
    (hpc : s.workerPc = .checkingOffset t) (hbytes : s.files.splitBytes ≤ maxOffset)
    (r : IoAnswers) :
    s.workerStep r =
      some { s with
        workerPc :=
          if exhausted (.ofNat s.files.splitBytes) (.ofNat t.record.frame.data.length)
          then .failing (some t) else .writingBin t } := by
  have hwide : maxOffset < 2 ^ 64 := by decide
  have hexhausted := exhausted_eq hbytes (Nat.lt_of_le_of_lt hvalid.2 hwide)
  rw [hexhausted]
  unfold workerStep
  rw [hpc]
  dsimp only
  by_cases hlong : t.record.frame.data.length > maxOffset - s.files.splitBytes
  · rw [if_pos hlong, if_pos (decide_eq_true hlong)]
  · rw [if_neg hlong, if_neg (by simpa using hlong)]

/-- And the counter of the bytes does not wrap. -/
theorem toNat_add_of_le {a b : Nat} (h : a + b ≤ maxOffset) :
    (UInt64.ofNat a + UInt64.ofNat b).toNat = a + b := by
  have hwide : maxOffset < 2 ^ 64 := by decide
  have hlt : a + b < 2 ^ 64 := Nat.lt_of_le_of_lt h hwide
  rw [UInt64.toNat_add, UInt64.toNat_ofNat_of_lt' (Nat.lt_of_le_of_lt (Nat.le_add_right a b) hlt),
    UInt64.toNat_ofNat_of_lt' (Nat.lt_of_le_of_lt (Nat.le_add_left b a) hlt),
    Nat.mod_eq_of_lt hlt]

end RawRecorder

/-- **The layout of a recording.**  Whatever is offered and whatever the threads do: each record is
in one split, where the index says, right behind the one before it; a split is no longer than
allowed unless it has one record only; and the sizes `Append` compares do not wrap. -/
theorem split_layout {maxFileBytes capacity : Nat} (hpos : 0 < maxFileBytes)
    (hmax : maxFileBytes < 2 ^ 64) {s : RawRecorder}
    (h : (RawRecorder.system maxFileBytes capacity).Reachable s) : s.Recording maxFileBytes := by
  have hdata := RawRecorder.fileData_of_reachable h
  have haccounts := RawRecorder.accounts_of_reachable h
  have hlayout := RawRecorder.layout_of_reachable hpos h
  have hoffsets : s.recorded ≤ maxOffset := hlayout.offsets
  have hearlier : ∀ split ∈ s.files.earlier, split.LaidOut maxFileBytes ∧ split.records ≠ [] :=
    fun split hsplit => ⟨(hdata.earlier split hsplit).laidOut (hlayout.earlier split hsplit).2,
      (hlayout.earlier split hsplit).1⟩
  have hcounted {pc : WorkerPc} (hpc : s.workerPc = pc) (hno : ∀ t, pc ≠ .opening .createJson t) :
      s.files.Counted := hdata.counted fun t => hpc ▸ hno t
  refine ⟨hearlier, hdata.records, hlayout.current, ?_, ?_, ?_, ?_, ?_⟩
  · intro hpc
    have hintact := RawRecorder.intact_of_betweenWrites hdata.worker hpc
    exact ⟨hintact.laidOut hlayout.current, RawRecorder.content_of_intact hdata hintact⟩
  · intro hstop hfailed
    obtain ⟨hintact, hpushed⟩ := RawRecorder.written_of_stopped (RawRecorder.gates_of_reachable h)
      haccounts hdata hlayout.checked hstop hfailed
    have hcontent := RawRecorder.content_of_intact hdata hintact
    rw [← hpushed] at hcontent
    refine ⟨?_, hcontent, fun hrefused hidle => ?_⟩
    · intro split hsplit
      obtain hold | hlast := List.mem_append.mp hsplit
      · exact (hearlier split hold).1
      · rw [List.mem_singleton.mp hlast]
        exact hintact.laidOut hlayout.current
    · rw [hcontent, RawRecorder.pushed_of_none_refused haccounts hrefused hidle]
  · intro t hpc hvalid
    have hcounters := hcounted hpc fun _ => nofun
    have hbytes : s.files.splitBytes ≤ maxOffset := hcounters.bytes ▸ hoffsets
    have hframes : s.files.splitFrames ≤ s.recorded := hcounters.frames ▸ hlayout.frames
    have hlimit : s.maxFileBytes < 2 ^ 64 := hlayout.limit ▸ hmax
    rw [RawRecorder.append_eq_rotates hvalid (Nat.le_trans hframes hoffsets) hbytes hlimit,
      hlayout.limit]
  · intro t r hpc
    have hchecked := hlayout.checked
    unfold RawRecorder.Checked at hchecked
    rw [hpc] at hchecked
    have hbytes : s.files.splitBytes ≤ maxOffset := (hcounted hpc fun _ => nofun).bytes ▸ hoffsets
    exact RawRecorder.workerStep_checkingOffset hchecked.1 hpc hbytes r
  · intro t hpc
    have hchecked := hlayout.checked
    unfold RawRecorder.Checked at hchecked
    rw [hpc] at hchecked
    refine RawRecorder.toNat_add_of_le ?_
    rw [(hcounted hpc fun _ => nofun).bytes]
    exact hchecked.2.2

/-- Three telegrams, of which the third does not fit beside the others. -/
theorem split_layout_of_three :
    ∃ s, (RawRecorder.system 4 3).Reachable s ∧ s.ownerPc = .stopped ∧ s.failed = false ∧
      s.files.splits.map (fun split => split.records.length) = [2, 1] ∧ s.Recording 4 := by
  let done : IoAnswers := ⟨true, ⟨true, 0⟩, .done, false⟩
  let offer (bytes : List UInt8) : List RecorderAction :=
    .onFrame { frame := ⟨bytes, true⟩, receiveTimestampUs := 7 } ::
      List.replicate 3 (.producer false)
  let actions : List RecorderAction := List.flatten
    [List.replicate 11 (.owner done), offer [2, 3], offer [4], offer [5, 6, 7],
      List.replicate 39 (.worker done), [.stop], List.replicate 2 (.owner done),
      List.replicate 16 (.worker done), List.replicate 2 (.owner done)]
  have hrun : ((RawRecorder.system 4 3).exec (.new 4 3) actions).map
      (fun s => (s.ownerPc, s.failed, s.files.splits.map fun split => split.records.length)) =
        some (.stopped, false, [2, 1]) := by decide +kernel
  obtain ⟨s, hexec, hs⟩ := Option.map_eq_some_iff.mp hrun
  obtain ⟨hstopped, hs⟩ := Prod.mk.inj hs
  obtain ⟨hfailed, hsplits⟩ := Prod.mk.inj hs
  have hreach := StepSystem.reachable_of_exec (.init rfl) hexec
  exact ⟨s, hreach, hstopped, hfailed, hsplits, split_layout (by decide) (by decide) hreach⟩

end Lms
end AmigaDrivers
