import Mathlib.Data.List.GetD
import AmigaDrivers.Common.RotatingFileWriter

/-!
# What lies in the files of a rotating writer

Every file begins with what `on_new_file` wrote and goes on with whole records.  The invariant
keeps the records of each file, so that it still says where the bytes are when the stream has
failed: what the stream took is laid out as planned, up to bytes that were lost behind it.

* `written`, `append_eq`: an append is what leads to the write, the write, and the rotation.
* `Laid`: the files as planned, what failed, and the counters.
* `laid_of_openNext`, `laid_of_written`, `laid_of_closeCurrent`: what one operation does.
-/

namespace AmigaDrivers
namespace RotatingFileWriter

/-! ## An append, step by step -/

/-- Going on where a step was done. -/
def andThen (p : RotatingFileWriter × Bool) (f : RotatingFileWriter → RotatingFileWriter × Bool) :
    RotatingFileWriter × Bool :=
  match p with
  | (w, false) => (w, false)
  | (w, true) => f w

/-- The size test of `Append`. -/
def fitted (w : RotatingFileWriter) (data : List UInt8) (r : AppendResult) :
    RotatingFileWriter × Bool :=
  if w.precheckSizeCap = true ∧ w.maxFileBytes > 0 then
    if data.length > w.maxFileBytes then ({ w with failed := true }, false)
    else if w.currentBytes > w.maxFileBytes - data.length then w.openNext r.precheck
    else (w, true)
  else (w, true)

/-- `Append` up to its write. -/
def prepared (w : RotatingFileWriter) (data : List UInt8) (r : AppendResult) :
    RotatingFileWriter × Bool :=
  if w.failed then (w, false)
  else if w.isOpen then w.fitted data r
  else andThen (w.openNext r.first) fun w => w.fitted data r

/-- The counters behind a write. -/
def counted (w : RotatingFileWriter) (size : Nat) : RotatingFileWriter :=
  { w with
    currentBytes := w.currentBytes + size
    bytesWritten := w.bytesWritten + size
    recordsWritten := w.recordsWritten + 1 }

/-- The writer behind the write of `Append`, when the record was written. -/
def written (w : RotatingFileWriter) (data : List UInt8) (r : AppendResult) :
    Option RotatingFileWriter :=
  match w.prepared data r with
  | (_, false) => none
  | (w, true) =>
    if (w.streamWrite data r.write).good then
      some ((w.streamWrite data r.write).counted data.length)
    else none

theorem andThen_true (w : RotatingFileWriter) (f : RotatingFileWriter → RotatingFileWriter × Bool) :
    andThen (w, true) f = f w := rfl

theorem andThen_assoc (p : RotatingFileWriter × Bool)
    (f g : RotatingFileWriter → RotatingFileWriter × Bool) :
    andThen (andThen p f) g = andThen p fun w => andThen (f w) g := by
  obtain ⟨w, _ | _⟩ := p <;> rfl

theorem appendToOpen_eq (w : RotatingFileWriter) (data : List UInt8) (r : AppendResult) :
    w.appendToOpen data r = andThen (w.fitted data r) fun w => w.writeRecord data r := by
  unfold appendToOpen fitted
  split_ifs
  · rfl
  · obtain ⟨w', _ | _⟩ := w.openNext r.precheck <;> rfl
  · rfl
  · rfl

/-- An append is what leads to the write, and the write. -/
theorem append_eq (w : RotatingFileWriter) (data : List UInt8) (r : AppendResult) :
    w.append data r = andThen (w.prepared data r) fun w => w.writeRecord data r := by
  unfold append prepared
  split_ifs
  · rfl
  · exact appendToOpen_eq w data r
  · rw [andThen_assoc]
    simp only [← appendToOpen_eq]
    obtain ⟨w', _ | _⟩ := w.openNext r.first <;> rfl

/-! ## The files as planned -/

/-- What `on_new_file` writes to a file. -/
def header (w : RotatingFileWriter) (seq : Nat) : List UInt8 :=
  match w.onNewFile with
  | none => []
  | some header => header seq

/-- The files that hold those records, file by file. -/
def planned (w : RotatingFileWriter) (blocks : List (List (List UInt8))) : List (List UInt8) :=
  blocks.mapIdx fun seq records => w.header seq ++ records.flatten

/-- A record more in the last file. -/
def addRecord (blocks : List (List (List UInt8))) (data : List UInt8) :
    List (List (List UInt8)) :=
  match blocks with
  | [] => []
  | [records] => [records ++ [data]]
  | records :: records' :: rest => records :: addRecord (records' :: rest) data

theorem addRecord_concat (blocks : List (List (List UInt8))) (records : List (List UInt8))
    (data : List UInt8) :
    addRecord (blocks ++ [records]) data = blocks ++ [records ++ [data]] := by
  induction blocks with
  | nil => rfl
  | cons first blocks ih =>
    cases blocks with
    | nil => rfl
    | cons second blocks => exact congrArg (first :: ·) ih

theorem appendToFile_concat (files : List (List UInt8)) (file bytes : List UInt8) :
    appendToFile (files ++ [file]) bytes = files ++ [file ++ bytes] := by
  induction files with
  | nil => rfl
  | cons first files ih =>
    cases files with
    | nil => rfl
    | cons second files => exact congrArg (first :: ·) ih

theorem appendToFile_append (files : List (List UInt8)) (bytes more : List UInt8) :
    appendToFile (appendToFile files bytes) more = appendToFile files (bytes ++ more) := by
  obtain rfl | ⟨files, file, rfl⟩ := files.eq_nil_or_concat'
  · rfl
  · rw [appendToFile_concat, appendToFile_concat, appendToFile_concat, List.append_assoc]

theorem appendToFile_nil (files : List (List UInt8)) : appendToFile files [] = files := by
  obtain rfl | ⟨files, file, rfl⟩ := files.eq_nil_or_concat'
  · rfl
  · rw [appendToFile_concat, List.append_nil]

theorem length_appendToFile (files : List (List UInt8)) (bytes : List UInt8) :
    (appendToFile files bytes).length = files.length := by
  obtain rfl | ⟨files, file, rfl⟩ := files.eq_nil_or_concat'
  · rfl
  · rw [appendToFile_concat, List.length_append, List.length_append]
    rfl

section Planned

variable (w : RotatingFileWriter) (blocks : List (List (List UInt8)))

@[simp] theorem length_planned : (w.planned blocks).length = blocks.length := List.length_mapIdx

theorem planned_concat (records : List (List UInt8)) :
    w.planned (blocks ++ [records]) =
      w.planned blocks ++ [w.header blocks.length ++ records.flatten] := List.mapIdx_concat

theorem planned_congr {w' : RotatingFileWriter} (h : w'.onNewFile = w.onNewFile) :
    w'.planned blocks = w.planned blocks := by
  unfold planned header
  rw [h]

theorem planned_addRecord (data : List UInt8) :
    w.planned (addRecord blocks data) = appendToFile (w.planned blocks) data := by
  obtain rfl | ⟨blocks, records, rfl⟩ := blocks.eq_nil_or_concat'
  · rfl
  · rw [addRecord_concat, planned_concat, planned_concat, appendToFile_concat, List.append_assoc,
      List.flatten_append, List.flatten_singleton]

end Planned

theorem flatten_addRecord {blocks : List (List (List UInt8))} (h : blocks ≠ [])
    (data : List UInt8) : (addRecord blocks data).flatten = blocks.flatten ++ [data] := by
  obtain rfl | ⟨blocks, records, rfl⟩ := blocks.eq_nil_or_concat'
  · exact absurd rfl h
  · rw [addRecord_concat, List.flatten_append, List.flatten_append, List.append_assoc]
    simp only [List.flatten_singleton]

/-- New files bring no records. -/
theorem flatten_grown (blocks : List (List (List UInt8))) (n : Nat) :
    (blocks ++ List.replicate n []).flatten = blocks.flatten := by
  rw [List.flatten_append, List.flatten_replicate_nil, List.append_nil]

theorem length_addRecord (blocks : List (List (List UInt8))) (data : List UInt8) :
    (addRecord blocks data).length = blocks.length := by
  obtain rfl | ⟨blocks, records, rfl⟩ := blocks.eq_nil_or_concat'
  · rfl
  · rw [addRecord_concat, List.length_append, List.length_append]
    rfl

/-! ## One operation -/

/-- The options of the writer stay as they are. -/
structure SameOptions (w w' : RotatingFileWriter) : Prop where
  maxFileBytes : w'.maxFileBytes = w.maxFileBytes
  rotateInterval : w'.rotateInterval = w.rotateInterval
  precheckSizeCap : w'.precheckSizeCap = w.precheckSizeCap
  onNewFile : w'.onNewFile = w.onNewFile

theorem SameOptions.refl (w : RotatingFileWriter) : SameOptions w w := ⟨rfl, rfl, rfl, rfl⟩

theorem SameOptions.trans {w w' w'' : RotatingFileWriter} (h : SameOptions w w')
    (h' : SameOptions w' w'') : SameOptions w w'' :=
  ⟨h'.maxFileBytes.trans h.maxFileBytes, h'.rotateInterval.trans h.rotateInterval,
    h'.precheckSizeCap.trans h.precheckSizeCap, h'.onNewFile.trans h.onNewFile⟩

theorem SameOptions.header {w w' : RotatingFileWriter} (h : SameOptions w w') :
    w'.header = w.header := by
  funext seq
  unfold RotatingFileWriter.header
  rw [h.onNewFile]

theorem drain_drain_files (w : RotatingFileWriter) (n m : Nat) :
    ((w.drain n).drain m).files = appendToFile w.files (w.buffered.take (n + m)) := by
  rw [List.take_add, ← appendToFile_append]
  rfl

/-- A flush moves a part of the buffer. -/
theorem streamFlush_eq (w : RotatingFileWriter) (r : StreamResult) :
    ∃ n good, w.streamFlush r = { w.drain n with good } := by
  unfold streamFlush
  by_cases hgood : w.good = true
  · rw [if_pos hgood]
    exact ⟨_, _, rfl⟩
  · rw [if_neg hgood]
    refine ⟨0, w.good, ?_⟩
    unfold drain
    rw [List.take_zero, List.drop_zero, appendToFile_nil]

/-- Closing moves a part of the buffer to the file and forgets the rest; when nothing failed, there
is no rest. -/
theorem closeCurrent_cases (w : RotatingFileWriter) (flush close : StreamResult) :
    w.isOpen = false ∧ (w.closeCurrent flush close).1 = w ∨
      w.isOpen = true ∧ ∃ n good failed,
        (w.closeCurrent flush close).1 =
          { w with
            files := appendToFile w.files (w.buffered.take n)
            buffered := []
            isOpen := false
            good
            failed } ∧
        (failed = false → w.failed = false ∧ w.buffered.take n = w.buffered) := by
  unfold closeCurrent
  cases hopen : w.isOpen with
  | false => exact .inl ⟨rfl, rfl⟩
  | true =>
    obtain ⟨n, good, hflush⟩ := streamFlush_eq w flush
    rw [if_pos rfl, hflush]
    refine .inr ⟨rfl, n + (if close.ok then (w.buffered.drop n).length else close.taken),
      good && close.ok, (w.failed || !good) || !(good && close.ok), ?_, ?_⟩
    · rw [← drain_drain_files]
      rfl
    · intro hfailed
      simp only [Bool.or_eq_false_iff, Bool.not_eq_false', Bool.and_eq_true] at hfailed
      obtain ⟨⟨hw, -⟩, -, hok⟩ := hfailed
      refine ⟨hw, List.take_of_length_le ?_⟩
      rw [hok, if_pos rfl, List.length_drop]
      omega

theorem sameOptions_closeCurrent (w : RotatingFileWriter) (flush close : StreamResult) :
    SameOptions w (w.closeCurrent flush close).1 := by
  obtain ⟨-, heq⟩ | ⟨-, n, good, failed, heq, -⟩ := closeCurrent_cases w flush close
  · rw [heq]
    exact .refl w
  · rw [heq]
    exact ⟨rfl, rfl, rfl, rfl⟩

theorem closeCurrent_snd (w : RotatingFileWriter) (flush close : StreamResult) :
    (w.closeCurrent flush close).2 = !(w.closeCurrent flush close).1.failed := rfl

theorem isOpen_closeCurrent (w : RotatingFileWriter) (flush close : StreamResult) :
    (w.closeCurrent flush close).1.isOpen = false := by
  obtain ⟨hshut, heq⟩ | ⟨-, n, good, failed, heq, -⟩ := closeCurrent_cases w flush close
  · rw [heq]
    exact hshut
  · rw [heq]

/-- A writer that has failed opens no file. -/
theorem openNext_of_failed {w : RotatingFileWriter} (h : w.failed = true) (r : OpenResult) :
    w.openNext r = ((w.closeCurrent r.flush r.close).1, false) := by
  have hsnd : (w.closeCurrent r.flush r.close).2 = false := by
    rw [closeCurrent_snd, failed_closeCurrent r.flush r.close h]
    rfl
  unfold openNext
  generalize w.closeCurrent r.flush r.close = p at hsnd ⊢
  obtain ⟨w', ok⟩ := p
  obtain rfl : ok = false := hsnd
  rfl

/-- A write that the stream takes leaves the bytes behind the others. -/
theorem streamWrite_eq {w : RotatingFileWriter} (hgood : w.good = true) (data : List UInt8)
    (r : StreamResult) :
    w.streamWrite data r =
      { w with
        files := appendToFile w.files ((w.buffered ++ data).take r.taken)
        buffered := (w.buffered ++ data).drop r.taken
        good := r.ok } := by
  unfold streamWrite
  rw [if_pos hgood]
  rfl

/-! ## The invariant -/

/-- The files hold what was planned, and behind it what of `torn` the stream took; the counters
count the records. -/
structure Laid (w : RotatingFileWriter) (blocks : List (List (List UInt8))) (torn : List UInt8) :
    Prop where
  count : w.filesOpened = blocks.length
  laid : ∃ lost, appendToFile w.files (w.buffered ++ lost) = appendToFile (w.planned blocks) torn ∧
    (w.failed = false → lost = [])
  torn : w.failed = false → torn = []
  size : w.isOpen = true → w.failed = false → ∃ before records, blocks = before ++ [records] ∧
    w.currentBytes = (w.header before.length ++ records.flatten).length
  good : w.isOpen = true → w.failed = false → w.good = true
  closed : w.isOpen = false → w.buffered = []
  records : w.recordsWritten = blocks.flatten.length
  bytes : w.bytesWritten = blocks.flatten.flatten.length

namespace Laid

variable {w : RotatingFileWriter} {blocks : List (List (List UInt8))} {torn : List UInt8}

/-- What lies in the files is the beginning of what was planned. -/
theorem exists_completion (h : Laid w blocks torn) {file : List UInt8} (hfile : file ∈ w.files) :
    ∃ whole ∈ appendToFile (w.planned blocks) torn, file <+: whole := by
  obtain ⟨lost, hlaid, -⟩ := h.laid
  rw [← hlaid]
  obtain hnil | ⟨files, last, hfiles⟩ := w.files.eq_nil_or_concat'
  · rw [hnil] at hfile
    exact nomatch hfile
  · rw [hfiles] at hfile ⊢
    rw [appendToFile_concat]
    obtain hmem | hlast := List.mem_append.mp hfile
    · exact ⟨file, List.mem_append_left _ hmem, List.prefix_refl _⟩
    · obtain rfl := List.mem_singleton.mp hlast
      exact ⟨_, List.mem_append_right _ (List.mem_singleton_self _), List.prefix_append _ _⟩

/-- A writer that has not failed and is closed has everything in its files. -/
theorem files_eq (h : Laid w blocks torn) (hfailed : w.failed = false) (hshut : w.isOpen = false) :
    w.files = w.planned blocks := by
  obtain ⟨lost, hlaid, hlost⟩ := h.laid
  rw [h.closed hshut, hlost hfailed, h.torn hfailed] at hlaid
  simpa only [List.append_nil, appendToFile_nil] using hlaid

/-- A writer that has opened no file. -/
theorem unused (hcount : w.filesOpened = 0) (hfiles : w.files = []) (hshut : w.isOpen = false)
    (hbuffered : w.buffered = []) (hrecords : w.recordsWritten = 0) (hbytes : w.bytesWritten = 0) :
    Laid w [] [] where
  count := hcount
  laid := by
    refine ⟨[], ?_, fun _ => rfl⟩
    rw [hfiles]
    rfl
  torn _ := rfl
  size hopen := nomatch hshut.symm.trans hopen
  good hopen := nomatch hshut.symm.trans hopen
  closed _ := hbuffered
  records := hrecords
  bytes := hbytes

theorem closeCurrent (h : Laid w blocks torn) (flush close : StreamResult) :
    Laid (w.closeCurrent flush close).1 blocks torn := by
  obtain ⟨-, heq⟩ | ⟨hopen, n, good, failed, heq, hfailed⟩ := closeCurrent_cases w flush close
  · rw [heq]
    exact h
  · rw [heq]
    refine { count := h.count, laid := ?_, torn := fun hf => h.torn (hfailed hf).1, size := nofun,
             good := nofun, closed := fun _ => rfl, records := h.records, bytes := h.bytes }
    obtain ⟨lost, hlaid, hlost⟩ := h.laid
    refine ⟨w.buffered.drop n ++ lost, ?_, fun hf => ?_⟩
    · rw [List.nil_append]
      dsimp only
      rw [appendToFile_append, ← List.append_assoc, List.take_append_drop, hlaid]
      rfl
    · obtain ⟨hw, hall⟩ := hfailed hf
      have hrest : w.buffered.drop n = [] := by
        have hsplit := List.take_append_drop n w.buffered
        rw [hall] at hsplit
        exact List.append_right_eq_self.mp hsplit
      rw [hrest, hlost hw]
      rfl

/-- A new file with what the stream took of its header. -/
theorem fresh (h : Laid w blocks torn) (hfailed : w.failed = false) (hshut : w.isOpen = false)
    (n : Nat) (good failed : Bool) (size : Nat)
    (hok : failed = false → good = true ∧ size = (w.header blocks.length).length) :
    Laid
      { w with
        isOpen := true
        good
        failed
        buffered := (w.header blocks.length).drop n
        files := appendToFile (w.files ++ [[]]) ((w.header blocks.length).take n)
        currentBytes := size
        filesOpened := w.filesOpened + 1 }
      (blocks ++ [[]]) torn where
  count := by
    rw [List.length_append]
    exact congrArg (· + 1) h.count
  laid := by
    refine ⟨[], ?_, fun _ => rfl⟩
    rw [List.append_nil, h.torn hfailed, appendToFile_nil, appendToFile_append,
      List.take_append_drop, appendToFile_concat, List.nil_append, h.files_eq hfailed hshut,
      planned_concat, List.flatten_nil, List.append_nil]
    rfl
  torn _ := h.torn hfailed
  size _ hf := by
    refine ⟨blocks, [], rfl, ?_⟩
    rw [List.flatten_nil, List.append_nil]
    exact (hok hf).2
  good _ hf := (hok hf).1
  closed := nofun
  records := by
    rw [List.flatten_append, List.flatten_singleton, List.append_nil]
    exact h.records
  bytes := by
    rw [List.flatten_append, List.flatten_singleton, List.append_nil]
    exact h.bytes

theorem startFile (h : Laid w blocks torn) (hfailed : w.failed = false) (hshut : w.isOpen = false)
    (r : OpenResult) :
    Laid ((w.streamOpen true).startFile r).1 (blocks ++ [[]]) torn ∧
      SameOptions w ((w.streamOpen true).startFile r).1 ∧
      (((w.streamOpen true).startFile r).2 = true →
        ((w.streamOpen true).startFile r).1.isOpen = true ∧
        ((w.streamOpen true).startFile r).1.failed = false) := by
  have hseq : (w.streamOpen true).filesOpened = blocks.length := h.count
  unfold RotatingFileWriter.startFile
  dsimp only
  split
  · rename_i hheader
    have hempty : w.header blocks.length = [] := by
      unfold RotatingFileWriter.header
      rw [show w.onNewFile = none from hheader]
    have hfresh := h.fresh hfailed hshut 0 true w.failed 0
      (fun _ => ⟨rfl, by rw [hempty]; rfl⟩)
    rw [List.take_zero, List.drop_zero, appendToFile_nil, hempty] at hfresh
    exact ⟨hfresh, ⟨rfl, rfl, rfl, rfl⟩, fun _ => ⟨rfl, hfailed⟩⟩
  · rename_i header hheader
    have hbytes : header (w.streamOpen true).filesOpened = w.header blocks.length := by
      unfold RotatingFileWriter.header
      rw [show w.onNewFile = some header from hheader, hseq]
    rw [hbytes, streamWrite_eq rfl]
    cases hwrite : r.header.ok with
    | true =>
      have hfresh := h.fresh hfailed hshut r.header.taken true w.failed _
        (fun _ => ⟨rfl, rfl⟩)
      exact ⟨hfresh, ⟨rfl, rfl, rfl, rfl⟩, fun _ => ⟨rfl, hfailed⟩⟩
    | false =>
      have hfresh := h.fresh hfailed hshut r.header.taken false true 0 nofun
      rw [if_neg Bool.false_ne_true]
      dsimp only
      refine ⟨hfresh.closeCurrent r.abortFlush r.abortClose,
        SameOptions.trans ?_ (sameOptions_closeCurrent _ r.abortFlush r.abortClose), nofun⟩
      exact ⟨rfl, rfl, rfl, rfl⟩

/-- Going on to the next file: it is there, or the failure is latched. -/
theorem openNext (h : Laid w blocks torn) (r : OpenResult) :
    SameOptions w (w.openNext r).1 ∧
      (Laid (w.openNext r).1 (blocks ++ [[]]) torn ∨ Laid (w.openNext r).1 blocks torn ∧
        (w.openNext r).2 = false) ∧
      ((w.openNext r).2 = true →
        (w.openNext r).1.isOpen = true ∧ (w.openNext r).1.failed = false) := by
  have hclosed := h.closeCurrent r.flush r.close
  have hoptions := sameOptions_closeCurrent w r.flush r.close
  have hshut := isOpen_closeCurrent w r.flush r.close
  have hsnd := closeCurrent_snd w r.flush r.close
  unfold RotatingFileWriter.openNext
  generalize w.closeCurrent r.flush r.close = p at hclosed hoptions hshut hsnd
  obtain ⟨w', ok⟩ := p
  dsimp only at hclosed hoptions hshut hsnd
  cases hfailed : w'.failed with
  | true =>
    rw [hfailed] at hsnd
    subst hsnd
    exact ⟨hoptions, .inr ⟨hclosed, rfl⟩, nofun⟩
  | false =>
    rw [hfailed] at hsnd
    subst hsnd
    dsimp only
    split_ifs
    · obtain ⟨hlaid, hsame, hok⟩ := hclosed.startFile hfailed hshut r
      exact ⟨hoptions.trans hsame, .inl hlaid, hok⟩
    · refine ⟨hoptions.trans ⟨rfl, rfl, rfl, rfl⟩, .inr ⟨?_, rfl⟩, nofun⟩
      exact
        { count := hclosed.count
          laid := by
            obtain ⟨lost, hlaid, hlost⟩ := hclosed.laid
            exact ⟨lost, hlaid, fun _ => hlost hfailed⟩
          torn := fun _ => hclosed.torn hfailed
          size := fun hopen => nomatch hshut.symm.trans hopen
          good := fun hopen => nomatch hshut.symm.trans hopen
          closed := hclosed.closed
          records := hclosed.records
          bytes := hclosed.bytes }

/-- A file that was just opened holds its header. -/
theorem currentBytes_fresh (h : Laid w (blocks ++ [[]]) torn) (hopen : w.isOpen = true)
    (hfailed : w.failed = false) : w.currentBytes = (w.header blocks.length).length := by
  obtain ⟨before, records, hblocks, hsize⟩ := h.size hopen hfailed
  obtain ⟨rfl, hrecords⟩ := List.append_inj' hblocks rfl
  obtain rfl : [] = records := (List.cons.inj hrecords).1
  rw [hsize, List.flatten_nil, List.append_nil]

/-- A write that the stream reports as done adds a whole record. -/
theorem counted (h : Laid w blocks torn) (hopen : w.isOpen = true) (hfailed : w.failed = false)
    (data : List UInt8) (r : StreamResult) (hwrite : (w.streamWrite data r).good = true) :
    Laid ((w.streamWrite data r).counted data.length) (addRecord blocks data) torn := by
  obtain ⟨before, records, rfl, hsize⟩ := h.size hopen hfailed
  rw [streamWrite_eq (h.good hopen hfailed)] at hwrite ⊢
  have hok : r.ok = true := hwrite
  have hne : before ++ [records] ≠ [] := List.append_ne_nil_of_right_ne_nil _ (List.cons_ne_nil _ _)
  refine
    { count := h.count.trans (length_addRecord _ data).symm
      laid := ?_
      torn := h.torn
      size := fun _ _ => ⟨before, records ++ [data], addRecord_concat before records data, ?_⟩
      good := fun _ _ => hok
      closed := fun hshut => nomatch hopen.symm.trans hshut
      records := ?_
      bytes := ?_ }
  · obtain ⟨lost, hlaid, hlost⟩ := h.laid
    refine ⟨[], ?_, fun _ => rfl⟩
    rw [hlost hfailed, h.torn hfailed, appendToFile_nil, List.append_nil] at hlaid
    show appendToFile (appendToFile _ _) _ = appendToFile (w.planned _) torn
    rw [h.torn hfailed, appendToFile_nil, planned_addRecord, ← hlaid, appendToFile_append,
      appendToFile_append]
    show appendToFile _ (_ ++ (List.drop r.taken (w.buffered ++ data) ++ [])) = _
    rw [List.append_nil, List.take_append_drop]
  · show w.currentBytes + data.length = _
    rw [hsize, List.flatten_append, List.flatten_singleton, ← List.append_assoc]
    exact List.length_append.symm
  · rw [flatten_addRecord hne, List.length_append]
    exact congrArg (· + 1) h.records
  · rw [flatten_addRecord hne, List.flatten_append, List.flatten_singleton, List.length_append]
    exact congrArg (· + data.length) h.bytes

/-- A write that it does not leaves a part of the record. -/
theorem tornWrite (h : Laid w blocks torn) (hopen : w.isOpen = true) (hfailed : w.failed = false)
    (data : List UInt8) (r : StreamResult) :
    Laid { w.streamWrite data r with failed := true } blocks data := by
  rw [streamWrite_eq (h.good hopen hfailed)]
  refine
    { count := h.count
      laid := ?_
      torn := nofun
      size := nofun
      good := nofun
      closed := fun hshut => nomatch hopen.symm.trans hshut
      records := h.records
      bytes := h.bytes }
  obtain ⟨lost, hlaid, hlost⟩ := h.laid
  refine ⟨[], ?_, nofun⟩
  rw [hlost hfailed, h.torn hfailed, appendToFile_nil, List.append_nil] at hlaid
  show appendToFile (appendToFile _ _) _ = appendToFile (w.planned _) data
  rw [← hlaid, appendToFile_append, appendToFile_append]
  show appendToFile _ (_ ++ (List.drop r.taken (w.buffered ++ data) ++ [])) = _
  rw [List.append_nil, List.take_append_drop]

/-- The failure is latched, and nothing else happens. -/
theorem latched (h : Laid w blocks torn) (hfailed : w.failed = false) :
    Laid { w with failed := true } blocks torn := by
  obtain ⟨lost, hlaid, hlost⟩ := h.laid
  exact
    { count := h.count
      laid := ⟨lost, hlaid, fun _ => hlost hfailed⟩
      torn := fun _ => h.torn hfailed
      size := nofun
      good := nofun
      closed := h.closed
      records := h.records
      bytes := h.bytes }

/-- The files opened on the way to the write. -/
theorem fitted (h : Laid w blocks torn) (hopen : w.isOpen = true) (hfailed : w.failed = false)
    (data : List UInt8) (r : AppendResult) :
    SameOptions w (w.fitted data r).1 ∧
      (∃ n, Laid (w.fitted data r).1 (blocks ++ List.replicate n []) torn) ∧
      ((w.fitted data r).2 = true →
        (w.fitted data r).1.isOpen = true ∧ (w.fitted data r).1.failed = false) := by
  have hsame : Laid w (blocks ++ List.replicate 0 []) torn := by
    rw [List.replicate_zero, List.append_nil]
    exact h
  unfold RotatingFileWriter.fitted
  split_ifs
  · exact ⟨⟨rfl, rfl, rfl, rfl⟩, ⟨0, hsame.latched hfailed⟩, nofun⟩
  · obtain ⟨hoptions, hnext | ⟨hnext, -⟩, hok⟩ := h.openNext r.precheck
    · exact ⟨hoptions, ⟨1, hnext⟩, hok⟩
    · exact ⟨hoptions, ⟨0, by rwa [List.replicate_zero, List.append_nil]⟩, hok⟩
  · exact ⟨.refl w, ⟨0, hsame⟩, fun _ => ⟨hopen, hfailed⟩⟩
  · exact ⟨.refl w, ⟨0, hsame⟩, fun _ => ⟨hopen, hfailed⟩⟩

theorem prepared (h : Laid w blocks torn) (data : List UInt8) (r : AppendResult) :
    SameOptions w (w.prepared data r).1 ∧
      (∃ n, Laid (w.prepared data r).1 (blocks ++ List.replicate n []) torn ∧
        (w.failed = true → n = 0)) ∧
      ((w.prepared data r).2 = true → w.failed = false ∧
        (w.prepared data r).1.isOpen = true ∧ (w.prepared data r).1.failed = false) := by
  have hsame : Laid w (blocks ++ List.replicate 0 []) torn := by
    rw [List.replicate_zero, List.append_nil]
    exact h
  unfold RotatingFileWriter.prepared
  split_ifs with hfailed hopen
  · exact ⟨.refl w, ⟨0, hsame, fun _ => rfl⟩, nofun⟩
  · have hfailed' := eq_false_of_ne_true hfailed
    obtain ⟨hoptions, ⟨n, hlaid⟩, hok⟩ := h.fitted hopen hfailed' data r
    exact ⟨hoptions, ⟨n, hlaid, fun hf => absurd hf hfailed⟩, fun h2 => ⟨hfailed', hok h2⟩⟩
  · have hfailed' := eq_false_of_ne_true hfailed
    obtain ⟨hoptions, hnext, hok⟩ := h.openNext r.first
    generalize w.openNext r.first = p at hoptions hnext hok
    obtain ⟨w', _ | _⟩ := p
    · obtain hnext | ⟨hnext, -⟩ := hnext
      · exact ⟨hoptions, ⟨1, hnext, fun hf => absurd hf hfailed⟩, nofun⟩
      · refine ⟨hoptions, ⟨0, ?_, fun _ => rfl⟩, nofun⟩
        rwa [List.replicate_zero, List.append_nil]
    · obtain hnext | ⟨-, hbad⟩ := hnext
      · obtain ⟨hopen', hgood⟩ := hok rfl
        obtain ⟨hoptions', ⟨n, hlaid⟩, hok'⟩ := hnext.fitted hopen' hgood data r
        refine ⟨hoptions.trans hoptions', ⟨n + 1, ?_, fun hf => absurd hf hfailed⟩,
          fun h2 => ⟨hfailed', hok' h2⟩⟩
        rw [List.replicate_succ, List.append_cons]
        exact hlaid
      · exact nomatch hbad

theorem rotateIfNeeded (h : Laid w blocks torn) (elapsed : Bool) (r : OpenResult) :
    SameOptions w (w.rotateIfNeeded elapsed r).1 ∧
      ∃ n, Laid (w.rotateIfNeeded elapsed r).1 (blocks ++ List.replicate n []) torn := by
  have hsame : Laid w (blocks ++ List.replicate 0 []) torn := by
    rw [List.replicate_zero, List.append_nil]
    exact h
  unfold RotatingFileWriter.rotateIfNeeded
  dsimp only
  split_ifs
  · obtain ⟨hoptions, hnext | ⟨hnext, -⟩, -⟩ := h.openNext r
    · exact ⟨hoptions, 1, hnext⟩
    · exact ⟨hoptions, 0, by rwa [List.replicate_zero, List.append_nil]⟩
  · exact ⟨.refl w, 0, hsame⟩

/-- How an append ends: refused before the write, with a part of the record, or with the record in
the last file and whatever the rotation opened behind it. -/
theorem append (h : Laid w blocks torn) (data : List UInt8) (r : AppendResult) :
    SameOptions w (w.append data r).1 ∧
      ∃ n, (w.failed = true → n = 0) ∧
        (w.written data r = none ∧ (w.append data r).2 = false ∧
            Laid (w.append data r).1 (blocks ++ List.replicate n []) torn ∨
          ((w.prepared data r).2 = true ∧ w.failed = false ∧ (w.prepared data r).1.isOpen = true ∧
            (w.prepared data r).1.failed = false ∧
            Laid (w.prepared data r).1 (blocks ++ List.replicate n []) torn) ∧
          (w.written data r = none ∧ (w.append data r).2 = false ∧
              Laid (w.append data r).1 (blocks ++ List.replicate n []) data ∨
            (w.written data r).isSome = true ∧
              ∃ m, Laid (w.append data r).1
                (addRecord (blocks ++ List.replicate n []) data ++ List.replicate m []) torn)) := by
  obtain ⟨hoptions, ⟨n, hlaid, hn⟩, hok⟩ := h.prepared data r
  rw [append_eq]
  unfold RotatingFileWriter.written
  generalize w.prepared data r = p at hoptions hlaid hok
  obtain ⟨w', _ | _⟩ := p
  · exact ⟨hoptions, n, hn, .inl ⟨rfl, rfl, hlaid⟩⟩
  · obtain ⟨hfirst, hopen, hfailed⟩ := hok rfl
    dsimp only at hoptions hlaid hopen hfailed ⊢
    rw [andThen_true]
    unfold writeRecord
    dsimp only
    split_ifs with hgood
    · obtain ⟨hoptions', m, hrotate⟩ :=
        (hlaid.counted hopen hfailed data r.write hgood).rotateIfNeeded r.intervalElapsed r.rotate
      refine ⟨?_, n, hn, .inr ⟨⟨rfl, hfirst, hopen, hfailed, hlaid⟩, .inr ⟨rfl, m, hrotate⟩⟩⟩
      refine hoptions.trans (SameOptions.trans ?_ hoptions')
      rw [streamWrite_eq (hlaid.good hopen hfailed)]
      exact ⟨rfl, rfl, rfl, rfl⟩
    · refine ⟨hoptions.trans ?_, n, hn, .inr ⟨⟨rfl, hfirst, hopen, hfailed, hlaid⟩,
        .inl ⟨rfl, rfl, hlaid.tornWrite hopen hfailed data r.write⟩⟩⟩
      rw [streamWrite_eq (hlaid.good hopen hfailed)]
      exact ⟨rfl, rfl, rfl, rfl⟩

end Laid

/-- An append that is reported as done has written its record. -/
theorem written_of_append {w w' : RotatingFileWriter} {data : List UInt8} {r : AppendResult}
    (h : w.append data r = (w', true)) : (w.written data r).isSome = true := by
  rw [append_eq] at h
  unfold written
  generalize w.prepared data r = p at h ⊢
  obtain ⟨prepared, _ | _⟩ := p
  · exact nomatch (Prod.mk.inj h).2
  · rw [andThen_true] at h
    unfold writeRecord at h
    dsimp only at h ⊢
    split_ifs at h ⊢ with hgood
    · rfl
    · exact nomatch (Prod.mk.inj h).2

end RotatingFileWriter
end AmigaDrivers
