import Mathlib.Data.List.Basic

/-!
# Recording files with rotation

`common::RotatingFileWriter` writes records to a sequence of files and goes on to the
next one by size or by age.  It sits on a `std::ofstream`, whose buffer may hold bytes
the file does not have yet.

How an operation of the stream ends is not for the program to decide, so every
operation takes its result as an argument: `taken` buffered bytes have reached the file
by then, and `ok` says whether it is reported as done.  A successful flush or close has
taken everything.  A failed stream writes nothing more, but closing it still empties the
buffer.  Each file has a path of its own, because the path contains the sequence number;
`files` lists their contents in the order in which they were opened.

* `holds_of_append`, `files_of_close`: as long as everything is reported as done, the files
  hold the appended records in order.
* `failed_of_append`, `failed_of_closeCurrent`: what is not leaves `failed_` latched.
-/

namespace AmigaDrivers

/-- How one operation of a stream ends. -/
structure StreamResult where
  ok : Bool
  taken : Nat
  deriving DecidableEq, Repr

/-- How opening the next file ends: the flush and the close of the current one, the open
itself, the header write, and the flush and the close after a failed header. -/
structure OpenResult where
  flush : StreamResult
  close : StreamResult
  opened : Bool
  header : StreamResult
  abortFlush : StreamResult
  abortClose : StreamResult
  deriving DecidableEq, Repr

/-- How an `Append` ends: up to three files are opened on the way, and the clock decides
whether the file is old enough. -/
structure AppendResult where
  first : OpenResult
  precheck : OpenResult
  write : StreamResult
  intervalElapsed : Bool
  rotate : OpenResult
  deriving DecidableEq, Repr

/-- `RotatingFileWriter`. -/
structure RotatingFileWriter where
  /-- `Options::max_file_bytes`; zero for no rotation by size -/
  maxFileBytes : Nat := 0
  /-- `Options::rotate_interval` in seconds; zero for no rotation by age -/
  rotateInterval : Nat := 0
  /-- `Options::precheck_size_cap` -/
  precheckSizeCap : Bool := false
  /-- the bytes `Options::on_new_file` writes to each file, when it is set; the files are counted
  in the order in which they are opened -/
  onNewFile : Option (Nat → List UInt8) := none
  isOpen : Bool := false
  good : Bool := true
  buffered : List UInt8 := []
  files : List (List UInt8) := []
  currentBytes : Nat := 0
  failed : Bool := false
  bytesWritten : Nat := 0
  recordsWritten : Nat := 0
  filesOpened : Nat := 0

namespace RotatingFileWriter

/-- Bytes that reach the current file. -/
def appendToFile (files : List (List UInt8)) (bytes : List UInt8) : List (List UInt8) :=
  match files with
  | [] => []
  | [file] => [file ++ bytes]
  | file :: file' :: rest => file :: appendToFile (file' :: rest) bytes

/-- The buffer after `taken` of its bytes have reached the file. -/
def drain (w : RotatingFileWriter) (taken : Nat) : RotatingFileWriter :=
  { w with
    files := appendToFile w.files (w.buffered.take taken)
    buffered := w.buffered.drop taken }

/-- `std::ofstream::write`. -/
def streamWrite (w : RotatingFileWriter) (data : List UInt8) (r : StreamResult) :
    RotatingFileWriter :=
  if w.good then
    { ({ w with buffered := w.buffered ++ data }.drain r.taken) with good := r.ok }
  else
    w

/-- `std::ofstream::flush`. -/
def streamFlush (w : RotatingFileWriter) (r : StreamResult) : RotatingFileWriter :=
  if w.good then
    { (w.drain (if r.ok then w.buffered.length else r.taken)) with good := r.ok }
  else
    w

/-- `std::ofstream::close`. -/
def streamClose (w : RotatingFileWriter) (r : StreamResult) : RotatingFileWriter :=
  { (w.drain (if r.ok then w.buffered.length else r.taken)) with
    good := w.good && r.ok
    buffered := []
    isOpen := false }

/-- `std::ofstream::open`: a successful open clears the state of the stream. -/
def streamOpen (w : RotatingFileWriter) (opened : Bool) : RotatingFileWriter :=
  if opened then
    { w with isOpen := true, good := true, buffered := [], files := w.files ++ [[]] }
  else
    { w with good := false }

/-- `failed_ = failed_ || !file_`. -/
def latch (w : RotatingFileWriter) : RotatingFileWriter := { w with failed := w.failed || !w.good }

/-- `CloseCurrent`. -/
def closeCurrent (w : RotatingFileWriter) (flush close : StreamResult) :
    RotatingFileWriter × Bool :=
  let w := if w.isOpen then ((w.streamFlush flush).latch.streamClose close).latch else w
  (w, !w.failed)

/-- The part of `OpenNext` behind a successful open: the counters and the header. -/
def startFile (w : RotatingFileWriter) (r : OpenResult) : RotatingFileWriter × Bool :=
  let seq := w.filesOpened
  let w := { w with currentBytes := 0, filesOpened := w.filesOpened + 1 }
  match w.onNewFile with
  | none => (w, true)
  | some header =>
    let w := w.streamWrite (header seq) r.header
    if w.good then
      -- `tellp`: the file holds the header and nothing else
      ({ w with currentBytes := (header seq).length }, true)
    else
      (({ w with failed := true }.closeCurrent r.abortFlush r.abortClose).1, false)

/-- `OpenNext`. -/
def openNext (w : RotatingFileWriter) (r : OpenResult) : RotatingFileWriter × Bool :=
  match w.closeCurrent r.flush r.close with
  | (w, false) => (w, false)
  | (w, true) =>
    if r.opened then (w.streamOpen true).startFile r
    else ({ w.streamOpen false with failed := true }, false)

/-- `RotateIfNeeded`. -/
def rotateIfNeeded (w : RotatingFileWriter) (intervalElapsed : Bool) (r : OpenResult) :
    RotatingFileWriter × Bool :=
  let bySize := decide (w.maxFileBytes > 0 ∧ w.currentBytes ≥ w.maxFileBytes)
  let byTime := decide (w.rotateInterval > 0) && intervalElapsed
  if bySize || byTime then w.openNext r else (w, true)

/-- The part of `Append` behind the tests: the write, the counters, the rotation. -/
def writeRecord (w : RotatingFileWriter) (data : List UInt8) (r : AppendResult) :
    RotatingFileWriter × Bool :=
  let w := w.streamWrite data r.write
  if w.good then
    let w :=
      { w with
        currentBytes := w.currentBytes + data.length
        bytesWritten := w.bytesWritten + data.length
        recordsWritten := w.recordsWritten + 1 }
    w.rotateIfNeeded r.intervalElapsed r.rotate
  else
    ({ w with failed := true }, false)

/-- The size test of `Append` and the write behind it. -/
def appendToOpen (w : RotatingFileWriter) (data : List UInt8) (r : AppendResult) :
    RotatingFileWriter × Bool :=
  if w.precheckSizeCap = true ∧ w.maxFileBytes > 0 then
    if data.length > w.maxFileBytes then
      ({ w with failed := true }, false)
    else if w.currentBytes > w.maxFileBytes - data.length then
      match w.openNext r.precheck with
      | (w, false) => (w, false)
      | (w, true) => w.writeRecord data r
    else
      w.writeRecord data r
  else
    w.writeRecord data r

/-- `Append`. -/
def append (w : RotatingFileWriter) (data : List UInt8) (r : AppendResult) :
    RotatingFileWriter × Bool :=
  if w.failed then
    (w, false)
  else if w.isOpen then
    w.appendToOpen data r
  else
    match w.openNext r.first with
    | (w, false) => (w, false)
    | (w, true) => w.appendToOpen data r

/-- `Close`. -/
def close (w : RotatingFileWriter) (flush close : StreamResult) : RotatingFileWriter × Bool :=
  w.closeCurrent flush close

/-! ## What the files hold -/

/-- The bytes handed to the stream, in the file or still in the buffer. -/
def content (w : RotatingFileWriter) : List UInt8 := w.files.flatten ++ w.buffered

/-- The writer has not failed, and its files and buffer hold `bytes`. -/
structure Holds (w : RotatingFileWriter) (bytes : List UInt8) : Prop where
  failed : w.failed = false
  content : w.content = bytes
  good : w.isOpen = true → w.good = true
  file : w.isOpen = true → w.files ≠ []
  closed : w.isOpen = false → w.buffered = []
  headerless : w.onNewFile = none

theorem appendToFile_flatten (bytes : List UInt8) :
    ∀ {files : List (List UInt8)}, files ≠ [] →
      (appendToFile files bytes).flatten = files.flatten ++ bytes
  | [], h => absurd rfl h
  | [file], _ => by simp [appendToFile]
  | file :: file' :: rest, _ => by
    have ih := appendToFile_flatten bytes (List.cons_ne_nil file' rest)
    rw [appendToFile, List.flatten_cons, ih, ← List.append_assoc, ← List.flatten_cons]

theorem appendToFile_ne_nil (bytes : List UInt8) :
    ∀ {files : List (List UInt8)}, files ≠ [] → appendToFile files bytes ≠ []
  | [], h => h
  | [_], _ => List.cons_ne_nil _ _
  | _ :: _ :: _, _ => List.cons_ne_nil _ _

/-- Emptying the buffer moves bytes, and changes nothing else. -/
theorem content_drain (w : RotatingFileWriter) (h : w.files ≠ []) (taken : Nat) :
    (w.drain taken).content = w.content := by
  rw [content, drain, content]
  dsimp only
  rw [appendToFile_flatten _ h, List.append_assoc, List.take_append_drop]

section Stream

variable (w : RotatingFileWriter) (r : StreamResult)

@[simp] theorem latch_files : w.latch.files = w.files := rfl

@[simp] theorem latch_good : w.latch.good = w.good := rfl

@[simp] theorem latch_content : w.latch.content = w.content := rfl

theorem latch_failed_eq_false : w.latch.failed = false ↔ w.failed = false ∧ w.good = true := by
  simp [latch]

/-- A flush changes the stream, the buffer and the file, and nothing else. -/
theorem streamFlush_frame :
    (w.streamFlush r).failed = w.failed ∧ (w.streamFlush r).onNewFile = w.onNewFile := by
  unfold streamFlush
  split <;> exact ⟨rfl, rfl⟩

theorem streamFlush_files_ne_nil (h : w.files ≠ []) : (w.streamFlush r).files ≠ [] := by
  unfold streamFlush
  split
  · exact appendToFile_ne_nil _ h
  · exact h

theorem streamFlush_content (h : w.files ≠ []) : (w.streamFlush r).content = w.content := by
  unfold streamFlush
  split
  · exact content_drain w h _
  · rfl

/-- A close that is reported as done has taken the buffer. -/
theorem streamClose_content (h : w.files ≠ []) (hgood : (w.streamClose r).good = true) :
    (w.streamClose r).content = w.content := by
  have hok : r.ok = true := (Bool.and_eq_true_iff.mp hgood).2
  have hall := content_drain w h w.buffered.length
  rw [content, drain, List.drop_length, List.append_nil] at hall
  rw [content, streamClose, if_pos hok, drain, List.append_nil]
  exact hall

end Stream

/-- A close that is reported as done leaves the bytes in the files. -/
theorem holds_of_closeCurrent {w w' : RotatingFileWriter} {bytes : List UInt8}
    {flush close : StreamResult} (h : w.Holds bytes)
    (hclose : w.closeCurrent flush close = (w', true)) :
    w'.Holds bytes ∧ w'.isOpen = false := by
  unfold closeCurrent at hclose
  obtain ⟨rfl, hok⟩ := Prod.mk.inj hclose
  cases hopen : w.isOpen with
  | false => exact ⟨h, hopen⟩
  | true =>
    rw [hopen, if_pos rfl, Bool.not_eq_true', latch_failed_eq_false] at hok
    obtain ⟨hlatched, hgood⟩ := hok
    have hfiles := streamFlush_files_ne_nil w flush (h.file hopen)
    rw [if_pos rfl]
    refine ⟨{ failed := ?_, content := ?_, good := ?_, file := ?_, closed := ?_,
              headerless := ?_ }, rfl⟩
    · rw [latch_failed_eq_false]
      exact ⟨hlatched, hgood⟩
    · have hfirst := streamFlush_content w flush (h.file hopen)
      rw [latch_content, streamClose_content (w.streamFlush flush).latch close hfiles hgood]
      exact hfirst.trans h.content
    · exact fun hbad => absurd hbad (by simp [latch, streamClose])
    · exact fun hbad => absurd hbad (by simp [latch, streamClose])
    · exact fun _ => rfl
    · exact (streamFlush_frame w flush).2.trans h.headerless

/-- A close that is not leaves the failure latched. -/
theorem failed_of_closeCurrent {w w' : RotatingFileWriter} {flush close : StreamResult}
    (hclose : w.closeCurrent flush close = (w', false)) : w'.failed = true := by
  unfold closeCurrent at hclose
  obtain ⟨rfl, hok⟩ := Prod.mk.inj hclose
  simpa using hok

theorem failed_closeCurrent {w : RotatingFileWriter} (flush close : StreamResult)
    (h : w.failed = true) : (w.closeCurrent flush close).1.failed = true := by
  unfold closeCurrent
  dsimp only
  split
  · have hflush := (streamFlush_frame w flush).1.trans h
    simp only [latch, streamClose, drain, hflush, Bool.true_or]
  · exact h

/-- A new file starts empty behind what the closed ones hold. -/
theorem holds_of_startFile {w w' : RotatingFileWriter} {bytes : List UInt8} {r : OpenResult}
    (h : w.Holds bytes) (hshut : w.isOpen = false)
    (hstart : (w.streamOpen true).startFile r = (w', true)) :
    w'.Holds bytes ∧ w'.isOpen = true := by
  have hcontent := h.content
  rw [content, h.closed hshut, List.append_nil] at hcontent
  simp only [startFile, streamOpen, if_true, h.headerless] at hstart
  obtain ⟨rfl, -⟩ := Prod.mk.inj hstart
  refine ⟨{ failed := h.failed, content := ?_, good := fun _ => rfl, file := ?_,
            closed := fun hbad => Bool.noConfusion hbad, headerless := rfl }, rfl⟩
  · simp only [content, List.flatten_append, List.flatten_cons, List.flatten_nil,
      List.append_nil]
    exact hcontent
  · exact fun _ => List.append_ne_nil_of_right_ne_nil _ (List.cons_ne_nil _ _)

theorem failed_of_startFile {w w' : RotatingFileWriter} {r : OpenResult}
    (hstart : w.startFile r = (w', false)) : w'.failed = true := by
  unfold startFile at hstart
  dsimp only at hstart
  split at hstart
  · exact absurd (Prod.mk.inj hstart).2 (by decide)
  · split at hstart
    · exact absurd (Prod.mk.inj hstart).2 (by decide)
    · obtain ⟨rfl, -⟩ := Prod.mk.inj hstart
      exact failed_closeCurrent _ _ rfl

theorem holds_of_openNext {w w' : RotatingFileWriter} {bytes : List UInt8} {r : OpenResult}
    (h : w.Holds bytes) (hopen : w.openNext r = (w', true)) :
    w'.Holds bytes ∧ w'.isOpen = true := by
  unfold openNext at hopen
  split at hopen
  · exact absurd (Prod.mk.inj hopen).2 (by decide)
  · next closed hclose =>
    obtain ⟨hclosed, hshut⟩ := holds_of_closeCurrent h hclose
    split at hopen
    · exact holds_of_startFile hclosed hshut hopen
    · exact absurd (Prod.mk.inj hopen).2 (by decide)

theorem failed_of_openNext {w w' : RotatingFileWriter} {r : OpenResult}
    (hopen : w.openNext r = (w', false)) : w'.failed = true := by
  unfold openNext at hopen
  split at hopen
  · next closed hclose =>
    obtain ⟨rfl, -⟩ := Prod.mk.inj hopen
    exact failed_of_closeCurrent hclose
  · split at hopen
    · exact failed_of_startFile hopen
    · obtain ⟨rfl, -⟩ := Prod.mk.inj hopen
      rfl

theorem holds_of_rotateIfNeeded {w w' : RotatingFileWriter} {bytes : List UInt8} {elapsed : Bool}
    {r : OpenResult} (h : w.Holds bytes) (hrotate : w.rotateIfNeeded elapsed r = (w', true)) :
    w'.Holds bytes := by
  unfold rotateIfNeeded at hrotate
  dsimp only at hrotate
  split at hrotate
  · exact (holds_of_openNext h hrotate).1
  · obtain ⟨rfl, -⟩ := Prod.mk.inj hrotate
    exact h

theorem failed_of_rotateIfNeeded {w w' : RotatingFileWriter} {elapsed : Bool} {r : OpenResult}
    (hrotate : w.rotateIfNeeded elapsed r = (w', false)) : w'.failed = true := by
  unfold rotateIfNeeded at hrotate
  dsimp only at hrotate
  split at hrotate
  · exact failed_of_openNext hrotate
  · exact absurd (Prod.mk.inj hrotate).2 (by decide)

/-- A write that is reported as done adds the record. -/
theorem holds_streamWrite {w : RotatingFileWriter} {bytes data : List UInt8} {r : StreamResult}
    (h : w.Holds bytes) (hopen : w.isOpen = true) (hgood : (w.streamWrite data r).good = true) :
    (w.streamWrite data r).Holds (bytes ++ data) := by
  have hwrite : w.streamWrite data r =
      { ({ w with buffered := w.buffered ++ data }.drain r.taken) with good := r.ok } := by
    unfold streamWrite
    rw [if_pos (h.good hopen)]
  have hcontent := content_drain { w with buffered := w.buffered ++ data } (h.file hopen) r.taken
  refine { failed := ?_, content := ?_, good := fun _ => hgood, file := ?_, closed := ?_,
           headerless := ?_ }
  · rw [hwrite]
    exact h.failed
  · rw [hwrite]
    refine Eq.trans hcontent ?_
    rw [← h.content, content, content, List.append_assoc]
  · rw [hwrite]
    exact fun _ => appendToFile_ne_nil _ (h.file hopen)
  · rw [hwrite]
    exact fun hbad => absurd (hopen.symm.trans hbad) (by decide)
  · rw [hwrite]
    exact h.headerless

theorem holds_of_writeRecord {w w' : RotatingFileWriter} {bytes data : List UInt8}
    {r : AppendResult} (h : w.Holds bytes) (hopen : w.isOpen = true)
    (hwrite : w.writeRecord data r = (w', true)) : w'.Holds (bytes ++ data) := by
  unfold writeRecord at hwrite
  dsimp only at hwrite
  split at hwrite
  · next hgood =>
    obtain ⟨hfailed, hcontent, hstream, hfile, hclosed, hheader⟩ := holds_streamWrite h hopen hgood
    refine holds_of_rotateIfNeeded ?_ hwrite
    exact ⟨hfailed, hcontent, hstream, hfile, hclosed, hheader⟩
  · exact absurd (Prod.mk.inj hwrite).2 (by decide)

theorem failed_of_writeRecord {w w' : RotatingFileWriter} {data : List UInt8} {r : AppendResult}
    (hwrite : w.writeRecord data r = (w', false)) : w'.failed = true := by
  unfold writeRecord at hwrite
  dsimp only at hwrite
  split at hwrite
  · exact failed_of_rotateIfNeeded hwrite
  · obtain ⟨rfl, -⟩ := Prod.mk.inj hwrite
    rfl

theorem holds_of_appendToOpen {w w' : RotatingFileWriter} {bytes data : List UInt8}
    {r : AppendResult} (h : w.Holds bytes) (hopen : w.isOpen = true)
    (happend : w.appendToOpen data r = (w', true)) : w'.Holds (bytes ++ data) := by
  unfold appendToOpen at happend
  split at happend
  · split at happend
    · exact absurd (Prod.mk.inj happend).2 (by decide)
    · split at happend
      · split at happend
        · exact absurd (Prod.mk.inj happend).2 (by decide)
        · next hnext =>
          obtain ⟨hheld, hopened⟩ := holds_of_openNext h hnext
          exact holds_of_writeRecord hheld hopened happend
      · exact holds_of_writeRecord h hopen happend
  · exact holds_of_writeRecord h hopen happend

theorem failed_of_appendToOpen {w w' : RotatingFileWriter} {data : List UInt8} {r : AppendResult}
    (happend : w.appendToOpen data r = (w', false)) : w'.failed = true := by
  unfold appendToOpen at happend
  split at happend
  · split at happend
    · obtain ⟨rfl, -⟩ := Prod.mk.inj happend
      rfl
    · split at happend
      · split at happend
        · next hnext =>
          obtain ⟨rfl, -⟩ := Prod.mk.inj happend
          exact failed_of_openNext hnext
        · exact failed_of_writeRecord happend
      · exact failed_of_writeRecord happend
  · exact failed_of_writeRecord happend

/-- **An append that succeeds adds its record**, behind everything before it. -/
theorem holds_of_append {w w' : RotatingFileWriter} {bytes data : List UInt8} {r : AppendResult}
    (h : w.Holds bytes) (happend : w.append data r = (w', true)) : w'.Holds (bytes ++ data) := by
  unfold append at happend
  rw [h.failed, if_neg Bool.false_ne_true] at happend
  split at happend
  · next hopen => exact holds_of_appendToOpen h hopen happend
  · split at happend
    · exact absurd (Prod.mk.inj happend).2 (by decide)
    · next hnext =>
      obtain ⟨hheld, hopened⟩ := holds_of_openNext h hnext
      exact holds_of_appendToOpen hheld hopened happend

/-- An append that does not leaves the failure latched. -/
theorem failed_of_append {w w' : RotatingFileWriter} {data : List UInt8} {r : AppendResult}
    (happend : w.append data r = (w', false)) : w'.failed = true := by
  unfold append at happend
  split at happend
  · next hfailed =>
    obtain ⟨rfl, -⟩ := Prod.mk.inj happend
    exact hfailed
  · split at happend
    · exact failed_of_appendToOpen happend
    · split at happend
      · next hnext =>
        obtain ⟨rfl, -⟩ := Prod.mk.inj happend
        exact failed_of_openNext hnext
      · exact failed_of_appendToOpen happend

/-- **A close that succeeds leaves every byte in the files.** -/
theorem files_of_close {w w' : RotatingFileWriter} {bytes : List UInt8}
    {flush close : StreamResult} (h : w.Holds bytes)
    (hclose : w.close flush close = (w', true)) : w'.files.flatten = bytes := by
  obtain ⟨hheld, hshut⟩ := holds_of_closeCurrent h hclose
  have hcontent := hheld.content
  rwa [content, hheld.closed hshut, List.append_nil] at hcontent

end RotatingFileWriter
end AmigaDrivers
