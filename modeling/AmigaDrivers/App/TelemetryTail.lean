import AmigaDrivers.App.TelemetryCsv
import AmigaDrivers.Foundation.StepSystem
import Mathlib.Algebra.BigOperators.Group.List.Basic

/-!
# Following the telemetry files

`read_batch` reads what the telemetry files have grown by.  It keeps a cursor per file, opens a file
at its header or near its end, and leaves a row that is not complete for the next poll.

* `openCursor`, `readChunk`, `readStream`: what a poll does with one file.
* `readBatch`: a poll.
* `Tracked`: where a cursor stands, and what has been returned until there.
* `rows_exactly_once`: **every row from the start on is returned or skipped once**, in order.
-/

namespace AmigaDrivers
namespace App
namespace TelemetryTail

open TelemetryCsv
open Lines (lines unfinished readline)

/-- `REPLAY_TAIL_BYTES`. -/
def replayTailBytes : Nat := 256 * 1024

/-- `TailCursor`. -/
structure TailCursor where
  offset : Nat := 0
  columns : List String := []
  identity : Option (Nat × Nat) := none
  tailOnOpen : Bool := false
  disabled : Bool := false
  deriving DecidableEq

/-- A file that has been opened: what `fstat` says of it, what is read from it, and the error of a
read, if there is one. -/
structure OpenFile where
  identity : Nat × Nat
  size : Nat
  content : List UInt8
  fault : Option String

/-- What becomes of opening a file. -/
inductive Access
  | notFound
  | osError (text : String)
  | opened (file : OpenFile)

/-- What a poll gives for one file. -/
structure StreamBatch where
  cursor : TailCursor
  rows : List (List String × List String) := []
  errors : List String := []
  reset : Bool := false
  skipped : Nat := 0

section Read

-- what the exception of the decoder says
variable (unicodeError : List UInt8 → String)

/-- The part of `read_batch` that reads the header; `none` where it is not complete. -/
def openCursor (stream : Stream) (cursor : TailCursor) (file : OpenFile) :
    Except String (Option TailCursor) :=
  if cursor.columns ≠ [] then .ok (some cursor)
  else
    let header := (readline newline file.content).take (maxRowBytes + 1)
    if maxRowBytes < header.length then .error (stream.name ++ ": oversized CSV header")
    else if header.getLast? ≠ some newline then .ok none
    else
      match csvHeader unicodeError stream header with
      | .error e => .error e
      | .ok columns =>
        if cursor.tailOnOpen = true ∧ header.length + replayTailBytes < file.size then
          let offset := file.size - replayTailBytes
          let part := (readline newline (file.content.drop offset)).take (maxRowBytes + 1)
          if maxRowBytes < part.length then
            .error (stream.name ++ ": oversized CSV row at the tail seek")
          else .ok (some { offset := offset + part.length, columns, identity := some file.identity })
        else .ok (some { offset := header.length, columns, identity := some file.identity })

/-- The fields of a row, unless it is skipped. -/
def rowFields (columns : List String) (raw : List UInt8) : Option (List String) :=
  if raw.length ≤ maxRowBytes then csvFields raw columns else none

/-- The part of `read_batch` that reads the rows. -/
def readChunk (stream : Stream) (cursor : TailCursor) (content : List UInt8) :
    Except String StreamBatch :=
  let chunk := (content.drop cursor.offset).take replayTailBytes
  -- `chunk.rfind(b"\n") + 1`
  let stop := chunk.length - (unfinished newline chunk).length
  if stop = 0 ∧ chunk.length = replayTailBytes then
    .error (stream.name ++ ": CSV row exceeds the read limit")
  else
    let fields := (splitlines (chunk.take stop)).map (rowFields cursor.columns)
    .ok {
      cursor := { cursor with offset := cursor.offset + stop }
      rows := (fields.filterMap id).map fun row => (cursor.columns, row)
      skipped := fields.countP Option.isNone }

/-- The body of the loop of `read_batch`. -/
def readStream (stream : Stream) (cursor : TailCursor) (access : Access) : StreamBatch :=
  if cursor.disabled then { cursor }
  else
    match access with
    | .notFound => { cursor }
    | .osError text => { cursor, errors := [stream.name ++ ": " ++ text] }
    | .opened file =>
      let replaced := cursor.identity.any fun identity =>
        file.identity ≠ identity || file.size < cursor.offset
      let current := if replaced then { tailOnOpen := true } else cursor
      let errors := if replaced then
        [stream.name ++ ": file was replaced or truncated; display was reset"] else []
      match file.fault with
      | some text => { cursor, errors := errors ++ [stream.name ++ ": " ++ text], reset := replaced }
      | none =>
        match openCursor unicodeError stream current file with
        | .error e =>
          { cursor := { current with disabled := true }, errors := errors ++ [e], reset := replaced }
        | .ok none => { cursor, errors, reset := replaced }
        | .ok (some opened) =>
          match readChunk stream opened file.content with
          | .error e =>
            { cursor := { opened with disabled := true }, errors := errors ++ [e]
              reset := replaced }
          | .ok batch => { batch with errors, reset := replaced }

/-- The dictionary of cursors. -/
structure Cursors where
  names : List Stream
  nodup : names.Nodup
  get : Stream → TailCursor

/-- What `read_batch` returns. -/
structure Batch where
  updated : Cursors
  rows : List (Stream × List String × List String)
  errors : List String
  reset : Bool
  skipped : Nat

/-- `read_batch`. -/
def readBatch (cursors : Cursors) (access : Stream → Access) : Batch :=
  let result := fun name => readStream unicodeError name (cursors.get name) (access name)
  { updated :=
      { cursors with
        get := fun name => if name ∈ cursors.names then (result name).cursor else cursors.get name }
    rows := cursors.names.flatMap fun name => (result name).rows.map fun row => (name, row)
    errors := cursors.names.flatMap fun name => (result name).errors
    reset := cursors.names.any fun name => (result name).reset
    skipped := (cursors.names.map fun name => (result name).skipped).sum }

end Read

/-! ## Polls of files that grow -/

/-- What a poll meets: between `fstat` and the reads the file may grow. -/
inductive Attempt
  | notFound
  | osError (text : String)
  | opened (grown : List UInt8) (fault : Option String)

/-- The files, the cursors, and what all polls have returned.  `start` is where a cursor was opened. -/
structure Live where
  files : Stream → List UInt8
  cursors : Cursors
  start : Stream → Nat
  rows : List (Stream × List String × List String)
  skipped : Nat

/-- What may happen. -/
inductive Action
  | grow (stream : Stream) (bytes : List UInt8)
  | poll (attempt : Stream → Attempt)

section System

variable (unicodeError : List UInt8 → String) (identity : Stream → Nat × Nat)

/-- What a poll finds. -/
def access (s : Live) (attempt : Stream → Attempt) (stream : Stream) : Access :=
  match attempt stream with
  | .notFound => .notFound
  | .osError text => .osError text
  | .opened grown fault =>
    .opened ⟨identity stream, (s.files stream).length, s.files stream ++ grown, fault⟩

/-- The file after a poll. -/
def grownBy (s : Live) (attempt : Stream → Attempt) (stream : Stream) : List UInt8 :=
  match attempt stream with
  | .opened grown _ => s.files stream ++ grown
  | _ => s.files stream

/-- Where a cursor starts, if it is opened now. -/
def startNow (stream : Stream) (cursor : TailCursor) (start : Nat) (file : OpenFile) : Nat :=
  if cursor.columns = [] ∧ cursor.disabled = false ∧ file.fault = none then
    match openCursor unicodeError stream cursor file with
    | .ok (some opened) => opened.offset
    | _ => start
  else start

/-- Where a cursor starts, once a poll has opened it. -/
def startOf (s : Live) (attempt : Stream → Attempt) (stream : Stream) : Nat :=
  match access identity s attempt stream with
  | .opened file => startNow unicodeError stream (s.cursors.get stream) (s.start stream) file
  | _ => s.start stream

/-- A poll. -/
def poll (s : Live) (attempt : Stream → Attempt) : Live :=
  let batch := readBatch unicodeError s.cursors (access identity s attempt)
  { files := grownBy s attempt
    cursors := batch.updated
    start := startOf unicodeError identity s attempt
    rows := s.rows ++ batch.rows
    skipped := s.skipped + batch.skipped }

/-- What happens, in any order. -/
def step (s : Live) : Action → Option Live
  | .grow stream bytes =>
    some { s with files := Function.update s.files stream (s.files stream ++ bytes) }
  | .poll attempt => some (poll unicodeError identity s attempt)

/-- The polls from the first on, with cursors that have read nothing. -/
def system : StepSystem Live Action where
  Init s := (∀ stream, ∃ tailOnOpen, s.cursors.get stream = { tailOnOpen }) ∧
    (∀ stream, s.start stream = 0) ∧ s.rows = [] ∧ s.skipped = 0
  step := step unicodeError identity

end System

/-! ## One file -/

variable {unicodeError : List UInt8 → String} {stream : Stream} {cursor : TailCursor}
  {content : List UInt8}

/-- The rows of a file end in newlines alone, and are within the size limit. -/
structure WellFormed (content : List UInt8) : Prop where
  noCr : carriageReturn ∉ content
  short : Lines.Shorter newline maxRowBytes content

theorem WellFormed.of_start {before : List UInt8} (h : WellFormed content)
    (hbefore : before <+: content) : WellFormed before where
  noCr := fun hmem => h.noCr (hbefore.subset hmem)
  short := h.short.of_start hbefore

/-- A place where a row starts. -/
structure Boundary (content : List UInt8) (offset : Nat) : Prop where
  le_length : offset ≤ content.length
  unfinished : unfinished newline (content.take offset) = []

/-- The rows between two places. -/
def rowsBetween (content : List UInt8) (start stop : Nat) : List (List UInt8) :=
  lines newline ((content.take stop).drop start)

theorem Boundary.append {offset : Nat} (h : Boundary content offset) (more : List UInt8) :
    Boundary (content ++ more) offset where
  le_length := Nat.le_trans h.le_length (List.prefix_append _ _).length_le
  unfinished := by
    rw [List.take_append_of_le_length h.le_length]
    exact h.unfinished

theorem rowsBetween_append {start stop : Nat} (h : stop ≤ content.length) (more : List UInt8) :
    rowsBetween (content ++ more) start stop = rowsBetween content start stop := by
  unfold rowsBetween
  rw [List.take_append_of_le_length h]

/-- Rows up to a place and rows from there on. -/
theorem rowsBetween_trans {start middle stop : Nat} (hstart : Boundary content start)
    (hmiddle : Boundary content middle) (hsm : start ≤ middle) (hms : middle ≤ stop) :
    rowsBetween content start stop =
      rowsBetween content start middle ++ rowsBetween content middle stop := by
  have hsplit : (content.take stop).drop start =
      (content.take middle).drop start ++ (content.take stop).drop middle := by
    have hmid : (content.take stop).take middle = content.take middle := by
      rw [List.take_take, Nat.min_eq_left hms]
    conv_lhs => rw [← List.take_append_drop middle (content.take stop), hmid,
      List.drop_append_of_le_length (by
        rw [List.length_take_of_le hmiddle.le_length]
        exact hsm)]
  have hrest : unfinished newline ((content.take middle).drop start) = [] := by
    have htake : (content.take middle).take start = content.take start := by
      rw [List.take_take, Nat.min_eq_left hsm]
    have hmiddle' := hmiddle.unfinished
    rw [← List.take_append_drop start (content.take middle), htake,
      Lines.unfinished_append_of_unfinished hstart.unfinished] at hmiddle'
    exact hmiddle'
  unfold rowsBetween
  rw [hsplit, Lines.lines_append_of_unfinished hrest]

/-- A chunk that begins with a row. -/
theorem unfinished_chunk {offset : Nat} (h : Boundary content offset) (size : Nat) :
    unfinished newline ((content.drop offset).take size) =
      unfinished newline (content.take (offset + size)) := by
  rw [Lines.take_append_take, Lines.unfinished_append_of_unfinished h.unfinished]

/-- Where a chunk's last complete row ends. -/
def chunkStop (content : List UInt8) (offset : Nat) : Nat :=
  ((content.drop offset).take replayTailBytes).length -
    (unfinished newline ((content.drop offset).take replayTailBytes)).length

/-- What is read up to there. -/
theorem take_chunkStop (content : List UInt8) (offset : Nat) :
    ((content.drop offset).take replayTailBytes).take (chunkStop content offset) =
      (content.drop offset).take (chunkStop content offset) := by
  rw [List.take_take, Nat.min_eq_left]
  unfold chunkStop
  rw [List.length_take]
  omega

theorem boundary_chunkStop {offset : Nat} (h : Boundary content offset) :
    Boundary content (offset + chunkStop content offset) := by
  have hlength : ((content.drop offset).take replayTailBytes).length ≤ content.length - offset := by
    rw [List.length_take, List.length_drop]
    exact Nat.min_le_right _ _
  have hle := h.le_length
  refine ⟨?_, ?_⟩
  · unfold chunkStop
    omega
  · rw [Lines.take_append_take, Lines.unfinished_append_of_unfinished h.unfinished,
      ← take_chunkStop]
    exact Lines.unfinished_finished _

/-- The rows of a chunk. -/
theorem splitlines_chunk (hcontent : WellFormed content) {offset : Nat} (h : Boundary content offset) :
    splitlines (((content.drop offset).take replayTailBytes).take (chunkStop content offset)) =
      rowsBetween content offset (offset + chunkStop content offset) := by
  have hrows : ((content.drop offset).take replayTailBytes).take (chunkStop content offset) =
      (content.take (offset + chunkStop content offset)).drop offset := by
    have hbefore : (content.take offset).length = offset := List.length_take_of_le h.le_length
    rw [take_chunkStop, Lines.take_append_take]
    conv_rhs => rw [List.drop_append_of_le_length (Nat.le_of_eq hbefore.symm),
      List.drop_of_length_le (Nat.le_of_eq hbefore), List.nil_append]
  have hend : unfinished newline
      (((content.drop offset).take replayTailBytes).take (chunkStop content offset)) = [] :=
    Lines.unfinished_finished _
  have hnoCr : carriageReturn ∉
      ((content.drop offset).take replayTailBytes).take (chunkStop content offset) := by
    intro hmem
    exact hcontent.noCr (List.mem_of_mem_drop (List.mem_of_mem_take (List.mem_of_mem_take hmem)))
  rw [splitlines_of_noCr hnoCr hend, hrows]
  rfl

/-- What a chunk leaves is shorter than a row. -/
theorem unfinished_chunk_lt (hcontent : WellFormed content) {offset : Nat}
    (h : Boundary content offset) :
    (unfinished newline ((content.drop offset).take replayTailBytes)).length < maxRowBytes := by
  rw [unfinished_chunk h]
  exact hcontent.short.of_start (List.take_prefix _ _) _
    (List.mem_append_right _ List.mem_cons_self)

/-- **A chunk gives its complete rows**, and the cursor moves behind them. -/
theorem readChunk_eq (hcontent : WellFormed content) (h : Boundary content cursor.offset) :
    readChunk stream cursor content =
      let stop := cursor.offset + chunkStop content cursor.offset
      .ok {
        cursor := { cursor with offset := stop }
        rows := ((rowsBetween content cursor.offset stop).filterMap (rowFields cursor.columns)).map
          fun row => (cursor.columns, row)
        skipped := (rowsBetween content cursor.offset stop).countP fun raw =>
          (rowFields cursor.columns raw).isNone } := by
  have hshort := unfinished_chunk_lt hcontent h
  unfold readChunk
  dsimp only
  rw [if_neg]
  · show Except.ok _ = Except.ok _
    have hrows := splitlines_chunk hcontent h
    unfold chunkStop at hrows ⊢
    rw [hrows, List.filterMap_map, List.countP_map]
    rfl
  · rintro ⟨hzero, hfull⟩
    have hlarge : maxRowBytes < replayTailBytes := by decide
    omega

/-- What opening a cursor gives. -/
structure Opened (file : OpenFile) (opened : TailCursor) : Prop where
  boundary : Boundary file.content opened.offset
  columns : opened.columns ≠ []
  enabled : opened.disabled = false
  identity : opened.identity = some file.identity

/-- **A cursor is opened where a row starts**, behind the header or near the end of the file. -/
theorem opened_of_openCursor {file : OpenFile} {opened : TailCursor}
    (hcontent : WellFormed file.content) (hsize : file.size ≤ file.content.length)
    (hnew : cursor.columns = [])
    (h : openCursor unicodeError stream cursor file = .ok (some opened)) : Opened file opened := by
  unfold openCursor at h
  rw [if_neg (not_not.mpr hnew)] at h
  dsimp only at h
  by_cases hlong : maxRowBytes <
      ((readline newline file.content).take (maxRowBytes + 1)).length
  · rw [if_pos hlong] at h
    exact nomatch h
  have hheader : (readline newline file.content).take (maxRowBytes + 1) =
      readline newline file.content := by
    rw [List.length_take] at hlong
    exact List.take_of_length_le (by omega)
  rw [if_neg hlong, hheader] at h
  by_cases hend : (readline newline file.content).getLast? ≠ some newline
  · rw [if_pos hend] at h
    exact nomatch h
  rw [if_neg hend] at h
  have hfirst := Lines.nextLine_of_getLast (not_not.mp hend)
  cases hcolumns : csvHeader unicodeError stream (readline newline file.content) with
  | error e =>
    rw [hcolumns] at h
    exact nomatch h
  | ok columns =>
    rw [hcolumns] at h
    dsimp only at h
    split_ifs at h with htail hoversized
    · obtain rfl := Option.some.inj (Except.ok.inj h)
      have hlarge : maxRowBytes < replayTailBytes := by decide
      have hwindow : file.size - replayTailBytes + maxRowBytes ≤ file.content.length := by omega
      obtain ⟨hnext, hle⟩ := hcontent.short.readline_drop hwindow
      refine ⟨?_, columns_ne_nil hcolumns, rfl, rfl⟩
      show Boundary file.content (file.size - replayTailBytes + _)
      rw [List.take_of_length_le (Nat.le_succ_of_le hle)]
      exact ⟨hnext.le_length, hnext.boundary⟩
    · obtain rfl := Option.some.inj (Except.ok.inj h)
      refine ⟨⟨?_, ?_⟩, columns_ne_nil hcolumns, rfl, rfl⟩
      · have hle := hfirst.le_length
        rwa [Nat.zero_add] at hle
      · have hboundary := hfirst.boundary
        rwa [Nat.zero_add] at hboundary

/-- **Where a cursor stands**, in the file with this identity. -/
structure Standing (content : List UInt8) (identity : Nat × Nat) (start : Nat)
    (cursor : TailCursor) : Prop where
  start_le : start ≤ cursor.offset
  start_boundary : Boundary content start
  boundary : Boundary content cursor.offset
  closed : cursor.columns = [] → cursor.offset = 0 ∧ cursor.identity = none
  enabled : cursor.columns ≠ [] → cursor.disabled = false ∧ cursor.identity = some identity

theorem Standing.append {identity : Nat × Nat} {start : Nat}
    (h : Standing content identity start cursor) (more : List UInt8) :
    Standing (content ++ more) identity start cursor where
  start_le := h.start_le
  start_boundary := h.start_boundary.append more
  boundary := h.boundary.append more
  closed := h.closed
  enabled := h.enabled

/-- The rows that have been returned or skipped. -/
abbrev taken (content : List UInt8) (start : Nat) (cursor : TailCursor) : List (List UInt8) :=
  rowsBetween content start cursor.offset

/-- Nothing has been read with a cursor that is not open. -/
theorem Standing.taken_of_new {identity : Nat × Nat} {start : Nat}
    (h : Standing content identity start cursor) (hnew : cursor.columns = []) :
    taken content start cursor = [] := by
  unfold taken rowsBetween
  rw [(h.closed hnew).1, List.take_zero, List.drop_nil]
  rfl

/-- What a poll has done to one file: some more rows are returned or skipped. -/
structure Advanced (before after : List UInt8) (identity : Nat × Nat) (start start' : Nat)
    (cursor : TailCursor) (batch : StreamBatch) (more : List (List UInt8)) : Prop where
  standing : Standing after identity start' batch.cursor
  taken : taken after start' batch.cursor = taken before start cursor ++ more
  rows : batch.rows = (more.filterMap (rowFields batch.cursor.columns)).map
    fun row => (batch.cursor.columns, row)
  skipped : batch.skipped = more.countP fun raw => (rowFields batch.cursor.columns raw).isNone
  columns : cursor.columns ≠ [] → batch.cursor.columns = cursor.columns

section Advanced

variable {before grown : List UInt8} {identity : Nat × Nat} {start : Nat}

/-- Where nothing is read, nothing is returned. -/
theorem Standing.idle (h : Standing before identity start cursor) {batch : StreamBatch}
    (hcursor : batch.cursor.offset = cursor.offset ∧ batch.cursor.columns = cursor.columns ∧
      batch.cursor.identity = cursor.identity)
    (hdisabled : cursor.columns ≠ [] → batch.cursor.disabled = cursor.disabled)
    (hrows : batch.rows = []) (hskipped : batch.skipped = 0) :
    Advanced before (before ++ grown) identity start start cursor batch [] where
  standing := by
    obtain ⟨hoffset, hcolumns, hidentity⟩ := hcursor
    refine ⟨hoffset ▸ h.start_le, h.start_boundary.append grown, hoffset ▸ h.boundary.append grown,
      fun hnil => ?_, fun hne => ?_⟩
    · rw [hoffset, hidentity]
      exact h.closed (hcolumns ▸ hnil)
    · rw [hidentity]
      rw [hcolumns] at hne
      rw [hdisabled hne]
      exact h.enabled hne
  taken := by
    rw [List.append_nil]
    unfold TelemetryTail.taken
    rw [hcursor.1]
    exact rowsBetween_append h.boundary.le_length grown
  rows := hrows
  skipped := hskipped
  columns := fun _ => hcursor.2.1

/-- The chunk behind an open cursor. -/
theorem Standing.read_opened (h : Standing before identity start cursor)
    (hcontent : WellFormed (before ++ grown)) {opened : TailCursor} {start' : Nat}
    (hopened : Opened ⟨identity, before.length, before ++ grown, none⟩ opened)
    (hstart : cursor.columns = [] ∧ start' = opened.offset ∨ cursor = opened ∧ start' = start) :
    ∃ more, Advanced before (before ++ grown) identity start start' cursor
      (match readChunk stream opened (before ++ grown) with
        | .error e => { cursor := { opened with disabled := true }, errors := [] ++ [e] }
        | .ok batch => { batch with errors := [], reset := false }) more := by
  rw [readChunk_eq hcontent hopened.boundary]
  have hstop := boundary_chunkStop hopened.boundary
  have hstanding (start' : Nat) (hle : start' ≤ opened.offset)
      (hboundary : Boundary (before ++ grown) start') :
      Standing (before ++ grown) identity start'
        { opened with offset := opened.offset + chunkStop (before ++ grown) opened.offset } :=
    ⟨Nat.le_trans hle (Nat.le_add_right _ _), hboundary, hstop,
      fun hnil => absurd hnil hopened.columns, fun _ => ⟨hopened.enabled, hopened.identity⟩⟩
  refine ⟨_, ?_, ?_, rfl, rfl, ?_⟩
  · rcases hstart with ⟨-, rfl⟩ | ⟨rfl, rfl⟩
    · exact hstanding _ (Nat.le_refl _) hopened.boundary
    · exact hstanding _ h.start_le (h.start_boundary.append grown)
  · unfold taken
    rcases hstart with ⟨hnew, rfl⟩ | ⟨rfl, rfl⟩
    · have hzero := (h.closed hnew).1
      have hnone : rowsBetween before start cursor.offset = [] := by
        unfold rowsBetween
        rw [hzero, List.take_zero, List.drop_nil]
        rfl
      rw [hnone, List.nil_append]
    · rw [rowsBetween_trans (h.start_boundary.append grown) (h.boundary.append grown) h.start_le
        (Nat.le_add_right _ _), rowsBetween_append h.boundary.le_length]
  · intro hne
    rcases hstart with ⟨hnew, -⟩ | ⟨rfl, -⟩
    · exact absurd hnew hne
    · rfl

/-- A file that grows is not taken for another one. -/
theorem Standing.not_replaced (h : Standing before identity start cursor) :
    (cursor.identity.any fun i => identity ≠ i || before.length < cursor.offset) = false := by
  by_cases hnew : cursor.columns = []
  · rw [(h.closed hnew).2]
    rfl
  · rw [(h.enabled hnew).2]
    have hle := h.boundary.le_length
    simpa using hle

/-- An open cursor moves on. -/
theorem Standing.readStream_open (h : Standing before identity start cursor)
    (hcontent : WellFormed (before ++ grown)) (hopen : cursor.columns ≠ []) :
    (TelemetryTail.readStream unicodeError stream cursor
      (.opened ⟨identity, before.length, before ++ grown, none⟩)).cursor =
        { cursor with offset := cursor.offset + chunkStop (before ++ grown) cursor.offset } := by
  have hcursor : openCursor unicodeError stream cursor
      ⟨identity, before.length, before ++ grown, none⟩ = .ok (some cursor) := if_pos hopen
  unfold TelemetryTail.readStream
  rw [if_neg (by rw [(h.enabled hopen).1]; exact Bool.false_ne_true)]
  dsimp only
  rw [h.not_replaced]
  simp only [Bool.false_eq_true, ↓reduceIte]
  rw [hcursor]
  dsimp only
  rw [readChunk_eq hcontent (h.boundary.append grown)]

/-- **What a poll does to a file that has been opened.** -/
theorem Standing.readStream (h : Standing before identity start cursor)
    (hcontent : WellFormed (before ++ grown)) (fault : Option String) :
    ∃ more, Advanced before (before ++ grown) identity start
      (startNow unicodeError stream cursor start ⟨identity, before.length, before ++ grown, fault⟩)
      cursor (readStream unicodeError stream cursor
        (.opened ⟨identity, before.length, before ++ grown, fault⟩)) more := by
  have hlength : before.length ≤ (before ++ grown).length := (List.prefix_append _ _).length_le
  unfold TelemetryTail.readStream startNow
  by_cases hdisabled : cursor.disabled = true
  · rw [if_pos hdisabled, if_neg (by rw [hdisabled]; simp)]
    exact ⟨[], h.idle ⟨rfl, rfl, rfl⟩ (fun _ => rfl) rfl rfl⟩
  rw [if_neg hdisabled]
  dsimp only
  rw [h.not_replaced]
  cases fault with
  | some text =>
    rw [if_neg (by simp)]
    exact ⟨[], h.idle ⟨rfl, rfl, rfl⟩ (fun _ => rfl) rfl rfl⟩
  | none =>
    simp only [Bool.false_eq_true, ↓reduceIte]
    by_cases hnew : cursor.columns = []
    · rw [if_pos ⟨hnew, by simpa using hdisabled, trivial⟩]
      cases hopen : openCursor unicodeError stream cursor
          ⟨identity, before.length, before ++ grown, none⟩ with
      | error e => exact ⟨[], h.idle ⟨rfl, rfl, rfl⟩ (fun hne => absurd hnew hne) rfl rfl⟩
      | ok opened =>
        cases opened with
        | none => exact ⟨[], h.idle ⟨rfl, rfl, rfl⟩ (fun _ => rfl) rfl rfl⟩
        | some opened =>
          have hopened := opened_of_openCursor hcontent hlength hnew hopen
          dsimp only
          exact h.read_opened hcontent hopened (.inl ⟨hnew, rfl⟩)
    · have hopen : openCursor unicodeError stream cursor
          ⟨identity, before.length, before ++ grown, none⟩ = .ok (some cursor) := if_pos hnew
      have hopened : Opened ⟨identity, before.length, before ++ grown, none⟩ cursor :=
        ⟨h.boundary.append grown, hnew, (h.enabled hnew).1, (h.enabled hnew).2⟩
      rw [if_neg (fun hand => hnew hand.1), hopen]
      dsimp only
      exact h.read_opened hcontent hopened (.inr ⟨rfl, rfl⟩)

end Advanced

/-! ## All files -/

variable {identity : Stream → Nat × Nat} {s t : Live}

/-- The rows of one file that have been returned or skipped. -/
def takenOf (s : Live) (stream : Stream) : List (List UInt8) :=
  taken (s.files stream) (s.start stream) (s.cursors.get stream)

/-- Those that parse. -/
def returnedOf (s : Live) (stream : Stream) : List (List String × List String) :=
  ((takenOf s stream).filterMap (rowFields (s.cursors.get stream).columns)).map
    fun row => ((s.cursors.get stream).columns, row)

/-- How many do not. -/
def skippedOf (s : Live) (stream : Stream) : Nat :=
  (takenOf s stream).countP fun raw => (rowFields (s.cursors.get stream).columns raw).isNone

/-- What all polls have returned for one file. -/
def rowsOf (stream : Stream) (rows : List (Stream × List String × List String)) :
    List (List String × List String) :=
  (rows.filter fun row => row.1 = stream).map Prod.snd

/-- **What has been returned and skipped** is what the cursors have moved over. -/
structure Tracked (identity : Stream → Nat × Nat) (s : Live) : Prop where
  standing : ∀ stream ∈ s.cursors.names, Standing (s.files stream) (identity stream)
    (s.start stream) (s.cursors.get stream)
  rows : ∀ stream ∈ s.cursors.names, rowsOf stream s.rows = returnedOf s stream
  skipped : s.skipped = (s.cursors.names.map (skippedOf s)).sum

/-- Every file is well formed. -/
def AllWellFormed (s : Live) : Prop := ∀ stream ∈ s.cursors.names, WellFormed (s.files stream)

theorem rowsOf_append (stream : Stream) (rows more : List (Stream × List String × List String)) :
    rowsOf stream (rows ++ more) = rowsOf stream rows ++ rowsOf stream more := by
  unfold rowsOf
  rw [List.filter_append, List.map_append]

/-- The rows of a batch, file by file. -/
theorem rowsOf_flatMap {names : List Stream} (hnames : names.Nodup) (hmem : stream ∈ names)
    (rows : Stream → List (List String × List String)) :
    rowsOf stream (names.flatMap fun name => (rows name).map fun row => (name, row)) =
      rows stream := by
  have hnone (name : Stream) (hne : name ≠ stream) :
      rowsOf stream ((rows name).map fun row => (name, row)) = [] := by
    unfold rowsOf
    rw [List.filter_eq_nil_iff.mpr, List.map_nil]
    intro row hrow
    obtain ⟨-, -, rfl⟩ := List.mem_map.mp hrow
    simpa using hne
  have hself : rowsOf stream ((rows stream).map fun row => (stream, row)) = rows stream := by
    unfold rowsOf
    rw [List.filter_eq_self.mpr, List.map_map]
    · exact List.map_id _
    · intro row hrow
      obtain ⟨-, -, rfl⟩ := List.mem_map.mp hrow
      exact decide_eq_true rfl
  have hrest (names : List Stream) (hnot : stream ∉ names) :
      rowsOf stream (names.flatMap fun name => (rows name).map fun row => (name, row)) = [] := by
    induction names with
    | nil => rfl
    | cons name names ih =>
      obtain ⟨hne, hnot⟩ := not_or.mp (List.mem_cons.not.mp hnot)
      rw [List.flatMap_cons, rowsOf_append, hnone name (Ne.symm hne), ih hnot]
      rfl
  induction names with
  | nil => exact absurd hmem List.not_mem_nil
  | cons name names ih =>
    obtain ⟨hnot, hnames⟩ := List.nodup_cons.mp hnames
    rw [List.flatMap_cons, rowsOf_append]
    by_cases hname : name = stream
    · subst hname
      rw [hself, hrest names hnot, List.append_nil]
    · have hin := (List.mem_cons.mp hmem).resolve_left (Ne.symm hname)
      rw [hnone name hname, ih hnames hin, List.nil_append]

/-- A poll that finds no file. -/
theorem Standing.unread {before : List UInt8} {id : Nat × Nat} {start : Nat}
    (h : Standing before id start cursor) (errors : List String) :
    Advanced before before id start start cursor { cursor, errors } [] := by
  have hidle : Advanced before (before ++ []) id start start cursor { cursor, errors } [] :=
    h.idle ⟨rfl, rfl, rfl⟩ (fun _ => rfl) rfl rfl
  rwa [List.append_nil] at hidle

section Poll

variable (unicodeError)

/-- A poll, for one file. -/
theorem Tracked.advanced (h : Tracked identity s) (attempt : Stream → Attempt)
    (hmem : stream ∈ s.cursors.names) (hcontent : WellFormed (grownBy s attempt stream)) :
    ∃ more, Advanced (s.files stream) (grownBy s attempt stream) (identity stream)
      (s.start stream) (startOf unicodeError identity s attempt stream) (s.cursors.get stream)
      (readStream unicodeError stream (s.cursors.get stream)
        (access identity s attempt stream)) more := by
  have hstanding := h.standing stream hmem
  unfold grownBy startOf access at *
  cases hattempt : attempt stream with
  | notFound =>
    have hread : readStream unicodeError stream (s.cursors.get stream) .notFound =
        { cursor := s.cursors.get stream } := by
      unfold readStream
      split_ifs <;> rfl
    rw [hread]
    exact ⟨[], hstanding.unread []⟩
  | osError text =>
    have hread : ∃ errors, readStream unicodeError stream (s.cursors.get stream) (.osError text) =
        { cursor := s.cursors.get stream, errors } := by
      unfold readStream
      split_ifs
      · exact ⟨[], rfl⟩
      · exact ⟨_, rfl⟩
    obtain ⟨errors, hread⟩ := hread
    rw [hread]
    exact ⟨[], hstanding.unread errors⟩
  | opened grown fault =>
    rw [hattempt] at hcontent
    exact hstanding.readStream hcontent fault

theorem poll_get (attempt : Stream → Attempt) (hmem : stream ∈ s.cursors.names) :
    (poll unicodeError identity s attempt).cursors.get stream =
      (readStream unicodeError stream (s.cursors.get stream)
        (access identity s attempt stream)).cursor := if_pos hmem

/-- A poll returns or skips some more rows of a file, and gives those before under the columns that
they have now. -/
theorem Tracked.poll_one (h : Tracked identity s) (attempt : Stream → Attempt)
    (hmem : stream ∈ s.cursors.names) (hcontent : WellFormed (grownBy s attempt stream)) :
    let t := poll unicodeError identity s attempt
    let result := readStream unicodeError stream (s.cursors.get stream)
      (access identity s attempt stream)
    Standing (t.files stream) (identity stream) (t.start stream) (t.cursors.get stream) ∧
      returnedOf t stream = returnedOf s stream ++ result.rows ∧
      skippedOf t stream = skippedOf s stream + result.skipped := by
  obtain ⟨more, hmore⟩ := h.advanced unicodeError attempt hmem hcontent
  have htaken : takenOf (poll unicodeError identity s attempt) stream =
      takenOf s stream ++ more := by
    unfold takenOf
    rw [poll_get unicodeError attempt hmem]
    exact hmore.taken
  have hold : takenOf s stream = [] ∨ (readStream unicodeError stream (s.cursors.get stream)
      (access identity s attempt stream)).cursor.columns = (s.cursors.get stream).columns := by
    by_cases hnew : (s.cursors.get stream).columns = []
    · exact .inl ((h.standing stream hmem).taken_of_new hnew)
    · exact .inr (hmore.columns hnew)
  dsimp only
  refine ⟨?_, ?_, ?_⟩
  · rw [poll_get unicodeError attempt hmem]
    exact hmore.standing
  · unfold returnedOf
    rw [htaken, poll_get unicodeError attempt hmem, hmore.rows, List.filterMap_append, List.map_append]
    rcases hold with hnil | hcolumns
    · rw [hnil]
      rfl
    · rw [hcolumns]
  · unfold skippedOf
    rw [htaken, poll_get unicodeError attempt hmem, hmore.skipped, List.countP_append]
    rcases hold with hnil | hcolumns
    · rw [hnil]
      rfl
    · rw [hcolumns]

/-- **A poll keeps what is tracked.** -/
theorem Tracked.poll (h : Tracked identity s) (attempt : Stream → Attempt)
    (hcontent : AllWellFormed (poll unicodeError identity s attempt)) :
    Tracked identity (poll unicodeError identity s attempt) := by
  have hone (stream : Stream) (hmem : stream ∈ s.cursors.names) :=
    h.poll_one unicodeError attempt hmem (hcontent stream hmem)
  refine ⟨fun stream hmem => (hone stream hmem).1, fun stream hmem => ?_, ?_⟩
  · rw [(hone stream hmem).2.1, ← h.rows stream hmem]
    show rowsOf stream (s.rows ++ _) = _
    rw [rowsOf_append]
    congr 1
    exact rowsOf_flatMap s.cursors.nodup hmem fun name =>
      (readStream unicodeError name (s.cursors.get name) (access identity s attempt name)).rows
  · show s.skipped + _ = (s.cursors.names.map _).sum
    rw [List.map_congr_left fun stream hmem => (hone stream hmem).2.2, List.sum_map_add, ← h.skipped]
    rfl

end Poll

/-- Growth keeps what is tracked. -/
theorem Tracked.grow (h : Tracked identity s) (grown : Stream) (bytes : List UInt8) :
    Tracked identity
      { s with files := Function.update s.files grown (s.files grown ++ bytes) } := by
  have hfile (stream : Stream) : ∃ more,
      Function.update s.files grown (s.files grown ++ bytes) stream = s.files stream ++ more := by
    by_cases hstream : stream = grown
    · subst hstream
      exact ⟨bytes, Function.update_self _ _ _⟩
    · exact ⟨[], by rw [Function.update_of_ne hstream, List.append_nil]⟩
  have htaken (stream : Stream) (hmem : stream ∈ s.cursors.names) :
      takenOf { s with files := Function.update s.files grown (s.files grown ++ bytes) } stream =
        takenOf s stream := by
    obtain ⟨more, hmore⟩ := hfile stream
    unfold takenOf taken
    dsimp only
    rw [hmore]
    exact rowsBetween_append (h.standing stream hmem).boundary.le_length more
  refine ⟨fun stream hmem => ?_, fun stream hmem => ?_, ?_⟩
  · obtain ⟨more, hmore⟩ := hfile stream
    have hstanding := (h.standing stream hmem).append more
    rwa [← hmore] at hstanding
  · unfold returnedOf
    rw [htaken stream hmem]
    exact h.rows stream hmem
  · unfold skippedOf
    rw [List.map_congr_left fun stream hmem => by rw [htaken stream hmem]]
    exact h.skipped

/-! ## Every schedule -/

theorem names_of_step {a : Action} (h : step unicodeError identity s a = some t) :
    t.cursors.names = s.cursors.names := by
  cases a with
  | grow stream bytes =>
    obtain rfl := Option.some.inj h
    rfl
  | poll attempt =>
    obtain rfl := Option.some.inj h
    rfl

/-- Files only grow. -/
theorem files_of_step {a : Action} (h : step unicodeError identity s a = some t)
    (stream : Stream) : s.files stream <+: t.files stream := by
  cases a with
  | grow grown bytes =>
    obtain rfl := Option.some.inj h
    show _ <+: Function.update s.files grown _ stream
    by_cases hstream : stream = grown
    · subst hstream
      rw [Function.update_self]
      exact List.prefix_append _ _
    · have hsame : Function.update s.files grown (s.files grown ++ bytes) stream =
          s.files stream := Function.update_of_ne hstream _ _
      exact hsame ▸ List.prefix_refl _
  | poll attempt =>
    obtain rfl := Option.some.inj h
    show _ <+: grownBy s attempt stream
    unfold grownBy
    split
    · exact List.prefix_append _ _
    · exact List.prefix_refl _

theorem AllWellFormed.of_step {a : Action} (ht : AllWellFormed t)
    (h : step unicodeError identity s a = some t) : AllWellFormed s := by
  intro stream hmem
  rw [← names_of_step h] at hmem
  exact (ht stream hmem).of_start (files_of_step h stream)

theorem Tracked.step {a : Action} (h : Tracked identity s) (ht : AllWellFormed t)
    (hstep : step unicodeError identity s a = some t) : Tracked identity t := by
  cases a with
  | grow stream bytes =>
    obtain rfl := Option.some.inj hstep
    exact h.grow stream bytes
  | poll attempt =>
    obtain rfl := Option.some.inj hstep
    exact h.poll unicodeError attempt ht

/-- **What is tracked in every reachable state.** -/
theorem tracked_of_reachable (h : (system unicodeError identity).Reachable s)
    (hcontent : AllWellFormed s) : Tracked identity s := by
  revert hcontent
  refine h.invariant (P := fun s => AllWellFormed s → Tracked identity s) (fun s hs _ => ?_)
    fun s a t hs hstep ht => (hs (ht.of_step hstep)).step ht hstep
  obtain ⟨hcursors, hstart, hrows, hskipped⟩ := hs
  have hget (stream : Stream) : (s.cursors.get stream).columns = [] ∧
      (s.cursors.get stream).offset = 0 ∧ (s.cursors.get stream).identity = none := by
    obtain ⟨tailOnOpen, hcursor⟩ := hcursors stream
    rw [hcursor]
    exact ⟨rfl, rfl, rfl⟩
  have htaken (stream : Stream) : takenOf s stream = [] := by
    unfold takenOf taken rowsBetween
    rw [(hget stream).2.1, List.take_zero, List.drop_nil]
    rfl
  refine ⟨fun stream _ => ?_, fun stream _ => ?_, ?_⟩
  · obtain ⟨hcolumns, hoffset, hidentity⟩ := hget stream
    rw [hstart]
    have hboundary : Boundary (s.files stream) 0 := ⟨Nat.zero_le _, rfl⟩
    exact ⟨Nat.zero_le _, hboundary, hoffset ▸ hboundary, fun _ => ⟨hoffset, hidentity⟩,
      fun hne => absurd hcolumns hne⟩
  · unfold returnedOf
    rw [hrows, htaken]
    rfl
  · unfold skippedOf
    rw [hskipped, List.map_congr_left fun stream _ => by rw [htaken stream]]
    simp

/-! ## What is complete is read in the end -/

/-- Where the complete rows end. -/
def rowsEnd (content : List UInt8) : Nat := content.length - (unfinished newline content).length

theorem chunkStop_of_le {offset : Nat} (h : Boundary content offset)
    (hrest : content.length ≤ offset + replayTailBytes) :
    offset + chunkStop content offset = rowsEnd content := by
  have hle := h.le_length
  have htake : (content.drop offset).take replayTailBytes = content.drop offset := by
    refine List.take_of_length_le ?_
    rw [List.length_drop]
    omega
  have hunfinished : unfinished newline (content.drop offset) = unfinished newline content := by
    conv_rhs => rw [← List.take_append_drop offset content,
      Lines.unfinished_append_of_unfinished h.unfinished]
  have hsuffix : (unfinished newline (content.drop offset)).length ≤ _ :=
    (Lines.unfinished_suffix _).length_le
  unfold chunkStop rowsEnd
  rw [htake]
  rw [hunfinished, List.length_drop] at hsuffix ⊢
  omega

theorem chunkStop_of_lt {offset : Nat} (hcontent : WellFormed content)
    (h : Boundary content offset) (hrest : offset + replayTailBytes < content.length) :
    replayTailBytes ≤ chunkStop content offset + maxRowBytes := by
  have hshort : (unfinished newline ((content.drop offset).take replayTailBytes)).length <
      maxRowBytes := unfinished_chunk_lt hcontent h
  unfold chunkStop
  have hlength : ((content.drop offset).take replayTailBytes).length = replayTailBytes := by
    rw [List.length_take, List.length_drop]
    omega
  rw [hlength]
  omega

/-- All complete rows, once they are taken. -/
theorem rowsBetween_rowsEnd {start : Nat} (h : Boundary content start)
    (hle : start ≤ rowsEnd content) :
    rowsBetween content start (rowsEnd content) = lines newline (content.drop start) := by
  have hend : rowsEnd content ≤ content.length := Nat.sub_le _ _
  have hboundary : Boundary content (rowsEnd content) := ⟨hend, Lines.unfinished_finished content⟩
  have hall : rowsBetween content start content.length = lines newline (content.drop start) := by
    unfold rowsBetween
    rw [List.take_length]
  have hrest : rowsBetween content (rowsEnd content) content.length = [] := by
    unfold rowsBetween rowsEnd
    rw [List.take_length]
    rw [Lines.drop_finished]
    exact Lines.lines_of_notMem (Lines.sep_notMem_unfinished content)
  rw [← hall, rowsBetween_trans h hboundary hle hend, hrest, List.append_nil]

/-- A poll that finds every file, and no growth. -/
def quietPoll : Action := .poll fun _ => .opened [] none

variable (unicodeError) in
/-- A quiet poll of a cursor that is open. -/
theorem Tracked.quiet (h : Tracked identity s) (hcontent : AllWellFormed s) :
    ∃ t, (system unicodeError identity).step s quietPoll = some t ∧ t.files = s.files ∧
      t.cursors.names = s.cursors.names ∧
      ∀ stream ∈ s.cursors.names, (s.cursors.get stream).columns ≠ [] →
        t.start stream = s.start stream ∧
        t.cursors.get stream = { s.cursors.get stream with
          offset := (s.cursors.get stream).offset +
            chunkStop (s.files stream) (s.cursors.get stream).offset } := by
  refine ⟨_, rfl, ?_, rfl, fun stream hmem hopen => ?_⟩
  · funext stream
    exact List.append_nil _
  · have hstanding := h.standing stream hmem
    obtain ⟨henabled, hidentity⟩ := hstanding.enabled hopen
    constructor
    · show startNow unicodeError stream _ _ _ = _
      exact if_neg fun hand => hopen hand.1
    · have hgrown : WellFormed (s.files stream ++ []) := by
        rw [List.append_nil]
        exact hcontent stream hmem
      have hcursor : (readStream unicodeError stream (s.cursors.get stream)
          (access identity s (fun _ => .opened [] none) stream)).cursor = _ :=
        hstanding.readStream_open hgrown hopen
      rw [poll_get unicodeError _ hmem]
      exact hcursor.trans (by rw [List.append_nil])

/-- Near the end, or near enough for some more polls. -/
def Near (content : List UInt8) (offset n : Nat) : Prop :=
  offset = rowsEnd content ∨ content.length ≤ offset + n * (replayTailBytes - maxRowBytes)

theorem Near.chunkStop {offset n : Nat} (hcontent : WellFormed content)
    (h : Boundary content offset) (hnear : Near content offset (n + 1)) :
    Near content (offset + chunkStop content offset) n := by
  have hlarge : maxRowBytes < replayTailBytes := by decide
  by_cases hrest : content.length ≤ offset + replayTailBytes
  · exact .inl (chunkStop_of_le h hrest)
  · have hstop := chunkStop_of_lt hcontent h (Nat.not_le.mp hrest)
    rcases hnear with hend | hnear
    · have hrow := hcontent.short (unfinished newline content)
        (List.mem_append_right _ List.mem_cons_self)
      unfold rowsEnd at hend
      omega
    · refine .inr ?_
      rw [Nat.succ_mul] at hnear
      omega

theorem Near.zero {offset : Nat} (h : Boundary content offset) (hnear : Near content offset 0) :
    offset = rowsEnd content := by
  rcases hnear with hend | hnear
  · exact hend
  · have hall : offset = content.length := by
      have := h.le_length
      omega
    have hnone := h.unfinished
    rw [hall, List.take_length] at hnone
    unfold rowsEnd
    rw [hnone]
    exact hall

/-- **Enough quiet polls take all complete rows** of the files that are open. -/
theorem Tracked.quietPolls (n : Nat) (h : Tracked identity s) (hcontent : AllWellFormed s) :
    ∃ t, (system unicodeError identity).exec s (List.replicate n quietPoll) = some t ∧
      Tracked identity t ∧ t.cursors.names = s.cursors.names ∧
      ∀ stream ∈ s.cursors.names, (s.cursors.get stream).columns ≠ [] →
        Near (s.files stream) (s.cursors.get stream).offset n →
        (t.cursors.get stream).columns = (s.cursors.get stream).columns ∧
          takenOf t stream = lines newline ((s.files stream).drop (s.start stream)) := by
  induction n generalizing s with
  | zero =>
    refine ⟨s, rfl, h, rfl, fun stream hmem _ hnear => ⟨rfl, ?_⟩⟩
    have hstanding := h.standing stream hmem
    have hend := hnear.zero hstanding.boundary
    have hstart := hstanding.start_le
    unfold takenOf taken
    rw [hend] at hstart ⊢
    exact rowsBetween_rowsEnd hstanding.start_boundary hstart
  | succ n ih =>
    obtain ⟨u, hstep, hfiles, hnames, hpoll⟩ :=
      h.quiet unicodeError hcontent
    have hu : AllWellFormed u := by
      intro stream hmem
      rw [hfiles]
      rw [hnames] at hmem
      exact hcontent stream hmem
    have htaken : TelemetryTail.step unicodeError identity s quietPoll = some u := hstep
    obtain ⟨t, hexec, ht, htnames, htake⟩ := ih (h.step hu htaken) hu
    refine ⟨t, ?_, ht, htnames.trans hnames, fun stream hmem hopen hnear => ?_⟩
    · rw [List.replicate_succ, StepSystem.exec, hstep]
      exact hexec
    · obtain ⟨hstart, hcursor⟩ := hpoll stream hmem hopen
      have hone := htake stream (hnames ▸ hmem)
      rw [hcursor, hfiles, hstart] at hone
      exact hone hopen (hnear.chunkStop (hcontent stream hmem) (h.standing stream hmem).boundary)

/-- **Every row is returned or skipped once.**  What the polls have returned for a file are the rows
that parse, in order, of those between the start of its cursor and where the cursor stands; what has
been skipped are the others; both places are the start of a row.  Without growth, enough polls take
every complete row from the start on. -/
theorem rows_exactly_once (h : (system unicodeError identity).Reachable s)
    (hcontent : AllWellFormed s) :
    (∀ stream ∈ s.cursors.names,
      s.start stream ≤ (s.cursors.get stream).offset ∧
      Boundary (s.files stream) (s.start stream) ∧
      Boundary (s.files stream) (s.cursors.get stream).offset ∧
      rowsOf stream s.rows = returnedOf s stream) ∧
    s.skipped = (s.cursors.names.map (skippedOf s)).sum ∧
    ∀ n, ∃ t, (system unicodeError identity).exec s (List.replicate n quietPoll) = some t ∧
      t.skipped = (s.cursors.names.map (skippedOf t)).sum ∧
      ∀ stream ∈ s.cursors.names, (s.cursors.get stream).columns ≠ [] →
        Near (s.files stream) (s.cursors.get stream).offset n →
        (t.cursors.get stream).columns = (s.cursors.get stream).columns ∧
          takenOf t stream = lines newline ((s.files stream).drop (s.start stream)) ∧
          rowsOf stream t.rows = returnedOf t stream := by
  have htracked := tracked_of_reachable h hcontent
  refine ⟨fun stream hmem => ?_, htracked.skipped, fun n => ?_⟩
  · have hstanding := htracked.standing stream hmem
    exact ⟨hstanding.start_le, hstanding.start_boundary, hstanding.boundary,
      htracked.rows stream hmem⟩
  · obtain ⟨t, hexec, ht, hnames, htake⟩ := htracked.quietPolls n hcontent
    refine ⟨t, hexec, ?_, fun stream hmem hopen hnear => ?_⟩
    · rw [← hnames]
      exact ht.skipped
    · obtain ⟨hcolumns, htaken⟩ := htake stream hmem hopen hnear
      rw [← hnames] at hmem
      exact ⟨hcolumns, htaken, ht.rows stream hmem⟩

/-! ## A run -/

/-- A header, one row, and the start of another one. -/
def firstPart : String :=
  "tow_ms,host_unix_ns,cpu_load_pct,up_time_s,rx_status,rx_error,ext_error,temp_c\n" ++
    "1,2,3,4,5,6,7,8\n9,10,1"

/-- The rest of the row, and one that has too few fields. -/
def secondPart : String := "1,12,13,14,15,16\n17\n"

/-- The bytes of a text in ASCII. -/
def ascii (text : String) : List UInt8 := text.toList.map fun c => UInt8.ofNat c.toNat

/-- Two polls, and growth before each. -/
def growingActions : List Action :=
  [.grow .receiverStatus (ascii firstPart), quietPoll,
    .grow .receiverStatus (ascii secondPart), quietPoll]

/-- No file, and a cursor for one of them. -/
def noFiles : Live where
  files := fun _ => []
  cursors := ⟨[.receiverStatus], by decide, fun _ => {}⟩
  start := fun _ => 0
  rows := []
  skipped := 0

/-- The row that was cut is returned whole, and the short one is skipped. -/
theorem rows_exactly_once_of_growing :
    ∃ s, (system (fun _ => "") fun _ => (0, 0)).exec noFiles growingActions = some s ∧
      (rowsOf .receiverStatus s.rows).map Prod.snd =
        [["1", "2", "3", "4", "5", "6", "7", "8"],
          ["9", "10", "11", "12", "13", "14", "15", "16"]] ∧
      s.skipped = 1 := by
  obtain ⟨s, hexec⟩ : ∃ s, (system (fun _ => "") fun _ => (0, 0)).exec noFiles growingActions =
      some s := ⟨_, rfl⟩
  have hs : ((system (fun _ => "") fun _ => (0, 0)).exec noFiles growingActions).map (fun s =>
      (s.cursors.names, s.files .receiverStatus, s.start .receiverStatus,
        s.cursors.get .receiverStatus)) =
      some ([.receiverStatus], ascii (firstPart ++ secondPart), 79,
        ⟨121, Stream.receiverStatus.csvColumns, some (0, 0), false, false⟩) := by decide +kernel
  rw [hexec, Option.map_some, Option.some.injEq, Prod.mk.injEq, Prod.mk.injEq, Prod.mk.injEq] at hs
  obtain ⟨hnames, hfile, hstart, hcursor⟩ := hs
  have hcontent : AllWellFormed s := by
    intro stream hmem
    rw [hnames, List.mem_singleton] at hmem
    rw [hmem, hfile]
    exact ⟨by decide +kernel, by decide +kernel⟩
  have hinit : (system (fun _ => "") fun _ => (0, 0)).Init noFiles :=
    ⟨fun _ => ⟨false, rfl⟩, fun _ => rfl, rfl, rfl⟩
  obtain ⟨hrows, hskipped, -⟩ :=
    rows_exactly_once (StepSystem.reachable_of_exec (.init hinit) hexec) hcontent
  have htaken : takenOf s .receiverStatus =
      rowsBetween (ascii (firstPart ++ secondPart)) 79 121 := by
    unfold takenOf taken
    rw [hfile, hstart, hcursor]
  refine ⟨s, hexec, ?_, ?_⟩
  · rw [(hrows .receiverStatus (hnames ▸ List.mem_singleton_self _)).2.2.2]
    unfold returnedOf
    rw [htaken, hcursor]
    decide +kernel
  · rw [hskipped, hnames, List.map_singleton, List.sum_singleton]
    unfold skippedOf
    rw [htaken, hcursor]
    decide +kernel

end TelemetryTail
end App
end AmigaDrivers
