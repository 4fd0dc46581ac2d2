import AmigaDrivers.App.LogBuffer
import AmigaDrivers.Foundation.Lines
import AmigaDrivers.Foundation.StepSystem
import AmigaDrivers.Foundation.Utf8
import Mathlib.Data.List.DropRight

/-!
# Following the log of a session

The log file of a session grows while it is read.  `_scan_existing` replays its last lines, from a
place in the middle of the file that need not be the start of a line, and the loop of `_run` goes on
where the scan has ended, chunk by chunk.

* `parseLine`: what becomes of a line.
* `scanExisting`, `step`: the scan, and what may happen after it.
* `Following`: where the tailer stands in the file, and what it has handed on until there.
* `lines_exactly_once`: **every line is handed on once**, after the last ones of those that had been there.
-/

namespace AmigaDrivers
namespace App

/-! ## Lines of the log -/

section ParseLine

-- `\d` and `\w` of `LINE_RE`, which are tables of Unicode
variable (digit word : Char → Bool)

/-- How many characters `[0-9;]*[A-Za-z]` matches. -/
def escapeTail : List Char → Option Nat
  | [] => none
  | c :: cs =>
    if c.isDigit || c == ';' then (escapeTail cs).map (· + 1)
    else if c.isAlpha then some 1 else none

/-- How many characters `ANSI_RE` matches. -/
def ansiRe : List Char → Option Nat
  | c :: '[' :: cs => if c = Char.ofNat 0x1b then (escapeTail cs).map (· + 2) else none
  | _ => none

/-- `ANSI_RE.sub("", raw)`; the first characters belong to a match. -/
def ansiSub : Nat → List Char → List Char
  | _, [] => []
  | k + 1, _ :: cs => ansiSub k cs
  | 0, c :: cs =>
    match ansiRe (c :: cs) with
    | some n => ansiSub (n - 1) cs
    | none => c :: ansiSub 0 cs

/-- `\d{2}:\d{2}:\d{2}`. -/
def isClock : List Char → Bool
  | [h, h', ':', m, m', ':', s, s'] =>
    digit h && digit h' && digit m && digit m' && digit s && digit s'
  | _ => false

/-- `(.*)$`. -/
def lineEnd (rest : List Char) : Option (List Char) :=
  match rest.dropWhile (· != '\n') with
  | [] | ['\n'] => some (rest.takeWhile (· != '\n'))
  | _ => none

/-- `LINE_RE.match(raw)`. -/
def lineRe (raw : List Char) : Option LogLine := do
  let rest ← raw.dropPrefix? ['[']
  let ts := rest.take 8
  guard (isClock digit ts)
  let rest ← (rest.drop 8).dropPrefix? [']', ' ', '[']
  let level := rest.takeWhile word
  guard (level ≠ [])
  let rest ← (rest.dropWhile word).dropPrefix? [']', ' ', '[']
  let module := rest.takeWhile (· != ']')
  guard (module ≠ [])
  let rest ← (rest.dropWhile (· != ']')).dropPrefix? [']', ':', ' ']
  let msg ← lineEnd rest
  pure ⟨.ofList ts, .ofList level, .ofList module, .ofList msg, .ofList raw⟩

/-- `rstrip("\n")`. -/
def rstripNewline (l : List Char) : List Char := l.rdropWhile (· == '\n')

/-- `parse_line`. -/
def parseLine (raw : List Char) (fallbackModule : String := "") : LogLine :=
  let raw := ansiSub 0 (rstripNewline raw)
  match lineRe digit word raw with
  | some line => line
  | none => ⟨"", "", fallbackModule, .ofList raw, .ofList raw⟩

end ParseLine

example : parseLine Char.isDigit Char.isAlphanum
    "[10:28:43] [info] [GoX]: \x1b[32mready\x1b[0m\n".toList =
      ⟨"10:28:43", "info", "GoX", "ready", "[10:28:43] [info] [GoX]: ready"⟩ := by decide

namespace SessionTailer

/-- `b"\n"`. -/
abbrev newline : UInt8 := 10

/-- `REPLAY_TAIL_LINES`. -/
def replayTailLines : Nat := 500

/-- How much of the file the scan reads. -/
def scanBytes : Nat := 512 * 1024

/-- How much a pass of the loop reads. -/
def chunkBytes : Nat := 256 * 1024

/-! ## The scan -/

/-- The loop of `_scan_existing`. -/
def scanLoop (offset : Nat) (tail : List (List Char)) : List (List UInt8) → List (List Char) × Nat
  | [] => (tail, offset)
  | bline :: blines =>
    if bline.getLast? = some newline then
      let raw := rstripNewline (Utf8.decodeReplace bline)
      scanLoop (offset + bline.length) (pushBounded replayTailLines tail raw) blines
    else (tail, offset)

/-- Where the loop of `_scan_existing` starts, in a file that had this size. -/
def scanStart (size : Nat) (file : List UInt8) : Nat :=
  if scanBytes < size then
    size - scanBytes + (Lines.readline newline (file.drop (size - scanBytes))).length
  else 0

/-- `_scan_existing`.  The file may have grown since its size was taken. -/
def scanExisting (size : Nat) (file : List UInt8) : List (List Char) × Nat :=
  let offset := scanStart size file
  scanLoop offset [] (Lines.readlines newline (file.drop offset))

/-! ## The task -/

/-- Where `_run` is: before the scan, in its loop, or ended by an error of the scan. -/
inductive Phase
  | waiting
  | following
  | ended
  deriving DecidableEq

/-- The log file, which is empty until it exists, and the tailer.  `scannedSize` and `scanned` are
the size that the scan took and the file that it read. -/
structure Tailer where
  file : List UInt8 := []
  phase : Phase := .waiting
  offset : Nat := 0
  buf : List UInt8 := []
  ready : Bool := false
  emitted : List LogLine := []
  scannedSize : Nat := 0
  scanned : List UInt8 := []
  deriving DecidableEq

/-- What may happen.  `openError` is an `OSError` of the scan or of a pass of the loop. -/
inductive Action
  | grow (bytes : List UInt8)
  | scan (size : Nat)
  | poll
  | openError

section System

variable (digit word : Char → Bool)

/-- What is emitted for a line. -/
def emitted (line : List UInt8) : LogLine := parseLine digit word (Utf8.decodeReplace line)

/-- What `_run` does before its loop. -/
def begin (replay : Bool) (s : Tailer) (size : Nat) : Tailer :=
  if replay then
    let (tail, offset) := scanExisting size s.file
    { s with phase := .following, offset := offset, scannedSize := size, scanned := s.file
             emitted := s.emitted ++ tail.map (parseLine digit word) }
  else { s with phase := .following }

/-- A pass of the loop. -/
def poll (s : Tailer) : Tailer :=
  let chunk := (s.file.drop s.offset).take chunkBytes
  if chunk = [] then { s with ready := true }
  else
    let buf := s.buf ++ chunk
    { s with
      ready := true
      offset := s.offset + chunk.length
      buf := Lines.unfinished newline buf
      emitted := s.emitted ++ (Lines.lines newline buf).map (emitted digit word) }

theorem poll_phase (s : Tailer) : (poll digit word s).phase = s.phase := by
  unfold poll
  dsimp only
  split_ifs <;> rfl

theorem poll_file (s : Tailer) : (poll digit word s).file = s.file := by
  unfold poll
  dsimp only
  split_ifs <;> rfl

theorem poll_scanned (s : Tailer) : (poll digit word s).scanned = s.scanned := by
  unfold poll
  dsimp only
  split_ifs <;> rfl

/-- What happens, in any order. -/
def step (replay : Bool) (s : Tailer) : Action → Option Tailer
  | .grow bytes => some { s with file := s.file ++ bytes }
  | .scan size =>
    if s.phase = .waiting ∧ size ≤ s.file.length then some (begin digit word replay s size) else none
  | .poll => if s.phase = .following then some (poll digit word s) else none
  | .openError =>
    if s.phase = .waiting ∧ replay then some { s with phase := .ended }
    else if s.phase = .following then some { s with ready := false }
    else none

/-- The task, from its start. -/
def system (replay : Bool) : StepSystem Tailer Action where
  Init s := s = {}
  step := step digit word replay

end System

/-! ## What the scan gives -/

open Lines (lines unfinished readline readlines)

variable {digit word : Char → Bool} {replay : Bool} {s t : Tailer}

/-- A line is read as the same text with its newline and without. -/
theorem rstripNewline_decode {line : List UInt8} (h : newline ∉ line) :
    rstripNewline (Utf8.decodeReplace (line ++ [newline])) = Utf8.decodeReplace line := by
  rw [Utf8.decodeReplace_newline]
  unfold rstripNewline
  rw [show Utf8.decodeReplace [] = [] from rfl, List.rdropWhile_concat_pos _ _ _ rfl,
    List.rdropWhile_eq_self_iff]
  intro hne hlast
  refine Utf8.newline_notMem_decodeReplace h ?_
  rw [← beq_iff_eq.mp hlast]
  exact List.getLast_mem hne

theorem scanLoop_map (ls : List (List UInt8)) (hls : ∀ line ∈ ls, newline ∉ line) (offset : Nat)
    (before : List (List UInt8)) (rest : List (List UInt8)) :
    scanLoop offset (keepLast replayTailLines (before.map Utf8.decodeReplace))
        (ls.map (· ++ [newline]) ++ rest) =
      scanLoop (offset + (ls.flatMap (· ++ [newline])).length)
        (keepLast replayTailLines ((before ++ ls).map Utf8.decodeReplace)) rest := by
  induction ls generalizing offset before with
  | nil => rw [List.map_nil, List.nil_append, List.append_nil, List.flatMap_nil]; rfl
  | cons line ls ih =>
    have hline := hls line List.mem_cons_self
    rw [List.map_cons, List.cons_append, scanLoop, if_pos List.getLast?_concat]
    dsimp only
    rw [rstripNewline_decode hline, pushBounded, keepLast_append]
    have hmap : before.map Utf8.decodeReplace ++ [Utf8.decodeReplace line] =
        (before ++ [line]).map Utf8.decodeReplace := by
      rw [List.map_append]
      rfl
    have hbefore : before ++ [line] ++ ls = before ++ line :: ls := by
      rw [List.append_assoc]
      rfl
    have hflat : ((line :: ls).flatMap (· ++ [newline])).length =
        (line ++ [newline]).length + (ls.flatMap (· ++ [newline])).length :=
      List.length_append
    rw [hmap, ih (fun l hl => hls l (List.mem_cons_of_mem _ hl)), hbefore, hflat, Nat.add_assoc]

/-- The scan keeps the last complete lines, and ends before what is not complete. -/
theorem scanLoop_readlines (offset : Nat) (l : List UInt8) :
    scanLoop offset [] (readlines newline l) =
      (keepLast replayTailLines ((lines newline l).map Utf8.decodeReplace),
        offset + (l.length - (unfinished newline l).length)) := by
  have hlength : (_ ++ unfinished newline l).length = l.length :=
    congrArg List.length (Lines.flatMap_lines l)
  rw [List.length_append] at hlength
  unfold readlines
  have hloop := scanLoop_map (lines newline l) (fun _ => Lines.sep_notMem_of_mem_lines) offset []
    (if unfinished newline l = [] then [] else [unfinished newline l])
  rw [List.map_nil, keepLast_of_length_le (Nat.zero_le _), List.nil_append] at hloop
  rw [hloop]
  have hoffset : ((lines newline l).flatMap (· ++ [newline])).length =
      l.length - (unfinished newline l).length := by omega
  rw [hoffset]
  split_ifs with hnil
  · rfl
  · rw [scanLoop, if_neg]
    intro hlast
    exact Lines.sep_notMem_unfinished l (List.mem_of_getLast? hlast)

/-- All lines, also the one that is being written, are shorter than what the scan reads. -/
def ShortLines (file : List UInt8) : Prop := Lines.Shorter newline scanBytes file

/-- The scan starts at the start of a line. -/
theorem unfinished_scanStart {size : Nat} {file : List UInt8} (hshort : ShortLines file)
    (hsize : size ≤ file.length) :
    scanStart size file ≤ file.length ∧
      unfinished newline (file.take (scanStart size file)) = [] := by
  unfold scanStart
  split_ifs with hlarge
  · have hwindow : size - scanBytes + scanBytes ≤ file.length := by omega
    obtain ⟨⟨hle, hboundary⟩, -⟩ := hshort.readline_drop hwindow
    exact ⟨hle, hboundary⟩
  · exact ⟨Nat.zero_le _, rfl⟩

/-! ## What is emitted -/

/-- Where the scan ends. -/
def seam (scanned : List UInt8) : Nat := scanned.length - (unfinished newline scanned).length

/-- The lines that the scan replays. -/
def replayed (s : Tailer) : List (List UInt8) :=
  keepLast replayTailLines
    (lines newline (s.scanned.drop (scanStart s.scannedSize s.scanned)))

/-- What is read behind the scan. -/
def followed (s : Tailer) : List UInt8 := (s.file.take s.offset).drop (seam s.scanned)

/-- **Where the tailer stands**, and what it has emitted until there. -/
structure Following (digit word : Char → Bool) (s : Tailer) : Prop where
  grown : s.scanned <+: s.file
  size : s.scannedSize ≤ s.scanned.length
  seam_le : seam s.scanned ≤ s.offset
  offset_le : s.offset ≤ s.file.length
  buf : s.buf = unfinished newline (followed s)
  delivered : s.emitted = (replayed s ++ lines newline (followed s)).map (emitted digit word)

/-- The file grows behind what is read. -/
theorem Following.grow (h : Following digit word s) (bytes : List UInt8) :
    Following digit word { s with file := s.file ++ bytes } := by
  have hfollowed : followed { s with file := s.file ++ bytes } = followed s := by
    unfold followed
    rw [List.take_append_of_le_length h.offset_le]
  refine ⟨h.grown.trans (List.prefix_append _ _), h.size, h.seam_le, ?_, ?_, ?_⟩
  · exact Nat.le_trans h.offset_le (List.prefix_append _ _).length_le
  · rw [hfollowed]
    exact h.buf
  · rw [hfollowed]
    exact h.delivered

/-- A pass of the loop goes on where the last one has ended. -/
theorem Following.poll (h : Following digit word s) : Following digit word (poll digit word s) := by
  unfold SessionTailer.poll
  dsimp only
  split_ifs with hchunk
  · exact ⟨h.grown, h.size, h.seam_le, h.offset_le, h.buf, h.delivered⟩
  · set chunk := (s.file.drop s.offset).take chunkBytes with hdef
    have htake : s.file.take (s.offset + chunk.length) = s.file.take s.offset ++ chunk := by
      rw [List.take_add, hdef, List.length_take, ← List.take_take, List.take_length]
    have hlength : chunk.length ≤ s.file.length - s.offset := by
      rw [hdef, List.length_take, List.length_drop]
      exact Nat.min_le_right _ _
    have hoffset := h.offset_le
    have hseam := h.seam_le
    have hfollowed : (s.file.take (s.offset + chunk.length)).drop (seam s.scanned) =
        followed s ++ chunk := by
      rw [htake, List.drop_append_of_le_length]
      · rfl
      · rw [List.length_take_of_le hoffset]
        exact hseam
    refine ⟨h.grown, h.size, ?_, ?_, ?_, ?_⟩
    · exact Nat.le_trans hseam (Nat.le_add_right _ _)
    · show s.offset + chunk.length ≤ s.file.length
      omega
    · show unfinished newline (s.buf ++ chunk) =
        unfinished newline ((s.file.take (s.offset + chunk.length)).drop (seam s.scanned))
      rw [hfollowed, h.buf, ← Lines.unfinished_append]
    · show s.emitted ++ (lines newline (s.buf ++ chunk)).map (emitted digit word) =
        (replayed s ++
          lines newline ((s.file.take (s.offset + chunk.length)).drop (seam s.scanned))).map _
      rw [hfollowed, h.delivered, h.buf, Lines.lines_append (followed s), ← List.map_append,
        List.append_assoc]

/-- Before the scan nothing has been read. -/
structure Fresh (s : Tailer) : Prop where
  emitted : s.emitted = []
  buf : s.buf = []
  offset : s.offset = 0
  scannedSize : s.scannedSize = 0
  scanned : s.scanned = []

/-- **The scan ends where the loop begins**: before the line that is being written. -/
theorem scanExisting_eq {size : Nat} {file : List UInt8} (hsize : size ≤ file.length)
    (hshort : ShortLines file) :
    scanExisting size file =
      (keepLast replayTailLines
        ((lines newline (file.drop (scanStart size file))).map Utf8.decodeReplace), seam file) := by
  obtain ⟨hstart, hboundary⟩ := unfinished_scanStart hshort hsize
  have hrest : unfinished newline (file.drop (scanStart size file)) = unfinished newline file := by
    conv_rhs => rw [← List.take_append_drop (scanStart size file) file,
      Lines.unfinished_append_of_unfinished hboundary]
  have hle : (unfinished newline (file.drop (scanStart size file))).length ≤ _ :=
    (Lines.unfinished_suffix _).length_le
  unfold scanExisting
  dsimp only
  rw [scanLoop_readlines]
  rw [hrest, List.length_drop] at hle ⊢
  unfold seam
  congr 1
  omega

theorem Fresh.begin {size : Nat} (h : Fresh s) (hsize : size ≤ s.file.length)
    (hshort : replay = true → ShortLines s.file) :
    Following digit word (begin digit word replay s size) := by
  unfold SessionTailer.begin
  split_ifs with hreplay
  · rw [scanExisting_eq hsize (hshort hreplay)]
    have hseam : seam s.file ≤ s.file.length := Nat.sub_le _ _
    have hnone : (s.file.take (seam s.file)).drop (seam s.file) = [] :=
      List.drop_eq_nil_of_le (List.length_take_le _ _)
    refine ⟨List.prefix_refl _, hsize, Nat.le_refl _, hseam, ?_, ?_⟩
    · unfold followed
      rw [hnone]
      exact h.buf
    · unfold followed replayed
      dsimp only
      rw [hnone, Lines.lines_nil, List.append_nil, h.emitted, List.nil_append, ← map_keepLast,
        List.map_map]
      rfl
  · have hfollowed : followed { s with phase := .following } = [] := by
      unfold followed
      rw [h.offset, List.take_zero, List.drop_nil]
    refine ⟨?_, ?_, ?_, ?_, ?_, ?_⟩
    · rw [h.scanned]
      exact List.nil_prefix
    · rw [h.scannedSize]
      exact Nat.zero_le _
    · rw [h.scanned]
      exact Nat.zero_le _
    · rw [h.offset]
      exact Nat.zero_le _
    · rw [hfollowed]
      exact h.buf
    · have hreplayed : replayed { s with phase := .following } = [] := by
        unfold replayed
        rw [h.scanned, List.drop_nil]
        rfl
      rw [hfollowed, hreplayed]
      exact h.emitted

/-! ## Every schedule -/

/-- What holds in every phase. -/
structure Inv (digit word : Char → Bool) (s : Tailer) : Prop where
  grown : s.scanned <+: s.file
  waiting : s.phase = .waiting → Fresh s
  following : s.phase = .following → ShortLines s.scanned → Following digit word s
  ended : s.phase = .ended → s.emitted = []

theorem Inv.step {a : Action} (h : Inv digit word s)
    (hstep : step digit word replay s a = some t) : Inv digit word t := by
  cases a with
  | grow bytes =>
    obtain rfl := Option.some.inj hstep
    refine ⟨h.grown.trans (List.prefix_append _ _), fun hphase => ?_,
      fun hphase hshort => (h.following hphase hshort).grow bytes, h.ended⟩
    obtain ⟨hemitted, hbuf, hoffset, hsize, hscanned⟩ := h.waiting hphase
    exact ⟨hemitted, hbuf, hoffset, hsize, hscanned⟩
  | scan size =>
    unfold SessionTailer.step at hstep
    dsimp only at hstep
    split_ifs at hstep with henabled
    obtain rfl := Option.some.inj hstep
    have hphase : (begin digit word replay s size).phase = .following := by
      unfold SessionTailer.begin
      split_ifs <;> rfl
    have hgrown : (begin digit word replay s size).scanned <+: s.file := by
      unfold SessionTailer.begin
      split_ifs
      · exact List.prefix_refl _
      · exact h.grown
    have hfile : (begin digit word replay s size).file = s.file := by
      unfold SessionTailer.begin
      split_ifs <;> rfl
    refine ⟨hfile ▸ hgrown, fun hwaiting => (nomatch hphase.symm.trans hwaiting),
      fun _ hshort => ?_, fun hended => (nomatch hphase.symm.trans hended)⟩
    refine (h.waiting henabled.1).begin henabled.2 fun hreplay => ?_
    rw [hreplay] at hshort
    exact hshort
  | poll =>
    unfold SessionTailer.step at hstep
    dsimp only at hstep
    split_ifs at hstep with henabled
    obtain rfl := Option.some.inj hstep
    have hphase := (poll_phase digit word s).trans henabled
    have hscanned := poll_scanned digit word s
    have hgrown : (SessionTailer.poll digit word s).scanned <+:
        (SessionTailer.poll digit word s).file := by
      rw [hscanned, poll_file]
      exact h.grown
    exact ⟨hgrown, fun hwaiting => (nomatch hphase.symm.trans hwaiting),
      fun _ hshort => (h.following henabled (hscanned ▸ hshort)).poll,
      fun hended => (nomatch hphase.symm.trans hended)⟩
  | openError =>
    unfold SessionTailer.step at hstep
    dsimp only at hstep
    split_ifs at hstep with hwaiting hfollowing
    · obtain rfl := Option.some.inj hstep
      exact ⟨h.grown, nofun, nofun, fun _ => (h.waiting hwaiting.1).emitted⟩
    · obtain rfl := Option.some.inj hstep
      refine ⟨h.grown, fun hphase => ?_, fun _ hshort => ?_, h.ended⟩
      · exact nomatch hfollowing.symm.trans hphase
      · obtain ⟨hgrown, hsize, hseam, hoffset, hbuf, hdelivered⟩ := h.following hfollowing hshort
        exact ⟨hgrown, hsize, hseam, hoffset, hbuf, hdelivered⟩

end SessionTailer
end App
end AmigaDrivers
