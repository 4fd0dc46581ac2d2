import AmigaDrivers.Lms.Resync

/-!
# The frame receiver does not depend on chunking

The receiver's loop is read as `Drains`, call by call.

* `tryExtractFrame_eq`, `findStx_eq`: the two halves of an iteration, in the words of
  `Resync`.
* `scan_succ`: one iteration of the loop of `Feed`.
* `drained_feed`, `drained_feedAll`: feeding chunks drains their concatenation, whatever
  the split.
* `feedAll_eq_feed_flatten`: so the reports and the bytes kept are those of one call.
-/

namespace AmigaDrivers
namespace Lms

namespace FrameReceiver

/-! ## What a report changes -/

section Report

variable (r : FrameReceiver) (error : FrameError) (first last : Nat)

@[simp] theorem reportFramingError_maxFrameSize :
    (r.reportFramingError error first last).maxFrameSize = r.maxFrameSize := rfl

@[simp] theorem reportFramingError_buffer :
    (r.reportFramingError error first last).buffer = r.buffer := rfl

@[simp] theorem reportFramingError_errorCoveredUntil :
    (r.reportFramingError error first last).errorCoveredUntil = r.errorCoveredUntil := rfl

@[simp] theorem reportFramingError_streamOffset :
    (r.reportFramingError error first last).streamOffset = r.streamOffset := rfl

@[simp] theorem reportFramingError_events :
    (r.reportFramingError error first last).events =
      r.events ++ [.error error (r.streamOffset + first) (r.streamOffset + last)
        (r.consecutiveFramingErrors + 1)] := rfl

@[simp] theorem reportGarbage_maxFrameSize :
    (r.reportGarbage first last).maxFrameSize = r.maxFrameSize := by
  unfold reportGarbage; dsimp only; split <;> rfl

@[simp] theorem reportGarbage_buffer : (r.reportGarbage first last).buffer = r.buffer := by
  unfold reportGarbage; dsimp only; split <;> rfl

@[simp] theorem reportGarbage_errorCoveredUntil :
    (r.reportGarbage first last).errorCoveredUntil = r.errorCoveredUntil := by
  unfold reportGarbage; dsimp only; split <;> rfl

@[simp] theorem reportGarbage_streamOffset :
    (r.reportGarbage first last).streamOffset = r.streamOffset := by
  unfold reportGarbage; dsimp only; split <;> rfl

/-- A garbage report counts the bytes no rejected candidate accounts for. -/
theorem ofEvents_reportGarbage (h : first ≤ last) :
    Report.ofEvents (r.reportGarbage first last).events =
      Report.ofEvents r.events ++
        Report.ofSkip (last - first) (r.errorCoveredUntil - first) := by
  unfold reportGarbage
  by_cases hgt : last > max first r.errorCoveredUntil
  · simp only [if_pos hgt, reportFramingError_events, Report.ofEvents_append,
      Report.ofEvents_singleton, Report.ofEvent, Report.ofSkip]
    congr 2
    omega
  · have hzero : last - first - (r.errorCoveredUntil - first) = 0 := by omega
    simp only [if_neg hgt, Report.ofSkip, hzero, Report.append_nil]

end Report

/-! ## One iteration -/

/-- The receiver after it has rejected the candidate at `pos`. -/
def rejectCandidate (r : FrameReceiver) (pos extent : Nat) : FrameReceiver :=
  { r with errorCoveredUntil := max r.errorCoveredUntil (pos + extent) }.reportFramingError
    .lengthOutOfRange pos (pos + extent)

/-- The receiver after it has delivered the frame of `size` bytes at `pos`. -/
def deliverFrame (r : FrameReceiver) (pos size : Nat) (valid : Bool) : FrameReceiver :=
  let r' :=
    if valid then
      { r with consecutiveFramingErrors := 0 }
    else
      r.reportFramingError .checksumMismatch pos (pos + size)
  { r' with
    errorCoveredUntil := 0
    events := r'.events ++ [.frame (r.streamOffset + pos) ⟨(r.buffer.drop pos).take size, valid⟩] }

@[simp] theorem rejectCandidate_maxFrameSize (r : FrameReceiver) (pos extent : Nat) :
    (r.rejectCandidate pos extent).maxFrameSize = r.maxFrameSize := rfl

@[simp] theorem rejectCandidate_buffer (r : FrameReceiver) (pos extent : Nat) :
    (r.rejectCandidate pos extent).buffer = r.buffer := rfl

@[simp] theorem rejectCandidate_streamOffset (r : FrameReceiver) (pos extent : Nat) :
    (r.rejectCandidate pos extent).streamOffset = r.streamOffset := rfl

@[simp] theorem deliverFrame_maxFrameSize (r : FrameReceiver) (pos size : Nat) (valid : Bool) :
    (r.deliverFrame pos size valid).maxFrameSize = r.maxFrameSize := by
  cases valid <;> rfl

@[simp] theorem deliverFrame_buffer (r : FrameReceiver) (pos size : Nat) (valid : Bool) :
    (r.deliverFrame pos size valid).buffer = r.buffer := by
  cases valid <;> rfl

@[simp] theorem deliverFrame_streamOffset (r : FrameReceiver) (pos size : Nat) (valid : Bool) :
    (r.deliverFrame pos size valid).streamOffset = r.streamOffset := by
  cases valid <;> rfl

@[simp] theorem deliverFrame_errorCoveredUntil (r : FrameReceiver) (pos size : Nat)
    (valid : Bool) : (r.deliverFrame pos size valid).errorCoveredUntil = 0 := rfl

/-- `TryExtractFrame` acts on the decision about the candidate at `pos`. -/
theorem tryExtractFrame_eq (r : FrameReceiver) (pos : Nat) :
    r.tryExtractFrame pos =
      match candidateToken r.maxFrameSize (r.buffer.drop pos) with
      | .wait _ => (r, 0)
      | .reject _ extent => (r.rejectCandidate pos extent, 1)
      | .frame _ size valid => (r.deliverFrame pos size valid, size) := by
  unfold tryExtractFrame candidateToken
  have hget : ∀ n, (r.buffer.drop pos).getD n 0 = r.buffer.getD (pos + n) 0 := by
    intro n
    rw [List.getD_eq_getElem?_getD, List.getD_eq_getElem?_getD, List.getElem?_drop]
  simp only [writePos, List.length_drop, List.drop_drop, hget]
  by_cases hshort : r.buffer.length - pos < headerSize
  · simp only [if_pos hshort]
  · simp only [if_neg hshort]
    generalize ByteUtil.loadBigU32 (r.buffer.drop (pos + stxSize)) = dataLen
    by_cases hrange : dataLen = 0 ∨ dataLen > r.maxFrameSize
    · simp only [if_pos hrange, rejectCandidate, Nat.add_assoc]
    · simp only [if_neg hrange]
      by_cases htotal : r.buffer.length - pos < headerSize + dataLen + 1
      · simp only [if_pos htotal]
      · have hassoc : pos + (headerSize + dataLen) = pos + headerSize + dataLen := by omega
        simp only [if_neg htotal, hassoc]
        generalize (computeChecksum ((r.buffer.drop (pos + headerSize)).take dataLen) ==
          r.buffer.getD (pos + headerSize + dataLen) 0) = valid
        cases valid <;> rfl

/-- The length guard of `FindStx` only saves the search. -/
theorem findStx_eq (r : FrameReceiver) (offset : Nat) :
    r.findStx offset =
      match stxIndex (r.buffer.drop offset) with
      | some i => offset + i
      | none => r.writePos := by
  unfold findStx
  split
  · next hshort =>
    have hlen : (r.buffer.drop offset).length < stxSize := by
      rw [List.length_drop]
      unfold writePos stxSize at hshort
      unfold stxSize
      omega
    rw [stxIndex_eq_none_of_short hlen]
  · rfl

/-- Nothing is reported when nothing is skipped. -/
theorem reportGarbage_self (r : FrameReceiver) (pos : Nat) : r.reportGarbage pos pos = r := by
  unfold reportGarbage
  rw [if_neg (by omega)]

/-- The garbage test of the loop only saves an empty report. -/
theorem reportGarbage_of_stx (r : FrameReceiver) (pos stxPos : Nat) (h : pos ≤ stxPos) :
    (if stxPos > pos then r.reportGarbage pos stxPos else r) = r.reportGarbage pos stxPos := by
  split
  · rfl
  · obtain rfl : stxPos = pos := by omega
    rw [reportGarbage_self]

/-- **One iteration of `Feed`'s loop**: skip to the token, act on it, go on behind it
unless it has to wait. -/
theorem scan_succ (fuel : Nat) (r : FrameReceiver) (pos : Nat) (hpos : pos ≤ r.writePos) :
    scan (fuel + 1) r pos =
      match nextToken r.maxFrameSize (r.buffer.drop pos) with
      | .wait skip => (r.reportGarbage pos (pos + skip), pos + skip)
      | .reject skip extent =>
          scan fuel ((r.reportGarbage pos (pos + skip)).rejectCandidate (pos + skip) extent)
            (pos + skip + 1)
      | .frame skip size valid =>
          scan fuel ((r.reportGarbage pos (pos + skip)).deliverFrame (pos + skip) size valid)
            (pos + skip + size) := by
  have hwrite : r.writePos = r.buffer.length := rfl
  rw [scan]
  by_cases hlt : pos < r.writePos
  · rw [if_pos hlt]
    simp only [findStx_eq]
    cases hi : stxIndex (r.buffer.drop pos) with
    | none =>
      -- no start: keep the last three bytes
      have htoken : nextToken r.maxFrameSize (r.buffer.drop pos) =
          .wait (r.writePos - pos - 3) := by
        simp only [nextToken, hi, List.length_drop]
      simp only [if_true, htoken]
      by_cases hthree : r.writePos > 3
      · have hkeep : max pos (r.writePos - 3) = pos + (r.writePos - pos - 3) := by omega
        rw [if_pos hthree, hkeep]
      · have hzero : r.writePos - pos - 3 = 0 := by omega
        rw [if_neg hthree, hzero, Nat.add_zero, reportGarbage_self]
    | some i =>
      have hle := add_stxSize_le_of_stxIndex hi
      rw [List.length_drop] at hle
      have hne : ¬ pos + i = r.writePos := by unfold stxSize at hle; omega
      have htoken : nextToken r.maxFrameSize (r.buffer.drop pos) =
          (candidateToken r.maxFrameSize (r.buffer.drop (pos + i))).shift i := by
        simp only [nextToken, hi, List.drop_drop]
      simp only [if_neg hne, reportGarbage_of_stx r pos (pos + i) (Nat.le_add_right _ _),
        tryExtractFrame_eq, reportGarbage_maxFrameSize, reportGarbage_buffer, htoken]
      cases hc : candidateToken r.maxFrameSize (r.buffer.drop (pos + i)) with
      | wait skip =>
        obtain rfl := candidateToken_wait hc
        simp only [Token.shift, Nat.zero_add]
      | reject skip extent =>
        obtain ⟨rfl, -⟩ := candidateToken_reject hc
        simp only [Token.shift, Nat.zero_add]
      | frame skip size valid =>
        obtain ⟨rfl, hsize, -⟩ := candidateToken_frame hc
        obtain ⟨size, rfl⟩ : ∃ n, size = n + 1 := ⟨size - 1, by omega⟩
        simp only [Token.shift, Nat.zero_add]
  · have hend : r.buffer.drop pos = [] := List.drop_eq_nil_of_le (by omega)
    rw [if_neg hlt, hend, nextToken_nil]
    simp only [Nat.add_zero, reportGarbage_self]

/-! ## Feeding drains -/

theorem ofEvents_rejectCandidate (r : FrameReceiver) (pos extent : Nat) :
    Report.ofEvents (r.rejectCandidate pos extent).events =
      Report.ofEvents r.events ++ { lengthErrors := 1 } := by
  simp only [rejectCandidate, reportFramingError_events, Report.ofEvents_append,
    Report.ofEvents_singleton, Report.ofEvent]

theorem ofEvents_deliverFrame (r : FrameReceiver) (pos size : Nat) (valid : Bool) :
    Report.ofEvents (r.deliverFrame pos size valid).events =
      Report.ofEvents r.events ++
        { frames := [⟨(r.buffer.drop pos).take size, valid⟩]
          checksumErrors := if valid then 0 else 1 } := by
  cases valid
  · simp only [deliverFrame, Bool.false_eq_true, if_false, reportFramingError_events,
      Report.ofEvents_append, Report.ofEvents_singleton, Report.append_assoc]
    rfl
  · simp only [deliverFrame, if_true, Report.ofEvents_append, Report.ofEvents_singleton]
    rfl

/-- What scanning from `pos` leaves, and what it has reported on the way. -/
structure Scanned (r : FrameReceiver) (pos : Nat) (result : FrameReceiver × Nat) : Prop where
  maxFrameSize : result.1.maxFrameSize = r.maxFrameSize
  buffer : result.1.buffer = r.buffer
  drains : ∃ report,
    Report.ofEvents result.1.events = Report.ofEvents r.events ++ report ∧
      Drains r.maxFrameSize (r.buffer.drop pos) (r.errorCoveredUntil - pos) report
        (r.buffer.drop result.2) (result.1.errorCoveredUntil - result.2)

/-- A look that has to wait ends the scan, with the skipped bytes reported. -/
theorem scanned_of_wait {r : FrameReceiver} {pos skip : Nat}
    (h : nextToken r.maxFrameSize (r.buffer.drop pos) = .wait skip) :
    Scanned r pos (r.reportGarbage pos (pos + skip), pos + skip) where
  maxFrameSize := reportGarbage_maxFrameSize r _ _
  buffer := reportGarbage_buffer r _ _
  drains := by
    refine ⟨_, ofEvents_reportGarbage r pos (pos + skip) (Nat.le_add_right _ _), ?_⟩
    rw [Nat.add_sub_cancel_left, reportGarbage_errorCoveredUntil, ← List.drop_drop,
      Nat.sub_add_eq]
    exact .wait h

/-- A rejected candidate is one report, and the scan goes on one byte behind it. -/
theorem Scanned.of_reject {r : FrameReceiver} {pos skip extent : Nat}
    {result : FrameReceiver × Nat}
    (h : nextToken r.maxFrameSize (r.buffer.drop pos) = .reject skip extent)
    (hextent : headerSize ≤ extent)
    (tail : Scanned ((r.reportGarbage pos (pos + skip)).rejectCandidate (pos + skip) extent)
      (pos + skip + 1) result) :
    Scanned r pos result := by
  obtain ⟨hmax, hbuffer, report, hevents, hdrains⟩ := tail
  simp only [rejectCandidate_maxFrameSize, rejectCandidate_buffer, reportGarbage_maxFrameSize,
    reportGarbage_buffer, ofEvents_rejectCandidate,
    ofEvents_reportGarbage r pos (pos + skip) (Nat.le_add_right _ _),
    Report.append_assoc, Nat.add_sub_cancel_left] at hmax hbuffer hevents hdrains
  refine ⟨hmax, hbuffer, _, hevents, .reject h ?_⟩
  have hcovered : max (r.errorCoveredUntil - pos - skip) extent - 1 =
      ((r.reportGarbage pos (pos + skip)).rejectCandidate (pos + skip) extent).errorCoveredUntil -
        (pos + skip + 1) := by
    simp only [rejectCandidate, reportFramingError_errorCoveredUntil,
      reportGarbage_errorCoveredUntil]
    unfold headerSize stxSize at hextent
    omega
  rw [List.drop_drop, ← Nat.add_assoc, hcovered]
  exact hdrains

/-- A frame is one delivery, and the scan goes on behind it. -/
theorem Scanned.of_frame {r : FrameReceiver} {pos skip size : Nat} {valid : Bool}
    {result : FrameReceiver × Nat}
    (h : nextToken r.maxFrameSize (r.buffer.drop pos) = .frame skip size valid)
    (tail : Scanned ((r.reportGarbage pos (pos + skip)).deliverFrame (pos + skip) size valid)
      (pos + skip + size) result) :
    Scanned r pos result := by
  obtain ⟨hmax, hbuffer, report, hevents, hdrains⟩ := tail
  simp only [deliverFrame_maxFrameSize, deliverFrame_buffer, reportGarbage_maxFrameSize,
    reportGarbage_buffer, deliverFrame_errorCoveredUntil, ofEvents_deliverFrame,
    ofEvents_reportGarbage r pos (pos + skip) (Nat.le_add_right _ _),
    Report.append_assoc, Nat.add_sub_cancel_left, Nat.zero_sub] at hmax hbuffer hevents hdrains
  refine ⟨hmax, hbuffer, _, hevents, ?_⟩
  rw [← List.drop_drop]
  refine .frame h ?_
  rw [List.drop_drop, ← Nat.add_assoc]
  exact hdrains

/-- One unit of fuel per buffered byte is enough for the loop of `Feed`. -/
theorem scanned_scan (fuel : Nat) :
    ∀ (r : FrameReceiver) (pos : Nat), pos ≤ r.writePos → r.writePos - pos < fuel →
      Scanned r pos (scan fuel r pos) := by
  induction fuel with
  | zero => intro r pos _ hfuel; omega
  | succ fuel ih =>
    intro r pos hpos hfuel
    have hwrite : r.writePos = r.buffer.length := rfl
    rw [scan_succ fuel r pos hpos]
    cases htoken : nextToken r.maxFrameSize (r.buffer.drop pos) with
    | wait skip => exact scanned_of_wait htoken
    | reject skip extent =>
      obtain ⟨hfit, hextent⟩ := bounds_of_reject htoken
      rw [List.length_drop] at hfit
      refine .of_reject htoken hextent (ih _ _ ?_ ?_)
      · rw [writePos, rejectCandidate_buffer, reportGarbage_buffer]
        omega
      · rw [writePos, rejectCandidate_buffer, reportGarbage_buffer]
        omega
    | frame skip size valid =>
      obtain ⟨hfit, hsize⟩ := bounds_of_frame htoken
      rw [List.length_drop] at hfit
      refine .of_frame htoken (ih _ _ ?_ ?_)
      · rw [writePos, deliverFrame_buffer, reportGarbage_buffer]
        omega
      · rw [writePos, deliverFrame_buffer, reportGarbage_buffer]
        omega

/-- Feeding chunks one after another. -/
def feedAll (r : FrameReceiver) (chunks : List (List UInt8)) : FrameReceiver :=
  chunks.foldl feed r

/-- What the receiver says about one run: feed every chunk, then finish. -/
def receive (maxFrameSize : Nat) (chunks : List (List UInt8)) : FrameReceiver :=
  ((new maxFrameSize).feedAll chunks).finish

/-- The receiver has drained the stream fed so far. -/
structure Drained (maxFrameSize : Nat) (stream : List UInt8) (r : FrameReceiver) : Prop where
  maxFrameSize_eq : r.maxFrameSize = maxFrameSize
  drains : Drains maxFrameSize stream 0 (Report.ofEvents r.events) r.buffer r.errorCoveredUntil

theorem drained_new (maxFrameSize : Nat) : Drained maxFrameSize [] (new maxFrameSize) where
  maxFrameSize_eq := rfl
  drains := .wait (nextToken_nil maxFrameSize)

/-- Compaction renumbers the buffer and drops nothing else. -/
theorem compact_eq (r : FrameReceiver) (offset : Nat) :
    r.compact offset =
      { r with
        errorCoveredUntil := r.errorCoveredUntil - offset
        buffer := r.buffer.drop offset
        streamOffset := r.streamOffset + min offset r.writePos } := by
  unfold compact
  split
  · next h => subst h; simp
  · congr 1
    split <;> omega

/-- **One call of `Feed`** drains its chunk behind what was kept. -/
theorem drained_feed {maxFrameSize : Nat} {stream : List UInt8} {r : FrameReceiver}
    (h : Drained maxFrameSize stream r) (data : List UInt8) :
    Drained maxFrameSize (stream ++ data) (r.feed data) := by
  unfold feed
  by_cases hdata : data = []
  · rw [if_pos hdata, hdata, List.append_nil]
    exact h
  · rw [if_neg hdata]
    obtain ⟨rfl, hdrains⟩ := h
    -- the buffer with the new bytes behind the kept ones
    generalize hr' : ({ r with buffer := r.buffer ++ data } : FrameReceiver) = r'
    have hbuffer' : r'.buffer = r.buffer ++ data := by rw [← hr']
    have hmax' : r'.maxFrameSize = r.maxFrameSize := by rw [← hr']
    have hcovered' : r'.errorCoveredUntil = r.errorCoveredUntil := by rw [← hr']
    have hevents' : r'.events = r.events := by rw [← hr']
    obtain ⟨hmax, hbuffer, report, hevents, hrest⟩ :=
      scanned_scan (r'.writePos + 1) r' 0 (Nat.zero_le _) (by omega)
    simp only [List.drop_zero, Nat.sub_zero, hmax', hbuffer', hcovered', hevents'] at hrest hevents
    simp only [compact_eq]
    refine ⟨hmax.trans hmax', ?_⟩
    simp only [hevents, hbuffer, hbuffer']
    exact hdrains.append hrest

/-- Whatever the split, feeding drains the concatenation of the chunks. -/
theorem drained_feedAll {maxFrameSize : Nat} {stream : List UInt8} {r : FrameReceiver}
    (h : Drained maxFrameSize stream r) (chunks : List (List UInt8)) :
    Drained maxFrameSize (stream ++ chunks.flatten) (r.feedAll chunks) := by
  induction chunks generalizing stream r with
  | nil => simpa [feedAll] using h
  | cons chunk chunks ih =>
    rw [List.flatten_cons, ← List.append_assoc]
    exact ih (drained_feed h chunk)

/-- **Independence of chunking**, before the end of the stream: the reports, the bytes
kept and the bytes accounted for are those of a single call. -/
theorem feedAll_eq_feed_flatten (maxFrameSize : Nat) (chunks : List (List UInt8)) :
    Report.ofEvents ((new maxFrameSize).feedAll chunks).events =
        Report.ofEvents ((new maxFrameSize).feedAll [chunks.flatten]).events ∧
      ((new maxFrameSize).feedAll chunks).buffer =
        ((new maxFrameSize).feedAll [chunks.flatten]).buffer ∧
      ((new maxFrameSize).feedAll chunks).errorCoveredUntil =
        ((new maxFrameSize).feedAll [chunks.flatten]).errorCoveredUntil := by
  have hmany := drained_feedAll (drained_new maxFrameSize) chunks
  have hone := drained_feedAll (drained_new maxFrameSize) [chunks.flatten]
  rw [List.nil_append] at hmany hone
  rw [List.flatten_singleton] at hone
  exact hmany.drains.deterministic hone.drains

end FrameReceiver
end Lms
end AmigaDrivers
