import AmigaDrivers.Lms.FrameReceiverChunking
import Mathlib.Data.List.Pairwise

/-!
# What the receiver's callbacks say about the stream

Every byte that enters a `FrameReceiver` leaves a trace: it is part of a delivered
frame, or a callback accounts for it, or it is still in the buffer.

* `Accounted`: a callback accounts for a position of the stream.
* `Accounts`: the invariant of the scan loop.  It ties the buffer, the scan position
  and the watermark `error_covered_until` to the stream consumed so far.
* `accounts_reportGarbage`, `accounts_rejectCandidate`, `accounts_deliverFrame`: the
  three things an iteration does keep it; `accounts_scan`, `accounts_feed` and
  `accounts_feedAll` carry it through the loop, one call and a run.
* `receive_chunking`: the contract of the receiver.
-/

namespace AmigaDrivers
namespace Lms

open FrameReceiver

/-! ## Accounting for a position -/

/-- The frame delivered by `e` holds position `k` of the stream. -/
def FrameEvent.Delivers (e : FrameEvent) (k : Nat) : Prop :=
  match e with
  | .frame first raw => first ≤ k ∧ k < first + raw.data.length
  | .error _ _ _ _ => False

/-- The report `e` of kind `kind` accounts for position `k` of the stream. -/
def FrameEvent.Reports (kind : FrameError) (e : FrameEvent) (k : Nat) : Prop :=
  match e with
  | .frame _ _ => False
  | .error found first last _ => found = kind ∧ first ≤ k ∧ k < last

/-- The report `e` of a rejected candidate whose eight header bytes hold position `k`. -/
def FrameEvent.RejectsHeader (e : FrameEvent) (k : Nat) : Prop :=
  match e with
  | .error .lengthOutOfRange first _ _ => first ≤ k ∧ k < first + headerSize
  | _ => False

instance (e : FrameEvent) (k : Nat) : Decidable (e.Delivers k) :=
  match e with
  | .frame first raw => inferInstanceAs (Decidable (first ≤ k ∧ k < first + raw.data.length))
  | .error _ _ _ _ => .isFalse id

instance (kind : FrameError) (e : FrameEvent) (k : Nat) : Decidable (e.Reports kind k) :=
  match e with
  | .frame _ _ => .isFalse id
  | .error found first last _ => inferInstanceAs (Decidable (found = kind ∧ first ≤ k ∧ k < last))

instance (e : FrameEvent) (k : Nat) : Decidable (e.RejectsHeader k) :=
  match e with
  | .error .lengthOutOfRange first _ _ =>
      inferInstanceAs (Decidable (first ≤ k ∧ k < first + headerSize))
  | .error .checksumMismatch _ _ _ => .isFalse id
  | .error .garbage _ _ _ => .isFalse id
  | .error .incomplete _ _ _ => .isFalse id
  | .frame _ _ => .isFalse id

/-- `[first, last)` is a rejected candidate of the stream: its header, with a length out
of range, and behind a zero length the checksum byte of the empty telegram. -/
structure RejectedAt (maxFrameSize : Nat) (stream : List UInt8) (first last : Nat) : Prop where
  fits : first + headerSize ≤ stream.length
  stx : startsWithStx (stream.drop first) = true
  range : ByteUtil.loadBigU32 (stream.drop (first + stxSize)) = 0 ∨
    maxFrameSize < ByteUtil.loadBigU32 (stream.drop (first + stxSize))
  extent : last = first + headerSize +
    (if ByteUtil.loadBigU32 (stream.drop (first + stxSize)) = 0 then 1 else 0)

/-- A delivered frame, a garbage span, a rejected candidate or the pending tail
accounts for position `k`. -/
def Accounted (events : List FrameEvent) (k : Nat) : Prop :=
  ∃ e ∈ events, e.Delivers k ∨ e.Reports .garbage k ∨ e.Reports .lengthOutOfRange k ∨
    e.Reports .incomplete k

/-- The frames delivered, with the stream position of their first byte. -/
def deliveredFrames (events : List FrameEvent) : List (Nat × RawFrame) :=
  events.filterMap fun
    | .frame first frame => some (first, frame)
    | .error _ _ _ _ => none

theorem RejectedAt.append {maxFrameSize : Nat} {stream : List UInt8} {first last : Nat}
    (h : RejectedAt maxFrameSize stream first last) (data : List UInt8) :
    RejectedAt maxFrameSize (stream ++ data) first last := by
  obtain ⟨hfits, hstx, hrange, hextent⟩ := h
  have hlen : ByteUtil.loadBigU32 ((stream ++ data).drop (first + stxSize)) =
      ByteUtil.loadBigU32 (stream.drop (first + stxSize)) := by
    unfold headerSize stxSize at *
    rw [List.drop_append_of_le_length (by omega),
      ByteUtil.loadBigU32_append _ _ (by rw [List.length_drop]; omega)]
  refine
    { fits := by rw [List.length_append]; omega
      stx := ?_
      range := by rwa [hlen]
      extent := by rwa [hlen] }
  rw [List.drop_append_of_le_length (by omega)]
  exact startsWithStx_append_of_true data hstx

theorem Accounted.append_right {events : List FrameEvent} {k : Nat} (h : Accounted events k)
    (more : List FrameEvent) : Accounted (events ++ more) k := by
  obtain ⟨e, he, hk⟩ := h
  exact ⟨e, List.mem_append_left _ he, hk⟩

@[simp] theorem deliveredFrames_append (events more : List FrameEvent) :
    deliveredFrames (events ++ more) = deliveredFrames events ++ deliveredFrames more :=
  List.filterMap_append

@[simp] theorem deliveredFrames_error (error : FrameError) (first last consecutive : Nat) :
    deliveredFrames [.error error first last consecutive] = [] := rfl

@[simp] theorem deliveredFrames_frame (first : Nat) (frame : RawFrame) :
    deliveredFrames [.frame first frame] = [(first, frame)] := rfl

/-- The frames of a report are the frames delivered. -/
theorem frames_ofEvents (events : List FrameEvent) :
    (Report.ofEvents events).frames = (deliveredFrames events).map Prod.snd := by
  induction events with
  | nil => rfl
  | cons e events ih =>
    have hcons : Report.ofEvents (e :: events) = Report.ofEvent e ++ Report.ofEvents events := rfl
    rw [hcons, Report.append_def, Report.append, ← List.singleton_append, deliveredFrames_append,
      List.map_append, ← ih]
    cases e with
    | frame first frame => rfl
    | error error first last consecutive => cases error <;> rfl

/-! ## The invariant of the scan -/

/-- What the callbacks made so far say about the stream, with the scan at `pos` of the
buffer. -/
structure Accounts (stream : List UInt8) (r : FrameReceiver) (pos : Nat) : Prop where
  /-- the buffer holds what has not been compacted away -/
  buffer : r.buffer = stream.drop r.streamOffset
  offset_le : r.streamOffset ≤ stream.length
  pos_le : pos ≤ r.writePos
  /-- every position the scan has passed is accounted for -/
  accounted : ∀ k < r.streamOffset + pos, Accounted r.events k
  /-- what the watermark covers, a rejected candidate accounts for -/
  watermark : ∀ k, r.streamOffset + pos ≤ k → k < r.streamOffset + r.errorCoveredUntil →
    ∃ e ∈ r.events, e.Reports .lengthOutOfRange k
  /-- a rejected candidate stands in the stream, and is rejected for its length -/
  rejected : ∀ e ∈ r.events, ∀ first last consecutive,
    e = .error .lengthOutOfRange first last consecutive →
      RejectedAt r.maxFrameSize stream first last
  /-- a frame is a substring of the stream behind the scan -/
  substring : ∀ p ∈ deliveredFrames r.events,
    (stream.drop p.1).take p.2.data.length = p.2.data ∧
      p.1 + p.2.data.length ≤ r.streamOffset + pos
  /-- frames are disjoint and in stream order -/
  ordered : (deliveredFrames r.events).Pairwise fun p q => p.1 + p.2.data.length ≤ q.1
  /-- without an error callback, the frames are all there was -/
  clean : (∀ e ∈ r.events, ∃ first frame, e = .frame first frame) →
    ((deliveredFrames r.events).map fun p => p.2.data).flatten =
      stream.take (r.streamOffset + pos)

namespace FrameReceiver

theorem accounts_new (maxFrameSize : Nat) : Accounts [] (new maxFrameSize) 0 where
  buffer := rfl
  offset_le := Nat.le_refl 0
  pos_le := Nat.le_refl 0
  accounted k hk := absurd hk (by simp [new])
  watermark k _ hk := absurd hk (by simp [new])
  rejected e he := absurd he (by simp [new])
  substring p hp := absurd hp (by simp [new, deliveredFrames])
  ordered := List.Pairwise.nil
  clean _ := rfl

/-- An error callback changes neither the frames nor, by itself, what is covered. -/
theorem reportGarbage_events_cases (r : FrameReceiver) (first last : Nat) :
    (r.reportGarbage first last).events = r.events ∧
        last ≤ max first r.errorCoveredUntil ∨
      max first r.errorCoveredUntil < last ∧
        (r.reportGarbage first last).events = r.events ++
          [.error .garbage (r.streamOffset + max first r.errorCoveredUntil)
            (r.streamOffset + last) (r.consecutiveFramingErrors + 1)] := by
  unfold reportGarbage
  by_cases hgt : last > max first r.errorCoveredUntil
  · refine .inr ⟨hgt, ?_⟩
    simp only [if_pos hgt, reportFramingError_events]
  · refine .inl ⟨?_, by omega⟩
    simp only [if_neg hgt]

/-- Skipped bytes are accounted for: by the garbage report, or by the rejected
candidate that covers them. -/
theorem accounts_reportGarbage {stream : List UInt8} {r : FrameReceiver} {pos last : Nat}
    (h : Accounts stream r pos) (hle : pos ≤ last) (hlast : last ≤ r.writePos) :
    Accounts stream (r.reportGarbage pos last) last := by
  have hframes : deliveredFrames (r.reportGarbage pos last).events = deliveredFrames r.events := by
    rcases reportGarbage_events_cases r pos last with ⟨hevents, -⟩ | ⟨-, hevents⟩
    · rw [hevents]
    · rw [hevents, deliveredFrames_append, deliveredFrames_error, List.append_nil]
  have hmono : ∀ e ∈ r.events, e ∈ (r.reportGarbage pos last).events := by
    intro e he
    rcases reportGarbage_events_cases r pos last with ⟨hevents, -⟩ | ⟨-, hevents⟩
    · rwa [hevents]
    · rw [hevents]
      exact List.mem_append_left _ he
  refine
    { buffer := by simpa using h.buffer
      offset_le := by simpa using h.offset_le
      pos_le := by rw [writePos, reportGarbage_buffer]; exact hlast
      accounted := ?_
      watermark := ?_
      rejected := ?_
      substring := ?_
      ordered := by rw [hframes]; exact h.ordered
      clean := ?_ }
  · intro k hk
    rw [reportGarbage_streamOffset] at hk
    by_cases hpassed : k < r.streamOffset + pos
    · obtain ⟨e, he, hcover⟩ := h.accounted k hpassed
      exact ⟨e, hmono e he, hcover⟩
    by_cases hcovered : k < r.streamOffset + r.errorCoveredUntil
    · obtain ⟨e, he, hreject⟩ := h.watermark k (by omega) hcovered
      exact ⟨e, hmono e he, .inr (.inr (.inl hreject))⟩
    · rcases reportGarbage_events_cases r pos last with ⟨-, hshort⟩ | ⟨-, hevents⟩
      · omega
      · rw [hevents]
        exact ⟨_, List.mem_append_right _ (List.mem_singleton.mpr rfl),
          .inr (.inl ⟨rfl, by omega, hk⟩)⟩
  · intro k hk hcovered
    rw [reportGarbage_streamOffset] at hk
    rw [reportGarbage_streamOffset, reportGarbage_errorCoveredUntil] at hcovered
    obtain ⟨e, he, hreject⟩ := h.watermark k (by omega) hcovered
    exact ⟨e, hmono e he, hreject⟩
  · intro e he first' last' consecutive hkind
    rw [reportGarbage_maxFrameSize]
    rcases reportGarbage_events_cases r pos last with ⟨hevents, -⟩ | ⟨-, hevents⟩
    · exact h.rejected e (hevents ▸ he) first' last' consecutive hkind
    · rw [hevents, List.mem_append, List.mem_singleton] at he
      rcases he with hold | rfl
      · exact h.rejected e hold first' last' consecutive hkind
      · exact absurd hkind (by simp)
  · intro p hp
    rw [hframes] at hp
    obtain ⟨hsub, hend⟩ := h.substring p hp
    rw [reportGarbage_streamOffset]
    exact ⟨hsub, by omega⟩
  · intro hclean
    have hclean' : ∀ e ∈ r.events, ∃ first frame, e = .frame first frame := fun e he =>
      hclean e (hmono e he)
    have hskip : last = pos := by
      rcases reportGarbage_events_cases r pos last with ⟨-, hshort⟩ | ⟨-, hevents⟩
      · -- covered bytes would need a rejected candidate
        by_contra hne
        obtain ⟨e, he, hreject⟩ := h.watermark (r.streamOffset + pos) (Nat.le_refl _) (by omega)
        obtain ⟨first, frame, rfl⟩ := hclean' e he
        exact hreject
      · obtain ⟨first, frame, hbad⟩ := hclean _ (by
          rw [hevents]; exact List.mem_append_right _ (List.mem_singleton.mpr rfl))
        exact absurd hbad (by simp)
    rw [hframes, reportGarbage_streamOffset, hskip]
    exact h.clean hclean'

/-- A rejected candidate accounts for the byte the scan passes, and for the bytes up
to the new watermark. -/
theorem accounts_rejectCandidate {stream : List UInt8} {r : FrameReceiver} {pos extent : Nat}
    (h : Accounts stream r pos)
    (hreject : RejectedAt r.maxFrameSize stream (r.streamOffset + pos)
      (r.streamOffset + (pos + extent))) :
    Accounts stream (r.rejectCandidate pos extent) (pos + 1) := by
  have hextent : headerSize ≤ extent := by
    have hlast := hreject.extent
    omega
  have hheader : headerSize = 8 := rfl
  have hwrite : r.writePos = stream.length - r.streamOffset := by
    rw [writePos, h.buffer, List.length_drop]
  have hevents : (r.rejectCandidate pos extent).events = r.events ++
      [.error .lengthOutOfRange (r.streamOffset + pos) (r.streamOffset + (pos + extent))
        (r.consecutiveFramingErrors + 1)] := rfl
  have hnew : ∀ k, r.streamOffset + pos ≤ k → k < r.streamOffset + (pos + extent) →
      ∃ e ∈ (r.rejectCandidate pos extent).events, e.Reports .lengthOutOfRange k := by
    intro k hlo hhi
    rw [hevents]
    exact ⟨_, List.mem_append_right _ (List.mem_singleton.mpr rfl), rfl, hlo, hhi⟩
  refine
    { buffer := h.buffer
      offset_le := h.offset_le
      pos_le := ?_
      accounted := ?_
      watermark := ?_
      rejected := ?_
      substring := ?_
      ordered := ?_
      clean := ?_ }
  · have hfits := hreject.fits
    rw [writePos, rejectCandidate_buffer]
    rw [writePos] at hwrite
    omega
  · intro k hk
    rw [rejectCandidate_streamOffset] at hk
    by_cases hpassed : k < r.streamOffset + pos
    · rw [hevents]
      exact (h.accounted k hpassed).append_right _
    · obtain ⟨e, he, hcover⟩ := hnew k (by omega) (by omega)
      exact ⟨e, he, .inr (.inr (.inl hcover))⟩
  · intro k hk hcovered
    have hmax : (r.rejectCandidate pos extent).errorCoveredUntil =
        max r.errorCoveredUntil (pos + extent) := rfl
    rw [rejectCandidate_streamOffset] at hk
    rw [rejectCandidate_streamOffset, hmax] at hcovered
    by_cases hold : k < r.streamOffset + r.errorCoveredUntil
    · obtain ⟨e, he, hcover⟩ := h.watermark k (by omega) hold
      exact ⟨e, by rw [hevents]; exact List.mem_append_left _ he, hcover⟩
    · exact hnew k (by omega) (by omega)
  · intro e he first last consecutive hkind
    rw [hevents, List.mem_append, List.mem_singleton] at he
    rcases he with hold | rfl
    · exact h.rejected e hold first last consecutive hkind
    · obtain ⟨-, rfl, rfl, -⟩ := FrameEvent.error.inj hkind
      exact hreject
  · intro p hp
    rw [hevents, deliveredFrames_append, deliveredFrames_error, List.append_nil] at hp
    obtain ⟨hsub, hend⟩ := h.substring p hp
    rw [rejectCandidate_streamOffset]
    exact ⟨hsub, by omega⟩
  · rw [hevents, deliveredFrames_append, deliveredFrames_error, List.append_nil]
    exact h.ordered
  · intro hclean
    obtain ⟨first, frame, hbad⟩ := hclean _ (by
      rw [hevents]; exact List.mem_append_right _ (List.mem_singleton.mpr rfl))
    exact absurd hbad (by simp)

/-- The callbacks of a delivery. -/
theorem deliverFrame_events_cases (r : FrameReceiver) (pos size : Nat) (valid : Bool) :
    ∃ reports : List FrameEvent,
      (∀ e ∈ reports, ∃ c, e = .error .checksumMismatch (r.streamOffset + pos)
        (r.streamOffset + (pos + size)) c) ∧
      (valid = true ↔ reports = []) ∧
      (r.deliverFrame pos size valid).events = r.events ++ reports ++
        [.frame (r.streamOffset + pos) ⟨(r.buffer.drop pos).take size, valid⟩] := by
  cases valid
  · refine ⟨[_], ?_, by simp, rfl⟩
    intro e he
    rw [List.mem_singleton] at he
    exact ⟨_, he⟩
  · exact ⟨[], by simp, by simp, by simp [deliverFrame]⟩

/-- A delivered frame accounts for its own bytes. -/
theorem accounts_deliverFrame {stream : List UInt8} {r : FrameReceiver} {pos size : Nat}
    {valid : Bool} (h : Accounts stream r pos) (hfit : pos + size ≤ r.writePos) :
    Accounts stream (r.deliverFrame pos size valid) (pos + size) := by
  obtain ⟨reports, hreports, hvalid, hevents⟩ := deliverFrame_events_cases r pos size valid
  have hnone : deliveredFrames reports = [] := by
    rw [deliveredFrames, List.filterMap_eq_nil_iff]
    intro e he
    obtain ⟨c, rfl⟩ := hreports e he
    rfl
  have hframes : deliveredFrames (r.deliverFrame pos size valid).events =
      deliveredFrames r.events ++
        [(r.streamOffset + pos, ⟨(r.buffer.drop pos).take size, valid⟩)] := by
    rw [hevents, deliveredFrames_append, deliveredFrames_append, hnone, List.append_nil,
      deliveredFrames_frame]
  have hdata : (r.buffer.drop pos).take size =
      (stream.drop (r.streamOffset + pos)).take size := by
    rw [h.buffer, List.drop_drop]
  have hlen : ((r.buffer.drop pos).take size).length = size := by
    have hwrite : r.writePos = r.buffer.length := rfl
    rw [List.length_take, List.length_drop]
    omega
  refine
    { buffer := by simpa using h.buffer
      offset_le := by simpa using h.offset_le
      pos_le := by rw [writePos, deliverFrame_buffer]; exact hfit
      accounted := ?_
      watermark := ?_
      rejected := ?_
      substring := ?_
      ordered := ?_
      clean := ?_ }
  · intro k hk
    rw [deliverFrame_streamOffset] at hk
    by_cases hpassed : k < r.streamOffset + pos
    · rw [hevents, List.append_assoc]
      exact (h.accounted k hpassed).append_right _
    · rw [hevents]
      refine ⟨_, List.mem_append_right _ (List.mem_singleton.mpr rfl), .inl ⟨by omega, ?_⟩⟩
      rw [hlen]
      omega
  · intro k hk hcovered
    rw [deliverFrame_errorCoveredUntil] at hcovered
    rw [deliverFrame_streamOffset] at hk hcovered
    omega
  · intro e he first last consecutive hkind
    rw [deliverFrame_maxFrameSize]
    rw [hevents, List.mem_append, List.mem_append, List.mem_singleton] at he
    rcases he with (hold | hnew) | rfl
    · exact h.rejected e hold first last consecutive hkind
    · obtain ⟨c, rfl⟩ := hreports e hnew
      exact absurd hkind (by simp)
    · exact absurd hkind (by simp)
  · intro p hp
    rw [deliverFrame_streamOffset]
    rw [hframes, List.mem_append, List.mem_singleton] at hp
    rcases hp with hold | rfl
    · obtain ⟨hsub, hend⟩ := h.substring p hold
      exact ⟨hsub, by omega⟩
    · simp only [hlen]
      exact ⟨hdata.symm, by omega⟩
  · rw [hframes, List.pairwise_append]
    refine ⟨h.ordered, List.pairwise_singleton _ _, ?_⟩
    intro p hp q hq
    rw [List.mem_singleton] at hq
    subst hq
    exact (h.substring p hp).2
  · intro hclean
    have hold : ∀ e ∈ r.events, ∃ first frame, e = .frame first frame := fun e he =>
      hclean e (by
        rw [hevents, List.append_assoc]
        exact List.mem_append_left _ he)
    have hsplit : stream.take (r.streamOffset + (pos + size)) =
        stream.take (r.streamOffset + pos) ++ (stream.drop (r.streamOffset + pos)).take size := by
      rw [← Nat.add_assoc]
      exact List.take_add
    rw [hframes, List.map_append, List.flatten_append, h.clean hold, deliverFrame_streamOffset,
      hsplit]
    simp only [List.map_cons, List.map_nil, List.flatten_singleton, hdata]

/-! ## The loop, one call, a run -/

/-- The candidate a token rejects stands in the stream behind the scan. -/
theorem rejectedAt_of_accounts {stream : List UInt8} {r : FrameReceiver} {pos skip extent : Nat}
    (h : Accounts stream r pos)
    (htoken : nextToken r.maxFrameSize (r.buffer.drop pos) = .reject skip extent) :
    RejectedAt r.maxFrameSize stream (r.streamOffset + (pos + skip))
      (r.streamOffset + (pos + skip + extent)) := by
  obtain ⟨hfits, hstx, hrange, hextent⟩ := header_of_reject htoken
  have hpos := h.pos_le
  have hoffset := h.offset_le
  rw [writePos, h.buffer, List.length_drop] at hpos
  rw [h.buffer] at hfits hstx hrange hextent
  simp only [List.drop_drop, List.length_drop] at hfits hstx hrange hextent
  have hassoc : r.streamOffset + pos + (skip + stxSize) =
      r.streamOffset + (pos + skip) + stxSize := by omega
  rw [Nat.add_assoc] at hstx
  rw [hassoc] at hrange hextent
  have hheader : headerSize = 8 := rfl
  exact
    { fits := by omega
      stx := hstx
      range := hrange
      extent := by rw [hextent]; omega }

/-- The scan keeps the account, whatever the fuel. -/
theorem accounts_scan {stream : List UInt8} (fuel : Nat) :
    ∀ (r : FrameReceiver) (pos : Nat), Accounts stream r pos →
      Accounts stream (scan fuel r pos).1 (scan fuel r pos).2 := by
  induction fuel with
  | zero => intro r pos h; exact h
  | succ fuel ih =>
    intro r pos h
    have hwrite : r.writePos = r.buffer.length := rfl
    have hpos := h.pos_le
    rw [scan_succ fuel r pos hpos]
    cases htoken : nextToken r.maxFrameSize (r.buffer.drop pos) with
    | wait skip =>
      have hfit := bounds_of_wait htoken
      rw [List.length_drop] at hfit
      exact accounts_reportGarbage h (Nat.le_add_right _ _) (by omega)
    | reject skip extent =>
      obtain ⟨hfit, -⟩ := bounds_of_reject htoken
      rw [List.length_drop] at hfit
      refine ih _ _ (accounts_rejectCandidate
        (accounts_reportGarbage h (Nat.le_add_right _ _) (by omega)) ?_)
      rw [reportGarbage_maxFrameSize, reportGarbage_streamOffset]
      exact rejectedAt_of_accounts h htoken
    | frame skip size valid =>
      obtain ⟨hfit, -⟩ := bounds_of_frame htoken
      rw [List.length_drop] at hfit
      refine ih _ _ (accounts_deliverFrame
        (accounts_reportGarbage h (Nat.le_add_right _ _) (by omega)) ?_)
      rw [writePos, reportGarbage_buffer]
      omega

/-- New bytes behind the stream change nothing that was said about it. -/
theorem accounts_append {stream : List UInt8} {r : FrameReceiver} {pos : Nat}
    (h : Accounts stream r pos) (data : List UInt8) :
    Accounts (stream ++ data) { r with buffer := r.buffer ++ data } pos := by
  have hoffset := h.offset_le
  have hpos : r.streamOffset + pos ≤ stream.length := by
    have hle := h.pos_le
    rw [writePos, h.buffer, List.length_drop] at hle
    omega
  refine
    { buffer := ?_
      offset_le := ?_
      pos_le := ?_
      accounted := h.accounted
      watermark := h.watermark
      rejected := fun e he first last consecutive hkind =>
        (h.rejected e he first last consecutive hkind).append data
      substring := ?_
      ordered := h.ordered
      clean := ?_ }
  · dsimp only
    rw [List.drop_append_of_le_length hoffset, ← h.buffer]
  · rw [List.length_append]
    exact Nat.le_add_right_of_le hoffset
  · rw [writePos, List.length_append]
    exact Nat.le_add_right_of_le h.pos_le
  · intro p hp
    obtain ⟨hsub, hend⟩ := h.substring p hp
    refine ⟨?_, hend⟩
    rw [List.drop_append_of_le_length (by omega),
      List.take_append_of_le_length (by rw [List.length_drop]; omega)]
    exact hsub
  · intro hclean
    rw [List.take_append_of_le_length hpos]
    exact h.clean hclean

/-- Compaction renumbers positions and keeps the account. -/
theorem accounts_compact {stream : List UInt8} {r : FrameReceiver} {pos : Nat}
    (h : Accounts stream r pos) : Accounts stream (r.compact pos) 0 := by
  have hpos := h.pos_le
  have hmin : min pos r.writePos = pos := Nat.min_eq_left hpos
  have hle : r.streamOffset + pos ≤ stream.length := by
    have hoffset := h.offset_le
    rw [writePos, h.buffer, List.length_drop] at hpos
    omega
  rw [compact_eq, hmin]
  refine
    { buffer := ?_
      offset_le := hle
      pos_le := Nat.zero_le _
      accounted := h.accounted
      watermark := ?_
      rejected := h.rejected
      substring := h.substring
      ordered := h.ordered
      clean := h.clean }
  · dsimp only
    rw [h.buffer, List.drop_drop]
  · intro k hk hcovered
    dsimp only at hk hcovered
    exact h.watermark k (by omega) (by omega)

/-- **One call of `Feed`** keeps the account. -/
theorem accounts_feed {stream : List UInt8} {r : FrameReceiver} (h : Accounts stream r 0)
    (data : List UInt8) : Accounts (stream ++ data) (r.feed data) 0 := by
  unfold feed
  by_cases hdata : data = []
  · rw [if_pos hdata, hdata, List.append_nil]
    exact h
  · rw [if_neg hdata]
    have happend := accounts_append h data
    generalize ({ r with buffer := r.buffer ++ data } : FrameReceiver) = r' at happend ⊢
    exact accounts_compact (accounts_scan (r'.writePos + 1) r' 0 happend)

/-- A run of `Feed` keeps the account of the concatenated chunks. -/
theorem accounts_feedAll {stream : List UInt8} {r : FrameReceiver} (h : Accounts stream r 0)
    (chunks : List (List UInt8)) : Accounts (stream ++ chunks.flatten) (r.feedAll chunks) 0 := by
  induction chunks generalizing stream r with
  | nil => simpa [feedAll] using h
  | cons chunk chunks ih =>
    rw [List.flatten_cons, ← List.append_assoc]
    exact ih (accounts_feed h chunk)

/-- `Finish` reports the tail and makes no other callback. -/
theorem finish_events (r : FrameReceiver) :
    r.finish.events = r.events ++
      (if r.buffer = [] then [] else
        [.error .incomplete r.streamOffset (r.streamOffset + r.writePos)
          (r.consecutiveFramingErrors + 1)]) := by
  unfold finish
  by_cases hempty : r.buffer = []
  · simp [writePos, hempty]
  · have hpending : r.writePos ≠ 0 := by
      rw [writePos]
      exact fun h => hempty (List.length_eq_zero_iff.mp h)
    simp only [if_pos hpending, if_neg hempty, reportFramingError_events, Nat.add_zero]

/-- The tail report adds nothing to the counts of the others. -/
theorem ofEvents_finish (r : FrameReceiver) :
    Report.ofEvents r.finish.events = Report.ofEvents r.events := by
  rw [finish_events]
  by_cases hempty : r.buffer = []
  · rw [if_pos hempty, List.append_nil]
  · rw [if_neg hempty, Report.ofEvents_append, Report.ofEvents_singleton]
    exact Report.append_nil _

theorem deliveredFrames_finish (r : FrameReceiver) :
    deliveredFrames r.finish.events = deliveredFrames r.events := by
  rw [finish_events, deliveredFrames_append]
  by_cases hempty : r.buffer = []
  · rw [if_pos hempty]
    exact List.append_nil _
  · rw [if_neg hempty]
    exact List.append_nil _

/-- The account of a finished run. -/
structure Accounted.Stream (maxFrameSize : Nat) (stream : List UInt8)
    (events : List FrameEvent) : Prop where
  /-- delivered frames are substrings of the stream -/
  substring : ∀ p ∈ deliveredFrames events,
    p.1 + p.2.data.length ≤ stream.length ∧
      (stream.drop p.1).take p.2.data.length = p.2.data
  /-- they are disjoint and in stream order -/
  ordered : (deliveredFrames events).Pairwise fun p q => p.1 + p.2.data.length ≤ q.1
  /-- a rejected candidate is the header, and the checksum byte behind a zero length -/
  rejected : ∀ first last consecutive,
    .error .lengthOutOfRange first last consecutive ∈ events →
      RejectedAt maxFrameSize stream first last
  /-- every byte is accounted for -/
  covered : ∀ k < stream.length, Accounted events k

/-- **No byte is lost silently.** -/
theorem receive_accounts (maxFrameSize : Nat) (chunks : List (List UInt8)) :
    Accounted.Stream maxFrameSize chunks.flatten (receive maxFrameSize chunks).events := by
  have hmax := (drained_feedAll (drained_new maxFrameSize) chunks).maxFrameSize_eq
  have h := accounts_feedAll (accounts_new maxFrameSize) chunks
  rw [List.nil_append] at h
  unfold receive
  generalize (new maxFrameSize).feedAll chunks = r at h hmax
  have hlength : r.writePos = chunks.flatten.length - r.streamOffset := by
    rw [writePos, h.buffer, List.length_drop]
  have hoffset := h.offset_le
  refine
    { substring := ?_
      ordered := by rw [deliveredFrames_finish]; exact h.ordered
      rejected := ?_
      covered := ?_ }
  · intro p hp
    rw [deliveredFrames_finish] at hp
    obtain ⟨hsub, hend⟩ := h.substring p hp
    exact ⟨by omega, hsub⟩
  · intro first last consecutive hmem
    rw [finish_events, List.mem_append] at hmem
    rcases hmem with hold | hnew
    · exact hmax ▸ h.rejected _ hold first last consecutive rfl
    · by_cases hempty : r.buffer = []
      · rw [if_pos hempty] at hnew
        exact absurd hnew (by simp)
      · rw [if_neg hempty, List.mem_singleton] at hnew
        exact absurd hnew (by simp)
  · intro k hk
    rw [finish_events]
    by_cases hscanned : k < r.streamOffset
    · exact (h.accounted k hscanned).append_right _
    · have hpending : r.buffer ≠ [] := by
        intro hempty
        rw [writePos, hempty, List.length_nil] at hlength
        omega
      rw [if_neg hpending]
      refine ⟨_, List.mem_append_right _ (List.mem_singleton.mpr rfl), ?_⟩
      exact .inr (.inr (.inr ⟨rfl, by omega, by omega⟩))

/-- **The receiver's contract.**  However the stream is split, the reports are those of
one call, the frames are disjoint substrings in stream order, and every byte is
accounted for. -/
theorem receive_chunking (maxFrameSize : Nat) (chunks : List (List UInt8)) :
    Report.ofEvents (receive maxFrameSize chunks).events =
        Report.ofEvents (receive maxFrameSize [chunks.flatten]).events ∧
      Accounted.Stream maxFrameSize chunks.flatten (receive maxFrameSize chunks).events := by
  refine ⟨?_, receive_accounts maxFrameSize chunks⟩
  unfold receive
  rw [ofEvents_finish, ofEvents_finish]
  exact (feedAll_eq_feed_flatten maxFrameSize chunks).1

/-- A zero length, its checksum byte and six bytes of something else: the checksum byte
is in no frame, no garbage span, no eight-byte header and not in the tail. -/
theorem receive_header_gap :
    ¬ ∀ k < 14, ∃ e ∈ (receive 65536
        [[2, 2, 2, 2, 0, 0, 0, 0, 65, 65, 65, 65, 65, 65]]).events,
      e.Delivers k ∨ e.Reports .garbage k ∨ e.RejectsHeader k ∨ e.Reports .incomplete k := by
  decide

/-- **A run without an error callback** has delivered the stream, frame by frame. -/
theorem receive_clean (maxFrameSize : Nat) (chunks : List (List UInt8))
    (hclean : ∀ e ∈ (receive maxFrameSize chunks).events, ∃ first frame, e = .frame first frame) :
    ((deliveredFrames (receive maxFrameSize chunks).events).map fun p => p.2.data).flatten =
      chunks.flatten := by
  have h := accounts_feedAll (accounts_new maxFrameSize) chunks
  rw [List.nil_append] at h
  unfold receive at hclean ⊢
  generalize (new maxFrameSize).feedAll chunks = r at h hclean
  have hempty : r.buffer = [] := by
    by_contra hpending
    rw [finish_events, if_neg hpending] at hclean
    obtain ⟨first, frame, hbad⟩ :=
      hclean _ (List.mem_append_right _ (List.mem_singleton.mpr rfl))
    exact absurd hbad (by simp)
  have hall : chunks.flatten.length ≤ r.streamOffset := by
    have hbuffer := h.buffer
    rw [hempty] at hbuffer
    exact List.drop_eq_nil_iff.mp hbuffer.symm
  rw [finish_events, if_pos hempty, List.append_nil] at hclean
  rw [deliveredFrames_finish, h.clean hclean, Nat.add_zero, List.take_of_length_le hall]

end FrameReceiver
end Lms
end AmigaDrivers
