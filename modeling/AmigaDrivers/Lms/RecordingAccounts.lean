import AmigaDrivers.Lms.Recording

/-!
# The accounts of a recording

Every frame the receiver extracts goes through `HandleFrame` into the recorder, and every
callback is counted once.

* `Announced`: a frame with a bad checksum comes behind its error, and no other frame does.
* `Handled`: what the callbacks made so far have done; every step keeps it.
* `frame_accounting`: the frames are handed over in order, and the counters of the monitor add up.
-/

namespace AmigaDrivers
namespace Lms

/-! ## Errors announce frames -/

/-- The callbacks to come, where `n` checksum errors still wait for their frame. -/
inductive Announced : Nat → List FrameEvent → Prop
  | nil : Announced 0 []
  | valid {first : Nat} {frame : RawFrame} {events : List FrameEvent}
      (hvalid : frame.checksumValid = true) (h : Announced 0 events) :
      Announced 0 (.frame first frame :: events)
  | invalid {first : Nat} {frame : RawFrame} {events : List FrameEvent}
      (hvalid : frame.checksumValid = false) (h : Announced 0 events) :
      Announced 1 (.frame first frame :: events)
  | mismatch {first last consecutive : Nat} {events : List FrameEvent} (h : Announced 1 events) :
      Announced 0 (.error .checksumMismatch first last consecutive :: events)
  | other {error : FrameError} {first last consecutive : Nat} {events : List FrameEvent}
      (herror : error ≠ .checksumMismatch) (h : Announced 0 events) :
      Announced 0 (.error error first last consecutive :: events)

theorem Announced.append {n : Nat} {events more : List FrameEvent} (h : Announced n events)
    (hmore : Announced 0 more) : Announced n (events ++ more) := by
  induction h with
  | nil => exact hmore
  | valid hvalid _ ih => exact .valid hvalid ih
  | invalid hvalid _ ih => exact .invalid hvalid ih
  | mismatch _ ih => exact .mismatch ih
  | other herror _ ih => exact .other herror ih

namespace FrameReceiver

/-- The callbacks made from `r` to `r'`. -/
def Makes (r r' : FrameReceiver) : Prop :=
  ∃ events, r'.events = r.events ++ events ∧ Announced 0 events

variable {r r' r'' : FrameReceiver}

theorem Makes.of_same (h : r'.events = r.events) : Makes r r' :=
  ⟨[], by rw [h, List.append_nil], .nil⟩

theorem Makes.trans (h : Makes r r') (h' : Makes r' r'') : Makes r r'' := by
  obtain ⟨events, hevents, hannounced⟩ := h
  obtain ⟨more, hmore, hannounced'⟩ := h'
  refine ⟨events ++ more, ?_, hannounced.append hannounced'⟩
  rw [hmore, hevents, List.append_assoc]

theorem makes_reportFramingError (r : FrameReceiver) {error : FrameError} (first last : Nat)
    (herror : error ≠ .checksumMismatch) : Makes r (r.reportFramingError error first last) :=
  ⟨_, rfl, .other herror .nil⟩

theorem makes_reportGarbage (r : FrameReceiver) (first last : Nat) :
    Makes r (r.reportGarbage first last) := by
  unfold reportGarbage
  dsimp only
  split
  · exact makes_reportFramingError r _ _ nofun
  · exact .of_same rfl

theorem makes_tryExtractFrame (r : FrameReceiver) (pos : Nat) : Makes r (r.tryExtractFrame pos).1 := by
  unfold tryExtractFrame
  dsimp only
  split
  · exact .of_same rfl
  · split
    · have hcovered : Makes r
          { r with
            errorCoveredUntil := max r.errorCoveredUntil
              (pos + headerSize +
                if ByteUtil.loadBigU32 (r.buffer.drop (pos + stxSize)) = 0 then 1 else 0) } :=
        .of_same rfl
      exact hcovered.trans (makes_reportFramingError _ _ _ nofun)
    · split
      · exact .of_same rfl
      · cases hvalid : computeChecksum ((r.buffer.drop (pos + headerSize)).take
            (ByteUtil.loadBigU32 (r.buffer.drop (pos + stxSize)))) ==
            r.buffer.getD (pos + headerSize +
              ByteUtil.loadBigU32 (r.buffer.drop (pos + stxSize))) 0 with
        | true => exact ⟨_, rfl, .valid rfl .nil⟩
        | false =>
          refine ⟨[_, _], List.append_assoc r.events [_] [_], .mismatch (.invalid ?_ .nil)⟩
          rfl

theorem makes_scan (fuel : Nat) : ∀ (r : FrameReceiver) (pos : Nat), Makes r (scan fuel r pos).1 := by
  induction fuel with
  | zero => exact fun r pos => .of_same rfl
  | succ fuel ih =>
    intro r pos
    rw [scan]
    dsimp only
    split
    · split
      · split
        · exact makes_reportGarbage r _ _
        · exact .of_same rfl
      · generalize hskipped : (if r.findStx pos > pos then r.reportGarbage pos (r.findStx pos)
          else r) = skipped
        have hskip : Makes r skipped := by
          rw [← hskipped]
          split
          · exact makes_reportGarbage r _ _
          · exact .of_same rfl
        have hextract := makes_tryExtractFrame skipped (r.findStx pos)
        generalize skipped.tryExtractFrame (r.findStx pos) = result at hextract
        obtain ⟨extracted, consumed⟩ := result
        cases consumed with
        | zero => exact hskip.trans hextract
        | succ consumed => exact (hskip.trans hextract).trans (ih _ _)
    · exact .of_same rfl

/-- **`Feed` announces every frame with a bad checksum.** -/
theorem makes_feed (r : FrameReceiver) (data : List UInt8) : Makes r (r.feed data) := by
  unfold feed
  split
  · exact .of_same rfl
  · have hread : Makes r { r with buffer := r.buffer ++ data } := .of_same rfl
    have hcompact (r : FrameReceiver) (offset : Nat) : Makes r (r.compact offset) :=
      .of_same (by rw [compact_eq])
    have hscan := makes_scan ((r.buffer ++ data).length + 1) { r with buffer := r.buffer ++ data } 0
    exact (hread.trans hscan).trans (hcompact _ _)

theorem makes_finish (r : FrameReceiver) : Makes r r.finish := by
  refine ⟨_, finish_events r, ?_⟩
  split
  · exact .nil
  · exact .other nofun .nil

/-- The callbacks a call makes are the last ones. -/
theorem Makes.drop (h : Makes r r') :
    r'.events = r.events ++ r'.events.drop r.events.length ∧
      Announced 0 (r'.events.drop r.events.length) := by
  obtain ⟨events, hevents, hannounced⟩ := h
  rw [hevents, List.drop_left]
  exact ⟨rfl, hannounced⟩

end FrameReceiver

/-! ## What the callbacks have done -/

/-- The frames of the callbacks. -/
def framesOf (events : List FrameEvent) : List RawFrame :=
  (deliveredFrames events).map Prod.snd

/-- The error reports of the callbacks. -/
def FrameEvent.isError : FrameEvent → Bool
  | .error _ _ _ _ => true
  | .frame _ _ => false

/-- The record `HandleFrame` has not handed over yet. -/
def ReceivePc.held : ReceivePc → List RawRecord
  | .handing record => [record]
  | .reading | .feeding | .recording | .exited | .finishing | .finished => []

/-- The receive thread makes no callback, and none is left. -/
def ReceivePc.quiet : ReceivePc → Bool
  | .reading | .exited | .finished => true
  | .feeding | .handing _ | .recording | .finishing => false

/-- A frame has just been counted. -/
def ReceivePc.inFrame : ReceivePc → Bool
  | .handing _ | .recording => true
  | .reading | .feeding | .exited | .finishing | .finished => false

/-- `Finish` has been called. -/
def ReceivePc.late : ReceivePc → Bool
  | .finishing | .finished => true
  | .reading | .feeding | .handing _ | .recording | .exited => false

namespace Recording

/-- The records whose frame has been counted. -/
def counted (s : Recording) : List RawRecord := s.recorder.offered ++ s.pc.held

/-- The counted records with a bad checksum. -/
def corrupt (s : Recording) : List RawRecord :=
  s.counted.filter fun record => !record.frame.checksumValid

/-- What the callbacks made so far have done.  The tallies are the frames received, the legacy
drops, the checksum errors, the framing errors and the valid frames sorted. -/
structure Handled (cfg : RecordingConfig) (s : Recording) : Prop where
  received : s.monitor.tallies.1 = s.counted.length
  /-- `n` checksum errors wait for their frame -/
  announced : ∃ n, Announced n s.pending ∧ (s.pc.inFrame = true → n = 0) ∧
    s.monitor.tallies.2.2.1 = s.corrupt.length + n
  sorted : s.monitor.tallies.2.2.2.2 + s.corrupt.length = s.counted.length
  order : framesOf s.receiver.events = s.counted.map RawRecord.frame ++ framesOf s.pending
  errors : s.monitor.tallies.2.2.1 + s.monitor.tallies.2.2.2.1 +
    s.pending.countP FrameEvent.isError = s.receiver.events.countP FrameEvent.isError
  quiet : s.pc.quiet = true → s.pending = []
  idle : s.pc ≠ .recording → s.recorder.producerPc = .idle
  fed : s.receiver =
    if s.pc.late then .receive cfg.maxFrameSize s.fed
    else (FrameReceiver.new cfg.maxFrameSize).feedAll s.fed
  tail : s.pc.late = true → framesOf s.pending = []

theorem handled_new (cfg : RecordingConfig) : (new cfg).Handled cfg where
  received := rfl
  announced := ⟨0, .nil, fun _ => rfl, rfl⟩
  sorted := rfl
  order := rfl
  errors := rfl
  quiet _ := rfl
  idle _ := rfl
  fed := rfl
  tail _ := rfl

variable {cfg : RecordingConfig} {s s' : Recording}

/-- A step that only moves the threads and the counters that do not count frames. -/
theorem Handled.of_same (hs : s.Handled cfg)
    (hsame : (s'.receiver, s'.monitor.tallies, s'.pending, s'.fed, s'.counted) =
      (s.receiver, s.monitor.tallies, s.pending, s.fed, s.counted))
    (hframe : s'.pc.inFrame = true → s.pc.inFrame = true)
    (hquiet : s'.pc.quiet = true → s.pending = [])
    (hidle : s'.pc ≠ .recording → s'.recorder.producerPc = .idle)
    (hlate : s'.pc.late = s.pc.late) : s'.Handled cfg := by
  simp only [Prod.mk.injEq] at hsame
  obtain ⟨hreceiver, htallies, hpending, hfed, hcounted⟩ := hsame
  have hcorrupt : s'.corrupt = s.corrupt := by rw [corrupt, hcounted, corrupt]
  refine ⟨?_, ?_, ?_, ?_, ?_, ?_, hidle, ?_, ?_⟩
  · rw [htallies, hcounted]
    exact hs.received
  · obtain ⟨n, hannounced, hzero, hcrc⟩ := hs.announced
    rw [hpending, htallies, hcorrupt]
    exact ⟨n, hannounced, hzero ∘ hframe, hcrc⟩
  · rw [htallies, hcorrupt, hcounted]
    exact hs.sorted
  · rw [hreceiver, hcounted, hpending]
    exact hs.order
  · rw [htallies, hpending, hreceiver]
    exact hs.errors
  · rw [hpending]
    exact hquiet
  · rw [hreceiver, hlate, hfed]
    exact hs.fed
  · rw [hlate, hpending]
    exact hs.tail

/-- The recorder goes on. -/
theorem recorder_frame {r r' : RawRecorder} {a : RecorderAction} (h : r.step a = some r')
    (ha : ∀ record, a ≠ .onFrame record) :
    r'.offered = r.offered ∧ (r.producerPc = .idle → r'.producerPc = .idle) := by
  cases a with
  | onFrame record => exact absurd rfl (ha record)
  | producer threw =>
    have hstep := RawRecorder.producerStep_inv h
    refine ⟨?_, fun hidle => absurd hidle hstep.running⟩
    cases hstep <;> rfl
  | worker r =>
    cases RawRecorder.workerStep_inv h <;> exact ⟨rfl, id⟩
  | owner r =>
    cases RawRecorder.ownerStep_inv h <;> exact ⟨rfl, id⟩
  | stop =>
    obtain ⟨-, rfl⟩ := RawRecorder.stop_inv h
    exact ⟨rfl, id⟩

/-- A chunk is fed. -/
theorem Handled.read (hs : s.Handled cfg) (hpc : s.pc = .reading) (chunk : List UInt8) :
    (s.read chunk).Handled cfg := by
  obtain ⟨hevents, hannounced⟩ := (FrameReceiver.makes_feed s.receiver chunk).drop
  have hpending : s.pending = [] := hs.quiet (hpc ▸ rfl)
  have horder := hs.order
  have herrors := hs.errors
  have hcrc := hs.announced
  have hfed := hs.fed
  rw [hpending] at horder herrors hcrc
  rw [hpc] at hfed
  have hcounted : (s.read chunk).counted = s.counted := by
    rw [counted, counted, hpc]
    rfl
  have hcorrupt : (s.read chunk).corrupt = s.corrupt := by rw [corrupt, hcounted, corrupt]
  refine ⟨?_, ⟨0, hannounced, nofun, ?_⟩, ?_, ?_, ?_, nofun, ?_, ?_, nofun⟩
  · rw [hcounted]
    exact hs.received
  · obtain ⟨n, hn, -, hcrc⟩ := hcrc
    cases hn
    rw [hcorrupt]
    exact hcrc
  · rw [hcorrupt, hcounted]
    exact hs.sorted
  · rw [hcounted]
    show framesOf (s.receiver.feed chunk).events = _
    rw [hevents, framesOf, deliveredFrames_append, List.map_append]
    exact congrArg (· ++ _) (horder.trans (List.append_nil _))
  · show _ = ((s.receiver.feed chunk).events).countP FrameEvent.isError
    rw [hevents, List.countP_append, ← herrors]
    rfl
  · exact fun _ => hs.idle (hpc ▸ nofun)
  · show s.receiver.feed chunk = (FrameReceiver.new cfg.maxFrameSize).feedAll (s.fed ++ [chunk])
    rw [FrameReceiver.feedAll, List.foldl_append]
    exact congrArg (FrameReceiver.feed · chunk) hfed

/-- `Finish` is called. -/
theorem Handled.finish (hs : s.Handled cfg) (hpc : s.pc = .exited) : s.finish.Handled cfg := by
  obtain ⟨hevents, hannounced⟩ := (FrameReceiver.makes_finish s.receiver).drop
  have hpending : s.pending = [] := hs.quiet (hpc ▸ rfl)
  have horder := hs.order
  have herrors := hs.errors
  have hcrc := hs.announced
  have hfed := hs.fed
  rw [hpending] at horder herrors hcrc
  rw [hpc] at hfed
  have hcounted : s.finish.counted = s.counted := by
    rw [counted, counted, hpc]
    rfl
  have hcorrupt : s.finish.corrupt = s.corrupt := by rw [corrupt, hcounted, corrupt]
  have hframes : framesOf (s.receiver.finish.events.drop s.receiver.events.length) = [] := by
    have hsame : framesOf s.receiver.finish.events = framesOf s.receiver.events := by
      rw [framesOf, FrameReceiver.deliveredFrames_finish, framesOf]
    rw [hevents, framesOf, deliveredFrames_append, List.map_append] at hsame
    exact List.append_right_eq_self.mp hsame
  refine ⟨?_, ⟨0, hannounced, nofun, ?_⟩, ?_, ?_, ?_, nofun, ?_, ?_, fun _ => hframes⟩
  · rw [hcounted]
    exact hs.received
  · obtain ⟨n, hn, -, hcrc⟩ := hcrc
    cases hn
    rw [hcorrupt]
    exact hcrc
  · rw [hcorrupt, hcounted]
    exact hs.sorted
  · rw [hcounted]
    show framesOf s.receiver.finish.events = _
    rw [hevents, framesOf, deliveredFrames_append, List.map_append]
    exact congrArg (· ++ _) (horder.trans (List.append_nil _))
  · show _ = (s.receiver.finish.events).countP FrameEvent.isError
    rw [hevents, List.countP_append, ← herrors]
    rfl
  · exact fun _ => hs.idle (hpc ▸ nofun)
  · exact congrArg FrameReceiver.finish hfed

/-- An error is reported. -/
theorem Handled.error (hs : s.Handled cfg) {error : FrameError} {first last consecutive : Nat}
    {pending : List FrameEvent}
    (hpending : s.pending = .error error first last consecutive :: pending)
    (hpc : s.pc = .feeding ∨ s.pc = .finishing) :
    ({ s with monitor := s.monitor.onFrameError error consecutive, pending } : Recording).Handled
      cfg := by
  have hquiet : s.pc.quiet = false := by
    obtain hpc | hpc := hpc <;> rw [hpc] <;> rfl
  have hnone : s.pc.inFrame = false := by
    obtain hpc | hpc := hpc <;> rw [hpc] <;> rfl
  obtain ⟨n, hannounced, -, hcrc⟩ := hs.announced
  have hframes : framesOf s.pending = framesOf pending := by
    rw [hpending]
    rfl
  have herrors := hs.errors
  rw [hpending, List.countP_cons_of_pos rfl] at herrors
  rw [hpending] at hannounced
  have htallies := s.monitor.tallies_onFrameError error consecutive
  refine ⟨?_, ?_, ?_, ?_, ?_, ?_, hs.idle, hs.fed, ?_⟩
  · show (s.monitor.onFrameError error consecutive).tallies.1 = _
    rw [htallies]
    exact hs.received
  · show ∃ n, Announced n pending ∧ (s.pc.inFrame = true → n = 0) ∧
      (s.monitor.onFrameError error consecutive).tallies.2.2.1 = s.corrupt.length + n
    rw [htallies]
    cases hannounced with
    | mismatch h =>
      refine ⟨1, h, fun hframe => ?_, by rw [if_pos rfl, hcrc]⟩
      exact nomatch hnone.symm.trans hframe
    | other herror h => exact ⟨0, h, fun _ => rfl, by rw [if_neg herror, hcrc]⟩
  · show (s.monitor.onFrameError error consecutive).tallies.2.2.2.2 + s.corrupt.length = _
    rw [htallies]
    exact hs.sorted
  · exact hframes ▸ hs.order
  · show (s.monitor.onFrameError error consecutive).tallies.2.2.1 +
      (s.monitor.onFrameError error consecutive).tallies.2.2.2.1 + _ = _
    rw [htallies, ← herrors]
    by_cases h : error = .checksumMismatch
    · simp only [if_pos h]
      omega
    · simp only [if_neg h]
      omega
  · intro h
    exact nomatch hquiet.symm.trans h
  · exact hframes ▸ hs.tail

/-- **A frame is handled.** -/
theorem Handled.frame (hs : s.Handled cfg) {first : Nat} {frame : RawFrame}
    {pending : List FrameEvent} (hpending : s.pending = .frame first frame :: pending)
    (hpc : s.pc = .feeding) (clock : HostClock) :
    ({ s with
        monitor := (s.monitor.handleFrame cfg.monitor frame clock).1
        pending
        pc := .handing (s.monitor.handleFrame cfg.monitor frame clock).2 } : Recording).Handled
      cfg := by
  have hframe := s.monitor.handleFrame_frame cfg.monitor frame clock
  have htallies := s.monitor.tallies_handleFrame cfg.monitor frame clock
  generalize s.monitor.handleFrame cfg.monitor frame clock = result at hframe htallies
  obtain ⟨monitor, record⟩ := result
  dsimp only at hframe htallies ⊢
  have hcounted : s.counted = s.recorder.offered := by
    rw [counted, hpc]
    exact List.append_nil _
  obtain ⟨n, hannounced, -, hcrc⟩ := hs.announced
  have hreceived := hs.received
  have hsorted := hs.sorted
  have horder := hs.order
  have herrors := hs.errors
  have hfed := hs.fed
  rw [hpc] at hfed
  rw [hpending] at hannounced horder
  rw [hpending, List.countP_cons_of_neg Bool.false_ne_true] at herrors
  rw [corrupt] at hcrc hsorted
  rw [hcounted] at hreceived hcrc hsorted horder
  refine ⟨?_, ?_, ?_, ?_, ?_, nofun, fun _ => hs.idle (hpc ▸ nofun), hfed, nofun⟩
  · show monitor.tallies.1 = (s.recorder.offered ++ [record]).length
    rw [htallies, hreceived, List.length_append]
    rfl
  · show ∃ n, Announced n pending ∧ (true = true → n = 0) ∧ monitor.tallies.2.2.1 =
      ((s.recorder.offered ++ [record]).filter fun record => !record.frame.checksumValid).length + n
    rw [htallies, List.filter_append, List.length_append, hcrc]
    cases hannounced with
    | valid hvalid h =>
      rw [← hframe] at hvalid
      refine ⟨0, h, fun _ => rfl, ?_⟩
      rw [List.filter_cons_of_neg (by rw [hvalid]; exact nofun)]
      rfl
    | invalid hvalid h =>
      rw [← hframe] at hvalid
      refine ⟨0, h, fun _ => rfl, ?_⟩
      rw [List.filter_cons_of_pos (by rw [hvalid]; rfl)]
      rfl
  · show monitor.tallies.2.2.2.2 +
      ((s.recorder.offered ++ [record]).filter fun record => !record.frame.checksumValid).length =
      (s.recorder.offered ++ [record]).length
    rw [htallies, List.filter_append, List.length_append, List.length_append, ← hsorted]
    dsimp only
    rw [← hframe]
    cases hvalid : record.frame.checksumValid with
    | true =>
      rw [List.filter_cons_of_neg (by rw [hvalid]; exact nofun), if_pos rfl]
      simp only [List.filter_nil, List.length_nil, List.length_singleton]
      omega
    | false =>
      rw [List.filter_cons_of_pos (by rw [hvalid]; rfl), if_neg nofun]
      simp only [List.filter_nil, List.length_singleton]
      omega
  · show framesOf s.receiver.events =
      (s.recorder.offered ++ [record]).map RawRecord.frame ++ framesOf pending
    rw [horder, List.map_append, List.append_assoc, List.map_singleton, hframe]
    rfl
  · show monitor.tallies.2.2.1 + monitor.tallies.2.2.2.1 + _ = _
    rw [htallies]
    exact herrors

theorem Handled.step (hs : s.Handled cfg) {a : RecordingAction} (h : step cfg s a = some s') :
    s'.Handled cfg := by
  cases a with
  | read chunk =>
    dsimp only [Recording.step] at h
    split_ifs at h with hread
    exact Option.some.inj h ▸ hs.read hread.1 chunk
  | exit readError =>
    dsimp only [Recording.step] at h
    split_ifs at h with hpc
    obtain rfl := Option.some.inj h
    have hcounted : s.counted = s.recorder.offered := by
      rw [counted, hpc]
      exact List.append_nil _
    refine hs.of_same ?_ nofun (fun _ => hs.quiet (hpc ▸ rfl)) (fun _ => hs.idle (hpc ▸ nofun)) ?_
    · rw [hcounted, counted]
      exact congrArg (fun x => (_, _, _, _, x)) (List.append_nil _)
    · rw [hpc]
      rfl
  | callback clock =>
    dsimp only [Recording.step] at h
    split at h
    · rename_i hpc
      obtain rfl := Option.some.inj h
      unfold callback
      split
      · rename_i hpending
        have hcounted : s.counted = s.recorder.offered := by
          rw [counted, hpc]
          exact List.append_nil _
        refine hs.of_same ?_ nofun (fun _ => hpending) (fun _ => hs.idle (hpc ▸ nofun)) ?_
        · rw [hcounted, counted]
          exact congrArg (fun x => (_, _, _, _, x)) (List.append_nil _)
        · rw [hpc]
          rfl
      · rename_i hpending
        exact hs.error hpending (.inl hpc)
      · rename_i hpending
        exact hs.frame hpending hpc clock
    · rename_i hpc
      obtain rfl := Option.some.inj h
      unfold finishCallback
      split
      · rename_i hpending
        exact hs.error hpending (.inr hpc)
      · rename_i hnone
        have hpending : s.pending = [] := by
          have htail := hs.tail (hpc ▸ rfl)
          cases hp : s.pending with
          | nil => rfl
          | cons e pending =>
            cases e with
            | error error first last consecutive => exact absurd hp (hnone _ _ _ _ _)
            | frame first frame =>
              rw [hp] at htail
              exact nomatch htail
        have hcounted : s.counted = s.recorder.offered := by
          rw [counted, hpc]
          exact List.append_nil _
        refine hs.of_same ?_ nofun (fun _ => hpending) (fun _ => hs.idle (hpc ▸ nofun)) ?_
        · rw [hcounted, counted]
          exact congrArg (fun x => (_, _, _, _, x)) (List.append_nil _)
        · rw [hpc]
          rfl
    · exact nomatch h
  | handOver =>
    dsimp only [Recording.step] at h
    split at h
    · rename_i record hpc
      obtain ⟨recorder, hcall, rfl⟩ := Option.map_eq_some_iff.mp h
      obtain ⟨-, -, rfl⟩ := RawRecorder.onFrame_inv hcall
      refine hs.of_same ?_ (fun _ => hpc ▸ rfl) nofun (fun h => absurd rfl h) ?_
      · rw [counted, counted, hpc]
        exact congrArg (fun x => (_, _, _, _, x)) (List.append_nil _)
      · rw [hpc]
        rfl
    · exact nomatch h
  | goOn =>
    dsimp only [Recording.step] at h
    split_ifs at h with hdone
    obtain rfl := Option.some.inj h
    refine hs.of_same ?_ nofun nofun (fun _ => hdone.2) ?_
    · rw [counted, counted, hdone.1]
      rfl
    · rw [hdone.1]
      rfl
  | finish =>
    dsimp only [Recording.step] at h
    split_ifs at h with hpc
    exact Option.some.inj h ▸ hs.finish hpc
  | recorder a =>
    dsimp only [Recording.step] at h
    split at h
    · exact nomatch h
    · rename_i ha
      obtain ⟨recorder, hstep, rfl⟩ := Option.map_eq_some_iff.mp h
      obtain ⟨hoffered, hidle⟩ := recorder_frame hstep ha
      refine hs.of_same ?_ id hs.quiet (fun hpc => hidle (hs.idle hpc)) rfl
      rw [counted, counted, hoffered]
  | ntpWatch reachable givenUp =>
    obtain rfl := Option.some.inj h
    refine hs.of_same ?_ id hs.quiet hs.idle rfl
    have htallies : (ntpWatch s.monitor reachable givenUp).tallies = s.monitor.tallies := by
      unfold ntpWatch
      dsimp only
      split <;> rfl
    exact congrArg (fun x => (_, x, _, _, _)) htallies
  | stopStream =>
    obtain rfl := Option.some.inj h
    exact hs.of_same rfl id hs.quiet hs.idle rfl

theorem handled_of_reachable (h : (system cfg).Reachable s) : s.Handled cfg := by
  refine h.invariant ?_ ?_
  · rintro s rfl
    exact handled_new cfg
  · exact fun _ _ _ hs hstep => hs.step hstep

/-! ## The accounting of the frames -/

/-- **Every frame is handed over, once and in order, and the counters add up.**  The frames of the
receiver are those handed to the telegram callback, the one about to be, and those still to be
handled.  Behind a frame, and wherever no checksum error waits for its frame, the frames received
are the corrupt ones, which the checksum errors count, and those sorted. -/
theorem frame_accounting (cfg : RecordingConfig) (s : Recording) (h : (system cfg).Reachable s) :
    framesOf s.receiver.events =
        s.recorder.offered.map RawRecord.frame ++ s.pc.held.map RawRecord.frame ++
          framesOf s.pending ∧
      s.monitor.stats.framesReceived = (s.recorder.offered ++ s.pc.held).length ∧
      (∃ n, Announced n s.pending ∧ (s.pc.inFrame = true → n = 0) ∧
        s.monitor.stats.crcErrors = s.corrupt.length + n ∧
        s.monitor.stats.framesReceived + n =
          s.monitor.stats.crcErrors + s.monitor.stats.nonScanFrames +
            s.monitor.stats.parseErrors + s.monitor.stats.framesParsed) ∧
      s.monitor.stats.framesParsed ≤ s.monitor.stats.scanCandidateFrames := by
  have hs := handled_of_reachable h
  obtain ⟨n, hannounced, hzero, hcrc⟩ := hs.announced
  have hreceived : s.monitor.stats.framesReceived = s.counted.length := hs.received
  have hcrc' : s.monitor.stats.crcErrors = s.corrupt.length + n := hcrc
  have hsorted : s.monitor.stats.nonScanFrames + s.monitor.stats.parseErrors +
      s.monitor.stats.framesParsed + s.corrupt.length = s.counted.length := hs.sorted
  refine ⟨?_, hreceived, ⟨n, hannounced, hzero, hcrc', by omega⟩, ?_⟩
  · rw [hs.order, counted, List.map_append]
  · unfold DriverStatistics.scanCandidateFrames
    split <;> omega

/-- A frame that is no message, and a frame with a bad checksum behind it. -/
theorem frame_accounting_of_two_frames :
    ∃ cfg s, (system cfg).Reachable s ∧ s.pc.held.length = 1 ∧
      s.monitor.stats.framesReceived = 2 ∧ s.monitor.stats.crcErrors = 1 ∧
      s.monitor.stats.framesReceived =
        s.monitor.stats.crcErrors + s.monitor.stats.nonScanFrames +
          s.monitor.stats.parseErrors + s.monitor.stats.framesParsed := by
  let done : IoAnswers := ⟨true, ⟨true, 0⟩, .done, false⟩
  let clock : HostClock := ⟨7, 0, false⟩
  let chunk : List UInt8 := [2, 2, 2, 2, 0, 0, 0, 1, 65, 65, 2, 2, 2, 2, 0, 0, 0, 1, 65, 66]
  let actions : List RecordingAction := List.flatten
    [List.replicate 11 (.recorder (.owner done)), [.read chunk, .callback clock, .handOver],
      List.replicate 3 (.recorder (.producer false)), [.goOn, .callback clock, .callback clock]]
  let cfg : RecordingConfig := ⟨⟨false, 0, fun _ => false⟩, 65536, 0, 4⟩
  have hrun : ((system cfg).exec (new cfg) actions).map (fun s =>
      (s.pc.held.length, s.pc.inFrame, s.monitor.stats.framesReceived,
        s.monitor.stats.crcErrors)) = some (1, true, 2, 1) := by decide +kernel
  obtain ⟨s, hexec, hs⟩ := Option.map_eq_some_iff.mp hrun
  simp only [Prod.mk.injEq] at hs
  obtain ⟨hheld, hframe, hreceived, hcrc⟩ := hs
  have hreach : (system cfg).Reachable s := StepSystem.reachable_of_exec (.init rfl) hexec
  obtain ⟨-, -, ⟨n, -, hzero, -, htotal⟩, -⟩ := frame_accounting cfg s hreach
  rw [hzero hframe, Nat.add_zero] at htotal
  exact ⟨cfg, s, hreach, hheld, hreceived, hcrc, htotal⟩

end Recording
end Lms
end AmigaDrivers
