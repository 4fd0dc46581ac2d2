import AmigaDrivers.Lms.FrameReceiverAccounts

/-!
# Well-formed streams

* `ColaBFrame`: a frame a sender may send, its checksum byte right or wrong.
* `nextToken_encode`, `nextToken_stray`: what one look decides about a frame, and about a stray
  `0x02` before one.
* `drains_items`: frames with strays between them drain to exactly these frames.
* `receive_streams`: so they are delivered, however the stream is split.
-/

namespace AmigaDrivers
namespace Lms

open FrameReceiver

/-- A CoLa B frame with a length that is accepted, and any checksum byte. -/
structure ColaBFrame (maxFrameSize : Nat) where
  data : List UInt8
  checksum : UInt8
  nonempty : 0 < data.length
  fits : data.length ≤ maxFrameSize
  encodable : data.length < 2 ^ 32

namespace ColaBFrame

variable {maxFrameSize : Nat} (f : ColaBFrame maxFrameSize)

/-- The bytes of the frame. -/
def encode : List UInt8 :=
  List.replicate stxSize 0x02 ++ (ByteUtil.storeBigU32 f.data.length ++ (f.data ++ [f.checksum]))

/-- What is delivered for the frame. -/
def raw : RawFrame where
  data := f.encode
  checksumValid := computeChecksum f.data == f.checksum

/-- The frame behind some stray bytes. -/
def encodeStray (item : Nat × ColaBFrame maxFrameSize) : List UInt8 :=
  List.replicate item.1 0x02 ++ item.2.encode

theorem length_encode : f.encode.length = headerSize + f.data.length + 1 := by
  simp [encode, headerSize, stxSize]
  omega

end ColaBFrame

/-! ## One look -/

variable {maxFrameSize : Nat}

theorem startsWithStx_replicate {n : Nat} (h : stxSize ≤ n) (l : List UInt8) :
    startsWithStx (List.replicate n 0x02 ++ l) = true := by
  obtain ⟨n, rfl⟩ := Nat.exists_eq_add_of_le h
  rw [← List.replicate_append_replicate, List.append_assoc]
  exact startsWithStx_append_of_true _ rfl

/-- A frame at the scan position is taken as it was sent. -/
theorem nextToken_encode (f : ColaBFrame maxFrameSize) (rest : List UInt8) :
    nextToken maxFrameSize (f.encode ++ rest) =
      .frame 0 f.encode.length (computeChecksum f.data == f.checksum) := by
  have hstx : startsWithStx (f.encode ++ rest) = true :=
    startsWithStx_append_of_true rest (startsWithStx_replicate (Nat.le_refl _) _)
  have hlength := f.length_encode
  have htotal : (f.encode ++ rest).length = headerSize + f.data.length + 1 + rest.length := by
    rw [List.length_append, hlength]
  have hload : ByteUtil.loadBigU32 ((f.encode ++ rest).drop stxSize) = f.data.length := by
    show ByteUtil.loadBigU32 (ByteUtil.storeBigU32 f.data.length ++ _ ++ rest) = _
    rw [List.append_assoc, ByteUtil.loadBigU32_storeBigU32 f.encodable]
  have hbody : (f.encode ++ rest).drop headerSize = f.data ++ ([f.checksum] ++ rest) := by
    show f.data ++ [f.checksum] ++ rest = _
    rw [List.append_assoc]
  have hchecksum : (f.encode ++ rest).getD (headerSize + f.data.length) 0 = f.checksum := by
    rw [List.getD_eq_getElem?_getD, ← List.getElem?_drop, hbody,
      List.getElem?_append_right (Nat.le_refl _), Nat.sub_self]
    rfl
  have hrange : ¬(f.data.length = 0 ∨ f.data.length > maxFrameSize) := by
    have hnonempty := f.nonempty
    have hfits := f.fits
    omega
  unfold nextToken
  rw [stxIndex_of_startsWithStx hstx]
  dsimp only
  rw [List.drop_zero, Token.shift_zero]
  unfold candidateToken
  dsimp only
  rw [if_neg (by omega), hload, if_neg hrange, if_neg (by omega), hbody, hchecksum,
    List.take_left, hlength]

/-- A stray byte before a frame makes a length no frame has. -/
theorem nextToken_stray (hmax : maxFrameSize < 0x02000000) (n : Nat) (f : ColaBFrame maxFrameSize)
    (rest : List UInt8) :
    nextToken maxFrameSize (ColaBFrame.encodeStray (n + 1, f) ++ rest) = .reject 0 headerSize := by
  obtain ⟨tail, hbytes, htail⟩ : ∃ tail, ColaBFrame.encodeStray (n + 1, f) ++ rest =
      List.replicate stxSize 0x02 ++ 0x02 :: tail ∧ 4 ≤ tail.length := by
    refine ⟨List.replicate n 0x02 ++
      (ByteUtil.storeBigU32 f.data.length ++ (f.data ++ [f.checksum])) ++ rest, ?_, ?_⟩
    · have hcount : n + 1 + stxSize = stxSize + 1 + n := by omega
      unfold ColaBFrame.encodeStray ColaBFrame.encode
      dsimp only
      rw [← List.append_assoc, List.replicate_append_replicate, hcount,
        ← List.replicate_append_replicate, ← List.replicate_append_replicate]
      simp only [List.append_assoc, List.replicate_one, List.cons_append, List.nil_append]
    · simp only [List.length_append, ByteUtil.length_storeBigU32]
      omega
  have hlength : (List.replicate stxSize (0x02 : UInt8) ++ 0x02 :: tail).length =
      stxSize + (tail.length + 1) := by
    rw [List.length_append, List.length_replicate, List.length_cons]
  have hload := ByteUtil.le_loadBigU32_cons 0x02 tail
  rw [hbytes]
  unfold nextToken
  rw [stxIndex_of_startsWithStx (startsWithStx_replicate (Nat.le_refl _) _)]
  dsimp only
  rw [List.drop_zero, Token.shift_zero]
  unfold candidateToken
  have hdrop : (List.replicate stxSize (0x02 : UInt8) ++ 0x02 :: tail).drop stxSize =
      0x02 :: tail := rfl
  have hword : (0x02 : UInt8).toNat = 2 := rfl
  rw [hword] at hload
  dsimp only
  rw [if_neg (by unfold headerSize; omega), hdrop, if_pos (.inr (by omega)),
    if_neg (by omega), Nat.add_zero]

/-! ## A stream -/

theorem Report.ofSkip_zero (covered : Nat) : Report.ofSkip 0 covered = {} := by
  rw [Report.ofSkip, Nat.zero_sub]

theorem Report.lengthErrors_succ (n : Nat) (report : Report) :
    ({ lengthErrors := 1 } : Report) ++ ({ lengthErrors := n } ++ report) =
      { lengthErrors := n + 1 } ++ report := by
  rw [← Report.append_assoc, Nat.add_comm n 1]
  rfl

/-- The report of a frame behind some stray bytes. -/
def itemReport (item : Nat × ColaBFrame maxFrameSize) : Report :=
  { lengthErrors := item.1 } ++ {
    frames := [item.2.raw]
    checksumErrors := if item.2.raw.checksumValid then 0 else 1 }

/-- Strays before a frame are rejected one by one, and the frame is delivered. -/
theorem drains_encodeStray {rest : List UInt8} {report : Report}
    (hrest : Drains maxFrameSize rest 0 report [] 0) (f : ColaBFrame maxFrameSize) (n : Nat)
    (hmax : n ≠ 0 → maxFrameSize < 0x02000000) (covered : Nat) :
    Drains maxFrameSize (ColaBFrame.encodeStray (n, f) ++ rest) covered
      (itemReport (n, f) ++ report) [] 0 := by
  induction n generalizing covered with
  | zero =>
    have hframe : Drains maxFrameSize _ covered _ [] 0 :=
      .frame (nextToken_encode f rest) (by rw [Nat.zero_add, List.drop_left]; exact hrest)
    rw [List.drop_zero, List.take_left, Report.ofSkip_zero, Report.nil_append] at hframe
    have hzero : itemReport (0, f) = {
        frames := [f.raw]
        checksumErrors := if f.raw.checksumValid then 0 else 1 } := Report.nil_append _
    rw [hzero]
    exact hframe
  | succ n ih =>
    have hreject : Drains maxFrameSize _ covered _ [] 0 :=
      .reject (nextToken_stray (hmax n.succ_ne_zero) n f rest) (ih (fun _ => hmax n.succ_ne_zero) _)
    rw [Report.ofSkip_zero, Report.nil_append] at hreject
    unfold itemReport at hreject ⊢
    rw [Report.append_assoc, Report.lengthErrors_succ, ← Report.append_assoc] at hreject
    exact hreject

/-- The report of a stream of frames with strays between them. -/
def itemsReport : List (Nat × ColaBFrame maxFrameSize) → Report
  | [] => {}
  | item :: items => itemReport item ++ itemsReport items

/-- The stream of frames with strays between them. -/
def encodeItems (items : List (Nat × ColaBFrame maxFrameSize)) : List UInt8 :=
  items.flatMap ColaBFrame.encodeStray

/-- **The stream drains to its frames.** -/
theorem drains_items (items : List (Nat × ColaBFrame maxFrameSize))
    (hmax : ∀ item ∈ items, item.1 ≠ 0 → maxFrameSize < 0x02000000) :
    Drains maxFrameSize (encodeItems items) 0 (itemsReport items) [] 0 := by
  induction items with
  | nil => exact .wait (nextToken_nil maxFrameSize)
  | cons item items ih =>
    have hitem := hmax item List.mem_cons_self
    have hrest := ih fun item hitem => hmax item (List.mem_cons_of_mem _ hitem)
    exact drains_encodeStray hrest item.2 item.1 hitem 0

theorem frames_itemsReport (items : List (Nat × ColaBFrame maxFrameSize)) :
    (itemsReport items).frames = items.map fun item => item.2.raw := by
  induction items with
  | nil => rfl
  | cons item items ih => exact congrArg (item.2.raw :: ·) ih

theorem lengthErrors_itemsReport (items : List (Nat × ColaBFrame maxFrameSize)) :
    (itemsReport items).lengthErrors = (items.map Prod.fst).sum := by
  induction items with
  | nil => rfl
  | cons item items ih =>
    rw [List.map_cons, List.sum_cons, ← ih]
    rfl

theorem garbageBytes_itemsReport (items : List (Nat × ColaBFrame maxFrameSize)) :
    (itemsReport items).garbageBytes = 0 := by
  induction items with
  | nil => rfl
  | cons item items ih =>
    show 0 + 0 + (itemsReport items).garbageBytes = 0
    rw [ih]

/-! ## Events -/

/-- A report of garbage is about some bytes, and the tail is only reported at the end. -/
def Proper : FrameEvent → Prop
  | .error .garbage first last _ => first < last
  | .error .incomplete _ _ _ => False
  | .error .lengthOutOfRange _ _ _ | .error .checksumMismatch _ _ _ | .frame _ _ => True

theorem proper_reportGarbage {r : FrameReceiver} (h : ∀ e ∈ r.events, Proper e) (first last : Nat) :
    ∀ e ∈ (r.reportGarbage first last).events, Proper e := by
  obtain ⟨hevents, -⟩ | ⟨hlt, hevents⟩ := reportGarbage_events_cases r first last
  · rw [hevents]
    exact h
  · intro e he
    rw [hevents] at he
    obtain he | he := List.mem_append.mp he
    · exact h e he
    · rw [List.mem_singleton.mp he]
      exact Nat.add_lt_add_left hlt _

theorem proper_rejectCandidate {r : FrameReceiver} (h : ∀ e ∈ r.events, Proper e)
    (pos extent : Nat) : ∀ e ∈ (r.rejectCandidate pos extent).events, Proper e := by
  intro e he
  obtain he | he := List.mem_append.mp he
  · exact h e he
  · rw [List.mem_singleton.mp he]
    trivial

theorem proper_deliverFrame {r : FrameReceiver} (h : ∀ e ∈ r.events, Proper e) (pos size : Nat)
    (valid : Bool) : ∀ e ∈ (r.deliverFrame pos size valid).events, Proper e := by
  obtain ⟨reports, hreports, -, hevents⟩ := deliverFrame_events_cases r pos size valid
  intro e he
  rw [hevents] at he
  obtain he | he := List.mem_append.mp he
  · obtain he | he := List.mem_append.mp he
    · exact h e he
    · obtain ⟨c, rfl⟩ := hreports e he
      trivial
  · rw [List.mem_singleton.mp he]
    trivial

theorem proper_scan (fuel : Nat) {r : FrameReceiver} (h : ∀ e ∈ r.events, Proper e) {pos : Nat}
    (hpos : pos ≤ r.writePos) : ∀ e ∈ (scan fuel r pos).1.events, Proper e := by
  induction fuel generalizing r pos with
  | zero => exact h
  | succ fuel ih =>
    have hwrite : r.writePos = r.buffer.length := rfl
    rw [scan_succ fuel r pos hpos]
    have hgarbage (last : Nat) := proper_reportGarbage h pos last
    cases htoken : nextToken r.maxFrameSize (r.buffer.drop pos) with
    | wait skip => exact hgarbage _
    | reject skip extent =>
      have hfit := (bounds_of_reject htoken).1
      rw [List.length_drop] at hfit
      refine ih (proper_rejectCandidate (hgarbage _) _ _) ?_
      rw [writePos, rejectCandidate_buffer, reportGarbage_buffer]
      omega
    | frame skip size valid =>
      have hfit := (bounds_of_frame htoken).1
      rw [List.length_drop] at hfit
      refine ih (proper_deliverFrame (hgarbage _) _ _ _) ?_
      rw [writePos, deliverFrame_buffer, reportGarbage_buffer]
      omega

theorem proper_feedAll {r : FrameReceiver} (h : ∀ e ∈ r.events, Proper e)
    (chunks : List (List UInt8)) : ∀ e ∈ (r.feedAll chunks).events, Proper e := by
  induction chunks generalizing r with
  | nil => exact h
  | cons chunk chunks ih =>
    refine ih ?_
    unfold feed
    split
    · exact h
    · dsimp only
      rw [compact_eq]
      exact proper_scan (r := { r with buffer := r.buffer ++ chunk }) _ h (Nat.zero_le _)

/-- Where no length and no garbage is counted, frames and wrong checksums are all there is. -/
theorem of_report {events : List FrameEvent} (h : ∀ e ∈ events, Proper e)
    (hlength : (Report.ofEvents events).lengthErrors = 0)
    (hgarbage : (Report.ofEvents events).garbageBytes = 0) :
    ∀ e ∈ events, ∃ first, (∃ frame, e = .frame first frame) ∨
      ∃ last n, e = .error .checksumMismatch first last n := by
  induction events with
  | nil => exact nofun
  | cons e events ih =>
    have hlength' : (Report.ofEvent e).lengthErrors + (Report.ofEvents events).lengthErrors = 0 :=
      hlength
    have hgarbage' : (Report.ofEvent e).garbageBytes + (Report.ofEvents events).garbageBytes = 0 :=
      hgarbage
    intro e' he'
    obtain rfl | he' := List.mem_cons.mp he'
    · have hproper := h _ List.mem_cons_self
      cases e' with
      | frame first frame => exact ⟨first, .inl ⟨frame, rfl⟩⟩
      | error error first last n =>
        cases error with
        | checksumMismatch => exact ⟨first, .inr ⟨last, n, rfl⟩⟩
        | incomplete => exact hproper.elim
        | lengthOutOfRange => exact absurd hlength' (by simp [Report.ofEvent])
        | garbage =>
          have hlt : first < last := hproper
          have hzero : last - first = 0 := (Nat.add_eq_zero_iff.mp hgarbage').1
          omega
    · exact ih (fun e he => h e (List.mem_cons_of_mem _ he)) (Nat.add_eq_zero_iff.mp hlength').2
        (Nat.add_eq_zero_iff.mp hgarbage').2 e' he'

/-! ## The receiver -/

/-- A stream and what stands behind it. -/
theorem frames_prefix {items : List (Nat × ColaBFrame maxFrameSize)} {tail : List UInt8}
    {chunks : List (List UInt8)} (hmax : ∀ item ∈ items, item.1 ≠ 0 → maxFrameSize < 0x02000000)
    (hchunks : chunks.flatten = encodeItems items ++ tail) :
    (Report.ofEvents ((new maxFrameSize).feedAll chunks).events) =
      itemsReport items ++ Report.ofEvents ((new maxFrameSize).feedAll [tail]).events ∧
    ((new maxFrameSize).feedAll chunks).buffer = ((new maxFrameSize).feedAll [tail]).buffer := by
  have hall := (drained_feedAll (drained_new maxFrameSize) chunks).drains
  have htail := (drained_feedAll (drained_new maxFrameSize) [tail]).drains
  rw [List.nil_append] at hall htail
  rw [List.flatten_singleton] at htail
  rw [hchunks] at hall
  obtain ⟨hreport, hbuffer, -⟩ := hall.deterministic ((drains_items items hmax).append htail)
  exact ⟨hreport, hbuffer⟩

/-- Frames are delivered in order, with what their checksum bytes say, and nothing else is reported
but a wrong checksum. -/
theorem receive_frames {frames : List (ColaBFrame maxFrameSize)} {chunks : List (List UInt8)}
    (hchunks : chunks.flatten = frames.flatMap ColaBFrame.encode) :
    (deliveredFrames (receive maxFrameSize chunks).events).map Prod.snd =
        frames.map ColaBFrame.raw ∧
      (∀ e ∈ (receive maxFrameSize chunks).events, ∃ first, (∃ frame, e = .frame first frame) ∨
        ∃ last n, e = .error .checksumMismatch first last n) ∧
      ((new maxFrameSize).feedAll chunks).writePos = 0 := by
  have hitems : encodeItems (frames.map fun f => (0, f)) = frames.flatMap ColaBFrame.encode := by
    unfold encodeItems
    rw [List.flatMap_map]
    rfl
  have hstream : chunks.flatten = encodeItems (frames.map fun f => (0, f)) ++ [] := by
    rw [hchunks, hitems, List.append_nil]
  obtain ⟨hreport, hbuffer⟩ := frames_prefix (by simp) hstream
  have hempty : ((new maxFrameSize).feedAll chunks).buffer = [] := hbuffer
  have hreport : Report.ofEvents ((new maxFrameSize).feedAll chunks).events =
      itemsReport (frames.map fun f => (0, f)) := hreport.trans (Report.append_nil _)
  have hevents : (receive maxFrameSize chunks).events =
      ((new maxFrameSize).feedAll chunks).events := by
    unfold receive
    rw [finish_events, if_pos hempty, List.append_nil]
  rw [hevents]
  have hproper := proper_feedAll (r := new maxFrameSize) (fun e he => nomatch he) chunks
  refine ⟨?_, of_report hproper ?_ ?_, congrArg List.length hempty⟩
  · rw [← frames_ofEvents, hreport, frames_itemsReport, List.map_map]
    rfl
  · have hzero : (Prod.fst ∘ fun f : ColaBFrame maxFrameSize => (0, f)) = fun _ => 0 := rfl
    rw [hreport, lengthErrors_itemsReport, List.map_map, hzero, List.map_const',
      List.sum_replicate_nat, Nat.mul_zero]
  · rw [hreport, garbageBytes_itemsReport]

/-- **Well-formed streams are delivered exactly.**  However the stream is split, the frames are
delivered in order, with what their checksum bytes say, nothing else is reported but a wrong
checksum, and nothing is left; and strays before a frame, where the limit excludes their length,
do not lose it. -/
theorem receive_streams (maxFrameSize : Nat) :
    (∀ (frames : List (ColaBFrame maxFrameSize)) (chunks : List (List UInt8)),
      chunks.flatten = frames.flatMap ColaBFrame.encode →
      (deliveredFrames (receive maxFrameSize chunks).events).map Prod.snd =
          frames.map ColaBFrame.raw ∧
        (∀ e ∈ (receive maxFrameSize chunks).events, ∃ first, (∃ frame, e = .frame first frame) ∨
          ∃ last n, e = .error .checksumMismatch first last n) ∧
        ((new maxFrameSize).feedAll chunks).writePos = 0) ∧
    (maxFrameSize < 0x02000000 →
      ∀ (items : List (Nat × ColaBFrame maxFrameSize)) (tail : List UInt8)
        (chunks : List (List UInt8)), chunks.flatten = encodeItems items ++ tail →
        (items.map fun item => item.2.raw) <+:
          (deliveredFrames (receive maxFrameSize chunks).events).map Prod.snd) := by
  constructor
  · exact fun frames chunks hchunks => receive_frames hchunks
  · intro hmax items tail chunks hchunks
    obtain ⟨hreport, -⟩ := frames_prefix (fun _ _ _ => hmax) hchunks
    unfold receive
    rw [deliveredFrames_finish, ← frames_ofEvents, hreport]
    refine ⟨(Report.ofEvents ((new maxFrameSize).feedAll [tail]).events).frames, ?_⟩
    rw [← frames_itemsReport]
    rfl

/-- A start inside the data, two strays and a split inside a start. -/
theorem receive_streams_of_inner_start :
    let f : ColaBFrame 64 := ⟨[0x02, 0x02, 0x02, 0x02, 0x00], 0x00, by decide, by decide, by decide⟩
    let g : ColaBFrame 64 := ⟨[0x07], 0x01, by decide, by decide, by decide⟩
    (deliveredFrames (receive 64
        [(f.encode ++ g.encode).take 3, (f.encode ++ g.encode).drop 3]).events).map Prod.snd =
      [⟨f.encode, true⟩, ⟨g.encode, false⟩] ∧
    [⟨f.encode, true⟩] <+: (deliveredFrames
      (receive 64 [[0x02, 0x02] ++ f.encode ++ [0x02]]).events).map Prod.snd := by
  intro f g
  refine ⟨((receive_streams 64).1 [f, g] _ ?_).1, ?_⟩
  · rfl
  · exact (receive_streams 64).2 (by decide) [(2, f)] [0x02] _ rfl

end Lms
end AmigaDrivers
