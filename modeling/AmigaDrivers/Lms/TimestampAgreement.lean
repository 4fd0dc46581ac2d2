import AmigaDrivers.Lms.ScanDataParser

/-!
# The two walks over a scan telegram agree

`ParseTimestamp` skips what `Parse` decodes.  The comparison goes section by section:
`Mirrors` says that a skipping step moves exactly like the decoding section, and that
the section can only fail where a count is beyond its limit.

* `Mirrors.bind`: sections in a row mirror steps in a row.
* `mirrors_encoder`, `mirrors_channels`, `mirrors_positionAndName`: the sections, and
  `mirrors_body`, all of them in a row.
* `parse_parseTimestamp_agree`: the two walks.
-/

namespace AmigaDrivers
namespace Lms

open ByteCursor

/-- The counters and clocks of a scan, which are all a later scan is looked at for. -/
structure ScanTiming where
  telegramCounter : Nat
  scanCounter : Nat
  timeSinceStartupUs : Nat
  transmissionTimeUs : Nat
  hasTimestamp : Bool
  timestamp : ScanTimestamp
  deriving DecidableEq, Repr

/-- The counters and clocks of `scan`. -/
def ScanData.timing (scan : ScanData) : ScanTiming where
  telegramCounter := scan.telegramCounter
  scanCounter := scan.scanCounter
  timeSinceStartupUs := scan.timeSinceStartupUs
  transmissionTimeUs := scan.transmissionTimeUs
  hasTimestamp := scan.hasTimestamp
  timestamp := scan.timestamp

namespace ScanDataParser

/-- Every count met is within the limit `Parse` puts on it. -/
def WithinLimits (met : List Count) : Prop := ∀ count ∈ met, count.value ≤ count.kind.limit

instance (met : List Count) : Decidable (WithinLimits met) :=
  inferInstanceAs (Decidable (∀ count ∈ met, count.value ≤ count.kind.limit))

theorem WithinLimits.of_prefix {met more : List Count} (h : WithinLimits more)
    (hle : met <+: more) : WithinLimits met :=
  fun count hcount => h count (hle.subset hcount)

/-- The count noted last is within its limit. -/
theorem WithinLimits.last {met : List Count} {count : Count} (h : WithinLimits (met ++ [count])) :
    count.value ≤ count.kind.limit :=
  h count (List.mem_append_right _ (List.mem_singleton.mpr rfl))

/-! ## Mirrored sections -/

/-- The skipping step moves like the decoding section, which leaves the clocks alone and
fails only for a count beyond its limit. -/
structure Mirrors (decode : ScanData → Parser ScanData) (skipping : Parser Unit) : Prop where
  skips : ∀ {out out' : ScanData} {c c' : Reader}, decode out c = .ok (out', c') →
    skipping c = .ok ((), c') ∧ out'.timing = out.timing
  decodes : ∀ (out : ScanData) {c c' : Reader}, skipping c = .ok ((), c') →
    WithinLimits c'.noted → ∃ out', decode out c = .ok (out', c')
  keepsNotes : KeepsNotes skipping

/-- Sections in a row mirror steps in a row. -/
theorem Mirrors.bind {decode decode' : ScanData → Parser ScanData}
    {skipping skipping' : Parser Unit} (h : Mirrors decode skipping)
    (h' : Mirrors decode' skipping') :
    Mirrors (fun out => decode out >>= decode') (skipping >>= fun _ => skipping') where
  skips := by
    intro out out'' c c'' hdecode
    obtain ⟨out', c', hfirst, hsecond⟩ := bind_eq_ok.mp hdecode
    obtain ⟨hskip, htiming⟩ := h.skips hfirst
    obtain ⟨hskip', htiming'⟩ := h'.skips hsecond
    exact ⟨bind_eq_ok.mpr ⟨(), c', hskip, hskip'⟩, htiming'.trans htiming⟩
  decodes := by
    intro out c c'' hskip hlimits
    obtain ⟨⟨⟩, c', hfirst, hsecond⟩ := bind_eq_ok.mp hskip
    obtain ⟨out', hout'⟩ :=
      h.decodes out hfirst (hlimits.of_prefix (h'.keepsNotes hsecond))
    obtain ⟨out'', hout''⟩ := h'.decodes out' hsecond hlimits
    exact ⟨out'', bind_eq_ok.mpr ⟨out', c', hout', hout''⟩⟩
  keepsNotes := keepsNotes_bind h.keepsNotes fun _ => h'.keepsNotes

/-! ## Counts -/

/-- A count is read, and noted. -/
theorem readCount_bind {β : Type} {kind : CountKind} {f : Nat → Parser β} {c : Reader}
    (h : c.HasBytes 2) :
    (readCount kind >>= f) c =
      f (ByteUtil.loadBigU16 (c.rest.take 2))
        ((c.advance 2).note ⟨kind, ByteUtil.loadBigU16 (c.rest.take 2)⟩) := by
  refine bind_of_ok ?_
  unfold readCount readUint16
  rw [read_bind h]
  rfl

theorem keepsNotes_readCount (kind : CountKind) : KeepsNotes (readCount kind) :=
  keepsNotes_bind (keepsNotes_read _ _) fun _ =>
    keepsNotes_bind (keepsNotes_note _) fun _ => keepsNotes_pure _

/-- `kind`'s count is read and the walk goes on behind it. -/
theorem readCount_bind_eq_ok {β : Type} {kind : CountKind} {f : Nat → Parser β} {c c' : Reader}
    {b : β} :
    (require 2 .frameTooShort >>= fun _ => readCount kind >>= f) c = .ok (b, c') ↔
      c.HasBytes 2 ∧
        f (ByteUtil.loadBigU16 (c.rest.take 2))
          ((c.advance 2).note ⟨kind, ByteUtil.loadBigU16 (c.rest.take 2)⟩) = .ok (b, c') := by
  rw [require_bind_eq_ok]
  refine and_congr_right fun h => ?_
  rw [readCount_bind h]

/-! ## The fixed header -/

/-- The timing read from the fixed header at `c`. -/
def headerTiming (c : Reader) (timing : ScanTiming) : ScanTiming :=
  { timing with
    telegramCounter := ByteUtil.loadBigU16 ((c.advance 10).rest.take 2)
    scanCounter := ByteUtil.loadBigU16 ((c.advance 12).rest.take 2)
    timeSinceStartupUs := ByteUtil.loadBigU32 ((c.advance 14).rest.take 4)
    transmissionTimeUs := ByteUtil.loadBigU32 ((c.advance 18).rest.take 4) }

theorem parseDeviceInfo_of_hasBytes (out : ScanData) {c : Reader} (h : c.HasBytes 28) :
    ∃ out', parseDeviceInfo out c = .ok (out', c.advance 28) ∧
      out'.timing = headerTiming c out.timing := by
  unfold parseDeviceInfo readUint16 readUint32 readUint8
  simp (disch := first | omega | (rw [Cursor.hasBytes_advance]; omega)) only
    [require_bind, read_bind, skip_bind, Cursor.advance_advance, pure_apply, Nat.reduceAdd]
  exact ⟨_, rfl, rfl⟩

theorem parseFrequency_of_hasBytes (out : ScanData) {c : Reader} (h : c.HasBytes 8) :
    ∃ out', parseFrequency out c = .ok (out', c.advance 8) ∧ out'.timing = out.timing := by
  unfold parseFrequency readUint32
  simp (disch := first | omega | (rw [Cursor.hasBytes_advance]; omega)) only
    [require_bind, read_bind, Cursor.advance_advance, pure_apply, Nat.reduceAdd]
  exact ⟨_, rfl, rfl⟩

theorem timestampHeader_of_hasBytes (out : ScanData) {c : Reader} (h : c.HasBytes 36) :
    ∃ out', timestampHeader out c = .ok (out', c.advance 36) ∧
      out'.timing = headerTiming c out.timing := by
  unfold timestampHeader readUint16 readUint32
  simp (disch := first | omega | (rw [Cursor.hasBytes_advance]; omega)) only
    [require_bind, read_bind, skip_bind, Cursor.advance_advance, pure_apply, Nat.reduceAdd]
  exact ⟨_, rfl, rfl⟩

/-! ## Encoders -/

/-- The encoder loop consumes six bytes a block. -/
theorem parseEncoderBlocks_eq_ok (count : Nat) :
    ∀ (i : Nat) (out : ScanData) {c : Reader}, c.HasBytes (count * 6) →
      ∃ out', parseEncoderBlocks count i out c = .ok (out', c.advance (count * 6)) ∧
        out'.timing = out.timing := by
  induction count with
  | zero =>
    intro i out c _
    exact ⟨out, by rw [Nat.zero_mul, Cursor.advance_zero]; rfl, rfl⟩
  | succ count ih =>
    intro i out c h
    have hone : c.HasBytes 6 := h.mono (by omega)
    have hsplit : (count + 1) * 6 = 6 + count * 6 := by omega
    rw [hsplit] at h ⊢
    have htail := (Cursor.hasBytes_advance c 6 (count * 6)).mpr h
    obtain ⟨out', hout', htiming⟩ := ih (i + 1)
      (if i = 0 then { out with encoder := { position := ByteUtil.loadBigU32 (c.rest.take 4) } }
        else out) htail
    refine ⟨out', ?_, ?_⟩
    · unfold parseEncoderBlocks readUint32
      rw [Cursor.advance_advance] at hout'
      rw [require_bind hone, read_bind (hone.mono (by omega)), skip_bind, Cursor.advance_advance]
      exact hout'
    · rw [htiming]
      split <;> rfl

/-- Where the encoder loop succeeds, its blocks are there. -/
theorem hasBytes_of_parseEncoderBlocks (count : Nat) :
    ∀ {i : Nat} {out out' : ScanData} {c c' : Reader}, c.HasBytes 0 →
      parseEncoderBlocks count i out c = .ok (out', c') → c.HasBytes (count * 6) := by
  induction count with
  | zero =>
    intro i out out' c c' h0 _
    rwa [Nat.zero_mul]
  | succ count ih =>
    intro i out out' c c' _ h
    unfold parseEncoderBlocks readUint32 at h
    obtain ⟨hone, h⟩ := require_bind_eq_ok.mp h
    rw [read_bind (hone.mono (by omega)), skip_bind, Cursor.advance_advance] at h
    have htail := ih ((Cursor.hasBytes_advance c 6 0).mpr hone) h
    have hsplit : (count + 1) * 6 = 6 + count * 6 := by omega
    rw [hsplit]
    exact (Cursor.hasBytes_advance c 6 (count * 6)).mp htail

theorem mirrors_encoder : Mirrors parseEncoder skipEncoders where
  skips := by
    intro out out' c c' h
    unfold parseEncoder at h
    obtain ⟨htwo, h⟩ := readCount_bind_eq_ok.mp h
    obtain ⟨-, h⟩ := guardOr_bind_eq_ok.mp h
    have hzero := (Cursor.hasBytes_advance c 2 0).mpr htwo
    have hblocks := hasBytes_of_parseEncoderBlocks _ ((Cursor.hasBytes_note _ _ 0).mpr hzero) h
    obtain ⟨out'', hout'', htiming⟩ := parseEncoderBlocks_eq_ok _ 0
      { out with hasEncoder := decide (ByteUtil.loadBigU16 (c.rest.take 2) > 0) } hblocks
    obtain ⟨rfl, rfl⟩ := Prod.mk.inj (Except.ok.inj (hout''.symm.trans h))
    refine ⟨?_, htiming⟩
    unfold skipEncoders
    refine readCount_bind_eq_ok.mpr ⟨htwo, ?_⟩
    rw [require_bind hblocks]
    rfl
  decodes := by
    intro out c c' h hlimits
    unfold skipEncoders at h
    obtain ⟨htwo, h⟩ := readCount_bind_eq_ok.mp h
    obtain ⟨hblocks, h⟩ := require_bind_eq_ok.mp h
    obtain ⟨-, rfl⟩ := Prod.mk.inj (Except.ok.inj h)
    obtain ⟨out', hout', -⟩ := parseEncoderBlocks_eq_ok _ 0
      { out with hasEncoder := decide (ByteUtil.loadBigU16 (c.rest.take 2) > 0) } hblocks
    refine ⟨out', ?_⟩
    unfold parseEncoder
    refine readCount_bind_eq_ok.mpr ⟨htwo, ?_⟩
    rw [guardOr_bind hlimits.last]
    exact hout'
  keepsNotes :=
    keepsNotes_bind (keepsNotes_require _ _) fun _ =>
      keepsNotes_bind (keepsNotes_readCount _) fun _ =>
        keepsNotes_bind (keepsNotes_require _ _) fun _ => keepsNotes_skip _

/-! ## Channels -/

/-- The bytes of a channel whose header stands at `c`. -/
def samplesAt (c : Reader) : Nat := ByteUtil.loadBigU16 ((c.advance 19).rest.take 2)

/-- The cursor behind the channel at `c`. -/
def behindChannel (sampleBytes : Nat) (c : Reader) : Reader :=
  ((c.advance 21).note ⟨.points, samplesAt c⟩).advance (samplesAt c * sampleBytes)

/-- The two's complement value of four bytes. -/
def int32Of (p : List UInt8) : Int :=
  if ByteUtil.loadBigU32 p < 2 ^ 31 then (ByteUtil.loadBigU32 p : Int)
  else (ByteUtil.loadBigU32 p : Int) - 2 ^ 32

section Channel

variable {Content Sample : Type} (identifyChannel : List UInt8 → Content) (sampleBytes : Nat)
  (decodeSample : List UInt8 → Sample)

/-- The channel with the header at `c` and the samples `data`. -/
def channelAt (c : Reader) (data : List Sample) : ChannelData Content Sample where
  content := identifyChannel (c.rest.take 5)
  scaleFactor := ByteUtil.loadBigU32 ((c.advance 5).rest.take 4)
  scaleOffset := ByteUtil.loadBigU32 ((c.advance 9).rest.take 4)
  startAngle := int32Of ((c.advance 13).rest.take 4)
  angleStep := ByteUtil.loadBigU16 ((c.advance 17).rest.take 2)
  numData := samplesAt c
  data := data

/-- The header of a channel is read as a whole. -/
theorem parseChannel_eq (c : Reader) (h : c.HasBytes channelHeaderSize) :
    parseChannel identifyChannel sampleBytes (read sampleBytes decodeSample) c =
      (do
        guardOr (fun _ => samplesAt c ≤ maxPointsPerScan) .protocolError
        require (samplesAt c * sampleBytes) .frameTooShort
        let data ← times (samplesAt c) (read sampleBytes decodeSample)
        pure (channelAt identifyChannel c data) : Parser (ChannelData Content Sample))
      ((c.advance 21).note ⟨.points, samplesAt c⟩) := by
  unfold channelHeaderSize at h
  unfold parseChannel channelHeaderSize readString readFloat readInt32 readUint16
  simp (disch := first | omega | (rw [Cursor.hasBytes_advance]; omega)) only
    [require_bind, read_bind, readCount_bind, Cursor.advance_advance, Nat.reduceAdd]
  rfl

/-- A channel with few enough points and all its bytes is decoded. -/
theorem parseChannel_of_hasBytes {c : Reader} (h : c.HasBytes channelHeaderSize)
    (hpoints : samplesAt c ≤ maxPointsPerScan)
    (hbytes : (c.advance 21).HasBytes (samplesAt c * sampleBytes)) :
    ∃ ch, parseChannel identifyChannel sampleBytes (read sampleBytes decodeSample) c =
      .ok (ch, behindChannel sampleBytes c) := by
  have hnoted := (Cursor.hasBytes_note (c.advance 21) ⟨.points, samplesAt c⟩ _).mpr hbytes
  obtain ⟨data, hdata, -⟩ := times_read_of_hasBytes (samplesAt c) hnoted
  refine ⟨channelAt identifyChannel c data, ?_⟩
  rw [parseChannel_eq identifyChannel sampleBytes decodeSample c h, guardOr_bind hpoints,
    require_bind hnoted, bind_of_ok hdata]
  rfl

/-- A channel that is decoded has few enough points and all its bytes. -/
theorem of_parseChannel {c c' : Reader} {ch : ChannelData Content Sample}
    (h : parseChannel identifyChannel sampleBytes (read sampleBytes decodeSample) c =
      .ok (ch, c')) :
    c.HasBytes channelHeaderSize ∧ samplesAt c ≤ maxPointsPerScan ∧
      (c.advance 21).HasBytes (samplesAt c * sampleBytes) ∧ c' = behindChannel sampleBytes c := by
  have hheader : c.HasBytes channelHeaderSize := by
    unfold parseChannel at h
    exact (require_bind_eq_ok.mp h).1
  rw [parseChannel_eq identifyChannel sampleBytes decodeSample c hheader] at h
  obtain ⟨hpoints, h⟩ := guardOr_bind_eq_ok.mp h
  obtain ⟨hbytes, h⟩ := require_bind_eq_ok.mp h
  obtain ⟨data, hdata, -⟩ := times_read_of_hasBytes (samplesAt c) hbytes
  rw [bind_of_ok hdata] at h
  obtain ⟨-, hc⟩ := Prod.mk.inj (Except.ok.inj h)
  exact ⟨hheader, hpoints, hbytes, hc.symm⟩

end Channel

/-- One turn of the inner loop of `ParseTimestamp`. -/
theorem skipChannelList_succ_eq_ok {sampleBytes count : Nat} {c c' : Reader} :
    skipChannelList sampleBytes (count + 1) c = .ok ((), c') ↔
      c.HasBytes channelHeaderSize ∧
        (c.advance 21).HasBytes (samplesAt c * sampleBytes) ∧
          skipChannelList sampleBytes count (behindChannel sampleBytes c) = .ok ((), c') := by
  rw [skipChannelList, require_bind_eq_ok]
  refine and_congr_right fun h => ?_
  have hcount : (c.advance 19).HasBytes 2 := (Cursor.hasBytes_advance c 19 2).mpr h
  rw [skip_bind, readCount_bind hcount, require_bind_eq_ok, Cursor.advance_advance]
  exact Iff.rfl

theorem keepsNotes_skipChannelList (sampleBytes count : Nat) :
    KeepsNotes (skipChannelList sampleBytes count) := by
  induction count with
  | zero => exact keepsNotes_pure _
  | succ count ih =>
    exact keepsNotes_bind (keepsNotes_require _ _) fun _ =>
      keepsNotes_bind (keepsNotes_skip _) fun _ =>
        keepsNotes_bind (keepsNotes_readCount _) fun _ =>
          keepsNotes_bind (keepsNotes_require _ _) fun _ =>
            keepsNotes_bind (keepsNotes_skip _) fun _ => ih

section ChannelList

variable {Content Sample : Type} {identifyChannel : List UInt8 → Content} {sampleBytes : Nat}
  {decodeSample : List UInt8 → Sample}
  {pushBack : ScanData → ChannelData Content Sample → ScanData}

/-- The decoding loop moves like the skipping loop, and its channels need a header each. -/
theorem skips_channelList (hpush : ∀ out ch, (pushBack out ch).timing = out.timing) (count : Nat) :
    ∀ {out out' : ScanData} {c c' : Reader},
      parseChannelList (parseChannel identifyChannel sampleBytes (read sampleBytes decodeSample))
          pushBack count out c = .ok (out', c') →
        skipChannelList sampleBytes count c = .ok ((), c') ∧ out'.timing = out.timing ∧
          count * 21 ≤ c.remaining := by
  induction count with
  | zero =>
    intro out out' c c' h
    obtain ⟨rfl, rfl⟩ := Prod.mk.inj (Except.ok.inj h)
    exact ⟨rfl, rfl, by omega⟩
  | succ count ih =>
    intro out out' c c' h
    obtain ⟨ch, d, hch, htail⟩ := bind_eq_ok.mp h
    obtain ⟨hheader, -, hbytes, rfl⟩ := of_parseChannel _ _ _ hch
    obtain ⟨hskip, htiming, hleft⟩ := ih htail
    refine ⟨skipChannelList_succ_eq_ok.mpr ⟨hheader, hbytes, hskip⟩,
      htiming.trans (hpush out ch), ?_⟩
    have hremaining : (behindChannel sampleBytes c).remaining ≤ c.remaining - 21 := by
      unfold behindChannel
      rw [Cursor.remaining_advance, Cursor.remaining_note, Cursor.remaining_advance]
      exact Nat.sub_le _ _
    have hle := hheader.le_remaining
    unfold channelHeaderSize at hle
    omega

/-- Where the skipping loop goes through and every channel has few enough points, the
decoding loop goes through. -/
theorem decodes_channelList (count : Nat) :
    ∀ (out : ScanData) {c c' : Reader}, skipChannelList sampleBytes count c = .ok ((), c') →
      WithinLimits c'.noted →
        ∃ out', parseChannelList
          (parseChannel identifyChannel sampleBytes (read sampleBytes decodeSample))
          pushBack count out c = .ok (out', c') := by
  induction count with
  | zero =>
    intro out c c' h _
    obtain ⟨-, rfl⟩ := Prod.mk.inj (Except.ok.inj h)
    exact ⟨out, rfl⟩
  | succ count ih =>
    intro out c c' h hlimits
    obtain ⟨hheader, hbytes, hskip⟩ := skipChannelList_succ_eq_ok.mp h
    have hnoted : WithinLimits (c.noted ++ [⟨.points, samplesAt c⟩]) :=
      hlimits.of_prefix (keepsNotes_skipChannelList _ _ hskip)
    obtain ⟨ch, hch⟩ := parseChannel_of_hasBytes identifyChannel sampleBytes decodeSample hheader
      hnoted.last hbytes
    obtain ⟨out', hout'⟩ := ih (pushBack out ch) hskip hlimits
    exact ⟨out', bind_eq_ok.mpr ⟨ch, _, hch, hout'⟩⟩

/-- A channel section. -/
theorem mirrors_channels (kind : CountKind)
    (hpush : ∀ out ch, (pushBack out ch).timing = out.timing) :
    Mirrors
      (parseChannels kind kind.limit
        (parseChannel identifyChannel sampleBytes (read sampleBytes decodeSample)) pushBack)
      (skipChannels kind sampleBytes) where
  skips := by
    intro out out' c c' h
    unfold parseChannels at h
    obtain ⟨htwo, h⟩ := readCount_bind_eq_ok.mp h
    obtain ⟨-, h⟩ := guardOr_bind_eq_ok.mp h
    obtain ⟨hskip, htiming, hleft⟩ := skips_channelList hpush _ h
    refine ⟨?_, htiming⟩
    unfold skipChannels
    refine readCount_bind_eq_ok.mpr ⟨htwo, guardOr_bind_eq_ok.mpr ⟨?_, hskip⟩⟩
    rw [Nat.not_lt, Nat.le_div_iff_mul_le (by omega)]
    exact hleft
  decodes := by
    intro out c c' h hlimits
    unfold skipChannels at h
    obtain ⟨htwo, h⟩ := readCount_bind_eq_ok.mp h
    obtain ⟨-, h⟩ := guardOr_bind_eq_ok.mp h
    obtain ⟨out', hout'⟩ := decodes_channelList _ out h hlimits
    refine ⟨out', ?_⟩
    unfold parseChannels
    refine readCount_bind_eq_ok.mpr ⟨htwo, guardOr_bind_eq_ok.mpr ⟨?_, hout'⟩⟩
    exact (hlimits.of_prefix (keepsNotes_skipChannelList _ _ h)).last
  keepsNotes :=
    keepsNotes_bind (keepsNotes_require _ _) fun _ =>
      keepsNotes_bind (keepsNotes_readCount _) fun _ =>
        keepsNotes_bind (keepsNotes_guardOr _ _) fun _ => keepsNotes_skipChannelList _ _

end ChannelList

theorem mirrors_channels16bit : Mirrors parseChannels16bit (skipChannels .channels16bit 2) :=
  mirrors_channels .channels16bit fun _ _ => rfl

theorem mirrors_channels8bit : Mirrors parseChannels8bit (skipChannels .channels8bit 1) :=
  mirrors_channels .channels8bit fun _ _ => rfl

/-! ## Position and device name -/

theorem mirrors_presentDeviceName : Mirrors parsePresentDeviceName skipPresentDeviceName where
  skips := by
    intro out out' c c' h
    unfold parsePresentDeviceName at h
    unfold skipPresentDeviceName
    obtain ⟨htwo, h⟩ := readCount_bind_eq_ok.mp h
    obtain ⟨-, h⟩ := guardOr_bind_eq_ok.mp h
    obtain ⟨hbytes, h⟩ := require_bind_eq_ok.mp h
    unfold readString at h
    rw [read_bind hbytes] at h
    obtain ⟨rfl, rfl⟩ := Prod.mk.inj (Except.ok.inj h)
    refine ⟨readCount_bind_eq_ok.mpr ⟨htwo, ?_⟩, rfl⟩
    rw [require_bind hbytes]
    rfl
  decodes := by
    intro out c c' h hlimits
    unfold skipPresentDeviceName at h
    unfold parsePresentDeviceName
    obtain ⟨htwo, h⟩ := readCount_bind_eq_ok.mp h
    obtain ⟨hbytes, h⟩ := require_bind_eq_ok.mp h
    obtain ⟨-, rfl⟩ := Prod.mk.inj (Except.ok.inj h)
    unfold readString
    rw [require_bind htwo, readCount_bind htwo, guardOr_bind hlimits.last, require_bind hbytes,
      read_bind hbytes]
    exact ⟨_, rfl⟩
  keepsNotes :=
    keepsNotes_bind (keepsNotes_require _ _) fun _ =>
      keepsNotes_bind (keepsNotes_readCount _) fun _ =>
        keepsNotes_bind (keepsNotes_require _ _) fun _ => keepsNotes_skip _

theorem parsePosition_of_hasBytes (out : ScanData) {c : Reader} (h : c.HasBytes 4) :
    parsePosition out c =
      .ok ({ out with yRotation := ByteUtil.loadBigU32 (c.rest.take 4) }, c.advance 4) := by
  unfold parsePosition readFloat
  rw [require_bind h, read_bind h]
  rfl

/-- The flag decides whether a name follows. -/
theorem parseDeviceName_of_hasBytes (out : ScanData) {c : Reader} (h : c.HasBytes 2)
    (hflag : ByteUtil.loadBigU16 (c.rest.take 2) ≤ 1) :
    parseDeviceName out c =
      (if ByteUtil.loadBigU16 (c.rest.take 2) = 1 then
        parsePresentDeviceName { out with hasDeviceName := true }
      else
        pure { out with hasDeviceName := false }) (c.advance 2) := by
  unfold parseDeviceName readUint16
  rw [require_bind h, read_bind h, guardOr_bind hflag]
  by_cases hset : ByteUtil.loadBigU16 (c.rest.take 2) = 1
  · simp only [hset, if_true, decide_true]
  · simp only [hset, if_false, decide_false]

/-- The two tests for four and for two bytes are the one test for six. -/
theorem mirrors_positionAndName :
    Mirrors (fun out => parsePosition out >>= parseDeviceName) skipPositionAndName where
  skips := by
    intro out out' c c' h
    obtain ⟨out₁, d, hposition, hname⟩ := bind_eq_ok.mp h
    have hfour : c.HasBytes 4 := by
      unfold parsePosition at hposition
      exact (require_bind_eq_ok.mp hposition).1
    rw [parsePosition_of_hasBytes out hfour] at hposition
    obtain ⟨rfl, rfl⟩ := Prod.mk.inj (Except.ok.inj hposition)
    obtain ⟨htwo, hflag⟩ : (c.advance 4).HasBytes 2 ∧
        ByteUtil.loadBigU16 ((c.advance 4).rest.take 2) ≤ 1 := by
      unfold parseDeviceName readUint16 at hname
      obtain ⟨htwo, hname⟩ := require_bind_eq_ok.mp hname
      rw [read_bind htwo] at hname
      exact ⟨htwo, (guardOr_bind_eq_ok.mp hname).1⟩
    rw [parseDeviceName_of_hasBytes _ htwo hflag] at hname
    unfold skipPositionAndName readUint16
    rw [require_bind ((Cursor.hasBytes_advance c 4 2).mp htwo), skip_bind, read_bind htwo,
      guardOr_bind (Nat.not_lt.mpr hflag)]
    by_cases hset : ByteUtil.loadBigU16 ((c.advance 4).rest.take 2) = 1
    · rw [if_pos hset] at hname ⊢
      obtain ⟨hskip, htiming⟩ := mirrors_presentDeviceName.skips hname
      exact ⟨hskip, htiming⟩
    · rw [if_neg hset] at hname ⊢
      obtain ⟨rfl, rfl⟩ := Prod.mk.inj (Except.ok.inj hname)
      exact ⟨rfl, rfl⟩
  decodes := by
    intro out c c' h hlimits
    unfold skipPositionAndName readUint16 at h
    obtain ⟨hsix, h⟩ := require_bind_eq_ok.mp h
    have htwo : (c.advance 4).HasBytes 2 := (Cursor.hasBytes_advance c 4 2).mpr hsix
    rw [skip_bind, read_bind htwo] at h
    obtain ⟨hflag, h⟩ := guardOr_bind_eq_ok.mp h
    rw [bind_of_ok (parsePosition_of_hasBytes out (hsix.mono (by omega))),
      parseDeviceName_of_hasBytes _ htwo (Nat.not_lt.mp hflag)]
    by_cases hset : ByteUtil.loadBigU16 ((c.advance 4).rest.take 2) = 1
    · rw [if_pos hset] at h ⊢
      exact mirrors_presentDeviceName.decodes _ h hlimits
    · rw [if_neg hset] at h ⊢
      obtain ⟨-, rfl⟩ := Prod.mk.inj (Except.ok.inj h)
      exact ⟨_, rfl⟩
  keepsNotes :=
    keepsNotes_bind (keepsNotes_require _ _) fun _ =>
      keepsNotes_bind (keepsNotes_skip _) fun _ =>
        keepsNotes_bind (keepsNotes_read _ _) fun _ =>
          keepsNotes_bind (keepsNotes_guardOr _ _) fun _ => by
            split
            · exact mirrors_presentDeviceName.keepsNotes
            · exact keepsNotes_pure _

/-! ## The timestamp block and the end -/

/-- The block reads the same timestamp whatever stood in the other fields. -/
theorem parseTimestampBlock_timing {out out' : ScanData} {c c' : Reader}
    (h : parseTimestampBlock out c = .ok (out', c')) (other : ScanData)
    (htiming : other.timing = out.timing) :
    ∃ other', parseTimestampBlock other c = .ok (other', c') ∧ other'.timing = out'.timing := by
  unfold parseTimestampBlock readUint16 readUint8 readUint32 at h ⊢
  simp only [ScanData.timing, ScanTiming.mk.injEq] at htiming
  obtain ⟨htelegram, hscan, hstartup, htransmission, -, htimestamp⟩ := htiming
  obtain ⟨htwo, h⟩ := require_bind_eq_ok.mp h
  rw [read_bind htwo] at h
  obtain ⟨hflag, h⟩ := guardOr_bind_eq_ok.mp h
  rw [require_bind htwo, read_bind htwo, guardOr_bind hflag]
  by_cases hset : ByteUtil.loadBigU16 (c.rest.take 2) = 1
  · rw [if_pos hset] at h ⊢
    obtain ⟨heleven, h⟩ := require_bind_eq_ok.mp h
    rw [require_bind heleven]
    rw [Cursor.hasBytes_advance] at heleven
    simp (disch := (rw [Cursor.hasBytes_advance]; omega)) only
      [read_bind, Cursor.advance_advance, Nat.reduceAdd] at h ⊢
    obtain ⟨rfl, rfl⟩ := Prod.mk.inj (Except.ok.inj h)
    refine ⟨_, rfl, ?_⟩
    simp only [ScanData.timing, htelegram, hscan, hstartup, htransmission]
  · rw [if_neg hset] at h ⊢
    obtain ⟨rfl, rfl⟩ := Prod.mk.inj (Except.ok.inj h)
    refine ⟨_, rfl, ?_⟩
    simp only [ScanData.timing, htelegram, hscan, hstartup, htransmission, htimestamp]

/-- The look at the time flag sees what the block will see. -/
theorem peekTimeFlag_of_parseTimestampBlock {out out' : ScanData} {c c' : Reader}
    (h : parseTimestampBlock out c = .ok (out', c')) : peekTimeFlag c = .ok ((), c) := by
  unfold parseTimestampBlock readUint16 at h
  obtain ⟨htwo, h⟩ := require_bind_eq_ok.mp h
  rw [read_bind htwo] at h
  obtain ⟨hflag, -⟩ := guardOr_bind_eq_ok.mp h
  unfold peekTimeFlag
  rw [require_bind htwo]
  exact if_pos (Nat.not_lt.mpr hflag)

theorem peekTimeFlag_eq_ok {c c' : Reader} (h : peekTimeFlag c = .ok ((), c')) : c' = c := by
  unfold peekTimeFlag at h
  obtain ⟨-, h⟩ := require_bind_eq_ok.mp h
  exact (guardOr_eq_ok.mp h).2

theorem keepsNotes_parseTimestampBlock (out : ScanData) : KeepsNotes (parseTimestampBlock out) := by
  unfold parseTimestampBlock
  refine keepsNotes_bind (keepsNotes_require _ _) fun _ => keepsNotes_bind (keepsNotes_read _ _)
    fun _ => keepsNotes_bind (keepsNotes_guardOr _ _) fun _ => ?_
  split
  · exact keepsNotes_bind (keepsNotes_require _ _) fun _ => keepsNotes_bind (keepsNotes_read _ _)
      fun _ => keepsNotes_bind (keepsNotes_read _ _) fun _ => keepsNotes_bind (keepsNotes_read _ _)
      fun _ => keepsNotes_bind (keepsNotes_read _ _) fun _ => keepsNotes_bind (keepsNotes_read _ _)
      fun _ => keepsNotes_bind (keepsNotes_read _ _) fun _ => keepsNotes_bind (keepsNotes_read _ _)
      fun _ => keepsNotes_pure _
  · exact keepsNotes_pure _

theorem keepsNotes_parseEnd : KeepsNotes parseEnd := by
  intro c c' a h
  unfold parseEnd at h
  obtain ⟨d, e, hget, h⟩ := bind_eq_ok.mp h
  obtain ⟨rfl, rfl⟩ := Prod.mk.inj (Except.ok.inj hget)
  split at h
  · rw [skip_bind] at h
    exact (guardOr_eq_ok.mp h).2 ▸ List.prefix_refl _
  · exact (guardOr_eq_ok.mp h).2 ▸ List.prefix_refl _

/-! ## The two walks -/

/-- The sections between the header and the timestamp, decoded and skipped. -/
theorem mirrors_body :
    Mirrors
      (fun out => parseEncoder out >>= fun out => parseChannels16bit out >>= fun out =>
        parseChannels8bit out >>= fun out => parsePosition out >>= parseDeviceName)
      (skipEncoders >>= fun _ => skipChannels .channels16bit 2 >>= fun _ =>
        skipChannels .channels8bit 1 >>= fun _ => skipPositionAndName) :=
  mirrors_encoder.bind (mirrors_channels16bit.bind
    (mirrors_channels8bit.bind mirrors_positionAndName))

/-- `Parse` as header, body and end. -/
theorem parse_eq_ok {data : List UInt8} {out : ScanData} {r : Reader} :
    parse data = .ok (out, r) ↔ 52 ≤ data.length ∧ ∃ header body c d e,
      (parseDeviceInfo {} >>= parseFrequency) { data } = .ok (header, c) ∧
        (parseEncoder header >>= fun out => parseChannels16bit out >>= fun out =>
          parseChannels8bit out >>= fun out => parsePosition out >>= parseDeviceName) c =
            .ok (body, d) ∧
        parseTimestampBlock body d = .ok (out, e) ∧ parseEnd e = .ok ((), r) := by
  unfold parse
  simp only [guardOr_bind_eq_ok, Nat.not_lt]
  refine and_congr_right fun _ => ?_
  simp only [bind_eq_ok, pure_eq_ok]
  constructor
  · rintro ⟨out₁, c₁, h₁, out₂, c₂, h₂, out₃, c₃, h₃, out₄, c₄, h₄, out₅, c₅, h₅, out₆, c₆, h₆,
      out₇, c₇, h₇, out₈, c₈, h₈, ⟨⟩, c₉, h₉, rfl, rfl⟩
    exact ⟨out₂, out₇, c₂, c₇, c₈, ⟨out₁, c₁, h₁, h₂⟩,
      ⟨out₃, c₃, h₃, out₄, c₄, h₄, out₅, c₅, h₅, out₆, c₆, h₆, h₇⟩, h₈, h₉⟩
  · rintro ⟨out₂, out₇, c₂, c₇, c₈, ⟨out₁, c₁, h₁, h₂⟩,
      ⟨out₃, c₃, h₃, out₄, c₄, h₄, out₅, c₅, h₅, out₆, c₆, h₆, h₇⟩, h₈, h₉⟩
    exact ⟨out₁, c₁, h₁, out₂, c₂, h₂, out₃, c₃, h₃, out₄, c₄, h₄, out₅, c₅, h₅, out₆, c₆, h₆,
      out₇, c₇, h₇, out, c₈, h₈, (), r, h₉, rfl, rfl⟩

/-- `ParseTimestamp` as header, body and end. -/
theorem parseTimestamp_eq_ok {data : List UInt8} {out : ScanData} {r : Reader} :
    parseTimestamp data = .ok (out, r) ↔ ∃ header c d e,
      timestampHeader {} { data } = .ok (header, c) ∧
        (skipEncoders >>= fun _ => skipChannels .channels16bit 2 >>= fun _ =>
          skipChannels .channels8bit 1 >>= fun _ => skipPositionAndName) c = .ok ((), d) ∧
        peekTimeFlag d = .ok ((), d) ∧
        parseTimestampBlock header d = .ok (out, e) ∧ parseEnd e = .ok ((), r) := by
  unfold parseTimestamp
  simp only [bind_eq_ok, pure_eq_ok]
  constructor
  · rintro ⟨out₁, c₁, h₁, ⟨⟩, c₂, h₂, ⟨⟩, c₃, h₃, ⟨⟩, c₄, h₄, ⟨⟩, c₅, h₅, ⟨⟩, c₆, h₆, out₇, c₇, h₇,
      ⟨⟩, c₈, h₈, rfl, rfl⟩
    obtain rfl := peekTimeFlag_eq_ok h₆
    exact ⟨out₁, c₁, c₆, c₇, h₁, ⟨(), c₂, h₂, (), c₃, h₃, (), c₄, h₄, h₅⟩, h₆, h₇, h₈⟩
  · rintro ⟨out₁, c₁, c₆, c₇, h₁, ⟨⟨⟩, c₂, h₂, ⟨⟩, c₃, h₃, ⟨⟩, c₄, h₄, h₅⟩, h₆, h₇, h₈⟩
    exact ⟨out₁, c₁, h₁, (), c₂, h₂, (), c₃, h₃, (), c₄, h₄, (), c₆, h₅, (), c₆, h₆, out, c₇, h₇,
      (), r, h₈, rfl, rfl⟩

/-- The two headers read the same fields from the same bytes. -/
theorem header_of_hasBytes {c : Reader} (h : c.HasBytes 36) :
    ∃ full fast : ScanData,
      (parseDeviceInfo {} >>= parseFrequency) c = .ok (full, c.advance 36) ∧
        timestampHeader {} c = .ok (fast, c.advance 36) ∧ fast.timing = full.timing := by
  obtain ⟨info, hinfo, hinfoTiming⟩ := parseDeviceInfo_of_hasBytes {} (h.mono (by omega))
  obtain ⟨full, hfull, hfullTiming⟩ :=
    parseFrequency_of_hasBytes info ((Cursor.hasBytes_advance c 28 8).mpr h)
  obtain ⟨fast, hfast, hfastTiming⟩ := timestampHeader_of_hasBytes {} h
  refine ⟨full, fast, ?_, hfast, by rw [hfastTiming, hfullTiming, hinfoTiming]⟩
  rw [Cursor.advance_advance] at hfull
  exact bind_eq_ok.mpr ⟨info, _, hinfo, hfull⟩

theorem hasBytes_of_header {c c' : Reader} {full : ScanData}
    (h : (parseDeviceInfo {} >>= parseFrequency) c = .ok (full, c')) : c.HasBytes 36 := by
  obtain ⟨info, d, hinfo, hfrequency⟩ := bind_eq_ok.mp h
  have hlong : c.HasBytes 28 := by
    unfold parseDeviceInfo at hinfo
    exact (require_bind_eq_ok.mp hinfo).1
  obtain ⟨info', hinfo', -⟩ := parseDeviceInfo_of_hasBytes {} hlong
  obtain ⟨rfl, rfl⟩ := Prod.mk.inj (Except.ok.inj (hinfo'.symm.trans hinfo))
  unfold parseFrequency at hfrequency
  exact (Cursor.hasBytes_advance c 28 8).mp (require_bind_eq_ok.mp hfrequency).1

/-- **The fast walk agrees with the full one.**  What `Parse` accepts, `ParseTimestamp`
accepts, with the same counters and clocks.  What `ParseTimestamp` accepts, `Parse`
accepts, if the payload is 52 bytes long and every count met is within its limit. -/
theorem parse_parseTimestamp_agree (data : List UInt8) :
    (∀ out r, parse data = .ok (out, r) →
      ∃ fast, parseTimestamp data = .ok (fast, r) ∧ fast.timing = out.timing) ∧
    (∀ fast r, parseTimestamp data = .ok (fast, r) → 52 ≤ data.length → WithinLimits r.noted →
      ∃ out, parse data = .ok (out, r)) := by
  constructor
  · intro out r h
    obtain ⟨-, header, body, c, d, e, hheader, hbody, htime, hend⟩ := parse_eq_ok.mp h
    obtain ⟨full, fast, hfull, hfast, htiming⟩ := header_of_hasBytes (hasBytes_of_header hheader)
    obtain ⟨rfl, rfl⟩ := Prod.mk.inj (Except.ok.inj (hfull.symm.trans hheader))
    obtain ⟨hskip, hbodyTiming⟩ := mirrors_body.skips hbody
    obtain ⟨fast', hfast', htiming'⟩ :=
      parseTimestampBlock_timing htime fast (htiming.trans hbodyTiming.symm)
    exact ⟨fast', parseTimestamp_eq_ok.mpr ⟨fast, _, d, e, hfast, hskip,
      peekTimeFlag_of_parseTimestampBlock htime, hfast', hend⟩, htiming'⟩
  · intro fast r h hlength hlimits
    obtain ⟨header, c, d, e, hheader, hskip, -, htime, hend⟩ := parseTimestamp_eq_ok.mp h
    have hlong : Cursor.HasBytes ({ data } : Reader) 36 :=
      ⟨Nat.zero_le _, (by omega : 36 ≤ data.length - 0)⟩
    obtain ⟨full, header', hfull, hheader', htiming⟩ := header_of_hasBytes hlong
    obtain ⟨rfl, rfl⟩ := Prod.mk.inj (Except.ok.inj (hheader'.symm.trans hheader))
    have hmet : WithinLimits d.noted := hlimits.of_prefix
      ((keepsNotes_parseTimestampBlock _ htime).trans (keepsNotes_parseEnd hend))
    obtain ⟨body, hbody⟩ := mirrors_body.decodes full hskip hmet
    obtain ⟨-, hbodyTiming⟩ := mirrors_body.skips hbody
    obtain ⟨out, hout, -⟩ :=
      parseTimestampBlock_timing htime body (hbodyTiming.trans htiming.symm)
    exact ⟨out, parse_eq_ok.mpr ⟨hlength, full, body, _, d, e, hfull, hbody, hout, hend⟩⟩

/-- A telegram with one 16-bit channel of two points and a timestamp, through both
directions of the agreement. -/
theorem parse_parseTimestamp_agree_telegram :
    let telegram : List UInt8 :=
      List.replicate 10 0 ++ [0, 7, 0, 9, 0, 0, 1, 0, 0, 0, 1, 1] ++ List.replicate 14 0 ++
        [0, 0, 0, 1] ++ [68, 73, 83, 84, 49] ++ List.replicate 14 0 ++ [0, 2, 0, 16, 0, 17] ++
        [0, 0] ++ [0, 0, 0, 0] ++ [0, 0] ++ [0, 1, 7, 234, 5, 4, 3, 2, 1, 0, 0, 0, 6]
    (∃ out fast r, parse telegram = .ok (out, r) ∧ parseTimestamp telegram = .ok (fast, r) ∧
      fast.timing = out.timing) ∧
    ∃ out r, parse telegram = .ok (out, r) := by
  intro telegram
  have hsome : (parse telegram).toOption.isSome = true := by decide +kernel
  have hwithin : ((parseTimestamp telegram).toOption.any fun fast =>
      decide (WithinLimits fast.2.noted)) = true := by decide +kernel
  obtain ⟨out, r, fast, r', hparse, hfast, hlimits⟩ : ∃ out r fast r', parse telegram = .ok (out, r) ∧
      parseTimestamp telegram = .ok (fast, r') ∧ WithinLimits r'.noted := by
    cases hparse : parse telegram with
    | error e =>
      rw [hparse] at hsome
      exact absurd hsome Bool.false_ne_true
    | ok out =>
      cases hfast : parseTimestamp telegram with
      | error e =>
        rw [hfast] at hwithin
        exact absurd hwithin Bool.false_ne_true
      | ok fast =>
        rw [hfast] at hwithin
        exact ⟨_, _, _, _, rfl, rfl, of_decide_eq_true hwithin⟩
  obtain ⟨fast', hfast', htiming⟩ := (parse_parseTimestamp_agree telegram).1 out r hparse
  obtain ⟨out', hout'⟩ :=
    (parse_parseTimestamp_agree telegram).2 fast r' hfast (by decide) hlimits
  exact ⟨⟨out, fast', r, hparse, hfast', htiming⟩, out', r', hout'⟩

end ScanDataParser
end Lms
end AmigaDrivers
