import AmigaDrivers.Lms.ScanDataReader

/-!
# The parsers stay inside the telegram

* `follows_parse`, `follows_parseTimestamp`: in memory, the parsers do what they do on a cursor.
* `memory_total`: they load only what is there, their positions stay inside, and nothing wraps.
-/

namespace AmigaDrivers
namespace Lms
namespace ScanDataReader

open RawReader
open ByteCursor (Cursor)
open ScanDataParser (Count Parser)

/-- In memory as on a cursor. -/
abbrev Mirrors {α : Type} (n : Nat) (m : Reading α) (w : Parser α) : Prop := Follows n Eq m w

variable {n : Nat} {α α' β' : Type} {S : α' → β' → Prop}

/-! ## Fields -/

theorem follows_readUint8 {f : UInt8 → Reading α'} {g : UInt8 → Parser β'} (hle : 1 ≤ n)
    (h : ∀ v, Follows (n - 1) S (f v) (g v)) :
    Follows n S (readUint8 >>= f) (ScanDataParser.readUint8 >>= g) :=
  .read hle fun _ _ => h _

theorem follows_readUint16 {f : Nat → Reading α'} {g : Nat → Parser β'} (hle : 2 ≤ n)
    (h : ∀ v < 2 ^ 16, Follows (n - 2) S (f v) (g v)) :
    Follows n S (readUint16 >>= f) (ScanDataParser.readUint16 >>= g) :=
  .read hle fun bytes _ => h _ (ByteUtil.loadBigU16_lt bytes)

theorem follows_readUint32 {f : Nat → Reading α'} {g : Nat → Parser β'} (hle : 4 ≤ n)
    (h : ∀ v, Follows (n - 4) S (f v) (g v)) :
    Follows n S (readUint32 >>= f) (ScanDataParser.readUint32 >>= g) :=
  .read hle fun _ _ => h _

theorem follows_readInt32 {f : Int → Reading α'} {g : Int → Parser β'} (hle : 4 ≤ n)
    (h : ∀ v, Follows (n - 4) S (f v) (g v)) :
    Follows n S (readInt32 >>= f) (ScanDataParser.readInt32 >>= g) :=
  .read hle fun _ _ => h _

theorem follows_readFloat {f : Nat → Reading α'} {g : Nat → Parser β'} (hle : 4 ≤ n)
    (h : ∀ v, Follows (n - 4) S (f v) (g v)) :
    Follows n S (readFloat >>= f) (ScanDataParser.readFloat >>= g) :=
  .read hle fun _ _ => h _

theorem follows_readString (size : Nat) {f : List UInt8 → Reading α'}
    {g : List UInt8 → Parser β'} (hle : size ≤ n) (h : ∀ v, Follows (n - size) S (f v) (g v)) :
    Follows n S (readString size >>= f) (ScanDataParser.readString size >>= g) :=
  .read hle fun _ _ => h _

/-- A count is also noted on the cursor. -/
theorem follows_readCount {f : Nat → Reading α'} {g : Nat → Parser β'}
    (kind : ScanDataParser.CountKind) (hle : 2 ≤ n)
    (h : ∀ v < 2 ^ 16, Follows (n - 2) S (f v) (g v)) :
    Follows n S (readUint16 >>= f) (ScanDataParser.readCount kind >>= g) := by
  unfold ScanDataParser.readCount
  rw [bind_assoc]
  refine follows_readUint16 hle fun v hv => ?_
  rw [bind_assoc]
  exact .note (h v hv)

/-- A count of 16 bits is the same number as a size. -/
theorem toNat_size {v : Nat} (hv : v < 2 ^ 16) : (UInt64.ofNat v).toNat = v :=
  UInt64.toNat_ofNat_of_lt' (hv.trans (by decide))

/-! ## The sections of `Parse` -/

theorem mirrors_parseDeviceInfo (out : ScanData) :
    Mirrors 0 (parseDeviceInfo out) (ScanDataParser.parseDeviceInfo out) := by
  unfold parseDeviceInfo ScanDataParser.parseDeviceInfo
  refine .require rfl ?_
  refine follows_readUint16 (by decide) fun _ _ => ?_
  refine follows_readUint16 (by decide) fun _ _ => ?_
  refine follows_readUint32 (by decide) fun _ => ?_
  refine follows_readUint8 (by decide) fun _ => ?_
  refine follows_readUint8 (by decide) fun _ => ?_
  refine follows_readUint16 (by decide) fun _ _ => ?_
  refine follows_readUint16 (by decide) fun _ _ => ?_
  refine follows_readUint32 (by decide) fun _ => ?_
  refine follows_readUint32 (by decide) fun _ => ?_
  refine follows_readUint8 (by decide) fun _ => ?_
  refine follows_readUint8 (by decide) fun _ => ?_
  refine follows_readUint8 (by decide) fun _ => ?_
  refine follows_readUint8 (by decide) fun _ => ?_
  exact .skip rfl (by decide) (.pure rfl)

theorem mirrors_parseFrequency (out : ScanData) :
    Mirrors 0 (parseFrequency out) (ScanDataParser.parseFrequency out) := by
  unfold parseFrequency ScanDataParser.parseFrequency
  refine .require rfl ?_
  refine follows_readUint32 (by decide) fun _ => ?_
  exact follows_readUint32 (by decide) fun _ => .pure rfl

theorem mirrors_parseEncoderBlocks : ∀ (count i : Nat) (out : ScanData),
    Mirrors 0 (parseEncoderBlocks count i out) (ScanDataParser.parseEncoderBlocks count i out)
  | 0, _, _ => .pure rfl
  | count + 1, i, out => by
    unfold parseEncoderBlocks ScanDataParser.parseEncoderBlocks
    refine .require rfl ?_
    refine follows_readUint32 (by decide) fun _ => ?_
    exact .skip rfl (by decide) ((mirrors_parseEncoderBlocks count (i + 1) _).mono (by decide))

theorem mirrors_parseEncoder (out : ScanData) :
    Mirrors 0 (parseEncoder out) (ScanDataParser.parseEncoder out) := by
  unfold parseEncoder ScanDataParser.parseEncoder
  refine .require rfl ?_
  refine follows_readCount .encoders (by decide) fun v _ => ?_
  exact .throwIf Nat.not_lt.symm fun _ => mirrors_parseEncoderBlocks v 0 _

/-- A channel, for a size of the samples that the walk multiplies and the parser may not. -/
theorem mirrors_parseChannel {Content Sample : Type} (identifyChannel : List UInt8 → Content)
    {dataBytes : Nat → Reading UInt64} {sampleBytes : Nat} {decode : List UInt8 → Sample}
    (hbytes : ∀ (m : Nat) (v : Nat) (f : UInt64 → Reading (ChannelData Content Sample))
      (l : Parser (ChannelData Content Sample)), v < 2 ^ 16 →
      (∀ bytes : UInt64, bytes.toNat = v * sampleBytes → Follows m Eq (f bytes) l) →
        Follows m Eq (dataBytes v >>= f) l) :
    Mirrors 0 (parseChannel identifyChannel dataBytes (read sampleBytes decode))
      (ScanDataParser.parseChannel identifyChannel sampleBytes
        (ByteCursor.read sampleBytes decode)) := by
  unfold parseChannel ScanDataParser.parseChannel
  refine .require rfl ?_
  refine follows_readString 5 (by decide) fun _ => ?_
  refine follows_readFloat (by decide) fun _ => ?_
  refine follows_readFloat (by decide) fun _ => ?_
  refine follows_readInt32 (by decide) fun _ => ?_
  refine follows_readUint16 (by decide) fun _ _ => ?_
  refine follows_readCount .points (by decide) fun numData hnumData => ?_
  refine .throwIf Nat.not_lt.symm fun _ => ?_
  refine hbytes _ numData _ _ hnumData fun bytes hsize => ?_
  refine .require hsize ?_
  refine Follows.times (R := Eq) (fun _ _ => rfl) numData le_rfl fun as bs hsame => ?_
  obtain rfl := List.forall₂_eq_eq_eq ▸ hsame
  exact .pure rfl

theorem mirrors_parseChannelList {χ : Type} {channel : Reading χ} {channel' : Parser χ}
    (pushBack : ScanData → χ → ScanData) (h : Mirrors 0 channel channel') :
    ∀ (count : Nat) (out : ScanData), Mirrors 0 (parseChannelList channel pushBack count out)
      (ScanDataParser.parseChannelList channel' pushBack count out)
  | 0, _ => .pure rfl
  | count + 1, out => by
    unfold parseChannelList ScanDataParser.parseChannelList
    refine h.bind ?_
    rintro ch _ rfl
    exact mirrors_parseChannelList pushBack h count _

theorem mirrors_parseChannels {χ : Type} {channel : Reading χ} {channel' : Parser χ}
    (kind : ScanDataParser.CountKind) (maxCount : Nat) (pushBack : ScanData → χ → ScanData)
    (h : Mirrors 0 channel channel') (out : ScanData) :
    Mirrors 0 (parseChannels maxCount channel pushBack out)
      (ScanDataParser.parseChannels kind maxCount channel' pushBack out) := by
  unfold parseChannels ScanDataParser.parseChannels
  refine .require rfl ?_
  refine follows_readCount kind (by decide) fun v _ => ?_
  exact .throwIf Nat.not_lt.symm fun _ => mirrors_parseChannelList pushBack h v _

theorem mirrors_parseChannels16bit (out : ScanData) :
    Mirrors 0 (parseChannels16bit out) (ScanDataParser.parseChannels16bit out) := by
  refine mirrors_parseChannels .channels16bit _ _ (mirrors_parseChannel _ ?_) out
  intro m v f l hv h
  have htwo : (2 : UInt64).toNat = 2 := rfl
  refine .product ?_ fun bytes hbytes => h bytes ?_
  · rw [toNat_size hv, htwo]
    omega
  · rw [hbytes, toNat_size hv, htwo]

theorem mirrors_parseChannels8bit (out : ScanData) :
    Mirrors 0 (parseChannels8bit out) (ScanDataParser.parseChannels8bit out) := by
  refine mirrors_parseChannels .channels8bit _ _ (mirrors_parseChannel _ ?_) out
  intro m v f l hv h
  refine h _ ?_
  rw [toNat_size hv, Nat.mul_one]

theorem mirrors_parsePosition (out : ScanData) :
    Mirrors 0 (parsePosition out) (ScanDataParser.parsePosition out) := by
  unfold parsePosition ScanDataParser.parsePosition
  exact .require rfl (follows_readFloat (by decide) fun _ => .pure rfl)

theorem mirrors_parsePresentDeviceName (out : ScanData) :
    Mirrors 0 (parsePresentDeviceName out) (ScanDataParser.parsePresentDeviceName out) := by
  unfold parsePresentDeviceName ScanDataParser.parsePresentDeviceName
  refine .require rfl ?_
  refine follows_readCount .deviceName (by decide) fun nameLen hnameLen => ?_
  refine .throwIf Nat.not_lt.symm fun _ => ?_
  refine .require (toNat_size hnameLen) ?_
  exact follows_readString nameLen le_rfl fun _ => .pure rfl

theorem mirrors_parseDeviceName (out : ScanData) :
    Mirrors 0 (parseDeviceName out) (ScanDataParser.parseDeviceName out) := by
  unfold parseDeviceName ScanDataParser.parseDeviceName
  refine .require rfl ?_
  refine follows_readUint16 (by decide) fun nameFlag _ => ?_
  refine .throwIf Nat.not_lt.symm fun _ => ?_
  exact .ite Iff.rfl (fun _ => mirrors_parsePresentDeviceName _) fun _ => .pure rfl

theorem mirrors_parseTimestampBlock (out : ScanData) :
    Mirrors 0 (parseTimestampBlock out) (ScanDataParser.parseTimestampBlock out) := by
  unfold parseTimestampBlock ScanDataParser.parseTimestampBlock
  refine .require rfl ?_
  refine follows_readUint16 (by decide) fun timeFlag _ => ?_
  refine .throwIf Nat.not_lt.symm fun _ => ?_
  refine .ite Iff.rfl (fun _ => ?_) fun _ => .pure rfl
  unfold parsePresentTimestamp
  refine .require rfl ?_
  refine follows_readUint16 (by decide) fun _ _ => ?_
  refine follows_readUint8 (by decide) fun _ => ?_
  refine follows_readUint8 (by decide) fun _ => ?_
  refine follows_readUint8 (by decide) fun _ => ?_
  refine follows_readUint8 (by decide) fun _ => ?_
  refine follows_readUint8 (by decide) fun _ => ?_
  exact follows_readUint32 (by decide) fun _ => .pure rfl

/-- The check that nothing is left. -/
theorem mirrors_nothingLeft :
    Mirrors n (remaining >>= fun left => throwIf (left ≠ 0) ErrorCode.protocolError)
      (ByteCursor.guardOr (fun r => r.remaining = 0) .protocolError : Parser Unit) := by
  have hend : Mirrors n
      (remaining >>= fun left => throwIf (left ≠ 0) ErrorCode.protocolError >>= fun _ => pure ())
      (ByteCursor.guardOr (fun r => r.remaining = 0) .protocolError >>= fun _ => pure ()) := by
    refine .room (p := fun left => left ≠ 0) (q := fun left => left = 0) (fun left => ?_) (.pure rfl)
    rw [not_not, ← UInt64.toNat_inj]
    rfl
  simpa only [bind_pure_unit] using hend

theorem mirrors_parseEnd : Mirrors 0 parseEnd ScanDataParser.parseEnd := by
  intro data c hc s hs
  have htest := hs.hasBytes_iff 2
  have hraw : parseEnd.outcome s = Effect.outcome
      (if (decide (s.pos ≤ s.len) && decide (2 ≤ s.len - s.pos)) = true then
        skip 2 >>= fun _ =>
          remaining >>= fun left => throwIf (left ≠ 0) ErrorCode.protocolError
      else remaining >>= fun left => throwIf (left ≠ 0) ErrorCode.protocolError) s := rfl
  by_cases hbytes : c.HasBytes 2
  · have hwalk : ScanDataParser.parseEnd c = (ByteCursor.skip 2 >>= fun _ =>
        ByteCursor.guardOr (fun r => r.remaining = 0) .protocolError : Parser Unit) c :=
      congrFun (if_pos hbytes) c
    have hskip : Mirrors 2 (skip 2 >>= fun _ => remaining >>= fun left =>
          throwIf (left ≠ 0) ErrorCode.protocolError)
        (ByteCursor.skip 2 >>= fun _ =>
          ByteCursor.guardOr (fun r => r.remaining = 0) .protocolError) :=
      .skip rfl le_rfl mirrors_nothingLeft
    rw [hwalk, hraw, if_pos (htest.mpr hbytes)]
    exact hskip data c hbytes s hs
  · have hwalk : ScanDataParser.parseEnd c = (ByteCursor.guardOr (fun r => r.remaining = 0)
        .protocolError : Parser Unit) c :=
      congrFun (if_neg hbytes) c
    rw [hwalk, hraw, if_neg fun htrue => hbytes (htest.mp htrue)]
    exact mirrors_nothingLeft data c hc s hs

theorem mirrors_parse : Mirrors 0 parse (do
    ByteCursor.guardOr (fun r => ¬ r.data.length < 52) .frameTooShort
    let out ← ScanDataParser.parseDeviceInfo {}
    let out ← ScanDataParser.parseFrequency out
    let out ← ScanDataParser.parseEncoder out
    let out ← ScanDataParser.parseChannels16bit out
    let out ← ScanDataParser.parseChannels8bit out
    let out ← ScanDataParser.parsePosition out
    let out ← ScanDataParser.parseDeviceName out
    let out ← ScanDataParser.parseTimestampBlock out
    ScanDataParser.parseEnd
    pure out) := by
  unfold parse
  refine Follows.length (q := fun length => ¬length < 52) (fun len => ?_) ?_
  · rw [UInt64.lt_iff_toNat_lt]
    rfl
  refine (mirrors_parseDeviceInfo _).bind ?_
  rintro out _ rfl
  refine (mirrors_parseFrequency out).bind ?_
  rintro out _ rfl
  refine (mirrors_parseEncoder out).bind ?_
  rintro out _ rfl
  refine (mirrors_parseChannels16bit out).bind ?_
  rintro out _ rfl
  refine (mirrors_parseChannels8bit out).bind ?_
  rintro out _ rfl
  refine (mirrors_parsePosition out).bind ?_
  rintro out _ rfl
  refine (mirrors_parseDeviceName out).bind ?_
  rintro out _ rfl
  refine (mirrors_parseTimestampBlock out).bind ?_
  rintro out _ rfl
  exact mirrors_parseEnd.bind fun _ _ _ => .pure rfl

/-! ## The sections of `ParseTimestamp` -/

theorem mirrors_timestampHeader (out : ScanData) :
    Mirrors 0 (timestampHeader out) (ScanDataParser.timestampHeader out) := by
  unfold timestampHeader ScanDataParser.timestampHeader
  refine .require rfl ?_
  refine .skip rfl (by decide) ?_
  refine follows_readUint16 (by decide) fun _ _ => ?_
  refine follows_readUint16 (by decide) fun _ _ => ?_
  refine follows_readUint32 (by decide) fun _ => ?_
  refine follows_readUint32 (by decide) fun _ => ?_
  exact .skip rfl (by decide) (.pure rfl)

theorem mirrors_skipEncoders : Mirrors 0 skipEncoders ScanDataParser.skipEncoders := by
  unfold skipEncoders ScanDataParser.skipEncoders
  refine .require rfl ?_
  refine follows_readCount .encoders (by decide) fun encoders hencoders => ?_
  have hsix : (6 : UInt64).toNat = 6 := rfl
  have hcount := toNat_size hencoders
  refine .product ?_ fun bytes hbytes => ?_
  · rw [hcount, hsix]
    omega
  · rw [hcount, hsix] at hbytes
    refine .require hbytes ?_
    have hskip : Mirrors (encoders * 6) (skip bytes >>= fun _ => pure ())
        (ByteCursor.skip (encoders * 6) >>= fun _ => pure ()) := .skip hbytes le_rfl (.pure rfl)
    simpa only [bind_pure_unit] using hskip

theorem mirrors_skipChannelList {sampleBytes : UInt64} {size : Nat}
    (hsize : sampleBytes.toNat = size) (hsmall : size ≤ 2) :
    ∀ count : Nat, Mirrors 0 (skipChannelList sampleBytes count)
      (ScanDataParser.skipChannelList size count)
  | 0 => .pure rfl
  | count + 1 => by
    unfold skipChannelList ScanDataParser.skipChannelList
    refine .require rfl ?_
    refine .skip rfl (by decide) ?_
    refine follows_readCount .points (by decide) fun samples hsamples => ?_
    have hcount := toNat_size hsamples
    refine .product ?_ fun bytes hbytes => ?_
    · rw [hcount, hsize]
      exact (Nat.mul_le_mul hsamples.le hsmall).trans_lt (by decide)
    · rw [hcount, hsize] at hbytes
      refine .require hbytes ?_
      exact .skip hbytes le_rfl ((mirrors_skipChannelList hsize hsmall count).mono (Nat.zero_le _))

theorem mirrors_skipChannels {sampleBytes : UInt64} {size : Nat}
    (kind : ScanDataParser.CountKind) (hsize : sampleBytes.toNat = size) (hsmall : size ≤ 2) :
    Mirrors 0 (skipChannels sampleBytes) (ScanDataParser.skipChannels kind size) := by
  unfold skipChannels ScanDataParser.skipChannels
  refine .require rfl ?_
  refine follows_readCount kind (by decide) fun channels hchannels => ?_
  refine .room (p := fun left => .ofNat channels > left / 21)
    (q := fun left => ¬channels > left / 21) (fun left => ?_)
    ((mirrors_skipChannelList hsize hsmall channels).mono (Nat.zero_le _))
  rw [gt_iff_lt, gt_iff_lt, UInt64.lt_iff_toNat_lt, toNat_size hchannels, UInt64.toNat_div]
  rfl

theorem mirrors_skipPresentDeviceName :
    Mirrors 0 skipPresentDeviceName ScanDataParser.skipPresentDeviceName := by
  unfold skipPresentDeviceName ScanDataParser.skipPresentDeviceName
  refine .require rfl ?_
  refine follows_readCount .deviceName (by decide) fun size hsize => ?_
  refine .require (toNat_size hsize) ?_
  have hskip : Mirrors size (skip (.ofNat size) >>= fun _ => pure ())
      (ByteCursor.skip size >>= fun _ => pure ()) := .skip (toNat_size hsize) le_rfl (.pure rfl)
  simpa only [bind_pure_unit] using hskip

theorem mirrors_skipPositionAndName :
    Mirrors 0 skipPositionAndName ScanDataParser.skipPositionAndName := by
  unfold skipPositionAndName ScanDataParser.skipPositionAndName
  refine .require rfl ?_
  refine .skip rfl (by decide) ?_
  refine follows_readUint16 (by decide) fun nameFlag _ => ?_
  refine .throwIf (not_congr Iff.rfl) fun _ => ?_
  exact .ite Iff.rfl (fun _ => mirrors_skipPresentDeviceName.mono (Nat.zero_le _)) fun _ => .pure rfl

theorem mirrors_peekTimeFlag : Mirrors 0 peekTimeFlag ScanDataParser.peekTimeFlag := by
  unfold peekTimeFlag ScanDataParser.peekTimeFlag
  refine .require rfl ?_
  have hlook : Mirrors 2 (peek 2 ByteUtil.loadBigU16 >>= fun timeFlag =>
        throwIf (timeFlag > 1) ErrorCode.protocolError >>= fun _ => pure ())
      (ByteCursor.guardOr (fun r => ¬ByteUtil.loadBigU16 (r.rest.take 2) > 1) .protocolError >>=
        fun _ => pure ()) :=
    .look (p := fun timeFlag => timeFlag > 1) (q := fun bytes => ¬ByteUtil.loadBigU16 bytes > 1)
      le_rfl (fun _ _ => Iff.rfl) (.pure rfl)
  simpa only [bind_pure_unit] using hlook

theorem mirrors_parseTimestamp : Mirrors 0 parseTimestamp (do
    let out ← ScanDataParser.timestampHeader {}
    ScanDataParser.skipEncoders
    ScanDataParser.skipChannels .channels16bit 2
    ScanDataParser.skipChannels .channels8bit 1
    ScanDataParser.skipPositionAndName
    ScanDataParser.peekTimeFlag
    let out ← ScanDataParser.parseTimestampBlock out
    ScanDataParser.parseEnd
    pure out) := by
  unfold parseTimestamp
  refine (mirrors_timestampHeader _).bind ?_
  rintro out _ rfl
  refine mirrors_skipEncoders.bind fun _ _ _ => ?_
  refine (mirrors_skipChannels .channels16bit rfl le_rfl).bind fun _ _ _ => ?_
  refine (mirrors_skipChannels .channels8bit rfl (by decide)).bind fun _ _ _ => ?_
  refine mirrors_skipPositionAndName.bind fun _ _ _ => ?_
  refine mirrors_peekTimeFlag.bind fun _ _ _ => ?_
  refine (mirrors_parseTimestampBlock out).bind ?_
  rintro out _ rfl
  exact mirrors_parseEnd.bind fun _ _ _ => .pure rfl

/-! ## Both -/

/-- How a parser ends in memory, beside how the walk ends on a cursor. -/
structure Total (data : List UInt8)
    (walk : Except (ByteCursor.Stop ErrorCode) (ScanData × ScanDataParser.Reader))
    (run : Except ErrorCode ScanData × Machine) : Prop where
  /-- every load and every move stays inside, and no product wraps -/
  within : run.2.Within data
  /-- what is returned is what the walk returns -/
  result : match run.1 with
    | .ok out => ∃ r, walk = .ok (out, r)
    | .error e => walk = .error (.error e)

theorem total_of_mirrors {data : List UInt8} (hlength : data.length < 2 ^ 64)
    {m : Reading ScanData} {w : Parser ScanData} (h : Mirrors 0 m w) :
    Total data (w { data }) (m.outcome (.start data)) := by
  have hstart : At data ({ data } : Cursor Count) (.start data) := at_start hlength
  have hrun := h data { data } hstart.hasBytes_zero _ hstart
  cases hout : m.outcome (.start data) with
  | mk r s =>
    rw [hout] at hrun
    cases r with
    | ok out =>
      obtain ⟨_, r, hw, rfl, hs⟩ := hrun
      exact ⟨hs.within, r, hw⟩
    | error e => exact ⟨hrun.2, hrun.1⟩

/-- **Neither parser leaves the telegram.**  Whatever the bytes are and whatever they count, both
parsers come to an end, load only what is there, move only to positions inside, and multiply
without wrapping; and what they return is what they return on a cursor. -/
theorem memory_total (data : List UInt8) (hlength : data.length < 2 ^ 64) :
    Total data (ScanDataParser.parse data) (parse.outcome (.start data)) ∧
      Total data (ScanDataParser.parseTimestamp data) (parseTimestamp.outcome (.start data)) :=
  ⟨total_of_mirrors hlength mirrors_parse, total_of_mirrors hlength mirrors_parseTimestamp⟩

/-- A telegram that breaks off behind a count of 65535 encoders. -/
theorem memory_total_of_huge_count :
    let data := List.replicate 36 (0 : UInt8) ++ [255, 255] ++ List.replicate 16 0
    (∀ e ∈ (parse.outcome (.start data)).2.trace, e.Safe 54) ∧
      (∀ e ∈ (parseTimestamp.outcome (.start data)).2.trace, e.Safe 54) := by
  intro data
  obtain ⟨hparse, htimestamp⟩ := memory_total data (by decide)
  exact ⟨hparse.within.safe, htimestamp.within.safe⟩

end ScanDataReader
end Lms
end AmigaDrivers
