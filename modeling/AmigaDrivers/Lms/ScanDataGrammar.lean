import AmigaDrivers.Foundation.ByteGrammar
import AmigaDrivers.Lms.ScanDataParser

/-!
# The grammar of LMDscandata

The byte strings `lms4xxx::ScanDataParser::Parse` accepts, and what it returns for them.  A block of
the telegram is a relation between a scan and bytes: reserved bytes, the name of a channel that is
not recognised and the position of a second encoder may be anything.

* `DeviceBlock`, `EncoderBlock`, `ChannelBlock`, `NameBlock`, `TimeBlock`: the blocks.
* `Encodes`: the whole telegram.
* `parse_iff_encodes`: `Parse` accepts the encodings of scans, and returns the scan.
-/

namespace AmigaDrivers
namespace Lms

open ByteCursor
open ByteUtil (storeBigU16 storeBigU32)

namespace ScanDataParser

/-! ## Numbers -/

/-- The four bytes of a signed number. -/
def storeBigI32 (v : Int) : List UInt8 := storeBigU32 (v % 2 ^ 32).toNat

section Reads

variable {k : Nat}

theorem recognises_uint8 :
    Recognises k readUint8 fun v bytes => True ∧ bytes = [v] := by
  refine (Recognises.read 1 fun p => p.getD 0 0).congr fun v bytes => ⟨?_, ?_⟩
  · rintro ⟨hlength, rfl⟩
    match bytes, hlength with
    | [v], _ => exact ⟨trivial, rfl⟩
  · rintro ⟨-, rfl⟩
    exact ⟨rfl, rfl⟩

theorem recognises_uint16 :
    Recognises k readUint16 fun v bytes => v < 2 ^ 16 ∧ bytes = storeBigU16 v := by
  refine (Recognises.read 2 ByteUtil.loadBigU16).congr fun v bytes => ⟨?_, ?_⟩
  · rintro ⟨hlength, rfl⟩
    exact ⟨ByteUtil.loadBigU16_lt _, (ByteUtil.storeBigU16_loadBigU16 hlength).symm⟩
  · rintro ⟨hlt, rfl⟩
    exact ⟨rfl, (ByteUtil.loadBigU16_storeBigU16 hlt).symm⟩

theorem loadBigU32_storeBigU32' {v : Nat} (h : v < 2 ^ 32) :
    ByteUtil.loadBigU32 (storeBigU32 v) = v := by
  have hload := ByteUtil.loadBigU32_storeBigU32 h []
  rwa [List.append_nil] at hload

theorem recognises_uint32 :
    Recognises k readUint32 fun v bytes => v < 2 ^ 32 ∧ bytes = storeBigU32 v := by
  refine (Recognises.read 4 ByteUtil.loadBigU32).congr fun v bytes => ⟨?_, ?_⟩
  · rintro ⟨hlength, rfl⟩
    exact ⟨ByteUtil.loadBigU32_lt _, (ByteUtil.storeBigU32_loadBigU32 hlength).symm⟩
  · rintro ⟨hlt, rfl⟩
    exact ⟨rfl, (loadBigU32_storeBigU32' hlt).symm⟩

/-- A signed number of 32 bits. -/
def IsInt32 (v : Int) : Prop := -2 ^ 31 ≤ v ∧ v < 2 ^ 31

theorem recognises_int32 :
    Recognises k readInt32 fun v bytes => IsInt32 v ∧ bytes = storeBigI32 v := by
  refine (Recognises.read 4 _).congr fun v bytes => ⟨?_, ?_⟩
  · rintro ⟨hlength, rfl⟩
    have hlt := ByteUtil.loadBigU32_lt bytes
    have hstore := ByteUtil.storeBigU32_loadBigU32 hlength
    unfold IsInt32 storeBigI32
    split_ifs with hsign
    · have hmod : ((ByteUtil.loadBigU32 bytes : Int) % 2 ^ 32).toNat = ByteUtil.loadBigU32 bytes := by
        omega
      rw [hmod, hstore]
      exact ⟨by omega, rfl⟩
    · have hmod : (((ByteUtil.loadBigU32 bytes : Int) - 2 ^ 32) % 2 ^ 32).toNat =
          ByteUtil.loadBigU32 bytes := by
        omega
      rw [hmod, hstore]
      exact ⟨by omega, rfl⟩
  · rintro ⟨⟨hlow, hhigh⟩, rfl⟩
    have hlt : (v % 2 ^ 32).toNat < 2 ^ 32 := by omega
    have hload : ByteUtil.loadBigU32 (storeBigI32 v) = (v % 2 ^ 32).toNat :=
      loadBigU32_storeBigU32' hlt
    refine ⟨rfl, ?_⟩
    rw [hload]
    split_ifs <;> omega

theorem recognises_string (n : Nat) :
    Recognises k (readString n) fun v bytes => v.length = n ∧ bytes = v :=
  (Recognises.read n id).congr fun _ _ =>
    ⟨fun h => ⟨h.2 ▸ h.1, h.2.symm⟩, fun h => ⟨h.2 ▸ h.1, h.2.symm⟩⟩

section Fields

variable {β : Type} {H : UInt8 → β → List UInt8 → Prop} {N : Nat → β → List UInt8 → Prop}
  {I : Int → β → List UInt8 → Prop} {S : List UInt8 → β → List UInt8 → Prop}

theorem uint8_field {f : UInt8 → Parser β} (hf : ∀ v, Recognises (k - 1) (f v) (H v)) :
    Recognises k (readUint8 >>= f) fun b bytes => ∃ v tail, bytes = [v] ++ tail ∧ H v b tail :=
  (recognises_uint8.field (n := 1) (fun _ _ => rfl) fun v _ => hf v).congr fun _ _ =>
    exists_congr fun _ => and_iff_right trivial

theorem uint16_field {f : Nat → Parser β} (hf : ∀ v, Recognises (k - 2) (f v) (N v)) :
    Recognises k (readUint16 >>= f) fun b bytes =>
      ∃ v, v < 2 ^ 16 ∧ ∃ tail, bytes = storeBigU16 v ++ tail ∧ N v b tail :=
  recognises_uint16.field (n := 2) (fun _ _ => rfl) fun v _ => hf v

theorem uint32_field {f : Nat → Parser β} (hf : ∀ v, Recognises (k - 4) (f v) (N v)) :
    Recognises k (readUint32 >>= f) fun b bytes =>
      ∃ v, v < 2 ^ 32 ∧ ∃ tail, bytes = storeBigU32 v ++ tail ∧ N v b tail :=
  recognises_uint32.field (n := 4) (fun _ _ => rfl) fun v _ => hf v

theorem int32_field {f : Int → Parser β} (hf : ∀ v, Recognises (k - 4) (f v) (I v)) :
    Recognises k (readInt32 >>= f) fun b bytes =>
      ∃ v, IsInt32 v ∧ ∃ tail, bytes = storeBigI32 v ++ tail ∧ I v b tail :=
  recognises_int32.field (n := 4) (fun _ _ => rfl) fun v _ => hf v

theorem string_field {n : Nat} {f : List UInt8 → Parser β}
    (hf : ∀ v, Recognises (k - n) (f v) (S v)) :
    Recognises k (readString n >>= f) fun b bytes =>
      ∃ v, v.length = n ∧ ∃ tail, bytes = v ++ tail ∧ S v b tail :=
  Recognises.field (recognises_string n) (fun _ h => h) fun v _ => hf v

/-- A count is a number of 16 bits. -/
theorem count_field {kind : CountKind} {f : Nat → Parser β}
    (hf : ∀ v, Recognises (k - 2) (f v) (N v)) :
    Recognises k (readCount kind >>= f) fun b bytes =>
      ∃ v, v < 2 ^ 16 ∧ ∃ tail, bytes = storeBigU16 v ++ tail ∧ N v b tail := by
  have hcount : readCount kind >>= f = readUint16 >>= fun v => note ⟨kind, v⟩ >>= fun _ => f v := by
    unfold readCount
    simp only [bind_assoc, pure_bind]
  rw [hcount]
  exact uint16_field fun v => .note _ (hf v)

end Fields

end Reads

/-! ## The device and the frequencies -/

/-- The device block, with its reserved bytes. -/
def DeviceBlock (scan : ScanData) (bytes : List UInt8) : Prop :=
  scan.deviceInfo.versionNumber < 2 ^ 16 ∧ scan.deviceInfo.deviceNumber < 2 ^ 16 ∧
    scan.deviceInfo.serialNumber < 2 ^ 32 ∧ scan.telegramCounter < 2 ^ 16 ∧
    scan.scanCounter < 2 ^ 16 ∧ scan.timeSinceStartupUs < 2 ^ 32 ∧
    scan.transmissionTimeUs < 2 ^ 32 ∧
    ∃ reserved : List UInt8, reserved.length = 2 ∧
      bytes =
        [storeBigU16 scan.deviceInfo.versionNumber, storeBigU16 scan.deviceInfo.deviceNumber,
          storeBigU32 scan.deviceInfo.serialNumber, [scan.deviceInfo.deviceStatus1],
          [scan.deviceInfo.deviceStatus2], storeBigU16 scan.telegramCounter,
          storeBigU16 scan.scanCounter, storeBigU32 scan.timeSinceStartupUs,
          storeBigU32 scan.transmissionTimeUs, [scan.digitalInput1], [scan.digitalInput2],
          [scan.digitalOutput1], [scan.digitalOutput2], reserved].flatten

/-- The fields of the device block. -/
def withDevice (out scan : ScanData) : ScanData :=
  { out with
    deviceInfo := scan.deviceInfo, telegramCounter := scan.telegramCounter
    scanCounter := scan.scanCounter, timeSinceStartupUs := scan.timeSinceStartupUs
    transmissionTimeUs := scan.transmissionTimeUs, digitalInput1 := scan.digitalInput1
    digitalInput2 := scan.digitalInput2, digitalOutput1 := scan.digitalOutput1
    digitalOutput2 := scan.digitalOutput2 }

theorem DeviceBlock.length {scan : ScanData} {bytes : List UInt8} (h : DeviceBlock scan bytes) :
    bytes.length = 28 := by
  obtain ⟨-, -, -, -, -, -, -, reserved, hreserved, rfl⟩ := h
  simp [hreserved]

theorem recognises_device (out : ScanData) :
    Recognises 0 (parseDeviceInfo out) fun out' bytes =>
      ∃ scan, out' = withDevice out scan ∧ DeviceBlock scan bytes := by
  unfold parseDeviceInfo
  apply Recognises.require
  · apply Recognises.congr
    · apply uint16_field; intro versionNumber
      apply uint16_field; intro deviceNumber
      apply uint32_field; intro serialNumber
      apply uint8_field; intro deviceStatus1
      apply uint8_field; intro deviceStatus2
      apply uint16_field; intro telegramCounter
      apply uint16_field; intro scanCounter
      apply uint32_field; intro timeSinceStartupUs
      apply uint32_field; intro transmissionTimeUs
      apply uint8_field; intro digitalInput1
      apply uint8_field; intro digitalInput2
      apply uint8_field; intro digitalOutput1
      apply uint8_field; intro digitalOutput2
      exact .reserved (by decide) (.pure _)
    · intro out' bytes
      constructor
      · rintro ⟨_, hversion, _, rfl, _, hdevice, _, rfl, _, hserial, _, rfl, _, _, rfl, _, _, rfl, _,
          htelegram, _, rfl, _, hscan, _, rfl, _, hstartup, _, rfl, _, htransmission, _, rfl, _, _,
          rfl, _, _, rfl, _, _, rfl, _, _, rfl, reserved, hreserved, _, rfl, hout, rfl⟩
        refine ⟨out', ?_⟩
        subst hout
        exact ⟨rfl, hversion, hdevice, hserial, htelegram, hscan, hstartup, htransmission,
          reserved, hreserved, rfl⟩
      · rintro ⟨scan, rfl, hversion, hdevice, hserial, htelegram, hscan, hstartup, htransmission,
          reserved, hreserved, rfl⟩
        exact ⟨_, hversion, _, rfl, _, hdevice, _, rfl, _, hserial, _, rfl, _, _, rfl, _, _, rfl, _,
          htelegram, _, rfl, _, hscan, _, rfl, _, hstartup, _, rfl, _, htransmission, _, rfl, _, _,
          rfl, _, _, rfl, _, _, rfl, _, _, rfl, reserved, hreserved, _, rfl, rfl, rfl⟩
  · rintro _ bytes ⟨scan, -, hblock⟩
    exact Nat.le_of_eq hblock.length.symm

/-- The frequencies. -/
def FrequencyBlock (scan : ScanData) (bytes : List UInt8) : Prop :=
  scan.scanFrequency < 2 ^ 32 ∧ scan.measurementFrequency < 2 ^ 32 ∧
    bytes = [storeBigU32 scan.scanFrequency, storeBigU32 scan.measurementFrequency].flatten

/-- The fields of the frequencies. -/
def withFrequency (out scan : ScanData) : ScanData :=
  { out with
    scanFrequency := scan.scanFrequency, measurementFrequency := scan.measurementFrequency }

theorem recognises_frequency (out : ScanData) :
    Recognises 0 (parseFrequency out) fun out' bytes =>
      ∃ scan, out' = withFrequency out scan ∧ FrequencyBlock scan bytes := by
  unfold parseFrequency
  apply Recognises.require
  · apply Recognises.congr
    · apply uint32_field; intro scanFrequency
      apply uint32_field; intro measurementFrequency
      exact .pure _
    · intro out' bytes
      constructor
      · rintro ⟨_, hscan, _, rfl, _, hmeasurement, _, rfl, hout, rfl⟩
        refine ⟨out', ?_⟩
        subst hout
        exact ⟨rfl, hscan, hmeasurement, rfl⟩
      · rintro ⟨scan, rfl, hscan, hmeasurement, rfl⟩
        exact ⟨_, hscan, _, rfl, _, hmeasurement, _, rfl, rfl, rfl⟩
  · rintro _ bytes ⟨scan, -, -, -, rfl⟩
    exact Nat.le_refl 8

/-! ## Encoders -/

/-- An encoder block on the wire: its position and its reserved bytes. -/
structure EncoderBytes where
  position : Nat
  reserved : List UInt8

/-- The bytes of an encoder block. -/
def EncoderBytes.encode (e : EncoderBytes) : List UInt8 := storeBigU32 e.position ++ e.reserved

/-- A position of four bytes, and two bytes behind it. -/
def EncoderBytes.Valid (e : EncoderBytes) : Prop := e.position < 2 ^ 32 ∧ e.reserved.length = 2

/-- The encoders: there may be two, of which the first is reported. -/
def EncoderBlock (scan : ScanData) (bytes : List UInt8) : Prop :=
  ∃ encoders : List EncoderBytes, encoders.length ≤ maxEncoderCount ∧
    (∀ e ∈ encoders, e.Valid) ∧ scan.hasEncoder = decide (encoders.length > 0) ∧
    scan.encoder = { position := (encoders.head?.map EncoderBytes.position).getD 0 } ∧
    bytes = storeBigU16 encoders.length ++ encoders.flatMap EncoderBytes.encode

/-- The fields of the encoders. -/
def withEncoder (out scan : ScanData) : ScanData :=
  { out with hasEncoder := scan.hasEncoder, encoder := scan.encoder }

/-- What the encoder loop reports from block `i` on. -/
def reported (i : Nat) (out : ScanData) (encoders : List EncoderBytes) : ScanData :=
  match i, encoders with
  | 0, e :: _ => { out with encoder := { position := e.position } }
  | _, _ => out

theorem recognises_encoderBlocks (count : Nat) : ∀ (i : Nat) (out : ScanData),
    Recognises 0 (parseEncoderBlocks count i out) fun out' bytes =>
      ∃ encoders : List EncoderBytes, encoders.length = count ∧ (∀ e ∈ encoders, e.Valid) ∧
        bytes = encoders.flatMap EncoderBytes.encode ∧ out' = reported i out encoders := by
  induction count with
  | zero =>
    intro i out
    refine (Recognises.pure out).congr fun out' bytes => ⟨?_, ?_⟩
    · rintro ⟨rfl, rfl⟩
      refine ⟨[], rfl, nofun, rfl, ?_⟩
      cases i <;> rfl
    · rintro ⟨encoders, hlength, -, rfl, rfl⟩
      obtain rfl := List.eq_nil_of_length_eq_zero hlength
      refine ⟨?_, rfl⟩
      cases i <;> rfl
  | succ count ih =>
    intro i out
    unfold parseEncoderBlocks
    apply Recognises.require
    · apply Recognises.congr
      · apply uint32_field; intro position
        apply Recognises.reserved (by decide)
        exact (ih (i + 1) _).mono (Nat.zero_le _)
      · intro out' bytes
        constructor
        · rintro ⟨position, hposition, _, rfl, reserved, hreserved, _, rfl, encoders, hlength, hvalid,
            rfl, rfl⟩
          refine ⟨⟨position, reserved⟩ :: encoders, ?_, ?_, ?_, ?_⟩
          · rw [List.length_cons, hlength]
          · intro e he
            obtain rfl | he := List.mem_cons.mp he
            · exact ⟨hposition, hreserved⟩
            · exact hvalid e he
          · rw [List.flatMap_cons, EncoderBytes.encode, List.append_assoc]
          · cases i <;> rfl
        · rintro ⟨encoders, hlength, hvalid, rfl, rfl⟩
          cases encoders with
          | nil => exact nomatch hlength
          | cons e encoders =>
            have he := hvalid e List.mem_cons_self
            refine ⟨e.position, he.1, _, ?_, e.reserved, he.2, _, rfl, encoders, Nat.succ.inj hlength,
              fun x hx => hvalid x (List.mem_cons_of_mem e hx), rfl, ?_⟩
            · rw [List.flatMap_cons, EncoderBytes.encode, List.append_assoc]
            · cases i <;> rfl
    · rintro out' bytes ⟨encoders, hlength, hvalid, rfl, -⟩
      cases encoders with
      | nil => exact nomatch hlength
      | cons e encoders =>
        have he := (hvalid e List.mem_cons_self).2
        rw [List.flatMap_cons, EncoderBytes.encode]
        simp only [List.length_append, ByteUtil.length_storeBigU32, he]
        omega

theorem recognises_encoder {out : ScanData} (hfresh : out.encoder = {}) :
    Recognises 0 (parseEncoder out) fun out' bytes =>
      ∃ scan, out' = withEncoder out scan ∧ EncoderBlock scan bytes := by
  unfold parseEncoder
  apply Recognises.require
  · apply Recognises.congr
    · apply count_field; intro count
      apply Recognises.guardOr; intro hcount
      exact (recognises_encoderBlocks count 0 _).mono (Nat.zero_le _)
    · intro out' bytes
      constructor
      · rintro ⟨_, -, _, rfl, hmax, encoders, rfl, hvalid, rfl, hout⟩
        refine ⟨out', ?_, encoders, hmax, hvalid, ?_, ?_, rfl⟩
        · rw [hout]
          cases encoders <;> rfl
        · rw [hout]
          cases encoders <;> rfl
        · rw [hout]
          cases encoders with
          | nil => exact hfresh
          | cons e encoders => rfl
      · rintro ⟨scan, rfl, encoders, hmax, hvalid, hhas, hposition, rfl⟩
        refine ⟨encoders.length, Nat.lt_of_le_of_lt hmax (by decide), _, rfl, hmax, encoders, rfl,
          hvalid, rfl, ?_⟩
        unfold withEncoder
        rw [hhas, hposition]
        cases encoders with
        | nil =>
          show _ = { out with hasEncoder := false }
          rw [hfresh]
          rfl
        | cons e encoders => rfl
  · rintro _ bytes ⟨scan, -, encoders, -, -, -, -, rfl⟩
    rw [List.length_append, ByteUtil.length_storeBigU16]
    exact Nat.le_add_right _ _

/-! ## Channels -/

section Channels

variable {Content Sample : Type}

/-- A channel: a name of five bytes that means its content, the scales and angles, the number of
its samples, which is limited, and the samples. -/
def ChannelBlock (identifyChannel : List UInt8 → Content) (valid : Sample → Prop)
    (encode : Sample → List UInt8) (ch : ChannelData Content Sample) (bytes : List UInt8) : Prop :=
  ch.scaleFactor < 2 ^ 32 ∧ ch.scaleOffset < 2 ^ 32 ∧ IsInt32 ch.startAngle ∧
    ch.angleStep < 2 ^ 16 ∧ ch.numData ≤ maxPointsPerScan ∧ ch.data.length = ch.numData ∧
    (∀ x ∈ ch.data, valid x) ∧
    ∃ name : List UInt8, name.length = 5 ∧ identifyChannel name = ch.content ∧
      bytes =
        [name, storeBigU32 ch.scaleFactor, storeBigU32 ch.scaleOffset, storeBigI32 ch.startAngle,
          storeBigU16 ch.angleStep, storeBigU16 ch.numData, ch.data.flatMap encode].flatten

variable {identifyChannel : List UInt8 → Content} {valid : Sample → Prop}
  {encode : Sample → List UInt8}

section Samples

variable {sampleBytes : Nat} (hsize : ∀ x, (encode x).length = sampleBytes)
  {readSample : Parser Sample}
  (hsample : Recognises 0 readSample fun x bytes => valid x ∧ bytes = encode x)

include hsize in
theorem length_samples (data : List Sample) :
    (data.flatMap encode).length = data.length * sampleBytes := by
  induction data with
  | nil => exact (Nat.zero_mul _).symm
  | cons x data ih =>
    rw [List.flatMap_cons, List.length_append, List.length_cons, hsize, ih, Nat.succ_mul,
      Nat.add_comm]

theorem ChannelBlock.length {ch : ChannelData Content Sample} {bytes : List UInt8}
    (h : ChannelBlock identifyChannel valid encode ch bytes) :
    channelHeaderSize ≤ bytes.length := by
  obtain ⟨-, -, -, -, -, -, -, name, hname, -, rfl⟩ := h
  simp only [List.flatten_cons, List.length_append, hname, ByteUtil.length_storeBigU32,
    ByteUtil.length_storeBigU16, storeBigI32, channelHeaderSize]
  omega

include hsize hsample

/-- The samples of a channel, behind the test that they are there. -/
theorem recognises_samples {χ : Type} (n : Nat) (f : List Sample → χ) :
    Recognises 0
      (require (n * sampleBytes) .frameTooShort >>= fun _ =>
        times n readSample >>= fun data => pure (f data))
      fun ch bytes => ∃ data, data.length = n ∧ (∀ x ∈ data, valid x) ∧
        bytes = data.flatMap encode ∧ ch = f data := by
  apply Recognises.require
  · refine (((Recognises.times hsample n).bind_free fun data => .pure (f data)).mono
      (Nat.zero_le _)).congr fun ch bytes => ⟨?_, ?_⟩
    · rintro ⟨data, _, _, ⟨hlength, hvalid, rfl⟩, ⟨rfl, rfl⟩, rfl⟩
      exact ⟨data, hlength, hvalid, List.append_nil _, rfl⟩
    · rintro ⟨data, hlength, hvalid, rfl, rfl⟩
      exact ⟨data, _, [], ⟨hlength, hvalid, rfl⟩, ⟨rfl, rfl⟩, (List.append_nil _).symm⟩
  · rintro ch bytes ⟨data, rfl, -, rfl, -⟩
    exact Nat.le_of_eq (length_samples hsize data).symm

theorem recognises_channel :
    Recognises 0 (parseChannel identifyChannel sampleBytes readSample)
      (ChannelBlock identifyChannel valid encode) := by
  unfold parseChannel
  apply Recognises.require
  · apply Recognises.congr
    · apply string_field; intro name
      apply uint32_field; intro scaleFactor
      apply uint32_field; intro scaleOffset
      apply int32_field; intro startAngle
      apply uint16_field; intro angleStep
      apply count_field; intro numData
      apply Recognises.guardOr; intro hmax
      exact (recognises_samples hsize hsample numData _).mono (Nat.zero_le _)
    · intro ch bytes
      constructor
      · rintro ⟨name, hname, _, rfl, _, hfactor, _, rfl, _, hoffset, _, rfl, _, hangle, _, rfl, _,
          hstep, _, rfl, _, -, _, rfl, hmax, data, hlength, hvalid, rfl, rfl⟩
        refine ⟨hfactor, hoffset, hangle, hstep, hmax, hlength, hvalid, name, hname, rfl, ?_⟩
        simp only [List.flatten_cons, List.flatten_nil, List.append_nil]
      · rintro ⟨hfactor, hoffset, hangle, hstep, hmax, hlength, hvalid, name, hname, hcontent, rfl⟩
        refine ⟨name, hname, _, rfl, _, hfactor, _, rfl, _, hoffset, _, rfl, _, hangle, _, rfl, _,
          hstep, _, rfl, _, Nat.lt_of_le_of_lt hmax (by decide), _, rfl, hmax, ch.data, hlength,
          hvalid, List.append_nil _, ?_⟩
        rw [hcontent]
  · intro ch bytes hblock
    exact hblock.length

end Samples

/-- The channels of a list, one behind another. -/
def ChannelBlocks {χ : Type} (block : χ → List UInt8 → Prop) (channels : List χ)
    (bytes : List UInt8) : Prop :=
  ∃ blocks, List.Forall₂ block channels blocks ∧
    bytes = storeBigU16 channels.length ++ blocks.flatten

theorem recognises_channelList {χ : Type} {channel : Parser χ} {block : χ → List UInt8 → Prop}
    (hchannel : Recognises 0 channel block) (pushBack : ScanData → χ → ScanData) (count : Nat) :
    ∀ out, Recognises 0 (parseChannelList channel pushBack count out) fun out' bytes =>
      ∃ channels, channels.length = count ∧
        (∃ blocks, List.Forall₂ block channels blocks ∧ bytes = blocks.flatten) ∧
        out' = channels.foldl pushBack out := by
  induction count with
  | zero =>
    intro out
    refine (Recognises.pure out).congr fun out' bytes => ⟨?_, ?_⟩
    · rintro ⟨rfl, rfl⟩
      exact ⟨[], rfl, ⟨[], .nil, rfl⟩, rfl⟩
    · rintro ⟨channels, hlength, ⟨blocks, hblocks, rfl⟩, rfl⟩
      obtain rfl := List.eq_nil_of_length_eq_zero hlength
      cases hblocks
      exact ⟨rfl, rfl⟩
  | succ count ih =>
    intro out
    refine (hchannel.bind_free fun ch => ih (pushBack out ch)).congr fun out' bytes => ⟨?_, ?_⟩
    · rintro ⟨ch, first, _, hfirst, ⟨channels, hlength, ⟨blocks, hblocks, rfl⟩, rfl⟩, rfl⟩
      exact ⟨ch :: channels, by rw [List.length_cons, hlength],
        ⟨first :: blocks, .cons hfirst hblocks, List.flatten_cons.symm⟩, rfl⟩
    · rintro ⟨channels, hlength, ⟨blocks, hblocks, rfl⟩, rfl⟩
      cases hblocks with
      | nil => exact nomatch hlength
      | cons hfirst hrest =>
        rename_i ch first channels blocks
        exact ⟨ch, first, blocks.flatten, hfirst,
          ⟨channels, Nat.succ.inj hlength, ⟨blocks, hrest, rfl⟩, rfl⟩, List.flatten_cons⟩

/-- A channel section: a count within its limit, and the channels. -/
theorem recognises_channels {χ : Type} {kind : CountKind} {maxCount : Nat} {channel : Parser χ}
    {block : χ → List UInt8 → Prop} (hchannel : Recognises 0 channel block)
    (hmax : maxCount < 2 ^ 16) (pushBack : ScanData → χ → ScanData) (out : ScanData) :
    Recognises 0 (parseChannels kind maxCount channel pushBack out) fun out' bytes =>
      ∃ channels, out' = channels.foldl pushBack out ∧ channels.length ≤ maxCount ∧
        ChannelBlocks block channels bytes := by
  unfold parseChannels
  apply Recognises.require
  · apply Recognises.congr
    · apply count_field; intro count
      apply Recognises.guardOr; intro hcount
      exact (recognises_channelList hchannel pushBack count out).mono (Nat.zero_le _)
    · intro out' bytes
      constructor
      · rintro ⟨_, -, _, rfl, hcount, channels, rfl, ⟨blocks, hblocks, rfl⟩, rfl⟩
        exact ⟨channels, rfl, hcount, blocks, hblocks, rfl⟩
      · rintro ⟨channels, rfl, hcount, blocks, hblocks, rfl⟩
        exact ⟨channels.length, Nat.lt_of_le_of_lt hcount hmax, _, rfl, hcount, channels, rfl,
          ⟨blocks, hblocks, rfl⟩, rfl⟩
  · rintro _ bytes ⟨channels, -, -, blocks, -, rfl⟩
    rw [List.length_append, ByteUtil.length_storeBigU16]
    exact Nat.le_add_right _ _

end Channels

/-- A 16-bit channel. -/
def ChannelBlock16 : ChannelData16 → List UInt8 → Prop :=
  ChannelBlock identifyChannel16 (· < 2 ^ 16) storeBigU16

/-- An 8-bit channel. -/
def ChannelBlock8 : ChannelData8 → List UInt8 → Prop :=
  ChannelBlock identifyChannel8 (fun _ => True) fun x => [x]

/-- The 16-bit channels of a scan. -/
def withChannels16bit (out scan : ScanData) : ScanData :=
  { out with channels16bit := scan.channels16bit }

/-- The 8-bit channels of a scan. -/
def withChannels8bit (out scan : ScanData) : ScanData :=
  { out with channels8bit := scan.channels8bit }

theorem recognises_channels16bit {out : ScanData} (hfresh : out.channels16bit = []) :
    Recognises 0 (parseChannels16bit out) fun out' bytes =>
      ∃ scan, out' = withChannels16bit out scan ∧
        scan.channels16bit.length ≤ max16BitChannelCount ∧
        ChannelBlocks ChannelBlock16 scan.channels16bit bytes := by
  have hpush (channels : List ChannelData16) : ∀ out : ScanData,
      channels.foldl (fun out ch => { out with channels16bit := out.channels16bit ++ [ch] }) out =
        { out with channels16bit := out.channels16bit ++ channels } := by
    induction channels with
    | nil =>
      intro out
      rw [List.append_nil]
      rfl
    | cons ch channels ih =>
      intro out
      rw [List.foldl_cons, ih]
      simp
  have hchannel : Recognises 0 (parseChannel identifyChannel16 2 readUint16) ChannelBlock16 :=
    recognises_channel ByteUtil.length_storeBigU16 recognises_uint16
  unfold parseChannels16bit
  refine (recognises_channels hchannel (by decide) _ out).congr fun out' bytes => ⟨?_, ?_⟩
  · rintro ⟨channels, rfl, hblocks⟩
    refine ⟨{ out with channels16bit := channels }, ?_, hblocks⟩
    rw [hpush, hfresh, List.nil_append]
    rfl
  · rintro ⟨scan, rfl, hblocks⟩
    refine ⟨scan.channels16bit, ?_, hblocks⟩
    rw [hpush, hfresh, List.nil_append]
    rfl

theorem recognises_channels8bit {out : ScanData} (hfresh : out.channels8bit = []) :
    Recognises 0 (parseChannels8bit out) fun out' bytes =>
      ∃ scan, out' = withChannels8bit out scan ∧
        scan.channels8bit.length ≤ max8BitChannelCount ∧
        ChannelBlocks ChannelBlock8 scan.channels8bit bytes := by
  have hpush (channels : List ChannelData8) : ∀ out : ScanData,
      channels.foldl (fun out ch => { out with channels8bit := out.channels8bit ++ [ch] }) out =
        { out with channels8bit := out.channels8bit ++ channels } := by
    induction channels with
    | nil =>
      intro out
      rw [List.append_nil]
      rfl
    | cons ch channels ih =>
      intro out
      rw [List.foldl_cons, ih]
      simp
  have hsize (x : UInt8) : ((fun x => [x]) x : List UInt8).length = 1 := rfl
  have hchannel : Recognises 0 (parseChannel identifyChannel8 1 readUint8) ChannelBlock8 :=
    recognises_channel hsize recognises_uint8
  unfold parseChannels8bit
  refine (recognises_channels hchannel (by decide) _ out).congr fun out' bytes => ⟨?_, ?_⟩
  · rintro ⟨channels, rfl, hblocks⟩
    refine ⟨{ out with channels8bit := channels }, ?_, hblocks⟩
    rw [hpush, hfresh, List.nil_append]
    rfl
  · rintro ⟨scan, rfl, hblocks⟩
    refine ⟨scan.channels8bit, ?_, hblocks⟩
    rw [hpush, hfresh, List.nil_append]
    rfl

/-! ## Position, name and time -/

/-- The position. -/
def PositionBlock (scan : ScanData) (bytes : List UInt8) : Prop :=
  scan.yRotation < 2 ^ 32 ∧ bytes = storeBigU32 scan.yRotation

/-- The field of the position. -/
def withPosition (out scan : ScanData) : ScanData := { out with yRotation := scan.yRotation }

theorem recognises_position (out : ScanData) :
    Recognises 0 (parsePosition out) fun out' bytes =>
      ∃ scan, out' = withPosition out scan ∧ PositionBlock scan bytes := by
  unfold parsePosition
  apply Recognises.require
  · apply Recognises.congr
    · apply uint32_field; intro yRotation
      exact .pure _
    · intro out' bytes
      constructor
      · rintro ⟨_, hrotation, _, rfl, hout, rfl⟩
        refine ⟨out', ?_⟩
        subst hout
        exact ⟨rfl, hrotation, List.append_nil _⟩
      · rintro ⟨scan, rfl, hrotation, rfl⟩
        exact ⟨_, hrotation, [], (List.append_nil _).symm, rfl, rfl⟩
  · rintro _ bytes ⟨scan, -, -, rfl⟩
    exact Nat.le_refl 4

/-- The device name, if there is one. -/
def NameBlock (scan : ScanData) (bytes : List UInt8) : Prop :=
  scan.hasDeviceName = false ∧ scan.deviceName = [] ∧ bytes = storeBigU16 0 ∨
  scan.hasDeviceName = true ∧ scan.deviceName.length ≤ maxDeviceNameLength ∧
    bytes = [storeBigU16 1, storeBigU16 scan.deviceName.length, scan.deviceName].flatten

/-- The fields of the device name. -/
def withName (out scan : ScanData) : ScanData :=
  { out with hasDeviceName := scan.hasDeviceName, deviceName := scan.deviceName }

theorem recognises_presentName (out : ScanData) :
    Recognises 0 (parsePresentDeviceName out) fun out' bytes =>
      ∃ name : List UInt8, name.length ≤ maxDeviceNameLength ∧
        bytes = [storeBigU16 name.length, name].flatten ∧ out' = { out with deviceName := name } := by
  unfold parsePresentDeviceName
  apply Recognises.require
  · apply Recognises.congr
    · apply count_field; intro nameLen
      apply Recognises.guardOr; intro hmax
      exact (Recognises.require (string_field fun name => .pure { out with deviceName := name })
        (by
          rintro _ bytes ⟨name, rfl, _, rfl, -, rfl⟩
          exact Nat.le_of_eq (congrArg List.length (List.append_nil name).symm))).mono (Nat.zero_le _)
    · intro out' bytes
      constructor
      · rintro ⟨_, -, _, rfl, hmax, name, rfl, _, rfl, rfl, rfl⟩
        exact ⟨name, hmax, rfl, rfl⟩
      · rintro ⟨name, hmax, rfl, rfl⟩
        exact ⟨name.length, Nat.lt_of_le_of_lt hmax (by decide), _, rfl, hmax, name, rfl, _, rfl, rfl,
          rfl⟩
  · rintro _ bytes ⟨name, -, rfl, -⟩
    rw [List.flatten_cons, List.length_append, ByteUtil.length_storeBigU16]
    exact Nat.le_add_right _ _

theorem recognises_name {out : ScanData} (hfresh : out.deviceName = []) :
    Recognises 0 (parseDeviceName out) fun out' bytes =>
      ∃ scan, out' = withName out scan ∧ NameBlock scan bytes := by
  unfold parseDeviceName
  apply Recognises.require
  · apply Recognises.congr
    · apply uint16_field; intro nameFlag
      apply Recognises.guardOr; intro hflag
      exact Recognises.ite
        (fun _ => (recognises_presentName _).mono (Nat.zero_le _)) fun _ => .pure _
    · intro out' bytes
      constructor
      · rintro ⟨flag, -, _, rfl, hflag, ⟨rfl, name, hmax, rfl, hout⟩ | ⟨hno, hout, rfl⟩⟩
        · refine ⟨out', ?_, .inr ⟨?_, ?_, ?_⟩⟩ <;> subst hout
          · rfl
          · rfl
          · exact hmax
          · rfl
        · obtain rfl : flag = 0 := by omega
          refine ⟨out', ?_, .inl ⟨?_, ?_, ?_⟩⟩ <;> subst hout
          · rfl
          · rfl
          · exact hfresh
          · exact List.append_nil _
      · rintro ⟨scan, rfl, ⟨hhas, hname, rfl⟩ | ⟨hhas, hmax, rfl⟩⟩
        · refine ⟨0, by decide, [], (List.append_nil _).symm, by decide, .inr ⟨by decide, ?_, rfl⟩⟩
          unfold withName
          rw [hhas, hname, ← hfresh]
          rfl
        · refine ⟨1, by decide, _, rfl, by decide, .inl ⟨rfl, scan.deviceName, hmax, rfl, ?_⟩⟩
          unfold withName
          rw [hhas]
          rfl
  · rintro _ bytes ⟨scan, -, ⟨-, -, rfl⟩ | ⟨-, -, rfl⟩⟩
    · exact Nat.le_refl 2
    · rw [List.flatten_cons, List.length_append, ByteUtil.length_storeBigU16]
      exact Nat.le_add_right _ _

/-- A calendar time. -/
def CalendarBytes (t : ScanTimestamp) (bytes : List UInt8) : Prop :=
  t.year < 2 ^ 16 ∧ t.month < 2 ^ 8 ∧ t.day < 2 ^ 8 ∧ t.hour < 2 ^ 8 ∧ t.minute < 2 ^ 8 ∧
    t.second < 2 ^ 8 ∧ t.microsecond < 2 ^ 32 ∧
    bytes =
      [storeBigU16 t.year, [UInt8.ofNat t.month], [UInt8.ofNat t.day], [UInt8.ofNat t.hour],
        [UInt8.ofNat t.minute], [UInt8.ofNat t.second], storeBigU32 t.microsecond].flatten

/-- The time stamp, if there is one. -/
def TimeBlock (scan : ScanData) (bytes : List UInt8) : Prop :=
  scan.hasTimestamp = false ∧ scan.timestamp = {} ∧ bytes = storeBigU16 0 ∨
  scan.hasTimestamp = true ∧
    ∃ time, CalendarBytes scan.timestamp time ∧ bytes = storeBigU16 1 ++ time

/-- The fields of the time stamp. -/
def withTime (out scan : ScanData) : ScanData :=
  { out with hasTimestamp := scan.hasTimestamp, timestamp := scan.timestamp }

/-- The body of the time stamp, behind its flag. -/
theorem recognises_calendar (out : ScanData) :
    Recognises 0
      (do
        require 11 .frameTooShort
        let year ← readUint16
        let month ← readUint8
        let day ← readUint8
        let hour ← readUint8
        let minute ← readUint8
        let second ← readUint8
        let microsecond ← readUint32
        pure
          { out with
            timestamp :=
              { year
                month := month.toNat, day := day.toNat, hour := hour.toNat
                minute := minute.toNat, second := second.toNat, microsecond } })
      fun out' bytes => ∃ t, CalendarBytes t bytes ∧ out' = { out with timestamp := t } := by
  apply Recognises.require
  · apply Recognises.congr
    · apply uint16_field; intro year
      apply uint8_field; intro month
      apply uint8_field; intro day
      apply uint8_field; intro hour
      apply uint8_field; intro minute
      apply uint8_field; intro second
      apply uint32_field; intro microsecond
      exact .pure _
    · intro x bytes
      constructor
      · rintro ⟨year, hyear, _, rfl, month, _, rfl, day, _, rfl, hour, _, rfl, minute, _, rfl, second,
          _, rfl, microsecond, hmicrosecond, _, rfl, rfl, rfl⟩
        refine ⟨_, ⟨hyear, month.toNat_lt, day.toNat_lt, hour.toNat_lt, minute.toNat_lt,
          second.toNat_lt, hmicrosecond, ?_⟩, rfl⟩
        simp only [UInt8.ofNat_toNat]
        rfl
      · rintro ⟨t, ⟨hyear, hmonth, hday, hhour, hminute, hsecond, hmicrosecond, rfl⟩, rfl⟩
        refine ⟨t.year, hyear, _, rfl, _, _, rfl, _, _, rfl, _, _, rfl, _, _, rfl, _, _, rfl, _,
          hmicrosecond, _, rfl, ?_, rfl⟩
        rw [UInt8.toNat_ofNat_of_lt' hmonth, UInt8.toNat_ofNat_of_lt' hday,
          UInt8.toNat_ofNat_of_lt' hhour, UInt8.toNat_ofNat_of_lt' hminute,
          UInt8.toNat_ofNat_of_lt' hsecond]
  · rintro _ bytes ⟨t, ⟨-, -, -, -, -, -, -, rfl⟩, -⟩
    exact Nat.le_refl 11

theorem recognises_time {out : ScanData} (hfresh : out.timestamp = {}) :
    Recognises 0 (parseTimestampBlock out) fun out' bytes =>
      ∃ scan, out' = withTime out scan ∧ TimeBlock scan bytes := by
  unfold parseTimestampBlock
  apply Recognises.require
  · apply Recognises.congr
    · apply uint16_field; intro timeFlag
      apply Recognises.guardOr; intro hflag
      apply Recognises.ite
      · intro _
        exact (recognises_calendar _).mono (Nat.zero_le _)
      · intro _
        exact .pure _
    · intro out' bytes
      constructor
      · rintro ⟨flag, -, _, rfl, hflag, ⟨rfl, t, htime, rfl⟩ | ⟨hno, hout, rfl⟩⟩
        · exact ⟨{ out with hasTimestamp := true, timestamp := t }, rfl, .inr ⟨rfl, _, htime, rfl⟩⟩
        · obtain rfl : flag = 0 := by omega
          refine ⟨out', ?_, .inl ⟨?_, ?_, ?_⟩⟩ <;> subst hout
          · rfl
          · rfl
          · exact hfresh
          · exact List.append_nil _
      · rintro ⟨scan, rfl, ⟨hhas, htime, rfl⟩ | ⟨hhas, time, htime, rfl⟩⟩
        · refine ⟨0, by decide, [], (List.append_nil _).symm, by decide, .inr ⟨by decide, ?_, rfl⟩⟩
          unfold withTime
          rw [hhas, htime, ← hfresh]
          rfl
        · refine ⟨1, by decide, _, rfl, by decide, .inl ⟨rfl, scan.timestamp, htime, ?_⟩⟩
          unfold withTime
          rw [hhas]
          rfl
  · rintro _ bytes ⟨scan, -, ⟨-, -, rfl⟩ | ⟨-, time, -, rfl⟩⟩
    · exact Nat.le_refl 2
    · rw [List.length_append, ByteUtil.length_storeBigU16]
      exact Nat.le_add_right _ _

/-! ## The telegram -/

/-- Bytes that encode a scan: the blocks in order, and two reserved bytes or none. -/
def Encodes (scan : ScanData) (bytes : List UInt8) : Prop :=
  ∃ device frequency encoder channels16 channels8 position name time suffix,
    DeviceBlock scan device ∧ FrequencyBlock scan frequency ∧ EncoderBlock scan encoder ∧
    (scan.channels16bit.length ≤ max16BitChannelCount ∧
      ChannelBlocks ChannelBlock16 scan.channels16bit channels16) ∧
    (scan.channels8bit.length ≤ max8BitChannelCount ∧
      ChannelBlocks ChannelBlock8 scan.channels8bit channels8) ∧
    PositionBlock scan position ∧ NameBlock scan name ∧ TimeBlock scan time ∧
    (suffix.length = 0 ∨ suffix.length = 2) ∧
    bytes =
      [device, frequency, encoder, channels16, channels8, position, name, time, suffix].flatten

/-- The sections of `Parse`, before its end. -/
def sections : Parser ScanData := do
  let out ← parseDeviceInfo {}
  let out ← parseFrequency out
  let out ← parseEncoder out
  let out ← parseChannels16bit out
  let out ← parseChannels8bit out
  let out ← parsePosition out
  let out ← parseDeviceName out
  parseTimestampBlock out

theorem parse_eq (data : List UInt8) :
    parse data =
      (guardOr (fun r => ¬ r.data.length < 52) .frameTooShort >>= fun _ =>
        sections >>= fun out => parseEnd >>= fun _ => pure out) { data } := by
  unfold parse sections
  simp only [bind_assoc]

/-- The sections take their blocks, and return the scan. -/
theorem recognises_sections :
    Recognises 0 sections fun scan bytes =>
      ∃ device frequency encoder channels16 channels8 position name time,
        DeviceBlock scan device ∧ FrequencyBlock scan frequency ∧ EncoderBlock scan encoder ∧
        (scan.channels16bit.length ≤ max16BitChannelCount ∧
          ChannelBlocks ChannelBlock16 scan.channels16bit channels16) ∧
        (scan.channels8bit.length ≤ max8BitChannelCount ∧
          ChannelBlocks ChannelBlock8 scan.channels8bit channels8) ∧
        PositionBlock scan position ∧ NameBlock scan name ∧ TimeBlock scan time ∧
        bytes =
          [device, frequency, encoder, channels16, channels8, position, name, time].flatten := by
  unfold sections
  apply Recognises.congr
  · apply (recognises_device {}).bind_hidden; intro device
    apply (recognises_frequency _).bind_hidden; intro frequency
    apply (recognises_encoder rfl).bind_hidden; intro encoder
    apply (recognises_channels16bit rfl).bind_hidden; intro channels16
    apply (recognises_channels8bit rfl).bind_hidden; intro channels8
    apply (recognises_position _).bind_hidden; intro position
    apply (recognises_name rfl).bind_hidden; intro name
    exact recognises_time rfl
  · intro scan bytes
    constructor
    · rintro ⟨_, device, hdevice, _, rfl, _, frequency, hfrequency, _, rfl, _, encoder, hencoder, _,
        rfl, _, channels16, hchannels16, _, rfl, _, channels8, hchannels8, _, rfl, _, position,
        hposition, _, rfl, _, name, hname, time, rfl, _, hscan, htime⟩
      refine ⟨device, frequency, encoder, channels16, channels8, position, name, time, ?_⟩
      rw [hscan]
      dsimp only [DeviceBlock, FrequencyBlock, EncoderBlock, PositionBlock, NameBlock, TimeBlock,
        withDevice, withFrequency, withEncoder, withChannels16bit, withChannels8bit, withPosition,
        withName, withTime]
      refine ⟨hdevice, hfrequency, hencoder, hchannels16, hchannels8, hposition, hname, htime, ?_⟩
      simp only [List.flatten_cons, List.flatten_nil, List.append_nil]
    · rintro ⟨device, frequency, encoder, channels16, channels8, position, name, time, hdevice,
        hfrequency, hencoder, hchannels16, hchannels8, hposition, hname, htime, rfl⟩
      refine ⟨scan, device, hdevice, _, rfl, scan, frequency, hfrequency, _, rfl, scan, encoder,
        hencoder, _, rfl, scan, channels16, hchannels16, _, rfl, scan, channels8, hchannels8, _, rfl,
        scan, position, hposition, _, rfl, scan, name, hname, time, ?_, scan, ?_, htime⟩
      · rw [List.flatten_cons, List.flatten_singleton]
      · cases scan
        rfl

/-- The end takes two bytes or none, and nothing may stand behind them. -/
theorem parseEnd_iff {c : Reader} (hc : c.HasBytes 0) :
    (∃ c', parseEnd c = .ok ((), c')) ↔ c.remaining = 0 ∨ c.remaining = 2 := by
  have hend (c' : Reader) : parseEnd c = .ok ((), c') ↔
      (if c.HasBytes 2 then c.advance 2 else c).remaining = 0 ∧
        c' = if c.HasBytes 2 then c.advance 2 else c := by
    unfold parseEnd
    have hget : (get : Parser Reader) c = .ok (c, c) := rfl
    rw [bind_of_ok hget]
    by_cases hhas : c.HasBytes 2
    · rw [if_pos hhas, if_pos hhas, skip_bind]
      exact guardOr_eq_ok
    · rw [if_neg hhas, if_neg hhas]
      exact guardOr_eq_ok
  have htest : (if c.HasBytes 2 then c.advance 2 else c).remaining = 0 ↔
      c.remaining = 0 ∨ c.remaining = 2 := by
    have hpos := hc.1
    split_ifs with hhas
    · have htwo := hhas.le_remaining
      rw [Cursor.remaining_advance]
      omega
    · have hfew : c.remaining < 2 := Nat.lt_of_not_le fun h => hhas ⟨hpos, h⟩
      omega
  rw [← htest]
  constructor
  · rintro ⟨c', hok⟩
    exact ((hend c').1 hok).1
  · intro hnone
    exact ⟨_, (hend _).2 ⟨hnone, rfl⟩⟩

/-- `Parse` is its sections, between the test of the length and the test of the end. -/
theorem parse_sections {data : List UInt8} {scan : ScanData} :
    (∃ r, parse data = .ok (scan, r)) ↔
      52 ≤ data.length ∧ ∃ c : Reader, sections { data } = .ok (scan, c) ∧
        ∃ c', parseEnd c = .ok ((), c') := by
  rw [parse_eq]
  constructor
  · rintro ⟨r, hrun⟩
    obtain ⟨hlength, hrun⟩ := guardOr_bind_eq_ok.mp hrun
    obtain ⟨out, c, hsections, hrun⟩ := bind_eq_ok.mp hrun
    obtain ⟨_, c', hend, hrun⟩ := bind_eq_ok.mp hrun
    obtain ⟨rfl, -⟩ := pure_eq_ok.mp hrun
    exact ⟨Nat.le_of_not_lt hlength, c, hsections, c', hend⟩
  · rintro ⟨hlength, c, hsections, c', hend⟩
    refine ⟨c', ?_⟩
    rw [guardOr_bind (Nat.not_lt_of_le hlength), bind_of_ok hsections, bind_of_ok hend]
    rfl

/-- `Parse` accepts exactly the bytes, 52 at least, that encode a scan, and returns that scan. -/
theorem parse_iff_encodes (data : List UInt8) (scan : ScanData) :
    (∃ r, parse data = .ok (scan, r)) ↔ Encodes scan data ∧ 52 ≤ data.length := by
  have hstart : Cursor.HasBytes ({ data } : Reader) 0 := ⟨Nat.zero_le _, Nat.zero_le _⟩
  rw [parse_sections, and_comm (a := 52 ≤ data.length)]
  refine and_congr_left fun _ => ?_
  constructor
  · rintro ⟨c, hsections, hend⟩
    obtain ⟨bytes, hbytes, htakes⟩ := recognises_sections.sound hstart hsections
    rw [parseEnd_iff ((htakes.hasBytes hstart).mono (Nat.zero_le _))] at hend
    obtain ⟨device, frequency, encoder, channels16, channels8, position, name, time, hdevice,
      hfrequency, hencoder, hchannels16, hchannels8, hposition, hname, htime, rfl⟩ := hbytes
    refine ⟨device, frequency, encoder, channels16, channels8, position, name, time, c.rest, hdevice,
      hfrequency, hencoder, hchannels16, hchannels8, hposition, hname, htime, ?_, ?_⟩
    · unfold Cursor.rest
      rwa [List.length_drop]
    · have hrest : data = _ := htakes.rest
      rw [hrest]
      simp only [List.flatten_cons, List.flatten_nil, List.append_nil, List.append_assoc]
  · rintro ⟨device, frequency, encoder, channels16, channels8, position, name, time, suffix, hdevice,
      hfrequency, hencoder, hchannels16, hchannels8, hposition, hname, htime, hsuffix, hdata⟩
    have hthere : [device, frequency, encoder, channels16, channels8, position, name, time].flatten
        <+: ({ data } : Reader).rest :=
      ⟨suffix, by
        rw [hdata]
        simp only [Cursor.rest, List.drop_zero, List.flatten_cons, List.flatten_nil, List.append_nil,
          List.append_assoc]⟩
    obtain ⟨c, hsections, htakes⟩ := recognises_sections.complete hstart
      ⟨device, frequency, encoder, channels16, channels8, position, name, time, hdevice, hfrequency,
        hencoder, hchannels16, hchannels8, hposition, hname, htime, rfl⟩ hthere
    refine ⟨c, hsections, (parseEnd_iff ((htakes.hasBytes hstart).mono (Nat.zero_le _))).2 ?_⟩
    have hrest : suffix.length = c.remaining := by
      have hlength := congrArg List.length (htakes.rest.symm.trans hdata)
      simp only [Cursor.rest, Cursor.remaining, List.length_append, List.length_drop,
        List.flatten_cons, List.flatten_nil, List.length_nil] at hlength ⊢
      omega
    rwa [← hrest]

end ScanDataParser
end Lms
end AmigaDrivers
