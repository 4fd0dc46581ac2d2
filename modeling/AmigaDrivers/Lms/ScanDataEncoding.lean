import AmigaDrivers.Lms.ScanDataGrammar
import Mathlib.Data.List.Forall2

/-!
# Encoding LMDscandata

An encoder for the scans `lms4xxx::ScanDataParser::Parse` can return.  What the parser does not
look at is zero, and a channel of unknown content gets a name of question marks.

* `InLimits`: the scans with the parser's limits on every field.
* `encode`: the telegram of a scan.
* `parse_grammar`: what `Parse` accepts, and that it undoes `encode`.
-/

namespace AmigaDrivers
namespace Lms

open ByteCursor
open ByteUtil (storeBigU16 storeBigU32)

namespace ScanDataParser

/-! ## Limits -/

/-- A channel within the limits. -/
def ChannelInLimits {Content Sample : Type} (valid : Sample → Prop)
    (ch : ChannelData Content Sample) : Prop :=
  ch.scaleFactor < 2 ^ 32 ∧ ch.scaleOffset < 2 ^ 32 ∧ IsInt32 ch.startAngle ∧
    ch.angleStep < 2 ^ 16 ∧ ch.numData ≤ maxPointsPerScan ∧ ch.data.length = ch.numData ∧
    ∀ x ∈ ch.data, valid x

/-- A time within the limits of its fields. -/
def TimeInLimits (t : ScanTimestamp) : Prop :=
  t.year < 2 ^ 16 ∧ t.month < 2 ^ 8 ∧ t.day < 2 ^ 8 ∧ t.hour < 2 ^ 8 ∧ t.minute < 2 ^ 8 ∧
    t.second < 2 ^ 8 ∧ t.microsecond < 2 ^ 32

/-- A scan with the parser's limits on every field.  What a flag denies has its default. -/
structure InLimits (scan : ScanData) : Prop where
  device :
    scan.deviceInfo.versionNumber < 2 ^ 16 ∧ scan.deviceInfo.deviceNumber < 2 ^ 16 ∧
      scan.deviceInfo.serialNumber < 2 ^ 32 ∧ scan.telegramCounter < 2 ^ 16 ∧
      scan.scanCounter < 2 ^ 16 ∧ scan.timeSinceStartupUs < 2 ^ 32 ∧
      scan.transmissionTimeUs < 2 ^ 32
  frequency : scan.scanFrequency < 2 ^ 32 ∧ scan.measurementFrequency < 2 ^ 32
  encoder : scan.encoder.position < 2 ^ 32
  noEncoder : scan.hasEncoder = false → scan.encoder = {}
  count16bit : scan.channels16bit.length ≤ max16BitChannelCount
  channels16bit : ∀ ch ∈ scan.channels16bit, ChannelInLimits (· < 2 ^ 16) ch
  count8bit : scan.channels8bit.length ≤ max8BitChannelCount
  channels8bit : ∀ ch ∈ scan.channels8bit, ChannelInLimits (fun _ => True) ch
  position : scan.yRotation < 2 ^ 32
  name : scan.deviceName.length ≤ maxDeviceNameLength
  noName : scan.hasDeviceName = false → scan.deviceName = []
  time : TimeInLimits scan.timestamp
  noTime : scan.hasTimestamp = false → scan.timestamp = {}

theorem ChannelBlock.inLimits {Content Sample : Type} {identifyChannel : List UInt8 → Content}
    {valid : Sample → Prop} {encode : Sample → List UInt8} {ch : ChannelData Content Sample}
    {bytes : List UInt8} (h : ChannelBlock identifyChannel valid encode ch bytes) :
    ChannelInLimits valid ch := by
  obtain ⟨hfactor, hoffset, hangle, hstep, hmax, hlength, hvalid, -⟩ := h
  exact ⟨hfactor, hoffset, hangle, hstep, hmax, hlength, hvalid⟩

theorem ChannelBlocks.forall_mem {χ : Type} {block : χ → List UInt8 → Prop} {p : χ → Prop}
    (hblock : ∀ ch bytes, block ch bytes → p ch) {channels : List χ} {bytes : List UInt8}
    (h : ChannelBlocks block channels bytes) : ∀ ch ∈ channels, p ch := by
  obtain ⟨blocks, hblocks, -⟩ := h
  clear * - hblock hblocks
  induction hblocks with
  | nil => exact nofun
  | cons hfirst _ ih =>
    intro ch hch
    obtain rfl | hch := List.mem_cons.mp hch
    · exact hblock _ _ hfirst
    · exact ih ch hch

/-- What `Parse` returns is within the limits. -/
theorem Encodes.inLimits {scan : ScanData} {bytes : List UInt8} (h : Encodes scan bytes) :
    InLimits scan := by
  obtain ⟨device, frequency, encoder, channels16, channels8, position, name, time, suffix,
    ⟨hversion, hdevice, hserial, htelegram, hscan, hstartup, htransmission, -⟩,
    ⟨hfrequency, hmeasurement, -⟩, ⟨encoders, -, hvalid, hhas, hencoder, -⟩,
    ⟨hcount16, hchannels16⟩, ⟨hcount8, hchannels8⟩, ⟨hposition, -⟩, hname, htime, -⟩ := h
  refine
    { device := ⟨hversion, hdevice, hserial, htelegram, hscan, hstartup, htransmission⟩
      frequency := ⟨hfrequency, hmeasurement⟩
      encoder := ?_, noEncoder := ?_
      count16bit := hcount16
      channels16bit := hchannels16.forall_mem fun _ _ hblock => ChannelBlock.inLimits hblock
      count8bit := hcount8
      channels8bit := hchannels8.forall_mem fun _ _ hblock => ChannelBlock.inLimits hblock
      position := hposition
      name := ?_, noName := ?_, time := ?_, noTime := ?_ }
  · rw [hencoder]
    cases encoders with
    | nil => exact (by decide : 0 < 2 ^ 32)
    | cons e encoders => exact (hvalid e List.mem_cons_self).1
  · intro hno
    rw [hhas] at hno
    cases encoders with
    | nil => exact hencoder
    | cons e encoders => exact absurd hno (by simp)
  · obtain ⟨-, hname, -⟩ | ⟨-, hmax, -⟩ := hname
    · rw [hname]
      exact Nat.zero_le _
    · exact hmax
  · intro hno
    obtain ⟨-, hname, -⟩ | ⟨hyes, -⟩ := hname
    · exact hname
    · exact absurd (hyes.symm.trans hno) nofun
  · obtain ⟨-, htime, -⟩ | ⟨-, time, ⟨hyear, hmonth, hday, hhour, hminute, hsecond, hmicro, -⟩, -⟩ :=
      htime
    · rw [htime]
      unfold TimeInLimits
      decide
    · exact ⟨hyear, hmonth, hday, hhour, hminute, hsecond, hmicro⟩
  · intro hno
    obtain ⟨-, htime, -⟩ | ⟨hyes, -⟩ := htime
    · exact htime
    · exact absurd (hyes.symm.trans hno) nofun

/-! ## The encoder -/

/-- The name of a 16-bit channel. -/
def channelName16 : ChannelContent16 → List UInt8
  | .dist1 => [68, 73, 83, 84, 49]
  | .rssi1 => [82, 83, 83, 73, 49]
  | .refl1 => [82, 69, 70, 76, 49]
  | .angl1 => [65, 78, 71, 76, 49]
  | .unknown => [63, 63, 63, 63, 63]

/-- The name of an 8-bit channel. -/
def channelName8 : ChannelContent8 → List UInt8
  | .qlty1 => [81, 76, 84, 89, 49]
  | .unknown => [63, 63, 63, 63, 63]

theorem identifyChannel16_channelName16 (content : ChannelContent16) :
    identifyChannel16 (channelName16 content) = content := by
  cases content <;> rfl

theorem identifyChannel8_channelName8 (content : ChannelContent8) :
    identifyChannel8 (channelName8 content) = content := by
  cases content <;> rfl

def encodeDevice (scan : ScanData) : List UInt8 :=
  [storeBigU16 scan.deviceInfo.versionNumber, storeBigU16 scan.deviceInfo.deviceNumber,
    storeBigU32 scan.deviceInfo.serialNumber, [scan.deviceInfo.deviceStatus1],
    [scan.deviceInfo.deviceStatus2], storeBigU16 scan.telegramCounter,
    storeBigU16 scan.scanCounter, storeBigU32 scan.timeSinceStartupUs,
    storeBigU32 scan.transmissionTimeUs, [scan.digitalInput1], [scan.digitalInput2],
    [scan.digitalOutput1], [scan.digitalOutput2], [0, 0]].flatten

def encodeFrequency (scan : ScanData) : List UInt8 :=
  [storeBigU32 scan.scanFrequency, storeBigU32 scan.measurementFrequency].flatten

/-- The encoder blocks that mean what the scan reports. -/
def encodersOf (scan : ScanData) : List EncoderBytes :=
  if scan.hasEncoder then [⟨scan.encoder.position, [0, 0]⟩] else []

def encodeEncoder (scan : ScanData) : List UInt8 :=
  storeBigU16 (encodersOf scan).length ++ (encodersOf scan).flatMap EncoderBytes.encode

def encodeChannel {Content Sample : Type} (channelName : Content → List UInt8)
    (encodeSample : Sample → List UInt8) (ch : ChannelData Content Sample) : List UInt8 :=
  [channelName ch.content, storeBigU32 ch.scaleFactor, storeBigU32 ch.scaleOffset,
    storeBigI32 ch.startAngle, storeBigU16 ch.angleStep, storeBigU16 ch.numData,
    ch.data.flatMap encodeSample].flatten

def encodeChannel16 : ChannelData16 → List UInt8 := encodeChannel channelName16 storeBigU16

def encodeChannel8 : ChannelData8 → List UInt8 := encodeChannel channelName8 fun x => [x]

def encodeChannels {χ : Type} (encodeChannel : χ → List UInt8) (channels : List χ) : List UInt8 :=
  storeBigU16 channels.length ++ (channels.map encodeChannel).flatten

def encodeName (scan : ScanData) : List UInt8 :=
  if scan.hasDeviceName then
    [storeBigU16 1, storeBigU16 scan.deviceName.length, scan.deviceName].flatten
  else storeBigU16 0

def encodeTimestamp (t : ScanTimestamp) : List UInt8 :=
  [storeBigU16 t.year, [UInt8.ofNat t.month], [UInt8.ofNat t.day], [UInt8.ofNat t.hour],
    [UInt8.ofNat t.minute], [UInt8.ofNat t.second], storeBigU32 t.microsecond].flatten

def encodeTime (scan : ScanData) : List UInt8 :=
  if scan.hasTimestamp then storeBigU16 1 ++ encodeTimestamp scan.timestamp else storeBigU16 0

/-- The telegram of a scan, with a suffix. -/
def encode (scan : ScanData) (suffix : List UInt8) : List UInt8 :=
  [encodeDevice scan, encodeFrequency scan, encodeEncoder scan,
    encodeChannels encodeChannel16 scan.channels16bit,
    encodeChannels encodeChannel8 scan.channels8bit, storeBigU32 scan.yRotation,
    encodeName scan, encodeTime scan, suffix].flatten

theorem channelBlock_encodeChannel {Content Sample : Type}
    {identifyChannel : List UInt8 → Content} {channelName : Content → List UInt8}
    {valid : Sample → Prop} {encodeSample : Sample → List UInt8}
    (hlength : ∀ content, (channelName content).length = 5)
    (hname : ∀ content, identifyChannel (channelName content) = content)
    {ch : ChannelData Content Sample} (h : ChannelInLimits valid ch) :
    ChannelBlock identifyChannel valid encodeSample ch (encodeChannel channelName encodeSample ch) := by
  obtain ⟨hfactor, hoffset, hangle, hstep, hmax, hdata, hvalid⟩ := h
  exact ⟨hfactor, hoffset, hangle, hstep, hmax, hdata, hvalid, channelName ch.content, hlength _,
    hname _, rfl⟩

theorem channelBlocks_encodeChannels {χ : Type} {block : χ → List UInt8 → Prop}
    {encodeChannel : χ → List UInt8} {channels : List χ}
    (h : ∀ ch ∈ channels, block ch (encodeChannel ch)) :
    ChannelBlocks block channels (encodeChannels encodeChannel channels) := by
  refine ⟨channels.map encodeChannel, ?_, rfl⟩
  rw [List.forall₂_map_right_iff]
  exact List.forall₂_same.2 h

theorem encoderBlock_encodeEncoder {scan : ScanData} (h : InLimits scan) :
    EncoderBlock scan (encodeEncoder scan) := by
  refine ⟨encodersOf scan, ?_, ?_, ?_, ?_, rfl⟩ <;> unfold encodersOf <;>
    cases hhas : scan.hasEncoder
  · exact Nat.zero_le _
  · exact (by decide : 1 ≤ maxEncoderCount)
  · exact nofun
  · intro e he
    obtain rfl := List.mem_singleton.mp he
    exact ⟨h.encoder, rfl⟩
  · rfl
  · rfl
  · exact h.noEncoder hhas
  · rfl

theorem nameBlock_encodeName {scan : ScanData} (h : InLimits scan) :
    NameBlock scan (encodeName scan) := by
  unfold encodeName
  cases hhas : scan.hasDeviceName with
  | false => exact .inl ⟨hhas, h.noName hhas, rfl⟩
  | true => exact .inr ⟨hhas, h.name, rfl⟩

theorem timeBlock_encodeTime {scan : ScanData} (h : InLimits scan) :
    TimeBlock scan (encodeTime scan) := by
  unfold encodeTime
  cases hhas : scan.hasTimestamp with
  | false => exact .inl ⟨hhas, h.noTime hhas, rfl⟩
  | true =>
    obtain ⟨hyear, hmonth, hday, hhour, hminute, hsecond, hmicro⟩ := h.time
    exact .inr ⟨hhas, _, ⟨hyear, hmonth, hday, hhour, hminute, hsecond, hmicro, rfl⟩, rfl⟩

/-- The encoder follows the grammar. -/
theorem encodes_encode {scan : ScanData} (h : InLimits scan) {suffix : List UInt8}
    (hsuffix : suffix.length = 0 ∨ suffix.length = 2) : Encodes scan (encode scan suffix) := by
  have hchannel16 (ch) (hch : ch ∈ scan.channels16bit) : ChannelBlock16 ch (encodeChannel16 ch) :=
    channelBlock_encodeChannel (fun content => by cases content <;> rfl)
      identifyChannel16_channelName16 (h.channels16bit ch hch)
  have hchannel8 (ch) (hch : ch ∈ scan.channels8bit) : ChannelBlock8 ch (encodeChannel8 ch) :=
    channelBlock_encodeChannel (fun content => by cases content <;> rfl)
      identifyChannel8_channelName8 (h.channels8bit ch hch)
  obtain ⟨hversion, hdevice, hserial, htelegram, hscan, hstartup, htransmission⟩ := h.device
  exact ⟨_, _, _, _, _, _, _, _, suffix,
    ⟨hversion, hdevice, hserial, htelegram, hscan, hstartup, htransmission, [0, 0], rfl, rfl⟩,
    ⟨h.frequency.1, h.frequency.2, rfl⟩, encoderBlock_encodeEncoder h,
    ⟨h.count16bit, channelBlocks_encodeChannels hchannel16⟩,
    ⟨h.count8bit, channelBlocks_encodeChannels hchannel8⟩, ⟨h.position, rfl⟩,
    nameBlock_encodeName h, timeBlock_encodeTime h, hsuffix, rfl⟩

/-! ## What `Parse` accepts -/

/-- **Telegrams.**  `Parse` accepts exactly the bytes, 52 at least, that encode a scan, and returns
that scan, which is within the limits; and every scan within them comes back from its telegram. -/
theorem parse_grammar :
    (∀ data scan, (∃ r, parse data = .ok (scan, r)) ↔ Encodes scan data ∧ 52 ≤ data.length) ∧
    (∀ data scan r, parse data = .ok (scan, r) → InLimits scan) ∧
    ∀ scan, InLimits scan → ∀ suffix : List UInt8, suffix.length = 0 ∨ suffix.length = 2 →
      52 ≤ (encode scan suffix).length → ∃ r, parse (encode scan suffix) = .ok (scan, r) := by
  refine ⟨parse_iff_encodes, ?_, ?_⟩
  · intro data scan r hparse
    exact ((parse_iff_encodes data scan).1 ⟨r, hparse⟩).1.inLimits
  · intro scan hlimits suffix hsuffix hlength
    exact (parse_iff_encodes _ scan).2 ⟨encodes_encode hlimits hsuffix, hlength⟩

/-- All channels of a scan have names the parser knows. -/
def NamesRecognised (scan : ScanData) : Prop :=
  (∀ ch ∈ scan.channels16bit, ch.content ≠ .unknown) ∧
    ∀ ch ∈ scan.channels8bit, ch.content ≠ .unknown

instance (scan : ScanData) : Decidable (NamesRecognised scan) :=
  inferInstanceAs (Decidable (_ ∧ _))

/-- The parser does not insist on the names: it takes a channel of another name as unknown. -/
theorem parse_unrecognised_name :
    ¬ ∀ data, (∃ scan r, parse data = .ok (scan, r)) ↔
      ∃ scan, Encodes scan data ∧ NamesRecognised scan ∧ 52 ≤ data.length := by
  intro h
  -- one 16-bit channel called "XXXXX", without samples
  let data : List UInt8 :=
    List.replicate 39 0 ++ [1] ++ [88, 88, 88, 88, 88] ++ List.replicate 26 0
  have haccepted : (parse data).toOption.any (fun p => !decide (NamesRecognised p.1)) = true := by
    decide +kernel
  cases hparse : parse data with
  | error stop =>
    rw [hparse] at haccepted
    exact absurd haccepted nofun
  | ok accepted =>
    rw [hparse] at haccepted
    have hunknown : ¬ NamesRecognised accepted.1 := by
      simpa [Except.toOption] using haccepted
    obtain ⟨scan, hencodes, hnames, hlength⟩ := (h data).1 ⟨accepted.1, accepted.2, hparse⟩
    obtain ⟨r, hparse'⟩ := (parse_iff_encodes data scan).2 ⟨hencodes, hlength⟩
    rw [hparse] at hparse'
    rw [Except.ok.inj hparse'] at hunknown
    exact hunknown hnames

end ScanDataParser
end Lms
end AmigaDrivers
