import AmigaDrivers.Common.ByteUtil
import AmigaDrivers.Foundation.ByteCursor

/-!
# LMDscandata telegrams

`lms4xxx::ScanDataParser`: the payload of a scan telegram is walked twice in the
source.  `Parse` decodes every section; `ParseTimestamp`, used after the first scan,
reads the counters and the clocks and skips everything in between.

A float is its bit pattern, a name its bytes.  `ErrorCode` holds the codes of this
parser and of `ColaBCodec::Decode`.  Where `Parse` fails it leaves a half-filled
`ScanData` behind; no caller reads it, and the walks below return none.  Every list
count and length read on the way is noted in the cursor with what it counts, which
no branch looks at.
-/

namespace AmigaDrivers
namespace Lms

open ByteCursor

/-- `ErrorCode`, as far as parsing goes. -/
inductive ErrorCode
  | protocolError
  | frameTooShort
  deriving DecidableEq, Repr

/-- `ChannelContent16`. -/
inductive ChannelContent16
  | dist1
  | rssi1
  | refl1
  | angl1
  | unknown
  deriving DecidableEq, Repr

/-- `ChannelContent8`. -/
inductive ChannelContent8
  | qlty1
  | unknown
  deriving DecidableEq, Repr

/-- A channel with its header and its samples. -/
structure ChannelData (Content Sample : Type) where
  content : Content
  scaleFactor : Nat := 0x3F800000
  scaleOffset : Nat := 0
  startAngle : Int := 0
  angleStep : Nat := 0
  numData : Nat := 0
  data : List Sample := []
  deriving DecidableEq, Repr

/-- `ChannelData16`. -/
abbrev ChannelData16 := ChannelData ChannelContent16 Nat

/-- `ChannelData8`. -/
abbrev ChannelData8 := ChannelData ChannelContent8 UInt8

/-- `EncoderData`. -/
structure EncoderData where
  position : Nat := 0
  deriving DecidableEq, Repr

/-- `ScanTimestamp`. -/
structure ScanTimestamp where
  year : Nat := 0
  month : Nat := 0
  day : Nat := 0
  hour : Nat := 0
  minute : Nat := 0
  second : Nat := 0
  microsecond : Nat := 0
  deriving DecidableEq, Repr

/-- `ScanDeviceInfo`.  `DeviceStatus` is its underlying byte: the parser casts without
a check. -/
structure ScanDeviceInfo where
  versionNumber : Nat := 0
  deviceNumber : Nat := 0
  serialNumber : Nat := 0
  deviceStatus1 : UInt8 := 0
  deviceStatus2 : UInt8 := 0
  deriving DecidableEq, Repr

/-- `ScanData`, the telegram fields. -/
structure ScanData where
  deviceInfo : ScanDeviceInfo := {}
  telegramCounter : Nat := 0
  scanCounter : Nat := 0
  timeSinceStartupUs : Nat := 0
  transmissionTimeUs : Nat := 0
  digitalInput1 : UInt8 := 0
  digitalInput2 : UInt8 := 0
  digitalOutput1 : UInt8 := 0
  digitalOutput2 : UInt8 := 0
  scanFrequency : Nat := 0
  measurementFrequency : Nat := 0
  hasEncoder : Bool := false
  encoder : EncoderData := {}
  channels16bit : List ChannelData16 := []
  channels8bit : List ChannelData8 := []
  yRotation : Nat := 0
  hasDeviceName : Bool := false
  deviceName : List UInt8 := []
  hasTimestamp : Bool := false
  timestamp : ScanTimestamp := {}
  deriving DecidableEq, Repr

namespace ScanDataParser

/-! ## Limits -/

/-- `kMaxPointsPerScan`. -/
def maxPointsPerScan : Nat := 841

/-- `kMax16BitChannelCount`: DIST1, RSSI1, REFL1, ANGL1. -/
def max16BitChannelCount : Nat := 4

/-- `kMaxEncoderCount`. -/
def maxEncoderCount : Nat := 2

/-- `kMax8BitChannelCount`: QLTY1. -/
def max8BitChannelCount : Nat := 1

/-- The literal limit of `ParseDeviceName`. -/
def maxDeviceNameLength : Nat := 16

/-- What a count or a length read from the telegram counts. -/
inductive CountKind
  | encoders
  | channels16bit
  | channels8bit
  | points
  | deviceName
  deriving DecidableEq, Repr

/-- The limit `Parse` puts on a count. -/
def CountKind.limit : CountKind → Nat
  | .encoders => maxEncoderCount
  | .channels16bit => max16BitChannelCount
  | .channels8bit => max8BitChannelCount
  | .points => maxPointsPerScan
  | .deviceName => maxDeviceNameLength

/-- A count met on the way. -/
structure Count where
  kind : CountKind
  value : Nat
  deriving DecidableEq, Repr

/-- The cursor of this parser; `Reader` in the source. -/
abbrev Reader := Cursor Count

/-- A walk of this parser. -/
abbrev Parser (α : Type) := Walk Count ErrorCode α

/-! ## `Reader` -/

def readUint8 : Parser UInt8 := read 1 fun p => p.getD 0 0

def readUint16 : Parser Nat := read 2 ByteUtil.loadBigU16

def readUint32 : Parser Nat := read 4 ByteUtil.loadBigU32

/-- `DecodeInt32`: the two's complement value of the four bytes. -/
def readInt32 : Parser Int := read 4 fun p =>
  if ByteUtil.loadBigU32 p < 2 ^ 31 then (ByteUtil.loadBigU32 p : Int)
  else (ByteUtil.loadBigU32 p : Int) - 2 ^ 32

def readFloat : Parser Nat := read 4 ByteUtil.loadBigU32

def readString (length : Nat) : Parser (List UInt8) := read length id

/-- `ReadUint16` of a count. -/
def readCount (kind : CountKind) : Parser Nat := do
  let value ← readUint16
  note ⟨kind, value⟩
  pure value

/-! ## The sections of `Parse`, in telegram order -/

/-- `ParseDeviceInfo`. -/
def parseDeviceInfo (out : ScanData) : Parser ScanData := do
  require 28 .frameTooShort
  let versionNumber ← readUint16
  let deviceNumber ← readUint16
  let serialNumber ← readUint32
  let deviceStatus1 ← readUint8
  let deviceStatus2 ← readUint8
  let telegramCounter ← readUint16
  let scanCounter ← readUint16
  let timeSinceStartupUs ← readUint32
  let transmissionTimeUs ← readUint32
  let digitalInput1 ← readUint8
  let digitalInput2 ← readUint8
  let digitalOutput1 ← readUint8
  let digitalOutput2 ← readUint8
  skip 2
  pure
    { out with
      deviceInfo := { versionNumber, deviceNumber, serialNumber, deviceStatus1, deviceStatus2 }
      telegramCounter, scanCounter, timeSinceStartupUs, transmissionTimeUs
      digitalInput1, digitalInput2, digitalOutput1, digitalOutput2 }

/-- `ParseFrequency`. -/
def parseFrequency (out : ScanData) : Parser ScanData := do
  require 8 .frameTooShort
  let scanFrequency ← readUint32
  let measurementFrequency ← readUint32
  pure { out with scanFrequency, measurementFrequency }

/-- The encoder loop of `ParseEncoder`, from block `i` on. -/
def parseEncoderBlocks : Nat → Nat → ScanData → Parser ScanData
  | 0, _, out => pure out
  | count + 1, i, out => do
    require 6 .frameTooShort
    let position ← readUint32
    skip 2
    parseEncoderBlocks count (i + 1)
      (if i = 0 then { out with encoder := { position } } else out)

/-- `ParseEncoder`. -/
def parseEncoder (out : ScanData) : Parser ScanData := do
  require 2 .frameTooShort
  let encoderCount ← readCount .encoders
  guardOr (fun _ => encoderCount ≤ maxEncoderCount) .protocolError
  parseEncoderBlocks encoderCount 0 { out with hasEncoder := decide (encoderCount > 0) }

/-- `IdentifyChannel16`. -/
def identifyChannel16 (name : List UInt8) : ChannelContent16 :=
  if name = [68, 73, 83, 84, 49] then .dist1        -- "DIST1"
  else if name = [82, 83, 83, 73, 49] then .rssi1   -- "RSSI1"
  else if name = [82, 69, 70, 76, 49] then .refl1   -- "REFL1"
  else if name = [65, 78, 71, 76, 49] then .angl1   -- "ANGL1"
  else .unknown

/-- `IdentifyChannel8`. -/
def identifyChannel8 (name : List UInt8) : ChannelContent8 :=
  if name = [81, 76, 84, 89, 49] then .qlty1        -- "QLTY1"
  else .unknown

/-- `kChannelHeaderSize`. -/
def channelHeaderSize : Nat := 5 + 4 + 4 + 4 + 2 + 2

/-- The body of the channel loop of `ParseChannels16bit` and `ParseChannels8bit`. -/
def parseChannel {Content Sample : Type} (identifyChannel : List UInt8 → Content)
    (sampleBytes : Nat) (readSample : Parser Sample) : Parser (ChannelData Content Sample) := do
  require channelHeaderSize .frameTooShort
  let name ← readString 5
  let scaleFactor ← readFloat
  let scaleOffset ← readFloat
  let startAngle ← readInt32
  let angleStep ← readUint16
  let numData ← readCount .points
  guardOr (fun _ => numData ≤ maxPointsPerScan) .protocolError
  require (numData * sampleBytes) .frameTooShort
  let data ← times numData readSample
  pure
    { content := identifyChannel name
      scaleFactor, scaleOffset, startAngle, angleStep, numData, data }

/-- The channel loop. -/
def parseChannelList {χ : Type} (channel : Parser χ) (pushBack : ScanData → χ → ScanData) :
    Nat → ScanData → Parser ScanData
  | 0, out => pure out
  | count + 1, out => do
    let ch ← channel
    parseChannelList channel pushBack count (pushBack out ch)

/-- A channel section: the count, its limit and the channels. -/
def parseChannels {χ : Type} (kind : CountKind) (maxCount : Nat) (channel : Parser χ)
    (pushBack : ScanData → χ → ScanData) (out : ScanData) : Parser ScanData := do
  require 2 .frameTooShort
  let channelCount ← readCount kind
  guardOr (fun _ => channelCount ≤ maxCount) .protocolError
  parseChannelList channel pushBack channelCount out

/-- `ParseChannels16bit`. -/
def parseChannels16bit : ScanData → Parser ScanData :=
  parseChannels .channels16bit max16BitChannelCount
    (parseChannel identifyChannel16 2 readUint16)
    fun out ch => { out with channels16bit := out.channels16bit ++ [ch] }

/-- `ParseChannels8bit`. -/
def parseChannels8bit : ScanData → Parser ScanData :=
  parseChannels .channels8bit max8BitChannelCount
    (parseChannel identifyChannel8 1 readUint8)
    fun out ch => { out with channels8bit := out.channels8bit ++ [ch] }

/-- `ParsePosition`. -/
def parsePosition (out : ScanData) : Parser ScanData := do
  require 4 .frameTooShort
  let yRotation ← readFloat
  pure { out with yRotation }

/-- The branch of `ParseDeviceName` for a set flag. -/
def parsePresentDeviceName (out : ScanData) : Parser ScanData := do
  require 2 .frameTooShort
  let nameLen ← readCount .deviceName
  guardOr (fun _ => nameLen ≤ maxDeviceNameLength) .protocolError
  require nameLen .frameTooShort
  let deviceName ← readString nameLen
  pure { out with deviceName }

/-- `ParseDeviceName`. -/
def parseDeviceName (out : ScanData) : Parser ScanData := do
  require 2 .frameTooShort
  let nameFlag ← readUint16
  guardOr (fun _ => nameFlag ≤ 1) .protocolError
  let out := { out with hasDeviceName := decide (nameFlag = 1) }
  if nameFlag = 1 then parsePresentDeviceName out else pure out

/-- `ParseTimestamp(Reader &, ScanData &)`, the timestamp block of both walks. -/
def parseTimestampBlock (out : ScanData) : Parser ScanData := do
  require 2 .frameTooShort
  let timeFlag ← readUint16
  guardOr (fun _ => timeFlag ≤ 1) .protocolError
  let out := { out with hasTimestamp := decide (timeFlag = 1) }
  if timeFlag = 1 then
    require 11 .frameTooShort
    let year ← readUint16
    let month ← readUint8
    let day ← readUint8
    let hour ← readUint8
    let minute ← readUint8
    let second ← readUint8
    let microsecond ← readUint32
    pure
      { out with
        timestamp :=
          { year
            month := month.toNat, day := day.toNat, hour := hour.toNat
            minute := minute.toNat, second := second.toNat, microsecond } }
  else
    pure out

/-- The end of both walks: an optional reserved suffix, and nothing behind it. -/
def parseEnd : Parser Unit := do
  let r ← get
  if r.HasBytes 2 then skip 2 else pure ()
  guardOr (fun r => r.remaining = 0) .protocolError

/-- `Parse`. -/
def parse (data : List UInt8) : Except (Stop ErrorCode) (ScanData × Reader) :=
  let walk : Parser ScanData := do
    guardOr (fun r => ¬ r.data.length < 52) .frameTooShort
    let out ← parseDeviceInfo {}
    let out ← parseFrequency out
    let out ← parseEncoder out
    let out ← parseChannels16bit out
    let out ← parseChannels8bit out
    let out ← parsePosition out
    let out ← parseDeviceName out
    let out ← parseTimestampBlock out
    parseEnd
    pure out
  walk { data }

/-! ## The sections of `ParseTimestamp`, in telegram order -/

/-- The fixed device header: only the counters and the device clocks are read. -/
def timestampHeader (out : ScanData) : Parser ScanData := do
  require 36 .frameTooShort
  skip 10
  let telegramCounter ← readUint16
  let scanCounter ← readUint16
  let timeSinceStartupUs ← readUint32
  let transmissionTimeUs ← readUint32
  skip 14
  pure { out with telegramCounter, scanCounter, timeSinceStartupUs, transmissionTimeUs }

/-- The encoder blocks, skipped as a whole. -/
def skipEncoders : Parser Unit := do
  require 2 .frameTooShort
  let encoders ← readCount .encoders
  let encoderBytes := encoders * 6
  require encoderBytes .frameTooShort
  skip encoderBytes

/-- The inner channel loop. -/
def skipChannelList (sampleBytes : Nat) : Nat → Parser Unit
  | 0 => pure ()
  | count + 1 => do
    require 21 .frameTooShort
    skip 19
    let samples ← readCount .points
    let bytes := samples * sampleBytes
    require bytes .frameTooShort
    skip bytes
    skipChannelList sampleBytes count

/-- One turn of the loop over the two channel lists. -/
def skipChannels (kind : CountKind) (sampleBytes : Nat) : Parser Unit := do
  require 2 .frameTooShort
  let channels ← readCount kind
  guardOr (fun r => ¬ channels > r.remaining / 21) .frameTooShort
  skipChannelList sampleBytes channels

/-- The device name, skipped, behind a set flag. -/
def skipPresentDeviceName : Parser Unit := do
  require 2 .frameTooShort
  let bytes ← readCount .deviceName
  require bytes .frameTooShort
  skip bytes

/-- Position and device name. -/
def skipPositionAndName : Parser Unit := do
  require 6 .frameTooShort
  skip 4
  let nameFlag ← readUint16
  guardOr (fun _ => ¬ nameFlag > 1) .protocolError
  if nameFlag = 1 then skipPresentDeviceName else pure ()

/-- The look at the time flag before the timestamp block is read. -/
def peekTimeFlag : Parser Unit := do
  require 2 .frameTooShort
  guardOr (fun r => ¬ ByteUtil.loadBigU16 (r.rest.take 2) > 1) .protocolError

/-- `ParseTimestamp(const std::uint8_t *, std::size_t, ScanData &)`. -/
def parseTimestamp (data : List UInt8) : Except (Stop ErrorCode) (ScanData × Reader) :=
  let walk : Parser ScanData := do
    let out ← timestampHeader {}
    skipEncoders
    skipChannels .channels16bit 2
    skipChannels .channels8bit 1
    skipPositionAndName
    peekTimeFlag
    let out ← parseTimestampBlock out
    parseEnd
    pure out
  walk { data }

end ScanDataParser
end Lms
end AmigaDrivers
