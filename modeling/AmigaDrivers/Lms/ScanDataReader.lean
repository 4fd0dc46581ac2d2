import AmigaDrivers.Foundation.RawReader
import AmigaDrivers.Lms.ScanDataParser

/-!
# Scan telegrams in memory

`ScanDataParser::Parse` and `ParseTimestamp` over a pointer and a position: what they load and
where they move to, with sizes and positions of 64 bits.  `ScanDataParser` has the same functions
over a cursor, on which the other results rest.
-/

namespace AmigaDrivers
namespace Lms
namespace ScanDataReader

open RawReader
open ScanDataParser (identifyChannel16 identifyChannel8 channelHeaderSize maxEncoderCount
  max16BitChannelCount max8BitChannelCount maxPointsPerScan maxDeviceNameLength)

/-- A computation with a `Reader`. -/
abbrev Reading : Type → Type := Raw ErrorCode

/-! ## `Reader` -/

def readUint8 : Reading UInt8 := read 1 fun p => p.getD 0 0

def readUint16 : Reading Nat := read 2 ByteUtil.loadBigU16

def readUint32 : Reading Nat := read 4 ByteUtil.loadBigU32

def readInt32 : Reading Int := read 4 fun p =>
  if ByteUtil.loadBigU32 p < 2 ^ 31 then (ByteUtil.loadBigU32 p : Int)
  else (ByteUtil.loadBigU32 p : Int) - 2 ^ 32

def readFloat : Reading Nat := read 4 ByteUtil.loadBigU32

def readString (length : Nat) : Reading (List UInt8) := read length id

/-! ## The sections of `Parse`, in telegram order -/

/-- `ParseDeviceInfo`. -/
def parseDeviceInfo (out : ScanData) : Reading ScanData := do
  require 28 .frameTooShort
  let versionNumber ← readUint16
  let deviceNumber ← readUint16
  let serialNumber ← readUint32
  let deviceStatus1 ← readUint8
  let deviceStatus2 ← readUint8
  let telegramCounter ← readUint16
  let scanCounter ← readUint16
  let timeSinceStartupUs ← readUint32
  let transmissionTimeUs ← readUint32
  let digitalInput1 ← readUint8
  let digitalInput2 ← readUint8
  let digitalOutput1 ← readUint8
  let digitalOutput2 ← readUint8
  skip 2
  pure
    { out with
      deviceInfo := { versionNumber, deviceNumber, serialNumber, deviceStatus1, deviceStatus2 }
      telegramCounter, scanCounter, timeSinceStartupUs, transmissionTimeUs
      digitalInput1, digitalInput2, digitalOutput1, digitalOutput2 }

/-- `ParseFrequency`. -/
def parseFrequency (out : ScanData) : Reading ScanData := do
  require 8 .frameTooShort
  let scanFrequency ← readUint32
  let measurementFrequency ← readUint32
  pure { out with scanFrequency, measurementFrequency }

/-- The encoder loop of `ParseEncoder`, from block `i` on. -/
def parseEncoderBlocks : Nat → Nat → ScanData → Reading ScanData
  | 0, _, out => pure out
  | count + 1, i, out => do
    require 6 .frameTooShort
    let position ← readUint32
    skip 2
    parseEncoderBlocks count (i + 1)
      (if i = 0 then { out with encoder := { position } } else out)

/-- `ParseEncoder`. -/
def parseEncoder (out : ScanData) : Reading ScanData := do
  require 2 .frameTooShort
  let encoderCount ← readUint16
  throwIf (encoderCount > maxEncoderCount) .protocolError
  parseEncoderBlocks encoderCount 0 { out with hasEncoder := decide (encoderCount > 0) }

/-- The body of the channel loop of `ParseChannels16bit` and `ParseChannels8bit`. -/
def parseChannel {Content Sample : Type} (identifyChannel : List UInt8 → Content)
    (dataBytes : Nat → Reading UInt64) (readSample : Reading Sample) :
    Reading (ChannelData Content Sample) := do
  require (.ofNat channelHeaderSize) .frameTooShort
  let name ← readString 5
  let scaleFactor ← readFloat
  let scaleOffset ← readFloat
  let startAngle ← readInt32
  let angleStep ← readUint16
  let numData ← readUint16
  throwIf (numData > maxPointsPerScan) .protocolError
  let bytes ← dataBytes numData
  require bytes .frameTooShort
  let data ← times numData readSample
  pure
    { content := identifyChannel name
      scaleFactor, scaleOffset, startAngle, angleStep, numData, data }

/-- The channel loop. -/
def parseChannelList {χ : Type} (channel : Reading χ) (pushBack : ScanData → χ → ScanData) :
    Nat → ScanData → Reading ScanData
  | 0, out => pure out
  | count + 1, out => do
    let ch ← channel
    parseChannelList channel pushBack count (pushBack out ch)

/-- A channel section: the count, its limit and the channels. -/
def parseChannels {χ : Type} (maxCount : Nat) (channel : Reading χ)
    (pushBack : ScanData → χ → ScanData) (out : ScanData) : Reading ScanData := do
  require 2 .frameTooShort
  let channelCount ← readUint16
  throwIf (channelCount > maxCount) .protocolError
  parseChannelList channel pushBack channelCount out

/-- `ParseChannels16bit`. -/
def parseChannels16bit : ScanData → Reading ScanData :=
  parseChannels max16BitChannelCount
    (parseChannel identifyChannel16 (fun numData => product (.ofNat numData) 2) readUint16)
    fun out ch => { out with channels16bit := out.channels16bit ++ [ch] }

/-- `ParseChannels8bit`: a sample is a byte, so nothing is multiplied. -/
def parseChannels8bit : ScanData → Reading ScanData :=
  parseChannels max8BitChannelCount
    (parseChannel identifyChannel8 (fun numData => pure (.ofNat numData)) readUint8)
    fun out ch => { out with channels8bit := out.channels8bit ++ [ch] }

/-- `ParsePosition`. -/
def parsePosition (out : ScanData) : Reading ScanData := do
  require 4 .frameTooShort
  let yRotation ← readFloat
  pure { out with yRotation }

/-- The branch of `ParseDeviceName` for a set flag. -/
def parsePresentDeviceName (out : ScanData) : Reading ScanData := do
  require 2 .frameTooShort
  let nameLen ← readUint16
  throwIf (nameLen > maxDeviceNameLength) .protocolError
  require (.ofNat nameLen) .frameTooShort
  let deviceName ← readString nameLen
  pure { out with deviceName }

/-- `ParseDeviceName`. -/
def parseDeviceName (out : ScanData) : Reading ScanData := do
  require 2 .frameTooShort
  let nameFlag ← readUint16
  throwIf (nameFlag > 1) .protocolError
  let out := { out with hasDeviceName := decide (nameFlag = 1) }
  if nameFlag = 1 then parsePresentDeviceName out else pure out

/-- The branch of `ParseTimestamp(Reader &, ScanData &)` for a set flag. -/
def parsePresentTimestamp (out : ScanData) : Reading ScanData := do
  require 11 .frameTooShort
  let year ← readUint16
  let month ← readUint8
  let day ← readUint8
  let hour ← readUint8
  let minute ← readUint8
  let second ← readUint8
  let microsecond ← readUint32
  pure
    { out with
      timestamp :=
        { year
          month := month.toNat, day := day.toNat, hour := hour.toNat
          minute := minute.toNat, second := second.toNat, microsecond } }

/-- `ParseTimestamp(Reader &, ScanData &)`, the timestamp block of both walks. -/
def parseTimestampBlock (out : ScanData) : Reading ScanData := do
  require 2 .frameTooShort
  let timeFlag ← readUint16
  throwIf (timeFlag > 1) .protocolError
  let out := { out with hasTimestamp := decide (timeFlag = 1) }
  if timeFlag = 1 then parsePresentTimestamp out else pure out

/-- The end of both walks: an optional reserved suffix, and nothing behind it. -/
def parseEnd : Reading Unit := do
  let there ← hasBytes 2
  if there = true then skip 2 else pure ()
  let left ← remaining
  throwIf (left ≠ 0) .protocolError

/-- `Parse`. -/
def parse : Reading ScanData := do
  let len ← length
  throwIf (len < 52) .frameTooShort
  let out ← parseDeviceInfo {}
  let out ← parseFrequency out
  let out ← parseEncoder out
  let out ← parseChannels16bit out
  let out ← parseChannels8bit out
  let out ← parsePosition out
  let out ← parseDeviceName out
  let out ← parseTimestampBlock out
  parseEnd
  pure out

/-! ## The sections of `ParseTimestamp`, in telegram order -/

/-- The fixed device header: only the counters and the device clocks are read. -/
def timestampHeader (out : ScanData) : Reading ScanData := do
  require 36 .frameTooShort
  skip 10
  let telegramCounter ← readUint16
  let scanCounter ← readUint16
  let timeSinceStartupUs ← readUint32
  let transmissionTimeUs ← readUint32
  skip 14
  pure { out with telegramCounter, scanCounter, timeSinceStartupUs, transmissionTimeUs }

/-- The encoder blocks, skipped as a whole. -/
def skipEncoders : Reading Unit := do
  require 2 .frameTooShort
  let encoders ← readUint16
  let encoderBytes ← product (.ofNat encoders) 6
  require encoderBytes .frameTooShort
  skip encoderBytes

/-- The inner channel loop. -/
def skipChannelList (sampleBytes : UInt64) : Nat → Reading Unit
  | 0 => pure ()
  | count + 1 => do
    require 21 .frameTooShort
    skip 19
    let samples ← readUint16
    let bytes ← product (.ofNat samples) sampleBytes
    require bytes .frameTooShort
    skip bytes
    skipChannelList sampleBytes count

/-- One turn of the loop over the two channel lists. -/
def skipChannels (sampleBytes : UInt64) : Reading Unit := do
  require 2 .frameTooShort
  let channels ← readUint16
  let left ← remaining
  throwIf (.ofNat channels > left / 21) .frameTooShort
  skipChannelList sampleBytes channels

/-- The device name, skipped, behind a set flag. -/
def skipPresentDeviceName : Reading Unit := do
  require 2 .frameTooShort
  let bytes ← readUint16
  require (.ofNat bytes) .frameTooShort
  skip (.ofNat bytes)

/-- Position and device name. -/
def skipPositionAndName : Reading Unit := do
  require 6 .frameTooShort
  skip 4
  let nameFlag ← readUint16
  throwIf (nameFlag > 1) .protocolError
  if nameFlag = 1 then skipPresentDeviceName else pure ()

/-- The look at the time flag before the timestamp block is read. -/
def peekTimeFlag : Reading Unit := do
  require 2 .frameTooShort
  let timeFlag ← peek 2 ByteUtil.loadBigU16
  throwIf (timeFlag > 1) .protocolError

/-- `ParseTimestamp(const std::uint8_t *, std::size_t, ScanData &)`. -/
def parseTimestamp : Reading ScanData := do
  let out ← timestampHeader {}
  skipEncoders
  skipChannels 2
  skipChannels 1
  skipPositionAndName
  peekTimeFlag
  let out ← parseTimestampBlock out
  parseEnd
  pure out

end ScanDataReader
end Lms
end AmigaDrivers
