import AmigaDrivers.Foundation.StickyReader
import AmigaDrivers.Foundation.LittleEndian

/-!
# The SBF blocks the driver interprets

`asterx::sbf`: the parsers of `INSNavGeod` and `ReceiverStatus`.  Both read a header that declares
the length of the block, and from there on no further than that.  The optional groups of
`INSNavGeod` follow one another on the wire, each present where its bit of `sb_list` is set.

A floating-point number is its bits; the one that says do-not-use becomes the quiet NaN.  The
parsers leave what they were given unspecified when they fail, so here they return nothing then.
-/

namespace AmigaDrivers
namespace Asterx
namespace Sbf

open StickyReader

/-! ## The blocks -/

/-- `kIdReceiverStatus`. -/
def kIdReceiverStatus : Nat := 4014

/-- `kIdINSNavGeod`. -/
def kIdINSNavGeod : Nat := 4226

/-- `kIdExtEventINSNavGeod`. -/
def kIdExtEventINSNavGeod : Nat := 4230

/-- `kDnuU16`. -/
def kDnuU16 : Nat := 65535

/-- `kDnuU32`. -/
def kDnuU32 : Nat := 4294967295

/-- `kDnuFloat`, -2e10 in single precision. -/
def kDnuFloat : Nat := 0xD09502F9

/-- `kDnuDouble`, -2e10 in double precision. -/
def kDnuDouble : Nat := 0xC212A05F20000000

/-- `kNanF`. -/
def kNanF : Nat := 0x7FC00000

/-- `kNanD`. -/
def kNanD : Nat := 0x7FF8000000000000

/-- `BlockHeader`. -/
structure BlockHeader where
  sync1 : Nat := 0
  sync2 : Nat := 0
  crc : Nat := 0
  id : Nat := 0
  revision : Nat := 0
  length : Nat := 0
  tow : Nat := kDnuU32
  wnc : Nat := kDnuU16
  deriving DecidableEq

/-- `INSNavGeod`. -/
structure INSNavGeod where
  blockHeader : BlockHeader := {}
  gnssMode : Nat := 0
  error : Nat := 0
  info : Nat := 0
  gnssAge : Nat := kDnuU16
  latitude : Nat := kNanD
  longitude : Nat := kNanD
  height : Nat := kNanD
  undulation : Nat := kNanF
  accuracy : Nat := kDnuU16
  latency : Nat := kDnuU16
  datum : Nat := 0
  sbList : Nat := 0
  latitudeStdDev : Nat := kNanF
  longitudeStdDev : Nat := kNanF
  heightStdDev : Nat := kNanF
  heading : Nat := kNanF
  pitch : Nat := kNanF
  roll : Nat := kNanF
  headingStdDev : Nat := kNanF
  pitchStdDev : Nat := kNanF
  rollStdDev : Nat := kNanF
  ve : Nat := kNanF
  vn : Nat := kNanF
  vu : Nat := kNanF
  veStdDev : Nat := kNanF
  vnStdDev : Nat := kNanF
  vuStdDev : Nat := kNanF
  latitudeLongitudeCov : Nat := kNanF
  latitudeHeightCov : Nat := kNanF
  longitudeHeightCov : Nat := kNanF
  headingPitchCov : Nat := kNanF
  headingRollCov : Nat := kNanF
  pitchRollCov : Nat := kNanF
  veVnCov : Nat := kNanF
  veVuCov : Nat := kNanF
  vnVuCov : Nat := kNanF
  deriving DecidableEq

/-- `AgcState`. -/
structure AgcState where
  frontendId : Nat := 0
  gain : Int := 0
  sampleVar : Nat := 0
  blankingStat : Nat := 0
  deriving DecidableEq

/-- `ReceiverStatus`. -/
structure ReceiverStatus where
  blockHeader : BlockHeader := {}
  cpuLoad : Nat := 0
  extError : Nat := 0
  upTime : Nat := 0
  rxStatus : Nat := 0
  rxError : Nat := 0
  n : Nat := 0
  sbLength : Nat := 0
  cmdCount : Nat := 0
  temperature : Nat := 0
  agcState : List AgcState := []
  deriving DecidableEq

/-- The three numbers of an optional group. -/
structure Triple where
  first : Nat
  second : Nat
  third : Nat
  deriving DecidableEq

/-- The optional group of a bit of `sb_list`. -/
def INSNavGeod.group (out : INSNavGeod) : Nat → Triple
  | 0 => ⟨out.latitudeStdDev, out.longitudeStdDev, out.heightStdDev⟩
  | 1 => ⟨out.heading, out.pitch, out.roll⟩
  | 2 => ⟨out.headingStdDev, out.pitchStdDev, out.rollStdDev⟩
  | 3 => ⟨out.ve, out.vn, out.vu⟩
  | 4 => ⟨out.veStdDev, out.vnStdDev, out.vuStdDev⟩
  | 5 => ⟨out.latitudeLongitudeCov, out.latitudeHeightCov, out.longitudeHeightCov⟩
  | 6 => ⟨out.headingPitchCov, out.headingRollCov, out.pitchRollCov⟩
  | _ => ⟨out.veVnCov, out.veVuCov, out.vnVuCov⟩

/-- The assignments to the group of a bit. -/
def INSNavGeod.setGroup (out : INSNavGeod) : Nat → Triple → INSNavGeod
  | 0, ⟨a, b, c⟩ => { out with latitudeStdDev := a, longitudeStdDev := b, heightStdDev := c }
  | 1, ⟨a, b, c⟩ => { out with heading := a, pitch := b, roll := c }
  | 2, ⟨a, b, c⟩ => { out with headingStdDev := a, pitchStdDev := b, rollStdDev := c }
  | 3, ⟨a, b, c⟩ => { out with ve := a, vn := b, vu := c }
  | 4, ⟨a, b, c⟩ => { out with veStdDev := a, vnStdDev := b, vuStdDev := c }
  | 5, ⟨a, b, c⟩ =>
    { out with latitudeLongitudeCov := a, latitudeHeightCov := b, longitudeHeightCov := c }
  | 6, ⟨a, b, c⟩ => { out with headingPitchCov := a, headingRollCov := b, pitchRollCov := c }
  | _, ⟨a, b, c⟩ => { out with veVnCov := a, veVuCov := b, vnVuCov := c }

/-! ## The parsers -/

/-- `DnuToNan` in single precision. -/
def dnuToNanF (v : Nat) : Nat := if v = kDnuFloat then kNanF else v

/-- `DnuToNan` in double precision. -/
def dnuToNanD (v : Nat) : Nat := if v = kDnuDouble then kNanD else v

/-- `u8`. -/
def u8 : Read Nat := field 1 LittleEndian.decode 0

/-- A byte as a signed number. -/
def signed (v : Nat) : Int := if v < 128 then v else v - 256

/-- `i8`. -/
def i8 : Read Int := field 1 (fun b => signed (LittleEndian.decode b)) 0

/-- `U16`. -/
def u16 : Read Nat := field 2 LittleEndian.decode 0

/-- `U32`. -/
def u32 : Read Nat := field 4 LittleEndian.decode 0

/-- `F32`. -/
def f32 : Read Nat := field 4 (fun b => dnuToNanF (LittleEndian.decode b)) 0

/-- `F64`. -/
def f64 : Read Nat := field 8 (fun b => dnuToNanD (LittleEndian.decode b)) 0

/-- `ReadHeader`. -/
def readHeader : Read BlockHeader := do
  let sync1 ← u8
  require (sync1 = 0x24)
  let sync2 ← u8
  require (sync2 = 0x40)
  let crc ← u16
  let raw ← u16
  let length ← u16
  let tow ← u32
  let wnc ← u16
  check
  pure { sync1, sync2, crc, id := raw &&& 8191, revision := raw >>> 13, length, tow, wnc }

/-- The first two tests of `ReadFrameHeader`. -/
def longHeader : Read BlockHeader := do
  let h ← readHeader
  require (¬ h.length < 14)
  pure h

/-- `ReadFrameHeader` and what follows: the third test and the end of the frame are `framed`. -/
def readFrame {α : Type} (body : BlockHeader → Read α) : Read α :=
  framed longHeader BlockHeader.length body

/-- The group of a bit, where it is present. -/
def readGroup (out : INSNavGeod) (bit : Nat) : Read INSNavGeod :=
  if out.sbList.testBit bit = true then do
    let first ← f32
    let second ← f32
    let third ← f32
    pure (out.setGroup bit ⟨first, second, third⟩)
  else pure out

/-- The groups of the first bits, in bit order. -/
def readGroups : Nat → INSNavGeod → Read INSNavGeod
  | 0, out => pure out
  | bits + 1, out => do
    let out ← readGroups bits out
    readGroup out bits

/-- What `ParseINSNavGeod` reads behind the header. -/
def insNavGeodBody (out : INSNavGeod) (h : BlockHeader) : Read INSNavGeod := do
  require (h.id = kIdINSNavGeod ∨ h.id = kIdExtEventINSNavGeod)
  let gnssMode ← u8
  let error ← u8
  let info ← u16
  let gnssAge ← u16
  let latitude ← f64
  let longitude ← f64
  let height ← f64
  let undulation ← f32
  let accuracy ← u16
  let latency ← u16
  let datum ← u8
  skip 1
  let sbList ← u16
  readGroups 8
    { out with
      blockHeader := h, gnssMode, error, info, gnssAge, latitude, longitude, height, undulation
      accuracy, latency, datum, sbList }

/-- `ParseINSNavGeod` on the bytes and the block it is given to fill. -/
def parseINSNavGeod (data : List UInt8) (out : INSNavGeod) : Option INSNavGeod :=
  finish (readFrame (insNavGeodBody out) (.start data))

/-- The sub-blocks of `ReceiverStatus`. -/
def readAgcStates (sbLength : Nat) : Nat → Read (List AgcState)
  | 0 => pure []
  | n + 1 => do
    let frontendId ← u8
    let gain ← i8
    let sampleVar ← u8
    let blankingStat ← u8
    -- only with sub-blocks of at least four bytes
    skip (sbLength - 4)
    let rest ← readAgcStates sbLength n
    pure ({ frontendId, gain, sampleVar, blankingStat } :: rest)

/-- What `ParseReceiverStatus` reads behind the header. -/
def receiverStatusBody (h : BlockHeader) : Read ReceiverStatus := do
  require (h.id = kIdReceiverStatus)
  let cpuLoad ← u8
  let extError ← u8
  let upTime ← u32
  let rxStatus ← u32
  let rxError ← u32
  let n ← u8
  let sbLength ← u8
  let cmdCount ← u8
  let temperature ← u8
  check
  require (¬ (n > 0 ∧ sbLength < 4))
  let agcState ← readAgcStates sbLength n
  pure
    { blockHeader := h, cpuLoad, extError, upTime, rxStatus, rxError, n, sbLength, cmdCount
      temperature, agcState }

/-- `ParseReceiverStatus`. -/
def parseReceiverStatus (data : List UInt8) : Option ReceiverStatus :=
  finish (readFrame receiverStatusBody (.start data))

end Sbf
end Asterx
end AmigaDrivers
