import AmigaDrivers.Common.DecimalText

/-!
# The receiver settings and what they may hold

The settings of `commands.h`, the receiver's enumerations, and the checks of
single values: enumerations and ranges, satellite and signal lists, and the
character set of the receiver's messages.

A `double` is the rational number it stands for.  The settings that hold one are
all checked against a range, which refuses infinities and what is no number.
-/

namespace AmigaDrivers
namespace Asterx.Commands

open ByteUtil StringUtil DecimalText

/-- `ConfigError`. -/
structure ConfigError where
  what : Text
  deriving DecidableEq

/-! ## Settings -/

/-- `SbfStream`. -/
structure SbfStream where
  streamId : Int
  blocks : List Text
  interval : Text
  deriving DecidableEq

/-- `NmeaPinStream`. -/
structure NmeaPinStream where
  streamId : Int
  descriptor : Text
  messages : List Text
  interval : Text
  deriving DecidableEq

/-- `Vec3`. -/
structure Vec3 where
  x : ℚ := 0
  y : ℚ := 0
  z : ℚ := 0
  deriving DecidableEq

/-- `AttitudeOffset`. -/
structure AttitudeOffset where
  headingDeg : ℚ := 0
  pitchDeg : ℚ := 0
  deriving DecidableEq

/-- `AntennaSettings`. -/
structure AntennaSettings where
  mainType : Text := ascii "Unknown"
  auxType : Text := ascii "Unknown"
  attitudeOffsetDeg : AttitudeOffset := {}
  leverArmM : Vec3 := {}
  deriving DecidableEq

/-- `GnssSettings`. -/
structure GnssSettings where
  cn0MaskDbhz : Int := 0
  elevationMaskDeg : Int := 0
  satelliteTracking : Text := ascii "all"
  satelliteUsage : Text := ascii "all"
  satelliteHealthOverride : Text := ascii "none"
  signalTracking : Text := ascii "all"
  signalUsage : Text := ascii "all"
  deriving DecidableEq

/-- `ImuSettings`. -/
structure ImuSettings where
  startupDataMode : Text := ascii "GnssTimeKnown"
  orientationMode : Text := ascii "SensorDefault"
  thetaXDeg : ℚ := 0
  thetaYDeg : ℚ := 0
  thetaZDeg : ℚ := 0
  deriving DecidableEq

/-- `PpsSettings`. -/
structure PpsSettings where
  interval : Text := ascii "sec1"
  polarity : Text := ascii "Low2High"
  delayNs : ℚ := 0
  timeScale : Text := ascii "GPS"
  maxHoldoverS : Int := 60
  pulseWidthMs : ℚ := 5
  deriving DecidableEq

/-- `TimeSystemSettings`. -/
structure TimeSystemSettings where
  ptpServer : Bool := false
  ntpServer : Bool := false
  pps : PpsSettings := {}
  deriving DecidableEq

/-- `NtripSettings`. -/
structure NtripSettings where
  enabled : Bool := false
  caster : Text := []
  port : Int := 2101
  username : Text := []
  password : Text := []
  mountPoint : Text := []
  version : Text := ascii "v2"
  tls : Bool := false
  sendGga : Text := ascii "auto"
  deriving DecidableEq

/-- `NavigationSettings`. -/
structure NavigationSettings where
  pvtMode : Text := ascii "all"
  receiverDynamics : Text := ascii "Moderate"
  vehicleApplication : Text := ascii "Unknown"
  clockSyncThreshold : Text := ascii "usec500"
  multipathMitigation : Bool := true
  insOutputLocation : Text := ascii "POI1"
  deriving DecidableEq

/-- `WarmupSettings`. -/
structure WarmupSettings where
  minRecordingS : Int := 1200
  requireFinetime : Bool := true
  deriving DecidableEq

/-- `ReceiverSettings`. -/
structure ReceiverSettings where
  user : Text := ascii "admin"
  password : Text := ascii "septentrio"
  sbfStreams : List SbfStream := []
  nmeaStreams : List NmeaPinStream := []
  antenna : AntennaSettings := {}
  gnss : GnssSettings := {}
  imu : ImuSettings := {}
  timeSystem : TimeSystemSettings := {}
  ntrip : NtripSettings := {}
  navigation : NavigationSettings := {}
  warmup : WarmupSettings := {}
  deriving DecidableEq

/-! ## Receiver enumerations -/

def kConstellations : List Text :=
  [ascii "GPS", ascii "GLONASS", ascii "GALILEO", ascii "SBAS", ascii "BEIDOU", ascii "QZSS"]

def kSignals : List Text :=
  [ascii "GPSL1CA", ascii "GPSL2PY", ascii "GPSL2C", ascii "GPSL5", ascii "GPSL1C",
    ascii "GLOL1CA", ascii "GLOL2P", ascii "GLOL2CA",
    ascii "GALE1BC", ascii "GALE5a", ascii "GALE5b", ascii "GALE5",
    ascii "GEOL1", ascii "GEOL5",
    ascii "BDSB1I", ascii "BDSB2I", ascii "BDSB3I",
    ascii "QZSL1CA", ascii "QZSL2C", ascii "QZSL5", ascii "QZSL1C", ascii "QZSL1CB"]

def kPpsIntervals : List Text :=
  [ascii "off", ascii "msec10", ascii "msec20", ascii "msec50", ascii "msec100", ascii "msec200",
    ascii "msec250", ascii "msec500",
    ascii "sec1", ascii "sec2", ascii "sec4", ascii "sec5", ascii "sec10", ascii "sec30",
    ascii "sec60"]

def kPpsPolarities : List Text := [ascii "Low2High", ascii "High2Low"]

def kTimeScales : List Text :=
  [ascii "GPS", ascii "Galileo", ascii "BeiDou", ascii "GLONASS", ascii "UTC", ascii "RxClock"]

def kSendGga : List Text :=
  [ascii "auto", ascii "off", ascii "sec1", ascii "sec5", ascii "sec10", ascii "sec60"]

def kNtripVersions : List Text := [ascii "v1", ascii "v2"]

def kPvtModes : List Text :=
  [ascii "StandAlone", ascii "SBAS", ascii "DGNSS", ascii "RTKFloat", ascii "RTKFixed",
    ascii "RTK"]

def kDynamics : List Text := [ascii "Max", ascii "High", ascii "Moderate", ascii "Low"]

def kVehicleApplications : List Text :=
  [ascii "Unknown", ascii "RoadVehicle", ascii "HaulTruck", ascii "Tractor",
    ascii "TerminalTractor", ascii "ReachStacker", ascii "LiftTruck",
    ascii "Excavator", ascii "Loader", ascii "Grader", ascii "Dozer", ascii "RoadRobot",
    ascii "OffroadRobot", ascii "FixedWing", ascii "Multirotor",
    ascii "USV", ascii "RailVehicle"]

def kClockSyncThresholds : List Text :=
  [ascii "ClockSteering", ascii "usec500", ascii "msec1", ascii "msec2", ascii "msec3",
    ascii "msec4", ascii "msec5"]

def kInsOutputLocations : List Text := [ascii "MainAnt", ascii "POI1"]

def kImuStartupModes : List Text := [ascii "Boot", ascii "GnssTimeKnown"]

def kImuOrientationModes : List Text := [ascii "SensorDefault", ascii "manual", ascii "fixed"]

def kGpsMaxTracking : Nat := 39

def kGpsMaxUsage : Nat := 32

/-- The intervals of `IsValidSbfInterval`. -/
def kSbfIntervals : List Text :=
  [ascii "onchange",
    ascii "msec5", ascii "msec10", ascii "msec20", ascii "msec40", ascii "msec50",
    ascii "msec100", ascii "msec200", ascii "msec500",
    ascii "sec1", ascii "sec2", ascii "sec5", ascii "sec10", ascii "sec15", ascii "sec30",
    ascii "sec60",
    ascii "min2", ascii "min5", ascii "min10", ascii "min15", ascii "min30", ascii "min60"]

/-- The messages of `IsValidNmeaMessage`. -/
def kNmeaMessages : List Text :=
  [ascii "gga", ascii "gll", ascii "gns", ascii "gst", ascii "hdt", ascii "rmc",
    ascii "vtg", ascii "zda", ascii "hrp", ascii "ths", ascii "pashr"]

/-- The ports of `IsValidPinDescriptor`. -/
def kPinDescriptors : List Text :=
  [ascii "com1", ascii "com2",
    ascii "usb1", ascii "usb2",
    ascii "ip10", ascii "ip11", ascii "ip12", ascii "ip13", ascii "ip14", ascii "ip15",
    ascii "ip16", ascii "ip17",
    ascii "ntr1", ascii "ntr2", ascii "ntr3",
    ascii "ips1", ascii "ips2", ascii "ips3", ascii "ips4", ascii "ips5",
    ascii "ipr1", ascii "ipr2", ascii "ipr3", ascii "ipr4", ascii "ipr5",
    ascii "log1", ascii "log2"]

/-! ## Checks of single values -/

/-- `InListCi`. -/
def inListCi (list : List Text) (value : Text) : Bool := list.any fun v => equalsCi v value

/-- `IsValidSbfInterval`. -/
def isValidSbfInterval (interval : Text) : Bool := kSbfIntervals.contains (toLower interval)

/-- `IsValidNmeaMessage`. -/
def isValidNmeaMessage (message : Text) : Bool := kNmeaMessages.contains (toLower message)

/-- `IsValidPinDescriptor`. -/
def isValidPinDescriptor (descriptor : Text) : Bool :=
  kPinDescriptors.contains (toLower descriptor)

/-- `IsSatelliteId`. -/
def isSatelliteId (tok : Text) (gpsMax : Nat) : Bool :=
  match tok with
  | [] => false
  | sys :: digits =>
    if tok.length < 3 || 4 < tok.length then false
    else if !digits.all isDigit then false
    else
      let n := digitsValue digits
      let sys := toUpperChar sys
      if sys = 71 then
        -- The tracking list has no G37.
        if digits.length != 2 then false
        else if 38 ≤ gpsMax then (1 ≤ n && n ≤ 36) || n == 38 || n == 39
        else 1 ≤ n && n ≤ gpsMax
      else if sys = 82 then digits.length == 2 && 1 ≤ n && n ≤ 30
      else if sys = 69 then digits.length == 2 && 1 ≤ n && n ≤ 36
      else if sys = 83 then digits.length == 3 && 120 ≤ n && n ≤ 158
      else if sys = 67 then digits.length == 2 && 1 ≤ n && n ≤ 63
      else if sys = 74 then digits.length == 2 && 1 ≤ n && n ≤ 10
      else false

/-- `ValidPlusList`. -/
def validPlusList (value : Text) (allowNone : Bool) (tokenOk : Text → Bool) : Bool :=
  let v := trim value
  if v.isEmpty then false
  else if equalsCi v (ascii "all") then true
  else if equalsCi v (ascii "none") then allowNone
  else (split v 43).all fun raw =>
    let tok := trim raw
    !(tok.isEmpty || tok.head? == some 43 || tok.head? == some 45 || !tokenOk tok)

/-- `IsValidSatelliteList`. -/
def isValidSatelliteList (value : Text) (allowNone : Bool) (gpsMax : Nat) : Bool :=
  validPlusList value allowNone fun tok => inListCi kConstellations tok || isSatelliteId tok gpsMax

/-- `IsValidSignalList`. -/
def isValidSignalList (value : Text) (allowConstellationAlias : Bool) : Bool :=
  validPlusList value false fun tok =>
    inListCi kSignals tok || (allowConstellationAlias && inListCi kConstellations tok)

/-- The characters beside letters and digits that a message may hold. -/
def messageExtra : Text := ascii " !#%@()*+-./:;<=>?[\\]^_`\x7b|\x7d~"

/-- The characters that are sent escaped. -/
def escapable : Text := ascii "\"'$&,"

/-- `ReceiverTextOk`. -/
def receiverTextOk (s : Text) (allowEscapable : Bool) : Bool :=
  s.all fun c => isAlnum c || messageExtra.contains c || (allowEscapable && escapable.contains c)

/-- `HasWhitespace`. -/
def hasWhitespace (s : Text) : Bool := s.any isSpace

/-- A check that throws a `ConfigError`. -/
def throwIf (wrong : Prop) [Decidable wrong] (what : Text) : Except ConfigError Unit :=
  if wrong then .error ⟨what⟩ else .ok ()

/-- `RequireEnum`. -/
def requireEnum (value : Text) (allowed : List Text) (key : Text) : Except ConfigError Unit :=
  throwIf (!inListCi allowed value) (key ++ ascii " must be one of " ++ join allowed 124 ++
    ascii " (got '" ++ value ++ ascii "')")

/-- `RequireRange`. -/
def requireRange (v lo hi : ℚ) (key : Text) : Except ConfigError Unit :=
  throwIf (¬(lo ≤ v ∧ v ≤ hi)) (key ++ ascii " must be in [" ++ generalDecimal lo ++ ascii ", " ++
    generalDecimal hi ++ ascii "] (got " ++ generalDecimal v ++ ascii ")")

end Asterx.Commands
end AmigaDrivers
