import AmigaDrivers.Asterx.CommandSettings

/-!
# The command list that configures the receiver

`commands.cpp`: the builders of the single commands, `BuildCommandList`, which
puts them in the order of the configuration sequence, `ValidateReceiverSettings`,
which the configuration file passes when it is loaded, and `verify_first_fields`,
which compares a reply with what was asked for.

`BuildCommandList` and `ValidateReceiverSettings` are cut at the numbered
comments of the source, one definition for each group.
-/

namespace AmigaDrivers
namespace Asterx.Commands

open ByteUtil StringUtil DecimalText

/-! ## Builders of single commands -/

def kMaxAsciiCommandLength : Nat := 2000

/-- `OnOff`. -/
def onOff (v : Bool) : Text := if v then ascii "on" else ascii "off"

/-- `QuoteIfWhitespace`. -/
def quoteIfWhitespace (s : Text) : Text :=
  if hasWhitespace s then ascii "\"" ++ s ++ ascii "\"" else s

/-- `FmtCommandDecimal`.  The threshold is computed in floating point. -/
def fmtCommandDecimal (v : ℚ) (digits : Nat := 3) : Text :=
  fixedDecimal (if |v| < 1 / 2 * nearestDouble (1 / 10 ^ digits) then 0 else v) digits

/-- `EnforceCommandLength`. -/
def enforceCommandLength (cmd : Text) : Except ConfigError Unit :=
  throwIf (kMaxAsciiCommandLength < cmd.length)
    (ascii "ASCII command exceeds Septentrio 2000-character limit")

/-- `EnforceDescriptor`. -/
def enforceDescriptor (descriptor : Text) : Except ConfigError Unit :=
  throwIf (descriptor.isEmpty || descriptor.contains 44 || descriptor.contains 32)
    (ascii "invalid connection descriptor '" ++ descriptor ++ ascii "'")

/-- `SetVec3Command`. -/
def setVec3Command (name : Text) (v : Vec3) : Text :=
  name ++ ascii ", " ++ fmtCommandDecimal v.x ++ ascii ", " ++ fmtCommandDecimal v.y ++
    ascii ", " ++ fmtCommandDecimal v.z

/-- `BuildNmeaOutputCommand`. -/
def buildNmeaOutputCommand (stream : NmeaPinStream) : Except ConfigError Text := do
  throwIf (stream.streamId < 1 ∨ 10 < stream.streamId)
    (ascii "NMEA stream id must be in range 1..10")
  throwIf (!isValidPinDescriptor stream.descriptor)
    (ascii "Unsupported NMEA pin descriptor '" ++ stream.descriptor ++ ascii "'")
  throwIf stream.messages.isEmpty
    (ascii "NMEA pin stream must contain at least one message")
  stream.messages.forM fun m => throwIf (!isValidNmeaMessage m)
    (ascii "Unsupported NMEA message '" ++ m ++ ascii "'")
  throwIf (!isValidSbfInterval stream.interval)
    (ascii "Unsupported NMEA interval '" ++ stream.interval ++ ascii "'")
  let cmd := ascii "setNMEAOutput, Stream" ++ intText stream.streamId ++ ascii ", " ++
    stream.descriptor ++ ascii ", " ++ join stream.messages 43 ++ ascii ", " ++ stream.interval
  enforceCommandLength cmd
  return cmd

/-- `BuildSbfOutputCommand`. -/
def buildSbfOutputCommand (stream : SbfStream) (descriptor : Text) : Except ConfigError Text := do
  throwIf (stream.streamId < 1 ∨ 10 < stream.streamId)
    (ascii "SBF stream id must be in range 1..10")
  enforceDescriptor descriptor
  throwIf stream.blocks.isEmpty
    (ascii "SBF stream must contain at least one block")
  throwIf (!isValidSbfInterval stream.interval)
    (ascii "Unsupported SBF interval '" ++ stream.interval ++ ascii "'")
  let cmd := ascii "setSBFOutput, Stream" ++ intText stream.streamId ++ ascii ", " ++
    descriptor ++ ascii ", " ++ join stream.blocks 43 ++ ascii ", " ++ stream.interval
  enforceCommandLength cmd
  return cmd

/-- `BuildInsAntLeverArmCommand`. -/
def buildInsAntLeverArmCommand (leverArmM : Vec3) : Text :=
  setVec3Command (ascii "setINSAntLeverArm") leverArmM

/-- `BuildImuOrientationCommand`. -/
def buildImuOrientationCommand (imu : ImuSettings) : Text :=
  if equalsCi imu.orientationMode (ascii "SensorDefault") then
    ascii "setIMUOrientation, SensorDefault"
  else
    ascii "setIMUOrientation, " ++ imu.orientationMode ++ ascii ", " ++
      fmtCommandDecimal imu.thetaXDeg ++ ascii ", " ++ fmtCommandDecimal imu.thetaYDeg ++
      ascii ", " ++ fmtCommandDecimal imu.thetaZDeg

/-- `BuildAntennaTypeCommand`. -/
def buildAntennaTypeCommand (which type : Text) : Text :=
  ascii "setAntennaType, " ++ which ++ ascii ", " ++ quoteIfWhitespace type

/-- `BuildPpsCommand`. -/
def buildPpsCommand (pps : PpsSettings) : Text :=
  ascii "setPPSParameters, " ++ pps.interval ++ ascii ", " ++ pps.polarity ++ ascii ", " ++
    fmtCommandDecimal pps.delayNs 2 ++ ascii ", " ++ pps.timeScale ++ ascii ", " ++
    intText pps.maxHoldoverS ++ ascii ", " ++ fmtCommandDecimal pps.pulseWidthMs 6

/-- What a character of the password is sent as. -/
def escapeNtripChar (c : UInt8) : Text :=
  if c = 34 then ascii "%%DQ"
  else if c = 39 then ascii "%%SQ"
  else if c = 36 then ascii "%%DL"
  else if c = 38 then ascii "%%AM"
  else if c = 44 then ascii "%%CM"
  else [c]

/-- `EscapeNtripPassword`. -/
def escapeNtripPassword (raw : Text) : Text := raw.flatMap escapeNtripChar

/-- The `setNtripSettings` command of an enabled client. -/
def ntripSettingsCommand (ntrip : NtripSettings) : Text :=
  ascii "setNtripSettings, NTR1, Client, " ++ ntrip.caster ++ ascii ", " ++ intText ntrip.port ++
    ascii ", " ++ quoteIfWhitespace ntrip.username ++ ascii ", " ++
    quoteIfWhitespace (escapeNtripPassword ntrip.password) ++ ascii ", " ++ ntrip.mountPoint ++
    ascii ", " ++ ntrip.version ++ ascii ", " ++ ntrip.sendGga

/-- `BuildNtripCommands`: the settings, and the TLS settings of an enabled client. -/
def buildNtripCommands (ntrip : NtripSettings) : Except ConfigError (Text × Option Text) := do
  if !ntrip.enabled then
    return (ascii "setNtripSettings, NTR1, off", none)
  let settings := ntripSettingsCommand ntrip
  enforceCommandLength settings
  return (settings,
    some (ascii "setNtripTlsSettings, NTR1, " ++ onOff ntrip.tls ++ ascii ", \"\""))

/-! ## The command list -/

/-- `CommandKind`. -/
inductive CommandKind
  | plain
  | checkCapabilities
  | listAntennaInfo
  | listConfig
  | verifyEcho
  deriving DecidableEq, Repr

/-- `Command`. -/
structure Command where
  text : Text
  kind : CommandKind := .plain
  verifyKey : Text := []
  verifyFields : List Text := []
  deriving DecidableEq

/-- `set_and_echo`: a command, and the query of what it set. -/
def setAndEcho (setText getText key : Text) (fields : List Text) : List Command :=
  [{ text := setText },
    { text := getText, kind := .verifyEcho, verifyKey := key, verifyFields := fields }]

/-- 1) to 3): authenticate, reset, check the capabilities. -/
def startCommands (settings : ReceiverSettings) : List Command :=
  [{ text := ascii "login, " ++ settings.user ++ ascii ", " ++ settings.password },
    { text := ascii "exeCopyConfigFile, Boot, Current" },
    { text := ascii "getReceiverCapabilities", kind := .checkCapabilities }]

/-- 4) Time: PPS output, NTP/PTP servers. -/
def timeCommands (ts : TimeSystemSettings) : List Command :=
  setAndEcho (buildPpsCommand ts.pps) (ascii "getPPSParameters") (ascii "PPSParameters")
      [ts.pps.interval, ts.pps.polarity, fmtCommandDecimal ts.pps.delayNs 2, ts.pps.timeScale,
        intText ts.pps.maxHoldoverS, fmtCommandDecimal ts.pps.pulseWidthMs 6] ++
    (setAndEcho (ascii "setNTPServer, " ++ onOff ts.ntpServer) (ascii "getNTPServer")
      (ascii "NTPServer") [onOff ts.ntpServer] ++
    setAndEcho (ascii "setPTPServer, " ++ onOff ts.ptpServer) (ascii "getPTPServer")
      (ascii "PTPServer") [onOff ts.ptpServer])

/-- 5) NMEA sentence output on fixed receiver ports; `nmeaPorts` are the ports enabled so far. -/
def nmeaCommands (nmeaPorts : List Text) : List NmeaPinStream → Except ConfigError (List Command)
  | [] => .ok []
  | s :: rest => do
    let portEnabled := nmeaPorts.any fun p => equalsCi p s.descriptor
    let port := if portEnabled then [] else
      setAndEcho (ascii "setDataInOut, " ++ s.descriptor ++ ascii ", , +NMEA")
        (ascii "getDataInOut, " ++ s.descriptor) (ascii "DataInOut") [s.descriptor]
    let output ← buildNmeaOutputCommand s
    let more ← nmeaCommands (if portEnabled then nmeaPorts else nmeaPorts ++ [s.descriptor]) rest
    return port ++
      (setAndEcho output (ascii "getNMEAOutput, Stream" ++ intText s.streamId) (ascii "NMEAOutput")
        [ascii "Stream" ++ intText s.streamId, s.descriptor, [], s.interval] ++ more)

/-- 6) and 7): the antenna names, antennas, attitude offset and lever arm. -/
def antennaCommands (a : AntennaSettings) : List Command :=
  (if !equalsCi a.mainType (ascii "Unknown") || !equalsCi a.auxType (ascii "Unknown") then
    [{ text := ascii "lstAntennaInfo, Overview", kind := .listAntennaInfo }] else []) ++
  (setAndEcho (buildAntennaTypeCommand (ascii "Main") a.mainType) (ascii "getAntennaType, Main")
    (ascii "AntennaType") [ascii "Main", a.mainType] ++
  (setAndEcho (buildAntennaTypeCommand (ascii "Aux1") a.auxType) (ascii "getAntennaType, Aux1")
    (ascii "AntennaType") [ascii "Aux1", a.auxType] ++
  (setAndEcho (ascii "setAttitudeOffset, " ++ fmtCommandDecimal a.attitudeOffsetDeg.headingDeg ++
      ascii ", " ++ fmtCommandDecimal a.attitudeOffsetDeg.pitchDeg) (ascii "getAttitudeOffset")
    (ascii "AttitudeOffset")
    [fmtCommandDecimal a.attitudeOffsetDeg.headingDeg,
      fmtCommandDecimal a.attitudeOffsetDeg.pitchDeg] ++
  setAndEcho (buildInsAntLeverArmCommand a.leverArmM) (ascii "getINSAntLeverArm")
    (ascii "INSAntLeverArm")
    [fmtCommandDecimal a.leverArmM.x, fmtCommandDecimal a.leverArmM.y,
      fmtCommandDecimal a.leverArmM.z])))

/-- `none_or_blank`. -/
def noneOrBlank (v : Text) : Text := if equalsCi v (ascii "none") then ascii "none" else []

/-- 8) GNSS tracking and usage. -/
def gnssCommands (g : GnssSettings) : List Command :=
  setAndEcho (ascii "setCN0Mask, all, " ++ intText g.cn0MaskDbhz) (ascii "getCN0Mask")
    (ascii "CN0Mask") [[], intText g.cn0MaskDbhz] ++
  (setAndEcho (ascii "setElevationMask, all, " ++ intText g.elevationMaskDeg)
    (ascii "getElevationMask") (ascii "ElevationMask") [[], intText g.elevationMaskDeg] ++
  (setAndEcho (ascii "setSatelliteTracking, " ++ g.satelliteTracking)
    (ascii "getSatelliteTracking") (ascii "SatelliteTracking") [noneOrBlank g.satelliteTracking] ++
  (setAndEcho (ascii "setSatelliteUsage, " ++ g.satelliteUsage) (ascii "getSatelliteUsage")
    (ascii "SatelliteUsage") [noneOrBlank g.satelliteUsage] ++
  (setAndEcho (ascii "setSatelliteHealthOverride, " ++ g.satelliteHealthOverride ++ ascii ", " ++
      g.satelliteHealthOverride) (ascii "getSatelliteHealthOverride")
    (ascii "SatelliteHealthOverride")
    [noneOrBlank g.satelliteHealthOverride, noneOrBlank g.satelliteHealthOverride] ++
  (setAndEcho (ascii "setSignalTracking, " ++ g.signalTracking) (ascii "getSignalTracking")
    (ascii "SignalTracking") [] ++
  setAndEcho (ascii "setSignalUsage, " ++ g.signalUsage ++ ascii ", " ++ g.signalUsage)
    (ascii "getSignalUsage") (ascii "SignalUsage") [])))))

/-- 9) IMU, and 10) the dual-antenna attitude, which is always on. -/
def imuCommands (imu : ImuSettings) : List Command :=
  setAndEcho (ascii "setIMUStartupDataMode, " ++ imu.startupDataMode)
    (ascii "getIMUStartupDataMode") (ascii "IMUStartupDataMode") [imu.startupDataMode] ++
  (setAndEcho (buildImuOrientationCommand imu) (ascii "getIMUOrientation")
    (ascii "IMUOrientation")
    (if equalsCi imu.orientationMode (ascii "SensorDefault") then [ascii "SensorDefault"]
      else [imu.orientationMode, fmtCommandDecimal imu.thetaXDeg,
        fmtCommandDecimal imu.thetaYDeg, fmtCommandDecimal imu.thetaZDeg]) ++
  setAndEcho (ascii "setGNSSAttitude, MultiAntenna") (ascii "getGNSSAttitude")
    (ascii "GNSSAttitude") [ascii "MultiAntenna"])

/-- 11) NTRIP client. -/
def ntripCommands (n : NtripSettings) : Except ConfigError (List Command) := do
  let (settings, tls) ← buildNtripCommands n
  return setAndEcho settings (ascii "getNtripSettings, NTR1") (ascii "NtripSettings")
      (if n.enabled then
        [ascii "NTR1", ascii "Client", n.caster, intText n.port, n.username, [], n.mountPoint,
          n.version, n.sendGga]
      else [ascii "NTR1", ascii "off"]) ++
    match tls with
    | some tls => setAndEcho tls (ascii "getNtripTlsSettings, NTR1") (ascii "NtripTlsSettings")
        [ascii "NTR1", onOff n.tls]
    | none => []

/-- 12) Navigation. -/
def navigationCommands (nav : NavigationSettings) : List Command :=
  setAndEcho (ascii "setPVTMode, Rover, " ++ nav.pvtMode) (ascii "getPVTMode") (ascii "PVTMode")
    [ascii "Rover"] ++
  (setAndEcho (ascii "setReceiverDynamics, " ++ nav.receiverDynamics) (ascii "getReceiverDynamics")
    (ascii "ReceiverDynamics") [nav.receiverDynamics] ++
  (setAndEcho (ascii "setVehicleApplication, " ++ nav.vehicleApplication)
    (ascii "getVehicleApplication") (ascii "VehicleApplication") [nav.vehicleApplication] ++
  (setAndEcho (ascii "setClockSyncThreshold, " ++ nav.clockSyncThreshold)
    (ascii "getClockSyncThreshold") (ascii "ClockSyncThreshold") [nav.clockSyncThreshold] ++
  (setAndEcho (ascii "setMultipathMitigation, " ++ onOff nav.multipathMitigation ++ ascii ", " ++
      onOff nav.multipathMitigation) (ascii "getMultipathMitigation")
    (ascii "MultipathMitigation") [onOff nav.multipathMitigation, onOff nav.multipathMitigation] ++
  setAndEcho (ascii "setINSNavConfig, on, all, " ++ nav.insOutputLocation)
    (ascii "getINSNavConfig") (ascii "INSNavConfig") [ascii "on", [], nav.insOutputLocation]))))

/-- 13) and 14): SBF output on our own connection, and the listing of the configuration. -/
def connectionCommands (descriptor : Text) : List Command :=
  setAndEcho (ascii "setDataInOut, " ++ descriptor ++ ascii ", , +SBF")
      (ascii "getDataInOut, " ++ descriptor) (ascii "DataInOut") [descriptor] ++
    [{ text := ascii "lstConfigFile, Current", kind := .listConfig }]

/-- 15) SBF stream membership and intervals, targeted at our own connection. -/
def sbfCommands (descriptor : Text) : List SbfStream → Except ConfigError (List Command)
  | [] => .ok []
  | s :: rest => do
    let output ← buildSbfOutputCommand s descriptor
    let more ← sbfCommands descriptor rest
    return setAndEcho output (ascii "getSBFOutput, Stream" ++ intText s.streamId)
      (ascii "SBFOutput") [ascii "Stream" ++ intText s.streamId, descriptor, [], s.interval] ++ more

/-- `BuildCommandList`. -/
def buildCommandList (settings : ReceiverSettings) (descriptor : Text) :
    Except ConfigError (List Command) := do
  enforceDescriptor descriptor
  let nmea ← nmeaCommands [] settings.nmeaStreams
  let ntrip ← ntripCommands settings.ntrip
  let sbf ← sbfCommands descriptor settings.sbfStreams
  return startCommands settings ++ (timeCommands settings.timeSystem ++ (nmea ++
    (antennaCommands settings.antenna ++ (gnssCommands settings.gnss ++
    (imuCommands settings.imu ++ (ntrip ++ (navigationCommands settings.navigation ++
    (connectionCommands descriptor ++ sbf))))))))

end Asterx.Commands
end AmigaDrivers
