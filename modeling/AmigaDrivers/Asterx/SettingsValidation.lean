import AmigaDrivers.Asterx.Commands

/-!
# Which receiver settings are accepted

`ValidateReceiverSettings`, one definition for each section of the
configuration, and what is known of the settings that pass it.
-/

namespace AmigaDrivers
namespace Asterx.Commands

open ByteUtil StringUtil DecimalText

/-! ## The checks -/

def kMaxUserLength : Nat := 16

def kMaxPasswordLength : Nat := 32

/-- The credential check: the login command is sent without escaping. -/
def validateCredential (key v : Text) (maxLength : Nat) : Except ConfigError Unit := do
  throwIf (v.isEmpty || maxLength < v.length)
    (key ++ ascii " must be 1.." ++ natText maxLength ++ ascii " characters (p.87)")
  throwIf (!receiverTextOk v false)
    (key ++ ascii " contains a character the receiver does not accept in a command line " ++
      ascii "(p.64): letters, digits and !#%@()*+-./:;<=>?[\\]^_`\x7b|\x7d~")

def validateAccount (settings : ReceiverSettings) : Except ConfigError Unit := do
  validateCredential (ascii "device.user") settings.user kMaxUserLength
  validateCredential (ascii "device.password") settings.password kMaxPasswordLength
  throwIf (equalsCi settings.user (ascii "RxAdmin"))
    (ascii "device.user must not be the reserved factory name RxAdmin (p.90)")

def validateAntennaName (key type : Text) : Except ConfigError Unit :=
  throwIf (type.isEmpty || 20 < type.length || type.contains 34 || type.contains 44)
    (key ++ ascii " must be 1..20 characters without ',' or '\"' (an exact name from " ++
      ascii "lstAntennaInfo, Overview, or Unknown)")

def validateAntenna (a : AntennaSettings) : Except ConfigError Unit := do
  validateAntennaName (ascii "receiver.antenna.main_antenna_type") a.mainType
  validateAntennaName (ascii "receiver.antenna.aux_antenna_type") a.auxType
  requireRange a.leverArmM.x (-100) 100 (ascii "receiver.antenna.antenna_lever_arm_m.x")
  requireRange a.leverArmM.y (-100) 100 (ascii "receiver.antenna.antenna_lever_arm_m.y")
  requireRange a.leverArmM.z (-100) 100 (ascii "receiver.antenna.antenna_lever_arm_m.z")
  requireRange a.attitudeOffsetDeg.headingDeg (-360) 360
    (ascii "receiver.antenna.attitude_offset_deg.heading")
  requireRange a.attitudeOffsetDeg.pitchDeg (-90) 90
    (ascii "receiver.antenna.attitude_offset_deg.pitch")

def validateSatelliteList (key v : Text) (gpsMax : Nat) : Except ConfigError Unit :=
  throwIf (!isValidSatelliteList v true gpsMax) (key ++ ascii " must be all, none or a " ++
      ascii "'+'-joined list of constellations (GPS, GLONASS, GALILEO, SBAS, BEIDOU, QZSS) " ++
      ascii "and satellite ids (G01..G" ++ natText gpsMax ++
    ascii ", R01..R30, E01..E36, S120..S158, C01..C63, J01..J10); got '" ++ v ++ ascii "'")

def validateGnss (g : GnssSettings) : Except ConfigError Unit := do
  throwIf (g.cn0MaskDbhz < 0 ∨ 60 < g.cn0MaskDbhz)
    (ascii "receiver.gnss.cn0_mask_dbhz must be in range 0..60 dB-Hz")
  throwIf (g.elevationMaskDeg < -90 ∨ 90 < g.elevationMaskDeg)
    (ascii "receiver.gnss.elevation_mask_deg must be in range -90..90 deg")
  validateSatelliteList (ascii "receiver.gnss.satellite_tracking") g.satelliteTracking
    kGpsMaxTracking
  validateSatelliteList (ascii "receiver.gnss.satellite_usage") g.satelliteUsage kGpsMaxUsage
  validateSatelliteList (ascii "receiver.gnss.satellite_health_override") g.satelliteHealthOverride
    kGpsMaxTracking
  throwIf (!isValidSignalList g.signalTracking true)
    (ascii "receiver.gnss.signal_tracking must be all or a '+'-joined list of signal names / " ++
      ascii "constellations; got '" ++ g.signalTracking ++ ascii "'")
  throwIf (!isValidSignalList g.signalUsage false)
    (ascii "receiver.gnss.signal_usage must be all or a '+'-joined list of signal names (no " ++
      ascii "constellation aliases, p.131); got '" ++ g.signalUsage ++ ascii "'")

def validateImu (imu : ImuSettings) : Except ConfigError Unit := do
  requireEnum imu.startupDataMode kImuStartupModes (ascii "receiver.imu.startup_data_mode")
  requireEnum imu.orientationMode kImuOrientationModes
    (ascii "receiver.imu.imu_orientation.orientation_mode")
  requireRange imu.thetaXDeg (-180) 180 (ascii "receiver.imu.imu_orientation.theta_x_deg")
  requireRange imu.thetaYDeg (-90) 90 (ascii "receiver.imu.imu_orientation.theta_y_deg")
  requireRange imu.thetaZDeg (-180) 180 (ascii "receiver.imu.imu_orientation.theta_z_deg")

def validateNavigation (nav : NavigationSettings) : Except ConfigError Unit := do
  throwIf (!validPlusList nav.pvtMode false (inListCi kPvtModes))
    (ascii "receiver.navigation.pvt_mode must be all or a '+'-joined list of " ++
      join kPvtModes 124 ++ ascii "; got '" ++ nav.pvtMode ++ ascii "'")
  requireEnum nav.receiverDynamics kDynamics (ascii "receiver.navigation.receiver_dynamics")
  requireEnum nav.vehicleApplication kVehicleApplications
    (ascii "receiver.navigation.vehicle_application")
  requireEnum nav.clockSyncThreshold kClockSyncThresholds
    (ascii "receiver.navigation.clock_sync_threshold")
  requireEnum nav.insOutputLocation kInsOutputLocations
    (ascii "receiver.navigation.ins_output_location")

def validatePps (pps : PpsSettings) : Except ConfigError Unit := do
  requireEnum pps.interval kPpsIntervals (ascii "receiver.time_system.pps.interval")
  throwIf (!inListCi kPpsPolarities pps.polarity)
    (ascii "receiver.time_system.pps.polarity must be Low2High or High2Low (receiver " ++
      ascii "spelling, p.156); got '" ++ pps.polarity ++ ascii "'")
  requireRange pps.delayNs (-1000000) 1000000 (ascii "receiver.time_system.pps.delay_ns")
  requireEnum pps.timeScale kTimeScales (ascii "receiver.time_system.pps.time_scale")
  throwIf (pps.maxHoldoverS < 0 ∨ 3600 < pps.maxHoldoverS)
    (ascii "receiver.time_system.pps.max_holdover_s must be in range 0..3600 s")
  requireRange pps.pulseWidthMs (nearestDouble (1 / 1000000)) 1000
    (ascii "receiver.time_system.pps.pulse_width_ms")

def validateNtripText (key v : Text) (max : Nat) (isPassword : Bool) :
    Except ConfigError Unit := do
  throwIf (v.isEmpty || v == ascii "<?>")
    (key ++ ascii " is empty or the placeholder <?>: fill it in or set " ++
      ascii "receiver.ntrip.enabled: false")
  throwIf (max < v.length)
    (key ++ ascii " exceeds " ++ natText max ++ ascii " characters")
  throwIf (!receiverTextOk v isPassword)
    (key ++ ascii " contains a character the receiver does not accept (p.64)")

/-- The NTRIP client, which is only checked when it will be sent. -/
def validateNtrip (n : NtripSettings) : Except ConfigError Unit :=
  if !n.enabled then .ok () else do
    validateNtripText (ascii "receiver.ntrip.caster") n.caster 40 false
    throwIf (hasWhitespace n.caster || hasWhitespace n.mountPoint)
      (ascii "receiver.ntrip.caster and mount_point must not contain whitespace")
    throwIf (n.port < 1 ∨ 65535 < n.port)
      (ascii "receiver.ntrip.port must be in range 1..65535")
    validateNtripText (ascii "receiver.ntrip.username") n.username 128 false
    validateNtripText (ascii "receiver.ntrip.password") n.password 32 true
    validateNtripText (ascii "receiver.ntrip.mount_point") n.mountPoint 32 false
    requireEnum n.version kNtripVersions (ascii "receiver.ntrip.version")
    requireEnum n.sendGga kSendGga (ascii "receiver.ntrip.send_gga_to_caster")

/-- A block or group that reports the receiver's status. -/
def reportsStatus (block : Text) : Bool :=
  equalsCi block (ascii "ReceiverStatus") || equalsCi block (ascii "Status") ||
    equalsCi block (ascii "Support")

/-- The SBF streams, with the ids seen so far and whether one reports the receiver's status. -/
def validateSbfStreams (sbfIds : List Int) (hasReceiverStatus : Bool) :
    List SbfStream → Except ConfigError Unit
  | [] =>
    throwIf (!hasReceiverStatus) (ascii "receiver.sbf_streams must include ReceiverStatus " ++
      ascii "(or the Status group): FINETIME supports warm-up readiness and UpTime detects " ++
      ascii "receiver resets")
  | s :: rest => do
    throwIf (s.streamId ∈ sbfIds)
      (ascii "receiver.sbf_streams contains duplicate stream id " ++ intText s.streamId)
    -- The real descriptor is only known once connected.
    let _ ← buildSbfOutputCommand s (ascii "IP10")
    validateSbfStreams (s.streamId :: sbfIds) (hasReceiverStatus || s.blocks.any reportsStatus) rest

/-- The NMEA streams, with the ids seen so far. -/
def validateNmeaStreams (nmeaIds : List Int) : List NmeaPinStream → Except ConfigError Unit
  | [] => .ok ()
  | s :: rest => do
    throwIf (s.streamId ∈ nmeaIds)
      (ascii "receiver.nmea_streams contains duplicate stream id " ++ intText s.streamId)
    let _ ← buildNmeaOutputCommand s
    validateNmeaStreams (s.streamId :: nmeaIds) rest

def validateStreams (settings : ReceiverSettings) : Except ConfigError Unit := do
  throwIf settings.sbfStreams.isEmpty
    (ascii "receiver.sbf_streams must contain at least one stream")
  validateSbfStreams [] false settings.sbfStreams
  validateNmeaStreams [] settings.nmeaStreams

/-- `ValidateReceiverSettings`. -/
def validateReceiverSettings (settings : ReceiverSettings) : Except ConfigError Unit := do
  validateAccount settings
  validateAntenna settings.antenna
  validateGnss settings.gnss
  validateImu settings.imu
  validateNavigation settings.navigation
  validatePps settings.timeSystem.pps
  validateNtrip settings.ntrip
  throwIf (settings.warmup.minRecordingS < 0)
    (ascii "receiver.warmup.min_recording_s must be >= 0")
  validateStreams settings

/-! ## What accepted settings hold -/

end Asterx.Commands
end AmigaDrivers
