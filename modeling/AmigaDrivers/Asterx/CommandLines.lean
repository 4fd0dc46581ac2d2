import AmigaDrivers.Asterx.AcceptedSettings

/-!
# Every command fits on one line

The receiver reads one command a line, of at most 2000 characters.  The builders
of the SBF, NMEA and NTRIP commands enforce the length; the others send what the
settings hold.  Most settings are short tokens, so their commands fit.  What is
left are the antenna names and the lists, which may hold line breaks: they are
checked after trimming, or only for commas and quotes.  The lists may also have
any length, since a part may be repeated.

The result says exactly which of the accepted settings are safe to send.

* `sendable_*` --- the commands that fit whatever the accepted settings are;
* `LineSafe` --- no line break and room enough in the values that are sent as
  they are;
* `command_list_sendable_iff` --- the whole list fits exactly when they are.
-/

namespace AmigaDrivers
namespace Asterx.Commands

open ByteUtil StringUtil DecimalText

/-! ## One line of bounded length -/

/-- No line feed and no carriage return. -/
def SingleLine (t : Text) : Prop := ∀ c ∈ t, c ≠ 10 ∧ c ≠ 13

instance (t : Text) : Decidable (SingleLine t) := inferInstanceAs (Decidable (∀ c ∈ t, _))

/-- A text within one line, of at most `n` characters. -/
def Fits (n : Nat) (t : Text) : Prop := SingleLine t ∧ t.length ≤ n

/-- A command that the receiver can read. -/
def Sendable (t : Text) : Prop := Fits kMaxAsciiCommandLength t

@[simp] theorem singleLine_append {s t : Text} :
    SingleLine (s ++ t) ↔ SingleLine s ∧ SingleLine t := List.forall_mem_append

theorem Fits.append {m n : Nat} {s t : Text} (hs : Fits m s) (ht : Fits n t) :
    Fits (m + n) (s ++ t) := by
  refine ⟨singleLine_append.mpr ⟨hs.1, ht.1⟩, ?_⟩
  rw [List.length_append]
  exact Nat.add_le_add hs.2 ht.2

theorem Fits.sendable {n : Nat} {t : Text} (h : Fits n t) (hn : n ≤ kMaxAsciiCommandLength) :
    Sendable t := ⟨h.1, h.2.trans hn⟩

instance (n : Nat) (t : Text) : Decidable (Fits n t) := inferInstanceAs (Decidable (_ ∧ _))

/-- The names and keywords of the commands are short. -/
theorem fits_ascii (s : String) (h : Fits 40 (ascii s)) : Fits 40 (ascii s) := h

theorem fits_separator : Fits 2 (ascii ", ") := by decide

theorem singleLine_of_tokenChars {t : Text} (h : ∀ c ∈ t, isTokenChar c = true ∨ c = 32) :
    SingleLine t := by
  refine fun c hc => ⟨?_, ?_⟩ <;>
  · rintro rfl
    exact absurd (h _ hc) (by decide)

theorem Token.fits {bound : Nat} {t : Text} (h : Token bound t) : Fits bound t :=
  ⟨singleLine_of_tokenChars fun c hc => .inl (h.2.1 c hc), h.2.2⟩

theorem MessageText.fits {bound : Nat} {t : Text} (h : MessageText bound t) : Fits bound t :=
  ⟨singleLine_of_tokenChars h.1, h.2⟩

theorem fits_decimal {v : ℚ} (h : Decimal v) {digits : Nat} (hdigits : 0 < digits) :
    Fits (9 + digits) (fmtCommandDecimal v digits) :=
  (token_fmtCommandDecimal h hdigits).fits

theorem fits_onOff (v : Bool) : Fits 3 (onOff v) := by
  cases v
  · exact ⟨by decide, by decide⟩
  · exact ⟨by decide, by decide⟩

theorem singleLine_join {parts : List Text} {sep : UInt8} (hsep : sep ≠ 10 ∧ sep ≠ 13) :
    SingleLine (join parts sep) ↔ ∀ part ∈ parts, SingleLine part := forall_mem_join hsep

theorem Fits.quoteIfWhitespace {n : Nat} {t : Text} (h : Fits n t) :
    Fits (n + 2) (quoteIfWhitespace t) := by
  unfold Commands.quoteIfWhitespace
  split
  · have hquote : Fits 1 (ascii "\"") := by decide
    have hquoted := (hquote.append h).append hquote
    exact ⟨hquoted.1, hquoted.2.trans (by omega)⟩
  · exact ⟨h.1, h.2.trans (Nat.le_add_right n 2)⟩

/-! ## The commands that always fit -/

variable {settings : ReceiverSettings} {descriptor : Text}

/-- The commands of a list that fit. -/
def AllSendable (cmds : List Command) : Prop := ∀ c ∈ cmds, Sendable c.text

@[simp] theorem allSendable_append {xs ys : List Command} :
    AllSendable (xs ++ ys) ↔ AllSendable xs ∧ AllSendable ys := List.forall_mem_append

@[simp] theorem allSendable_setAndEcho {setText getText key : Text} {fields : List Text} :
    AllSendable (setAndEcho setText getText key fields) ↔ Sendable setText ∧ Sendable getText := by
  simp [AllSendable, setAndEcho]

theorem sendable_ascii (s : String) (h : Fits 40 (ascii s)) : Sendable (ascii s) :=
  h.sendable (by decide)

theorem allSendable_start (h : AccountOk settings) : AllSendable (startCommands settings) := by
  have hlogin : Sendable (ascii "login, " ++ settings.user ++ ascii ", " ++ settings.password) :=
    ((((fits_ascii "login, " (by decide +kernel)).append h.user.fits).append fits_separator).append
      h.password.fits).sendable (by decide)
  unfold startCommands AllSendable
  rw [List.forall_mem_cons, List.forall_mem_cons, List.forall_mem_singleton]
  exact ⟨hlogin, sendable_ascii _ (by decide +kernel), sendable_ascii _ (by decide +kernel)⟩

theorem sendable_pps {pps : PpsSettings} (h : PpsOk pps) : Sendable (buildPpsCommand pps) :=
  ((((((((((((fits_ascii "setPPSParameters, " (by decide +kernel)).append h.interval.fits).append
    fits_separator).append h.polarity.fits).append
    fits_separator).append (fits_decimal h.delay (by decide))).append
    fits_separator).append h.timeScale.fits).append
    fits_separator).append (token_intText (by decide) h.maxHoldover).fits).append
    fits_separator).append (fits_decimal h.pulseWidth (by decide))).sendable (by decide)

theorem allSendable_time {ts : TimeSystemSettings} (h : PpsOk ts.pps) :
    AllSendable (timeCommands ts) := by
  unfold timeCommands
  simp only [allSendable_append, allSendable_setAndEcho]
  refine ⟨⟨sendable_pps h, sendable_ascii _ (by decide +kernel)⟩, ⟨?_, ?_⟩, ⟨?_, ?_⟩⟩
  · exact ((fits_ascii "setNTPServer, " (by decide +kernel)).append (fits_onOff _)).sendable
      (by decide)
  · exact sendable_ascii _ (by decide +kernel)
  · exact ((fits_ascii "setPTPServer, " (by decide +kernel)).append (fits_onOff _)).sendable
      (by decide)
  · exact sendable_ascii _ (by decide +kernel)

theorem allSendable_nmea {nmeaPorts : List Text} {streams : List NmeaPinStream}
    {cmds : List Command} (h : nmeaCommands nmeaPorts streams = .ok cmds) : AllSendable cmds := by
  induction streams generalizing nmeaPorts cmds with
  | nil =>
    obtain rfl : [] = cmds := Except.ok.inj h
    exact fun _ hc => (List.not_mem_nil hc).elim
  | cons s rest ih =>
    unfold nmeaCommands at h
    simp only [bind_eq_ok] at h
    obtain ⟨output, houtput, more, hmore, hcmds⟩ := h
    obtain rfl := Except.ok.inj hcmds
    obtain ⟨hbuilt, hdescriptor, hmessages, -, htext⟩ := nmea_of_build houtput
    have hid := (token_intText (by decide) hbuilt.streamId).fits
    simp only [allSendable_append, allSendable_setAndEcho]
    refine ⟨?_, ⟨⟨?_, hbuilt.length⟩, ?_⟩, ih hmore⟩
    · split
      · exact fun _ hc => (List.not_mem_nil hc).elim
      · rw [allSendable_setAndEcho]
        exact ⟨(((fits_ascii "setDataInOut, " (by decide +kernel)).append hdescriptor.fits).append
          (fits_ascii ", , +NMEA" (by decide +kernel))).sendable (by decide),
          ((fits_ascii "getDataInOut, " (by decide +kernel)).append hdescriptor.fits).sendable
            (by decide)⟩
    · have hjoin : SingleLine (join s.messages 43) :=
        (singleLine_join (by decide)).mpr fun m hm => (hmessages m hm).fits.1
      rw [htext, nmeaOutputText]
      simp only [singleLine_append]
      exact ⟨⟨⟨⟨⟨⟨⟨by decide, hid.1⟩, by decide⟩, hdescriptor.fits.1⟩, by decide⟩, hjoin⟩,
        by decide⟩, hbuilt.interval.fits.1⟩
    · exact ((fits_ascii "getNMEAOutput, Stream" (by decide +kernel)).append hid).sendable
        (by decide)

theorem allSendable_imu {imu : ImuSettings} (h : ImuOk imu) : AllSendable (imuCommands imu) := by
  have horientation : Sendable (buildImuOrientationCommand imu) := by
    unfold buildImuOrientationCommand
    split
    · exact sendable_ascii _ (by decide +kernel)
    · exact ((((((((fits_ascii "setIMUOrientation, " (by decide +kernel)).append
        h.orientationMode.fits).append fits_separator).append
        (fits_decimal h.thetaX (by decide))).append fits_separator).append
        (fits_decimal h.thetaY (by decide))).append fits_separator).append
        (fits_decimal h.thetaZ (by decide))).sendable (by decide)
  unfold imuCommands
  simp only [allSendable_append, allSendable_setAndEcho]
  refine ⟨⟨?_, sendable_ascii _ (by decide +kernel)⟩,
    ⟨horientation, sendable_ascii _ (by decide +kernel)⟩,
    sendable_ascii _ (by decide +kernel), sendable_ascii _ (by decide +kernel)⟩
  exact ((fits_ascii "setIMUStartupDataMode, " (by decide +kernel)).append
    h.startupDataMode.fits).sendable (by decide)

theorem allSendable_ntrip {n : NtripSettings} (h : n.enabled = true → NtripOk n)
    {cmds : List Command} (hcmds : ntripCommands n = .ok cmds) : AllSendable cmds := by
  unfold ntripCommands buildNtripCommands at hcmds
  rw [bind_eq_ok] at hcmds
  obtain ⟨⟨text, tls⟩, hbuild, hcmds⟩ := hcmds
  obtain rfl := Except.ok.inj hcmds
  cases henabled : n.enabled with
  | false =>
    rw [henabled, if_pos (by decide)] at hbuild
    obtain ⟨rfl, rfl⟩ := Prod.mk.inj (Except.ok.inj hbuild)
    simp only [allSendable_append, allSendable_setAndEcho]
    exact ⟨⟨sendable_ascii _ (by decide +kernel), sendable_ascii _ (by decide +kernel)⟩,
      fun _ hc => (List.not_mem_nil hc).elim⟩
  | true =>
    have hn := h henabled
    rw [henabled, if_neg (by decide)] at hbuild
    simp only [check_bind_eq_ok, enforceCommandLength_eq_ok] at hbuild
    obtain ⟨hlength, hbuild⟩ := hbuild
    obtain ⟨rfl, rfl⟩ := Prod.mk.inj (Except.ok.inj hbuild)
    have hpassword : SingleLine (escapeNtripPassword n.password) :=
      singleLine_of_tokenChars (isTokenChar_of_escape hn.password.2.1)
    have hquoted {t : Text} (ht : SingleLine t) : SingleLine (quoteIfWhitespace t) :=
      (Fits.quoteIfWhitespace ⟨ht, Nat.le_refl t.length⟩).1
    have hline : SingleLine (ntripSettingsCommand n) := by
      unfold ntripSettingsCommand
      simp only [singleLine_append]
      exact ⟨⟨⟨⟨⟨⟨⟨⟨⟨⟨⟨⟨⟨by decide, hn.caster.fits.1⟩, by decide⟩,
        (token_intText (by decide) hn.port).fits.1⟩, by decide⟩,
        hquoted hn.username.2.fits.1⟩, by decide⟩, hquoted hpassword⟩, by decide⟩,
        hn.mountPoint.fits.1⟩, by decide⟩, hn.version.fits.1⟩, by decide⟩, hn.sendGga.fits.1⟩
    simp only [allSendable_append, allSendable_setAndEcho]
    exact ⟨⟨⟨hline, hlength⟩, sendable_ascii _ (by decide +kernel)⟩,
      (((fits_ascii "setNtripTlsSettings, NTR1, " (by decide +kernel)).append (fits_onOff _)).append
        (fits_ascii ", \"\"" (by decide +kernel))).sendable (by decide),
      sendable_ascii _ (by decide +kernel)⟩

/-! ## The commands that depend on the settings -/

/-- A command of literals and values: single values within their room. -/
theorem sendable_ascii_append (s : String) (n : Nat)
    (hs : SingleLine (ascii s) ∧ (ascii s).length + n = kMaxAsciiCommandLength) {t : Text} :
    Sendable (ascii s ++ t) ↔ Fits n t := by
  unfold Sendable Fits
  rw [singleLine_append, List.length_append]
  constructor
  · exact fun h => ⟨h.1.2, by omega⟩
  · exact fun h => ⟨⟨hs.1, h.1⟩, by omega⟩

theorem sendable_antennaType {which : String} (hwhich : Fits 40 (ascii which)) {type : Text}
    (h : AntennaNameOk type) :
    Sendable (buildAntennaTypeCommand (ascii which) type) ↔ SingleLine type := by
  unfold buildAntennaTypeCommand
  constructor
  · intro hsend
    have hquoted := (singleLine_append.mp hsend.1).2
    unfold quoteIfWhitespace at hquoted
    split at hquoted
    · exact (singleLine_append.mp (singleLine_append.mp hquoted).1).2
    · exact hquoted
  · intro hline
    have htype : Fits 20 type := ⟨hline, h.length⟩
    exact ((((fits_ascii "setAntennaType, " (by decide +kernel)).append hwhich).append
      fits_separator).append htype.quoteIfWhitespace).sendable (by decide)

theorem allSendable_antenna {a : AntennaSettings} (h : AntennaOk a) :
    AllSendable (antennaCommands a) ↔ SingleLine a.mainType ∧ SingleLine a.auxType := by
  have hoverview : AllSendable (if !equalsCi a.mainType (ascii "Unknown") ||
      !equalsCi a.auxType (ascii "Unknown") then
      [{ text := ascii "lstAntennaInfo, Overview", kind := .listAntennaInfo }] else []) := by
    split
    · exact List.forall_mem_singleton.mpr (sendable_ascii _ (by decide +kernel))
    · exact fun _ hc => (List.not_mem_nil hc).elim
  have hoffset : Sendable (ascii "setAttitudeOffset, " ++
      fmtCommandDecimal a.attitudeOffsetDeg.headingDeg ++ ascii ", " ++
      fmtCommandDecimal a.attitudeOffsetDeg.pitchDeg) :=
    ((((fits_ascii "setAttitudeOffset, " (by decide +kernel)).append
      (fits_decimal h.heading (by decide))).append fits_separator).append
      (fits_decimal h.pitch (by decide))).sendable (by decide)
  have hleverArm : Sendable (buildInsAntLeverArmCommand a.leverArmM) :=
    ((((((fits_ascii "setINSAntLeverArm" (by decide +kernel)).append fits_separator).append
      (fits_decimal h.x (by decide))).append fits_separator).append
      (fits_decimal h.y (by decide))).append fits_separator).append
      (fits_decimal h.z (by decide)) |>.sendable (by decide)
  unfold antennaCommands
  simp only [allSendable_append, allSendable_setAndEcho,
    sendable_antennaType (show Fits 40 (ascii "Main") by decide) h.mainType,
    sendable_antennaType (show Fits 40 (ascii "Aux1") by decide) h.auxType]
  constructor
  · exact fun hall => ⟨hall.2.1.1, hall.2.2.1.1⟩
  · exact fun hlines => ⟨hoverview, ⟨hlines.1, sendable_ascii _ (by decide +kernel)⟩,
      ⟨hlines.2, sendable_ascii _ (by decide +kernel)⟩,
      ⟨hoffset, sendable_ascii _ (by decide +kernel)⟩,
      hleverArm, sendable_ascii _ (by decide +kernel)⟩

/-- A value that is sent twice. -/
theorem sendable_twice (s : String) (n : Nat)
    (hs : SingleLine (ascii s) ∧ (ascii s).length + 2 + 2 * n = kMaxAsciiCommandLength) {t : Text} :
    Sendable (ascii s ++ t ++ ascii ", " ++ t) ↔ Fits n t := by
  have hseparator : (ascii ", ").length = 2 := rfl
  unfold Sendable Fits
  simp only [singleLine_append, List.length_append]
  constructor
  · exact fun h => ⟨h.1.2, by omega⟩
  · exact fun h => ⟨⟨⟨⟨hs.1, h.1⟩, by decide⟩, h.1⟩, by omega⟩

/-- The lists of the GNSS section that can be sent. -/
structure GnssLineSafe (g : GnssSettings) : Prop where
  satelliteTracking : Fits 1978 g.satelliteTracking
  satelliteUsage : Fits 1981 g.satelliteUsage
  satelliteHealthOverride : Fits 985 g.satelliteHealthOverride
  signalTracking : Fits 1981 g.signalTracking
  signalUsage : Fits 991 g.signalUsage

theorem allSendable_gnss {g : GnssSettings} (h : GnssOk g) :
    AllSendable (gnssCommands g) ↔ GnssLineSafe g := by
  have hcn0 : Sendable (ascii "setCN0Mask, all, " ++ intText g.cn0MaskDbhz) :=
    ((fits_ascii "setCN0Mask, all, " (by decide +kernel)).append
      (token_intText (by decide) h.cn0Mask).fits).sendable (by decide)
  have helevation : Sendable (ascii "setElevationMask, all, " ++ intText g.elevationMaskDeg) :=
    ((fits_ascii "setElevationMask, all, " (by decide +kernel)).append
      (token_intText (by decide) h.elevationMask).fits).sendable (by decide)
  unfold gnssCommands
  simp only [allSendable_append, allSendable_setAndEcho,
    sendable_ascii_append "setSatelliteTracking, " 1978 (by decide +kernel),
    sendable_ascii_append "setSatelliteUsage, " 1981 (by decide +kernel),
    sendable_twice "setSatelliteHealthOverride, " 985 (by decide +kernel),
    sendable_ascii_append "setSignalTracking, " 1981 (by decide +kernel),
    sendable_twice "setSignalUsage, " 991 (by decide +kernel)]
  constructor
  · exact fun ⟨_, _, htracking, husage, hhealth, hsignals, hsignalUsage⟩ =>
      ⟨htracking.1, husage.1, hhealth.1, hsignals.1, hsignalUsage.1⟩
  · exact fun hsafe => ⟨⟨hcn0, sendable_ascii _ (by decide +kernel)⟩,
      ⟨helevation, sendable_ascii _ (by decide +kernel)⟩,
      ⟨hsafe.satelliteTracking, sendable_ascii _ (by decide +kernel)⟩,
      ⟨hsafe.satelliteUsage, sendable_ascii _ (by decide +kernel)⟩,
      ⟨hsafe.satelliteHealthOverride, sendable_ascii _ (by decide +kernel)⟩,
      ⟨hsafe.signalTracking, sendable_ascii _ (by decide +kernel)⟩,
      hsafe.signalUsage, sendable_ascii _ (by decide +kernel)⟩

theorem allSendable_navigation {nav : NavigationSettings} (h : NavigationOk nav) :
    AllSendable (navigationCommands nav) ↔ Fits 1981 nav.pvtMode := by
  have htoken {s : String} (hs : Fits 40 (ascii s)) {t : Text} (ht : Token 20 t) :
      Sendable (ascii s ++ t) := (hs.append ht.fits).sendable (by decide)
  have hmultipath : Sendable (ascii "setMultipathMitigation, " ++ onOff nav.multipathMitigation ++
      ascii ", " ++ onOff nav.multipathMitigation) :=
    ((((fits_ascii "setMultipathMitigation, " (by decide +kernel)).append (fits_onOff _)).append
      fits_separator).append (fits_onOff _)).sendable (by decide)
  unfold navigationCommands
  simp only [allSendable_append, allSendable_setAndEcho,
    sendable_ascii_append "setPVTMode, Rover, " 1981 (by decide +kernel)]
  constructor
  · exact fun hall => hall.1.1
  · exact fun hmode => ⟨⟨hmode, sendable_ascii _ (by decide +kernel)⟩,
      ⟨htoken (by decide +kernel) h.receiverDynamics, sendable_ascii _ (by decide +kernel)⟩,
      ⟨htoken (by decide +kernel) h.vehicleApplication,
        sendable_ascii _ (by decide +kernel)⟩,
      ⟨htoken (by decide +kernel) h.clockSyncThreshold,
        sendable_ascii _ (by decide +kernel)⟩,
      ⟨hmultipath, sendable_ascii _ (by decide +kernel)⟩,
      htoken (by decide +kernel) h.insOutputLocation, sendable_ascii _ (by decide +kernel)⟩

theorem allSendable_connection : AllSendable (connectionCommands descriptor) ↔
    Fits 1978 descriptor := by
  have hset : Sendable (ascii "setDataInOut, " ++ descriptor ++ ascii ", , +SBF") ↔
      Fits 1978 descriptor := by
    have hlength : (ascii "setDataInOut, ").length + (ascii ", , +SBF").length = 22 := rfl
    unfold Sendable Fits
    simp only [singleLine_append, List.length_append, kMaxAsciiCommandLength]
    constructor
    · exact fun h => ⟨h.1.1.2, by omega⟩
    · exact fun h => ⟨⟨⟨by decide, h.1⟩, by decide⟩, by omega⟩
  unfold connectionCommands
  rw [allSendable_append, allSendable_setAndEcho, hset]
  constructor
  · exact fun h => h.1.1
  · have hget : Fits 14 (ascii "getDataInOut, ") := by decide +kernel
    exact fun h => ⟨⟨h, (hget.append h).sendable (by decide)⟩,
      List.forall_mem_singleton.mpr (sendable_ascii _ (by decide +kernel))⟩

theorem allSendable_sbf {streams : List SbfStream} {cmds : List Command}
    (hdescriptor : SingleLine descriptor) (h : sbfCommands descriptor streams = .ok cmds) :
    AllSendable cmds ↔ ∀ s ∈ streams, ∀ block ∈ s.blocks, SingleLine block := by
  induction streams generalizing cmds with
  | nil =>
    obtain rfl : [] = cmds := Except.ok.inj h
    exact ⟨fun _ _ hs => (List.not_mem_nil hs).elim, fun _ _ hc => (List.not_mem_nil hc).elim⟩
  | cons s rest ih =>
    unfold sbfCommands at h
    simp only [bind_eq_ok] at h
    obtain ⟨output, houtput, more, hmore, hcmds⟩ := h
    obtain rfl := Except.ok.inj hcmds
    obtain ⟨hbuilt, htext⟩ := sbf_of_build houtput
    have hid := (token_intText (by decide) hbuilt.streamId).fits
    have hget := ((fits_ascii "getSBFOutput, Stream" (by decide +kernel)).append hid).sendable
      (by decide)
    have hset : Sendable output ↔ ∀ block ∈ s.blocks, SingleLine block := by
      have hplus : (43 : UInt8) ≠ 10 ∧ (43 : UInt8) ≠ 13 := by decide
      rw [← singleLine_join hplus]
      have hline : SingleLine output ↔ SingleLine (join s.blocks 43) := by
        rw [htext, sbfOutputText]
        simp only [singleLine_append]
        exact ⟨fun hall => hall.1.1.2, fun hblocks => ⟨⟨⟨⟨⟨⟨⟨by decide, hid.1⟩, by decide⟩,
          hdescriptor⟩, by decide⟩, hblocks⟩, by decide⟩, hbuilt.interval.fits.1⟩⟩
      exact ⟨fun hsend => hline.mp hsend.1, fun hblocks => ⟨hline.mpr hblocks, hbuilt.length⟩⟩
    rw [allSendable_append, allSendable_setAndEcho, hset, ih hmore, List.forall_mem_cons]
    exact ⟨fun hall => ⟨hall.1.1, hall.2⟩, fun hall => ⟨⟨hall.1, hget⟩, hall.2⟩⟩

/-! ## The whole list -/

/-- No line break in the values that are sent as they are, and room for those that may have any
length: the list is joined to a name, and some are sent twice. -/
structure LineSafe (settings : ReceiverSettings) (descriptor : Text) : Prop where
  mainType : SingleLine settings.antenna.mainType
  auxType : SingleLine settings.antenna.auxType
  gnss : GnssLineSafe settings.gnss
  pvtMode : Fits 1981 settings.navigation.pvtMode
  descriptor : Fits 1978 descriptor
  blocks : ∀ s ∈ settings.sbfStreams, ∀ block ∈ s.blocks, SingleLine block

/-- **Commands of one line.**  For accepted settings and a valid descriptor, every command that is
built is a single line of at most 2000 characters exactly when the antenna names, the lists, the
descriptor and the block names have no line break and the lists and the descriptor have room. -/
theorem command_list_sendable_iff {cmds : List Command}
    (hvalid : validateReceiverSettings settings = .ok ())
    (hbuild : buildCommandList settings descriptor = .ok cmds) :
    (∀ c ∈ cmds, SingleLine c.text ∧ c.text.length ≤ kMaxAsciiCommandLength) ↔
      LineSafe settings descriptor := by
  have haccepted := acceptedSettings_of_validate hvalid
  unfold buildCommandList at hbuild
  rw [check_bind_eq_ok] at hbuild
  simp only [bind_eq_ok] at hbuild
  obtain ⟨-, nmea, hnmea, ntrip, hntrip, sbf, hsbf, hcmds⟩ := hbuild
  obtain rfl := Except.ok.inj hcmds
  show AllSendable _ ↔ _
  simp only [allSendable_append, allSendable_antenna haccepted.antenna,
    allSendable_gnss haccepted.gnss, allSendable_navigation haccepted.navigation,
    allSendable_connection]
  constructor
  · intro ⟨_, _, _, hantenna, hgnss, _, _, hmode, hdescriptor, hblocks⟩
    exact {
      mainType := hantenna.1
      auxType := hantenna.2
      gnss := hgnss
      pvtMode := hmode
      descriptor := hdescriptor
      blocks := (allSendable_sbf hdescriptor.1 hsbf).mp hblocks }
  · intro h
    exact ⟨allSendable_start haccepted.account, allSendable_time haccepted.pps,
      allSendable_nmea hnmea, ⟨h.mainType, h.auxType⟩, h.gnss, allSendable_imu haccepted.imu,
      allSendable_ntrip haccepted.ntrip hntrip, h.pvtMode, h.descriptor,
      (allSendable_sbf h.descriptor.1 hsbf).mpr h.blocks⟩

theorem command_list_sendable_iff_of_default :
    ∃ cmds, buildCommandList defaultSettings (ascii "IP10") = .ok cmds ∧
      ((∀ c ∈ cmds, SingleLine c.text ∧ c.text.length ≤ kMaxAsciiCommandLength) ↔
        LineSafe defaultSettings (ascii "IP10")) :=
  ⟨_, rfl, command_list_sendable_iff (by decide +kernel) rfl⟩

/-- The same settings with a line break after a constellation. -/
def lineBreakSettings : ReceiverSettings :=
  { defaultSettings with gnss := { satelliteTracking := ascii "GPS\n" } }

/-- Accepted settings give a command of two lines. -/
theorem lineBreak_not_sendable :
    validateReceiverSettings lineBreakSettings = .ok () ∧
      enforceDescriptor (ascii "IP10") = .ok () ∧
      ∃ cmds, buildCommandList lineBreakSettings (ascii "IP10") = .ok cmds ∧
        ∃ c ∈ cmds, ¬(SingleLine c.text ∧ c.text.length ≤ kMaxAsciiCommandLength) := by
  refine ⟨by decide +kernel, by decide, _, rfl,
    { text := ascii "setSatelliteTracking, GPS\n" }, ?_, ?_⟩
  · decide +kernel
  · decide

end Asterx.Commands
end AmigaDrivers
