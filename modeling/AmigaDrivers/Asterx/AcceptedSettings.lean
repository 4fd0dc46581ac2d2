import AmigaDrivers.Asterx.SettingsValidation

/-!
# What accepted settings hold

The settings that `ValidateReceiverSettings` accepts, one structure for each
section.  Two classes of texts come out of it.  A *token* is printable, not
empty, and has no space, comma or quote: the enumerations, the numbers, and the
NTRIP caster and mount point are tokens.  A *message* may hold spaces, but no
control character, comma or quote: the account and the NTRIP username.

The satellite and signal lists are not among them.  They are checked after
trimming, as a whole and part by part, so they may hold line breaks.
-/

namespace AmigaDrivers
namespace Asterx.Commands

open ByteUtil StringUtil DecimalText

/-! ## Checks that passed -/

variable {α β : Type}

theorem bind_eq_ok {e : Except ConfigError α} {f : α → Except ConfigError β} {b : β} :
    (e >>= f) = .ok b ↔ ∃ a, e = .ok a ∧ f a = .ok b := by
  cases e with
  | error e => exact ⟨nofun, fun ⟨_, h, _⟩ => nomatch h⟩
  | ok a => exact ⟨fun h => ⟨a, rfl, h⟩, fun ⟨_, h, hf⟩ => Except.ok.inj h ▸ hf⟩

/-- One check after the other. -/
theorem check_bind_eq_ok {e : Except ConfigError Unit} {f : Unit → Except ConfigError β} {b : β} :
    (e >>= f) = .ok b ↔ e = .ok () ∧ f () = .ok b := by
  rw [bind_eq_ok]
  exact ⟨fun ⟨_, h⟩ => h, fun h => ⟨(), h⟩⟩

theorem throwIf_eq_ok {wrong : Prop} [Decidable wrong] {what : Text} :
    throwIf wrong what = .ok () ↔ ¬wrong := by
  unfold throwIf
  split
  · exact ⟨nofun, fun h => absurd ‹wrong› h⟩
  · exact ⟨fun _ => ‹¬wrong›, fun _ => rfl⟩

theorem requireEnum_eq_ok {value key : Text} {allowed : List Text} :
    requireEnum value allowed key = .ok () ↔ inListCi allowed value = true := by
  unfold requireEnum
  rw [throwIf_eq_ok]
  simp

theorem requireRange_eq_ok {v lo hi : ℚ} {key : Text} :
    requireRange v lo hi key = .ok () ↔ lo ≤ v ∧ v ≤ hi := by
  unfold requireRange
  rw [throwIf_eq_ok, not_not]

/-! ## Tokens and messages -/

/-- A printable character that is no space, comma or quote. -/
def isTokenChar (c : UInt8) : Bool := 33 ≤ c && c ≤ 126 && c != 44 && c != 34

/-- A text of such characters, of at most `bound`. -/
def Token (bound : Nat) (t : Text) : Prop :=
  t ≠ [] ∧ (∀ c ∈ t, isTokenChar c = true) ∧ t.length ≤ bound

instance (bound : Nat) (t : Text) : Decidable (Token bound t) :=
  inferInstanceAs (Decidable (_ ∧ _ ∧ _))

/-- A text that may also hold blanks. -/
def MessageText (bound : Nat) (t : Text) : Prop :=
  (∀ c ∈ t, isTokenChar c = true ∨ c = 32) ∧ t.length ≤ bound

/-- A property of bytes is checked on every one of them. -/
theorem forall_byte {p : UInt8 → Prop} (h : ∀ n < 256, p (UInt8.ofNat n)) (c : UInt8) : p c := by
  have hc := h c.toNat c.toNat_lt
  rwa [UInt8.ofNat_toNat] at hc

theorem toLowerChar_toLowerChar : ∀ c, toLowerChar (toLowerChar c) = toLowerChar c :=
  forall_byte (by decide +kernel)

theorem isTokenChar_toLowerChar : ∀ c, isTokenChar (toLowerChar c) = isTokenChar c :=
  forall_byte (by decide +kernel)

theorem token_of_equalsCi {bound : Nat} {t v : Text} (h : equalsCi t v = true)
    (hv : Token bound v) : Token bound t := by
  have hlength := length_eq_of_equalsCi h
  refine ⟨?_, ?_, hlength.trans_le hv.2.2⟩
  · rw [← List.length_pos_iff, hlength, List.length_pos_iff]
    exact hv.1
  · exact forall_of_equalsCi (fun c => by rw [isTokenChar_toLowerChar]) h hv.2.1

theorem token_of_toLower {bound : Nat} {t : Text} (h : Token bound (toLower t)) : Token bound t := by
  have hself : equalsCi t (toLower t) = true := by
    rw [equalsCi_iff, toLower, toLower, List.map_map]
    exact List.map_congr_left fun c _ => (toLowerChar_toLowerChar c).symm
  exact token_of_equalsCi hself h

theorem token_of_contains_toLower {bound : Nat} {list : List Text} {t : Text}
    (hlist : ∀ v ∈ list, Token bound v) (h : list.contains (toLower t) = true) : Token bound t :=
  token_of_toLower (hlist _ (List.contains_iff_mem.mp h))

theorem token_of_inListCi {bound : Nat} {list : List Text} {t : Text}
    (hlist : ∀ v ∈ list, Token bound v) (h : inListCi list t = true) : Token bound t := by
  obtain ⟨v, hv, hequal⟩ := List.any_eq_true.mp h
  exact token_of_equalsCi (equalsCi_comm.trans hequal) (hlist v hv)

theorem isTokenChar_of_isNumeral : ∀ {c}, isNumeral c = true → isTokenChar c = true :=
  fun {c} => forall_byte (p := fun c => isNumeral c = true → isTokenChar c = true)
    (by decide +kernel) c

theorem isTokenChar_of_isAlnum : ∀ c, isAlnum c = true → isTokenChar c = true :=
  forall_byte (by decide +kernel)

/-- What the receiver accepts in a message that is sent without escaping. -/
theorem isTokenChar_of_message {c : UInt8} (h : (isAlnum c || messageExtra.contains c) = true) :
    isTokenChar c = true ∨ c = 32 := by
  obtain halnum | hextra := Bool.or_eq_true_iff.mp h
  · exact .inl (isTokenChar_of_isAlnum c halnum)
  · exact (show ∀ c ∈ messageExtra, isTokenChar c = true ∨ c = 32 by decide) c
      (List.contains_iff_mem.mp hextra)

theorem isTokenChar_of_isSpace : ∀ c : UInt8, isTokenChar c = true → isSpace c = false :=
  forall_byte (by decide +kernel)

theorem token_intText {i : Int} {k : Nat} (hk : 0 < k) (h : i.natAbs < 10 ^ k) :
    Token (k + 1) (intText i) :=
  ⟨intText_ne_nil i, fun _ hc => isTokenChar_of_isNumeral (isNumeral_of_mem_intText hc),
    length_intText_le hk h⟩

theorem token_fmtCommandDecimal {v : ℚ} (h : |v| ≤ 10 ^ 6) {digits : Nat} (hdigits : 0 < digits) :
    Token (9 + digits) (fmtCommandDecimal v digits) := by
  refine ⟨fixedDecimal_ne_nil _ _, fun _ hc => isTokenChar_of_isNumeral
    (isNumeral_of_mem_fixedDecimal hc), length_fixedDecimal_le ?_ hdigits⟩
  split
  · rw [abs_zero]
    positivity
  · exact h

theorem Token.trim_eq {bound : Nat} {t : Text} (h : Token bound t) : trim t = t :=
  trim_of_forall fun c hc => isTokenChar_of_isSpace c (h.2.1 c hc)

theorem isTokenChar_of_receiverTextOk {t : Text} (h : receiverTextOk t false = true) :
    ∀ c ∈ t, isTokenChar c = true ∨ c = 32 := by
  intro c hc
  have hok := List.all_eq_true.mp h c hc
  rw [Bool.false_and, Bool.or_false] at hok
  exact isTokenChar_of_message hok

/-- Neither a space other than the blank, nor a comma or quote, is left by the escaping. -/
theorem isTokenChar_of_escape {raw : Text} (h : receiverTextOk raw true = true) :
    ∀ c ∈ escapeNtripPassword raw, isTokenChar c = true ∨ c = 32 := by
  have halnum : ∀ c, isAlnum c = true → escapeNtripChar c = [c] := forall_byte (by decide +kernel)
  have hlist : ∀ c ∈ messageExtra ++ escapable, ∀ d ∈ escapeNtripChar c,
      isTokenChar d = true ∨ d = 32 := by decide
  intro d hd
  obtain ⟨c, hc, hdc⟩ := List.mem_flatMap.mp hd
  have hok := List.all_eq_true.mp h c hc
  rw [Bool.true_and, Bool.or_assoc, Bool.or_eq_true, Bool.or_eq_true, List.contains_iff_mem,
    List.contains_iff_mem, ← List.mem_append] at hok
  obtain hc | hc := hok
  · rw [halnum c hc, List.mem_singleton] at hdc
    exact .inl (hdc ▸ isTokenChar_of_isAlnum c hc)
  · exact hlist c hc d hdc

/-! ## Lists joined with a plus -/

/-- A list that is not blank and has no comma. -/
def PlusList (v : Text) : Prop := trim v ≠ [] ∧ 44 ∉ v

theorem comma_not_mem_of_trim {v : Text} (h : 44 ∉ trim v) : 44 ∉ v := by
  obtain ⟨left, right, hleft, hright, hv⟩ := exists_eq_trim v
  intro hmem
  rw [hv, List.mem_append, List.mem_append] at hmem
  obtain (hmem | hmem) | hmem := hmem
  · exact absurd (hleft 44 hmem) (by decide)
  · exact h hmem
  · exact absurd (hright 44 hmem) (by decide)

theorem comma_not_mem_of_token {bound : Nat} {t : Text} (h : Token bound t) : 44 ∉ t :=
  fun hmem => absurd (h.2.1 44 hmem) (by decide)

theorem comma_not_mem_of_inListCi {list : List Text} {t : Text} (bound : Nat)
    (hlist : ∀ v ∈ list, Token bound v) (h : inListCi list t = true) : 44 ∉ t :=
  comma_not_mem_of_token (token_of_inListCi hlist h)

/-- A valid list of parts without commas. -/
theorem plusList_of_valid {v : Text} {allowNone : Bool} {tokenOk : Text → Bool}
    (htoken : ∀ tok, tokenOk tok = true → 44 ∉ tok) (h : validPlusList v allowNone tokenOk = true) :
    PlusList v := by
  unfold validPlusList at h
  dsimp only at h
  split at h
  · exact nomatch h
  rename_i hne
  refine ⟨by simpa using hne, comma_not_mem_of_trim ?_⟩
  split at h
  · exact comma_not_mem_of_token (token_of_equalsCi ‹_› (show Token 3 (ascii "all") by decide))
  split at h
  · exact comma_not_mem_of_token (token_of_equalsCi ‹_› (show Token 4 (ascii "none") by decide))
  · -- Commas are neither the separator nor in a part, before or after trimming.
    have hjoin : trim v = join (split (trim v) 43) 43 := (List.intercalate_splitOn 43).symm
    rw [hjoin]
    refine fun hmem => (forall_mem_join (p := (· ≠ 44)) (by decide)).mpr ?_ 44 hmem rfl
    intro raw hraw c hc hcomma
    have hok := List.all_eq_true.mp h raw hraw
    simp only [Bool.not_eq_true', Bool.or_eq_false_iff, Bool.not_eq_false'] at hok
    exact comma_not_mem_of_trim (htoken _ hok.2) (hcomma ▸ hc)

theorem comma_not_mem_of_isSatelliteId {tok : Text} {gpsMax : Nat}
    (h : isSatelliteId tok gpsMax = true) : 44 ∉ tok := by
  cases tok with
  | nil => exact nomatch h
  | cons sys digits =>
    unfold isSatelliteId at h
    dsimp only at h
    split at h
    · exact nomatch h
    split at h
    · exact nomatch h
    rename_i hdigits
    rw [Bool.not_eq_true, Bool.not_eq_false', List.all_eq_true] at hdigits
    intro hmem
    obtain hsys | hmem := List.mem_cons.mp hmem
    · rw [← hsys] at h
      exact absurd h (by simp [show toUpperChar 44 = 44 from rfl])
    · exact absurd (hdigits 44 hmem) (by decide)

theorem plusList_of_satelliteList {v : Text} {allowNone : Bool} {gpsMax : Nat}
    (h : isValidSatelliteList v allowNone gpsMax = true) : PlusList v := by
  refine plusList_of_valid (fun tok htok => ?_) h
  obtain hlist | hid := Bool.or_eq_true_iff.mp htok
  · exact comma_not_mem_of_inListCi 7 (by decide) hlist
  · exact comma_not_mem_of_isSatelliteId hid

/-! ## The sections -/

/-- The account. -/
structure AccountOk (s : ReceiverSettings) : Prop where
  user : MessageText kMaxUserLength s.user
  password : MessageText kMaxPasswordLength s.password

/-- A name of an antenna. -/
structure AntennaNameOk (type : Text) : Prop where
  ne : type ≠ []
  length : type.length ≤ 20
  quote : 34 ∉ type
  comma : 44 ∉ type

/-- The numbers of the configuration that are sent with decimals. -/
def Decimal (v : ℚ) : Prop := |v| ≤ 10 ^ 6

structure AntennaOk (a : AntennaSettings) : Prop where
  mainType : AntennaNameOk a.mainType
  auxType : AntennaNameOk a.auxType
  x : Decimal a.leverArmM.x
  y : Decimal a.leverArmM.y
  z : Decimal a.leverArmM.z
  heading : Decimal a.attitudeOffsetDeg.headingDeg
  pitch : Decimal a.attitudeOffsetDeg.pitchDeg

structure GnssOk (g : GnssSettings) : Prop where
  cn0Mask : g.cn0MaskDbhz.natAbs < 10 ^ 2
  elevationMask : g.elevationMaskDeg.natAbs < 10 ^ 2
  satelliteTracking : PlusList g.satelliteTracking
  satelliteUsage : PlusList g.satelliteUsage
  satelliteHealthOverride : PlusList g.satelliteHealthOverride

structure ImuOk (imu : ImuSettings) : Prop where
  startupDataMode : Token 20 imu.startupDataMode
  orientationMode : Token 20 imu.orientationMode
  thetaX : Decimal imu.thetaXDeg
  thetaY : Decimal imu.thetaYDeg
  thetaZ : Decimal imu.thetaZDeg

structure NavigationOk (nav : NavigationSettings) : Prop where
  receiverDynamics : Token 20 nav.receiverDynamics
  vehicleApplication : Token 20 nav.vehicleApplication
  clockSyncThreshold : Token 20 nav.clockSyncThreshold
  insOutputLocation : Token 20 nav.insOutputLocation

structure PpsOk (pps : PpsSettings) : Prop where
  interval : Token 20 pps.interval
  polarity : Token 20 pps.polarity
  delay : Decimal pps.delayNs
  timeScale : Token 20 pps.timeScale
  maxHoldover : pps.maxHoldoverS.natAbs < 10 ^ 4
  pulseWidth : Decimal pps.pulseWidthMs

structure NtripOk (n : NtripSettings) : Prop where
  caster : Token 40 n.caster
  port : n.port.natAbs < 10 ^ 5
  username : n.username ≠ [] ∧ MessageText 128 n.username
  password : n.password ≠ [] ∧ receiverTextOk n.password true = true ∧ n.password.length ≤ 32
  mountPoint : Token 32 n.mountPoint
  version : Token 20 n.version
  sendGga : Token 20 n.sendGga

/-- What `ValidateReceiverSettings` makes sure of, the streams apart: their commands are built
by the same functions again. -/
structure AcceptedSettings (s : ReceiverSettings) : Prop where
  account : AccountOk s
  antenna : AntennaOk s.antenna
  gnss : GnssOk s.gnss
  imu : ImuOk s.imu
  navigation : NavigationOk s.navigation
  pps : PpsOk s.timeSystem.pps
  ntrip : s.ntrip.enabled = true → NtripOk s.ntrip

theorem messageText_of_credential {key v : Text} {maxLength : Nat}
    (h : validateCredential key v maxLength = .ok ()) : MessageText maxLength v := by
  unfold validateCredential at h
  simp only [check_bind_eq_ok, throwIf_eq_ok] at h
  obtain ⟨hlength, hok⟩ := h
  simp only [Bool.or_eq_true, not_or, decide_eq_true_eq, Nat.not_lt] at hlength
  exact ⟨isTokenChar_of_receiverTextOk (by simpa using hok), hlength.2⟩

theorem accountOk_of_validate {s : ReceiverSettings} (h : validateAccount s = .ok ()) :
    AccountOk s := by
  unfold validateAccount at h
  simp only [check_bind_eq_ok] at h
  exact ⟨messageText_of_credential h.1, messageText_of_credential h.2.1⟩

theorem decimal_of_range {v lo hi : ℚ} {key : Text} (h : requireRange v lo hi key = .ok ())
    (hlo : -10 ^ 6 ≤ lo) (hhi : hi ≤ 10 ^ 6) : Decimal v := by
  rw [requireRange_eq_ok] at h
  exact abs_le.mpr ⟨hlo.trans h.1, h.2.trans hhi⟩

theorem antennaNameOk_of_validate {key type : Text} (h : validateAntennaName key type = .ok ()) :
    AntennaNameOk type := by
  unfold validateAntennaName at h
  rw [throwIf_eq_ok] at h
  simp only [Bool.or_eq_true, not_or, decide_eq_true_eq, Nat.not_lt, List.contains_iff_mem,
    List.isEmpty_iff] at h
  obtain ⟨⟨⟨hne, hlength⟩, hquote⟩, hcomma⟩ := h
  exact { ne := hne, length := hlength, quote := hquote, comma := hcomma }

theorem antennaOk_of_validate {a : AntennaSettings} (h : validateAntenna a = .ok ()) :
    AntennaOk a := by
  unfold validateAntenna at h
  simp only [check_bind_eq_ok] at h
  obtain ⟨hmain, haux, hx, hy, hz, hheading, hpitch⟩ := h
  exact {
    mainType := antennaNameOk_of_validate hmain
    auxType := antennaNameOk_of_validate haux
    x := decimal_of_range hx (by norm_num) (by norm_num)
    y := decimal_of_range hy (by norm_num) (by norm_num)
    z := decimal_of_range hz (by norm_num) (by norm_num)
    heading := decimal_of_range hheading (by norm_num) (by norm_num)
    pitch := decimal_of_range hpitch (by norm_num) (by norm_num) }

theorem plusList_of_validate {key v : Text} {gpsMax : Nat}
    (h : validateSatelliteList key v gpsMax = .ok ()) : PlusList v := by
  unfold validateSatelliteList at h
  rw [throwIf_eq_ok] at h
  exact plusList_of_satelliteList (by simpa using h)

theorem gnssOk_of_validate {g : GnssSettings} (h : validateGnss g = .ok ()) : GnssOk g := by
  unfold validateGnss at h
  simp only [check_bind_eq_ok, throwIf_eq_ok] at h
  obtain ⟨hcn0, helevation, htracking, husage, hhealth, -⟩ := h
  exact {
    cn0Mask := by omega
    elevationMask := by omega
    satelliteTracking := plusList_of_validate htracking
    satelliteUsage := plusList_of_validate husage
    satelliteHealthOverride := plusList_of_validate hhealth }

theorem token_of_requireEnum {value key : Text} {allowed : List Text}
    (hallowed : ∀ v ∈ allowed, Token 20 v) (h : requireEnum value allowed key = .ok ()) :
    Token 20 value :=
  token_of_inListCi hallowed (requireEnum_eq_ok.mp h)

theorem imuOk_of_validate {imu : ImuSettings} (h : validateImu imu = .ok ()) : ImuOk imu := by
  unfold validateImu at h
  simp only [check_bind_eq_ok] at h
  obtain ⟨hstartup, horientation, hx, hy, hz⟩ := h
  exact {
    startupDataMode := token_of_requireEnum (by decide) hstartup
    orientationMode := token_of_requireEnum (by decide) horientation
    thetaX := decimal_of_range hx (by norm_num) (by norm_num)
    thetaY := decimal_of_range hy (by norm_num) (by norm_num)
    thetaZ := decimal_of_range hz (by norm_num) (by norm_num) }

theorem navigationOk_of_validate {nav : NavigationSettings} (h : validateNavigation nav = .ok ()) :
    NavigationOk nav := by
  unfold validateNavigation at h
  simp only [check_bind_eq_ok] at h
  obtain ⟨-, hdynamics, happlication, hthreshold, hlocation⟩ := h
  exact {
    receiverDynamics := token_of_requireEnum (by decide) hdynamics
    vehicleApplication := token_of_requireEnum (by decide) happlication
    clockSyncThreshold := token_of_requireEnum (by decide) hthreshold
    insOutputLocation := token_of_requireEnum (by decide) hlocation }

theorem ppsOk_of_validate {pps : PpsSettings} (h : validatePps pps = .ok ()) : PpsOk pps := by
  unfold validatePps at h
  simp only [check_bind_eq_ok, throwIf_eq_ok] at h
  obtain ⟨hinterval, hpolarity, hdelay, hscale, hholdover, hwidth⟩ := h
  exact {
    interval := token_of_requireEnum (by decide) hinterval
    polarity := token_of_inListCi (show ∀ v ∈ kPpsPolarities, Token 20 v by decide)
      (by simpa using hpolarity)
    delay := decimal_of_range hdelay (by norm_num) (by norm_num)
    timeScale := token_of_requireEnum (by decide) hscale
    maxHoldover := by omega
    pulseWidth := decimal_of_range hwidth
      (le_trans (by norm_num) (nearestDouble_nonneg _)) (by norm_num) }

theorem ntripText_of_validate {key v : Text} {max : Nat} {isPassword : Bool}
    (h : validateNtripText key v max isPassword = .ok ()) :
    v ≠ [] ∧ receiverTextOk v isPassword = true ∧ v.length ≤ max := by
  unfold validateNtripText at h
  simp only [check_bind_eq_ok, throwIf_eq_ok] at h
  obtain ⟨hempty, hlength, hok⟩ := h
  simp only [Bool.or_eq_true, not_or, List.isEmpty_iff] at hempty
  exact ⟨hempty.1, by simpa using hok, Nat.le_of_not_lt hlength⟩

/-- A message without spaces is a token. -/
theorem token_of_message {bound : Nat} {t : Text} (hne : t ≠ [])
    (hok : receiverTextOk t false = true) (hlength : t.length ≤ bound)
    (hspace : hasWhitespace t = false) : Token bound t := by
  refine ⟨hne, fun c hc => ?_, hlength⟩
  obtain htoken | hblank := isTokenChar_of_receiverTextOk hok c hc
  · exact htoken
  · exact absurd (List.any_eq_false.mp hspace c hc) (by rw [hblank]; decide)

theorem ntripOk_of_validate {n : NtripSettings} (h : validateNtrip n = .ok ())
    (henabled : n.enabled = true) : NtripOk n := by
  unfold validateNtrip at h
  rw [henabled, if_neg (by decide)] at h
  simp only [check_bind_eq_ok, throwIf_eq_ok] at h
  obtain ⟨hcaster, hspace, hport, husername, hpassword, hmount, hversion, hgga⟩ := h
  obtain ⟨hcaster, hcasterOk, hcasterLength⟩ := ntripText_of_validate hcaster
  obtain ⟨husername, husernameOk, husernameLength⟩ := ntripText_of_validate husername
  obtain ⟨hmount, hmountOk, hmountLength⟩ := ntripText_of_validate hmount
  simp only [Bool.or_eq_true, not_or, Bool.not_eq_true] at hspace
  exact {
    caster := token_of_message hcaster hcasterOk hcasterLength hspace.1
    port := by omega
    username := ⟨husername, isTokenChar_of_receiverTextOk husernameOk, husernameLength⟩
    password := ntripText_of_validate hpassword
    mountPoint := token_of_message hmount hmountOk hmountLength hspace.2
    version := token_of_requireEnum (by decide) hversion
    sendGga := token_of_requireEnum (by decide) hgga }

/-- **Accepted settings.** -/
theorem acceptedSettings_of_validate {s : ReceiverSettings}
    (h : validateReceiverSettings s = .ok ()) : AcceptedSettings s := by
  unfold validateReceiverSettings at h
  simp only [check_bind_eq_ok] at h
  obtain ⟨haccount, hantenna, hgnss, himu, hnavigation, hpps, hntrip, -, -⟩ := h
  exact {
    account := accountOk_of_validate haccount
    antenna := antennaOk_of_validate hantenna
    gnss := gnssOk_of_validate hgnss
    imu := imuOk_of_validate himu
    navigation := navigationOk_of_validate hnavigation
    pps := ppsOk_of_validate hpps
    ntrip := ntripOk_of_validate hntrip }

/-- The default settings with one stream. -/
def defaultSettings : ReceiverSettings where
  sbfStreams := [{ streamId := 1, blocks := [ascii "ReceiverStatus"], interval := ascii "sec1" }]

/-! ## The streams -/

/-- A stream whose command was built. -/
structure StreamBuilt (streamId : Int) (interval cmd : Text) : Prop where
  streamId : streamId.natAbs < 10 ^ 2
  interval : Token 20 interval
  length : cmd.length ≤ kMaxAsciiCommandLength

theorem enforceCommandLength_eq_ok {cmd : Text} :
    enforceCommandLength cmd = .ok () ↔ cmd.length ≤ kMaxAsciiCommandLength := by
  unfold enforceCommandLength
  rw [throwIf_eq_ok, Nat.not_lt]

theorem token_of_interval {interval : Text} (h : isValidSbfInterval interval = true) :
    Token 20 interval :=
  token_of_contains_toLower (show ∀ v ∈ kSbfIntervals, Token 20 v by decide) h

theorem token_of_pinDescriptor {descriptor : Text} (h : isValidPinDescriptor descriptor = true) :
    Token 20 descriptor :=
  token_of_contains_toLower (show ∀ v ∈ kPinDescriptors, Token 20 v by decide) h

theorem token_of_nmeaMessage {message : Text} (h : isValidNmeaMessage message = true) :
    Token 20 message :=
  token_of_contains_toLower (show ∀ v ∈ kNmeaMessages, Token 20 v by decide) h

theorem forM_eq_ok {f : α → Except ConfigError Unit} {l : List α} :
    l.forM f = .ok () ↔ ∀ a ∈ l, f a = .ok () := by
  induction l with
  | nil => exact ⟨fun _ _ h => (List.not_mem_nil h).elim, fun _ => rfl⟩
  | cons a l ih =>
    show (f a >>= fun _ => l.forM f) = .ok () ↔ _
    rw [check_bind_eq_ok, ih, List.forall_mem_cons]

/-- The text of `setNMEAOutput`. -/
def nmeaOutputText (stream : NmeaPinStream) : Text :=
  ascii "setNMEAOutput, Stream" ++ intText stream.streamId ++ ascii ", " ++
    stream.descriptor ++ ascii ", " ++ join stream.messages 43 ++ ascii ", " ++ stream.interval

theorem nmea_of_build {stream : NmeaPinStream} {cmd : Text}
    (h : buildNmeaOutputCommand stream = .ok cmd) :
    StreamBuilt stream.streamId stream.interval cmd ∧ Token 20 stream.descriptor ∧
      (∀ m ∈ stream.messages, Token 20 m) ∧ stream.messages ≠ [] ∧ cmd = nmeaOutputText stream := by
  unfold buildNmeaOutputCommand at h
  simp only [check_bind_eq_ok, throwIf_eq_ok, forM_eq_ok, enforceCommandLength_eq_ok] at h
  obtain ⟨hid, hdescriptor, hne, hmessages, hinterval, hlength, hcmd⟩ := h
  obtain rfl : nmeaOutputText stream = cmd := Except.ok.inj hcmd
  refine ⟨⟨by omega, token_of_interval (by simpa using hinterval), hlength⟩,
    token_of_pinDescriptor (by simpa using hdescriptor),
    fun m hm => token_of_nmeaMessage (by simpa using hmessages m hm), by simpa using hne, rfl⟩

/-- The text of `setSBFOutput`. -/
def sbfOutputText (stream : SbfStream) (descriptor : Text) : Text :=
  ascii "setSBFOutput, Stream" ++ intText stream.streamId ++ ascii ", " ++
    descriptor ++ ascii ", " ++ join stream.blocks 43 ++ ascii ", " ++ stream.interval

theorem sbf_of_build {stream : SbfStream} {descriptor cmd : Text}
    (h : buildSbfOutputCommand stream descriptor = .ok cmd) :
    StreamBuilt stream.streamId stream.interval cmd ∧ cmd = sbfOutputText stream descriptor := by
  unfold buildSbfOutputCommand at h
  simp only [check_bind_eq_ok, throwIf_eq_ok, enforceCommandLength_eq_ok] at h
  obtain ⟨hid, -, -, hinterval, hlength, hcmd⟩ := h
  obtain rfl : sbfOutputText stream descriptor = cmd := Except.ok.inj hcmd
  exact ⟨⟨by omega, token_of_interval (by simpa using hinterval), hlength⟩, rfl⟩

end Asterx.Commands
end AmigaDrivers
