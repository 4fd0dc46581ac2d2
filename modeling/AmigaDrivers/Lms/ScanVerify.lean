import Mathlib.Data.List.Nodup
import AmigaDrivers.Common.DecimalText
import AmigaDrivers.Lms.ScanDataParser

/-!
# The first telegram

`VerifyScanContent` compares the first telegram with the fixed measurement setup, and lists what is
wrong with it.  How a float is printed in such a list belongs to the formatting library and is a
parameter.

* `VerifyScan.checks`: what is compared, in the order of the source.
* `GoodScan`: the telegram that the setup asks for.
* `scan_verified`: no problem is reported exactly for such a telegram.
-/

namespace AmigaDrivers
namespace Lms

open ByteUtil StringUtil DecimalText

/-! ## Floats -/

/-- The bits of a float that is no number. -/
def isNanBits (bits : Nat) : Bool := bits / 2 ^ 23 % 2 ^ 8 == 255 && bits % 2 ^ 23 != 0

/-- The bits of a zero, of either sign. -/
def isZeroBits (bits : Nat) : Bool := bits % 2 ^ 31 == 0

/-- `a == b` on floats. -/
def floatEq (a b : Nat) : Bool :=
  !isNanBits a && !isNanBits b && (a == b || isZeroBits a && isZeroBits b)

/-! ## The setup -/

/-- `Remission`. -/
inductive Remission
  | rssi
  | refl
  deriving DecidableEq, Repr

/-- `RemissionChannel`. -/
def remissionChannel (r : Remission) : Text := if r = .refl then ascii "REFL1" else ascii "RSSI1"

/-- `ScanConfig`, as far as it is looked at. -/
structure ScanConfig where
  remission : Remission

namespace ScanFixed

/-- `kPointsPerScan`. -/
def pointsPerScan : Nat := 841

/-- `kAngularResolution1e4`. -/
def angularResolution1e4 : Nat := 833

/-- `kStartAngle1e4`. -/
def startAngle1e4 : Int := 550000

end ScanFixed

namespace ScanData

/-- `DistanceChannel`. -/
def distanceChannel (scan : ScanData) : Option ChannelData16 :=
  scan.channels16bit.find? fun ch => ch.content = .dist1

/-- `RssiChannel`. -/
def rssiChannel (scan : ScanData) : Option ChannelData16 :=
  scan.channels16bit.find? fun ch => ch.content = .rssi1

/-- `ReflectanceChannel`. -/
def reflectanceChannel (scan : ScanData) : Option ChannelData16 :=
  scan.channels16bit.find? fun ch => ch.content = .refl1

/-- `AngleCorrectionChannel`. -/
def angleCorrectionChannel (scan : ScanData) : Option ChannelData16 :=
  scan.channels16bit.find? fun ch => ch.content = .angl1

/-- `QualityChannel`. -/
def qualityChannel (scan : ScanData) : Option ChannelData8 :=
  scan.channels8bit.find? fun ch => ch.content = .qlty1

end ScanData

/-! ## The checks -/

namespace VerifyScan

/-- A condition that must not hold, and what is said if it does. -/
abbrev Check := Bool × Text

/-- `bad`. -/
def bad (problems : Text) (check : Check) : Text :=
  if check.1 then problems ++ (if problems.isEmpty then [] else ascii ", ") ++ check.2 else problems

section Checks

variable {Content Sample : Type} (formatFloat : Nat → Text)

/-- `check_geometry`. -/
def checkGeometry (name : Text) (ch : ChannelData Content Sample) : List Check :=
  [(decide (ch.numData ≠ ScanFixed.pointsPerScan),
      name ++ ascii ": " ++ natText ch.numData ++ ascii " points (expected " ++
        natText ScanFixed.pointsPerScan ++ ascii ")"),
    (decide (ch.angleStep ≠ ScanFixed.angularResolution1e4),
      name ++ ascii ": step " ++ natText ch.angleStep ++ ascii " (expected " ++
        natText ScanFixed.angularResolution1e4 ++ ascii ")"),
    (decide (ch.startAngle ≠ ScanFixed.startAngle1e4),
      name ++ ascii ": start " ++ intText ch.startAngle ++ ascii " (expected " ++
        intText ScanFixed.startAngle1e4 ++ ascii ")")]

/-- The body of the loops over the channels. -/
def checkChannel (mismatch name : Text) (ch : ChannelData Content Sample) : List Check :=
  (decide (ch.data.length ≠ ch.numData), mismatch) :: checkGeometry name ch

/-- `check_scale`. -/
def checkScale (channel : Option (ChannelData Content Sample)) (name : Text) (factor offset : Nat) :
    List Check :=
  channel.toList.map fun ch =>
    (!floatEq ch.scaleFactor factor || !floatEq ch.scaleOffset offset,
      name ++ ascii ": scale (" ++ formatFloat ch.scaleFactor ++ ascii ", " ++
        formatFloat ch.scaleOffset ++ ascii ") (expected " ++ formatFloat factor ++ ascii ", " ++
        formatFloat offset ++ ascii ")")

/-- The calls of `bad` in `VerifyScanContent`.  The floats are 0.1, 0.01, 1 and -32768. -/
def checks (scan : ScanData) (config : ScanConfig) (ntpEnabled : Bool) : List Check :=
  let refl := config.remission = .refl
  let remissionName := remissionChannel config.remission
  let remission := if refl then scan.reflectanceChannel else scan.rssiChannel
  [(scan.distanceChannel.isNone, ascii "DIST1 missing"),
    (remission.isNone, remissionName ++ ascii " missing"),
    (scan.angleCorrectionChannel.isNone, ascii "ANGL1 missing"),
    (scan.qualityChannel.isNone, ascii "QLTY1 missing"),
    (decide (scan.channels16bit.length ≠ 3),
      natText scan.channels16bit.length ++ ascii " 16-bit channels (expected 3)"),
    (decide (scan.channels8bit.length ≠ 1),
      natText scan.channels8bit.length ++ ascii " 8-bit channels (expected 1)")] ++
  scan.channels16bit.flatMap (fun ch =>
    checkChannel (ascii "16-bit channel payload count mismatch")
      (match ch.content with
        | .dist1 => ascii "DIST1"
        | .angl1 => ascii "ANGL1"
        | _ => remissionName) ch) ++
  scan.channels8bit.flatMap (fun ch =>
    checkChannel (ascii "8-bit channel payload count mismatch") (ascii "QLTY1") ch) ++
  [if ntpEnabled then (!scan.hasTimestamp, ascii "timestamp block missing")
    else (scan.hasTimestamp, ascii "unexpected timestamp block (NTP off)"),
    (scan.hasEncoder, ascii "unexpected encoder block"),
    (scan.hasDeviceName, ascii "unexpected device name block")] ++
  checkScale formatFloat scan.distanceChannel (ascii "DIST1") 0x3DCCCCCD 0 ++
  checkScale formatFloat remission remissionName (if refl then 0x3C23D70A else 0x3F800000) 0 ++
  checkScale formatFloat scan.angleCorrectionChannel (ascii "ANGL1") 0x3F800000 0xC7000000 ++
  checkScale formatFloat scan.qualityChannel (ascii "QLTY1") 0x3F800000 0

end Checks

end VerifyScan

/-- `VerifyScanContent`. -/
def verifyScanContent (formatFloat : Nat → Text) (scan : ScanData) (config : ScanConfig)
    (ntpEnabled : Bool) : Text :=
  (VerifyScan.checks formatFloat scan config ntpEnabled).foldl VerifyScan.bad []

/-! ## What is reported -/

namespace VerifyScan

theorem bad_ne_nil {problems : Text} {check : Check} (h : problems ≠ []) : bad problems check ≠ [] := by
  unfold bad
  split_ifs
  · rw [List.append_assoc]
    exact List.append_ne_nil_of_left_ne_nil h _
  · rw [List.append_assoc]
    exact List.append_ne_nil_of_left_ne_nil h _
  · exact h

theorem foldl_bad_ne_nil (cs : List Check) : ∀ {problems : Text}, problems ≠ [] →
    cs.foldl bad problems ≠ [] := by
  induction cs with
  | nil => exact id
  | cons c cs ih => exact fun h => ih (bad_ne_nil h)

/-- Nothing is reported exactly if no condition holds. -/
theorem foldl_bad_eq_nil {cs : List Check} (htext : ∀ c ∈ cs, c.2 ≠ []) :
    cs.foldl bad [] = [] ↔ ∀ c ∈ cs, c.1 = false := by
  induction cs with
  | nil => exact ⟨fun _ => nofun, fun _ => rfl⟩
  | cons c cs ih =>
    rw [List.forall_mem_cons] at htext ⊢
    rw [List.foldl_cons, ← ih htext.2]
    cases hc : c.1 with
    | false =>
      have hquiet : bad [] c = [] := by
        unfold bad
        rw [hc]
        rfl
      rw [hquiet]
      exact ⟨fun h => ⟨rfl, h⟩, fun h => h.2⟩
    | true =>
      have hloud : bad [] c = c.2 := by
        unfold bad
        rw [hc]
        rfl
      rw [hloud]
      exact ⟨fun h => absurd h (foldl_bad_ne_nil cs htext.1), fun h => nomatch h.1⟩

section Texts

variable {Content Sample : Type} (formatFloat : Nat → Text)

theorem checkChannel_text {mismatch name : Text} (hmismatch : mismatch ≠ [])
    (ch : ChannelData Content Sample) : ∀ c ∈ checkChannel mismatch name ch, c.2 ≠ [] := by
  unfold checkChannel checkGeometry
  simp only [List.forall_mem_cons]
  refine ⟨hmismatch, ?_, ?_, ?_, nofun⟩ <;> exact List.append_ne_nil_of_right_ne_nil _ (by decide)

theorem checkScale_text (channel : Option (ChannelData Content Sample)) (name : Text)
    (factor offset : Nat) : ∀ c ∈ checkScale formatFloat channel name factor offset, c.2 ≠ [] := by
  intro c hc
  obtain ⟨ch, -, rfl⟩ := List.mem_map.mp hc
  exact List.append_ne_nil_of_right_ne_nil _ (by decide)

/-- Every problem has a text. -/
theorem checks_text (scan : ScanData) (config : ScanConfig) (ntpEnabled : Bool) :
    ∀ c ∈ checks formatFloat scan config ntpEnabled, c.2 ≠ [] := by
  unfold checks
  simp only [List.forall_mem_append, List.forall_mem_cons, List.forall_mem_flatMap]
  refine ⟨⟨⟨⟨⟨⟨⟨⟨by decide, ?_, by decide, by decide, ?_, ?_, nofun⟩, ?_⟩, ?_⟩, ?_, by decide,
    by decide, nofun⟩, ?_⟩, ?_⟩, ?_⟩, ?_⟩
  · exact List.append_ne_nil_of_right_ne_nil _ (by decide)
  · exact List.append_ne_nil_of_right_ne_nil _ (by decide)
  · exact List.append_ne_nil_of_right_ne_nil _ (by decide)
  · exact fun ch _ => checkChannel_text (by decide) ch
  · exact fun ch _ => checkChannel_text (by decide) ch
  · cases ntpEnabled
    · exact (by decide : ascii "unexpected timestamp block (NTP off)" ≠ [])
    · exact (by decide : ascii "timestamp block missing" ≠ [])
  · exact checkScale_text formatFloat _ _ _ _
  · exact checkScale_text formatFloat _ _ _ _
  · exact checkScale_text formatFloat _ _ _ _
  · exact checkScale_text formatFloat _ _ _ _

end Texts

end VerifyScan

/-! ## The telegram that is asked for -/

/-- The content of the configured remission channel. -/
def Remission.content : Remission → ChannelContent16
  | .rssi => .rssi1
  | .refl => .refl1

theorem Remission.content_ne_dist1 (r : Remission) : r.content ≠ .dist1 := by
  cases r <;> decide

theorem Remission.content_ne_angl1 (r : Remission) : r.content ≠ .angl1 := by
  cases r <;> decide

/-- The bits of the scale of the remission: 0.01 or 1. -/
def Remission.scale (r : Remission) : Nat := if r = .refl then 0x3C23D70A else 0x3F800000

namespace VerifyScan

section Channels

variable {Content Sample : Type}

/-- A channel of the fixed geometry, with all of its points. -/
structure FixedGeometry (ch : ChannelData Content Sample) : Prop where
  payload : ch.data.length = ch.numData
  points : ch.numData = ScanFixed.pointsPerScan
  step : ch.angleStep = ScanFixed.angularResolution1e4
  start : ch.startAngle = ScanFixed.startAngle1e4

/-- A channel of the given scale. -/
def Scaled (factor offset : Nat) (ch : ChannelData Content Sample) : Prop :=
  floatEq ch.scaleFactor factor = true ∧ floatEq ch.scaleOffset offset = true

theorem checkChannel_quiet {mismatch name : Text} {ch : ChannelData Content Sample} :
    (∀ c ∈ checkChannel mismatch name ch, c.1 = false) ↔ FixedGeometry ch := by
  unfold checkChannel checkGeometry
  simp only [List.forall_mem_cons, decide_eq_false_iff_not, not_not]
  exact ⟨fun ⟨hpayload, hpoints, hstep, hstart, _⟩ => ⟨hpayload, hpoints, hstep, hstart⟩,
    fun h => ⟨h.payload, h.points, h.step, h.start, nofun⟩⟩

theorem checkScale_quiet {formatFloat : Nat → Text} {channel : Option (ChannelData Content Sample)}
    {name : Text} {factor offset : Nat} :
    (∀ c ∈ checkScale formatFloat channel name factor offset, c.1 = false) ↔
      ∀ ch ∈ channel, Scaled factor offset ch := by
  unfold checkScale Scaled
  cases channel with
  | none => exact ⟨fun _ => nofun, fun _ => nofun⟩
  | some ch => simp

end Channels

/-- Both branches of the remission are one search. -/
theorem remission_eq (scan : ScanData) (r : Remission) :
    (if r = .refl then scan.reflectanceChannel else scan.rssiChannel) =
      scan.channels16bit.find? fun ch => ch.content = r.content := by
  cases r <;> rfl

theorem content_of_find {Content Sample : Type} [DecidableEq Content]
    {channels : List (ChannelData Content Sample)} {ch : ChannelData Content Sample}
    {content : Content} (h : channels.find? (fun ch => ch.content = content) = some ch) :
    ch.content = content := by
  simpa using List.find?_some h

/-- A list of three channels with these contents, in any order. -/
theorem perm_of_find {channels : List ChannelData16} {r : Remission} (hlength : channels.length = 3)
    {distance remission angle : ChannelData16}
    (hdistance : channels.find? (fun ch => ch.content = .dist1) = some distance)
    (hremission : channels.find? (fun ch => ch.content = r.content) = some remission)
    (hangle : channels.find? (fun ch => ch.content = .angl1) = some angle) :
    channels.Perm [distance, remission, angle] := by
  have hd := content_of_find hdistance
  have hr := content_of_find hremission
  have ha := content_of_find hangle
  have hnodup : [distance, remission, angle].Nodup := by
    refine List.Nodup.of_map ChannelData.content ?_
    rw [List.map_cons, List.map_cons, List.map_cons, hd, hr, ha]
    cases r <;> decide
  have hsubset : [distance, remission, angle] ⊆ channels := by
    simp only [List.cons_subset, List.nil_subset, and_true]
    exact ⟨List.mem_of_find?_eq_some hdistance, List.mem_of_find?_eq_some hremission,
      List.mem_of_find?_eq_some hangle⟩
  exact ((List.subperm_of_subset hnodup hsubset).perm_of_length_le hlength.le).symm

/-- The only channel of a content is the one that is found. -/
theorem find_of_perm {Content Sample : Type} [DecidableEq Content]
    {channels others : List (ChannelData Content Sample)} {ch : ChannelData Content Sample}
    {content : Content} (hperm : channels.Perm (ch :: others)) (hcontent : ch.content = content)
    (hothers : ∀ o ∈ others, o.content ≠ content) :
    channels.find? (fun ch => ch.content = content) = some ch := by
  cases hfind : channels.find? (fun ch => decide (ch.content = content)) with
  | none =>
    have hno := List.find?_eq_none.mp hfind ch (hperm.mem_iff.mpr List.mem_cons_self)
    exact absurd (decide_eq_true hcontent) hno
  | some found =>
    obtain rfl | hother := List.mem_cons.mp (hperm.mem_iff.mp (List.mem_of_find?_eq_some hfind))
    · rfl
    · exact absurd (content_of_find hfind) (hothers found hother)

end VerifyScan

open VerifyScan

/-- The telegram that the setup asks for: one distance, one remission and one angle channel, in any
order, and one quality channel, all of the fixed geometry and scaled; a time stamp exactly with NTP;
no encoder and no device name. -/
structure GoodScan (scan : ScanData) (config : ScanConfig) (ntpEnabled : Bool) : Prop where
  channels16bit : ∃ distance remission angle, scan.channels16bit.Perm [distance, remission, angle] ∧
    distance.content = .dist1 ∧ remission.content = config.remission.content ∧
    angle.content = .angl1 ∧
    (∀ ch ∈ [distance, remission, angle], FixedGeometry ch) ∧
    Scaled 0x3DCCCCCD 0 distance ∧ Scaled config.remission.scale 0 remission ∧
    Scaled 0x3F800000 0xC7000000 angle
  channels8bit : ∃ quality, scan.channels8bit = [quality] ∧ quality.content = .qlty1 ∧
    FixedGeometry quality ∧ Scaled 0x3F800000 0 quality
  timestamp : scan.hasTimestamp = ntpEnabled
  noEncoder : scan.hasEncoder = false
  noDeviceName : scan.hasDeviceName = false

/-- No condition holds, part by part. -/
theorem checks_quiet {formatFloat : Nat → Text} {scan : ScanData} {config : ScanConfig}
    {ntpEnabled : Bool} :
    (∀ c ∈ checks formatFloat scan config ntpEnabled, c.1 = false) ↔
      ((∃ distance remission angle, scan.distanceChannel = some distance ∧
          scan.channels16bit.find? (fun ch => ch.content = config.remission.content) =
            some remission ∧
          scan.angleCorrectionChannel = some angle ∧ scan.channels16bit.length = 3 ∧
          (∀ ch ∈ scan.channels16bit, FixedGeometry ch) ∧
          Scaled 0x3DCCCCCD 0 distance ∧ Scaled config.remission.scale 0 remission ∧
          Scaled 0x3F800000 0xC7000000 angle) ∧
        (∃ quality, scan.qualityChannel = some quality ∧ scan.channels8bit.length = 1 ∧
          (∀ ch ∈ scan.channels8bit, FixedGeometry ch) ∧ Scaled 0x3F800000 0 quality)) ∧
      scan.hasTimestamp = ntpEnabled ∧ scan.hasEncoder = false ∧ scan.hasDeviceName = false := by
  have htimestamp : (if ntpEnabled then (!scan.hasTimestamp, ascii "timestamp block missing")
      else (scan.hasTimestamp, ascii "unexpected timestamp block (NTP off)")).1 = false ↔
        scan.hasTimestamp = ntpEnabled := by
    cases ntpEnabled <;> simp
  unfold checks
  simp only [List.forall_mem_append, List.forall_mem_cons, List.forall_mem_flatMap,
    checkChannel_quiet, checkScale_quiet, htimestamp, remission_eq, decide_eq_false_iff_not, not_not,
    Option.isNone_eq_false_iff, Option.isSome_iff_exists]
  constructor
  · rintro ⟨⟨⟨⟨⟨⟨⟨⟨⟨distance, hdistance⟩, ⟨remission, hremission⟩, ⟨angle, hangle⟩,
      ⟨quality, hquality⟩, hthree, hone, -⟩, hgeometry⟩, hgeometry8⟩, htime, hencoder, hname, -⟩,
      hscale⟩, hscale'⟩, hscale''⟩, hscale8⟩
    exact ⟨⟨⟨distance, remission, angle, hdistance, hremission, hangle, hthree, hgeometry,
      hscale distance hdistance, hscale' remission hremission, hscale'' angle hangle⟩, quality,
      hquality, hone, hgeometry8, hscale8 quality hquality⟩, htime, hencoder, hname⟩
  · rintro ⟨⟨⟨distance, remission, angle, hdistance, hremission, hangle, hthree, hgeometry,
      hscale, hscale', hscale''⟩, quality, hquality, hone, hgeometry8, hscale8⟩, htime, hencoder,
      hname⟩
    rw [hdistance, hremission, hangle, hquality]
    exact ⟨⟨⟨⟨⟨⟨⟨⟨⟨_, rfl⟩, ⟨_, rfl⟩, ⟨_, rfl⟩, ⟨_, rfl⟩, hthree, hone, nofun⟩, hgeometry⟩,
      hgeometry8⟩, htime, hencoder, hname, nofun⟩, by rintro _ ⟨⟩; exact hscale⟩,
      by rintro _ ⟨⟩; exact hscale'⟩, by rintro _ ⟨⟩; exact hscale''⟩, by rintro _ ⟨⟩; exact hscale8⟩

/-- **The first telegram.**  `VerifyScanContent` reports no problem exactly for the telegram that the
setup asks for. -/
theorem scan_verified (formatFloat : Nat → Text) (scan : ScanData) (config : ScanConfig)
    (ntpEnabled : Bool) :
    verifyScanContent formatFloat scan config ntpEnabled = [] ↔ GoodScan scan config ntpEnabled := by
  unfold verifyScanContent
  rw [foldl_bad_eq_nil (checks_text formatFloat scan config ntpEnabled), checks_quiet]
  constructor
  · rintro ⟨⟨⟨distance, remission, angle, hdistance, hremission, hangle, hlength, hgeometry, hscales⟩,
      quality, hquality, hone, hgeometry8, hscale8⟩, htime, hencoder, hname⟩
    have hperm := perm_of_find hlength hdistance hremission hangle
    refine ⟨⟨distance, remission, angle, hperm, content_of_find hdistance,
      content_of_find hremission, content_of_find hangle, ?_,
      hscales⟩, ?_, htime, hencoder, hname⟩
    · exact fun ch hch => hgeometry ch (hperm.mem_iff.mpr hch)
    · have hmem := List.mem_of_find?_eq_some hquality
      obtain ⟨only, honly⟩ := List.length_eq_one_iff.mp hone
      rw [honly] at hmem
      obtain rfl := List.mem_singleton.mp hmem
      exact ⟨quality, honly, content_of_find hquality,
        hgeometry8 quality (honly ▸ hmem), hscale8⟩
  · rintro ⟨⟨distance, remission, angle, hperm, hdistance, hremission, hangle, hgeometry, hscales⟩,
      ⟨quality, honly, hquality, hgeometry8, hscale8⟩, htime, hencoder, hname⟩
    refine ⟨⟨⟨distance, remission, angle, ?_, ?_, ?_, hperm.length_eq, ?_, hscales⟩,
      ⟨quality, ?_, ?_, ?_, hscale8⟩⟩, htime, hencoder, hname⟩
    · refine find_of_perm hperm hdistance ?_
      simp only [List.forall_mem_cons, hremission, hangle]
      exact ⟨config.remission.content_ne_dist1, by decide, nofun⟩
    · refine find_of_perm (hperm.trans (.swap _ _ _)) hremission ?_
      simp only [List.forall_mem_cons, hdistance, hangle]
      exact ⟨config.remission.content_ne_dist1.symm, config.remission.content_ne_angl1.symm, nofun⟩
    · have hlast : scan.channels16bit.Perm [angle, distance, remission] :=
        hperm.trans (List.perm_append_comm : ([distance, remission] ++ [angle]).Perm _)
      refine find_of_perm hlast hangle ?_
      simp only [List.forall_mem_cons, hdistance, hremission]
      exact ⟨by decide, config.remission.content_ne_angl1, nofun⟩
    · exact fun ch hch => hgeometry ch (hperm.mem_iff.mp hch)
    · exact find_of_perm (.of_eq honly) hquality fun _ ho => nomatch ho
    · rw [honly]
      rfl
    · rw [honly]
      exact List.forall_mem_singleton.mpr hgeometry8

end Lms
end AmigaDrivers
