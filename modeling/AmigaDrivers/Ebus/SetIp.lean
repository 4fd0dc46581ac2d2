import AmigaDrivers.Foundation.LowBits
import AmigaDrivers.Ebus.Ipv4

/-!
# Whether a camera may be given an address

`ipv4.cpp`: `ValidateSetIp` returns the reason against an address, or nothing.

* `isUsableHost_iff`, `sameSubnet_iff`: the tests on bits as divisions and remainders.
* `validateSetIp_accepts_iff`: **which addresses are accepted.**
-/

namespace AmigaDrivers
namespace Ebus
namespace Ipv4

open ByteUtil StringUtil DecimalText LowBits

/-! ## Masks and hosts -/

/-- `IsContiguousMask`. -/
def isContiguousMask (mask : Address) : Bool :=
  let inv := ~~~mask
  (inv &&& (inv + 1)) == 0

/-- The loop of `PrefixLength`; the bit is shifted out after 32 rounds. -/
def leadingOnes (mask bit : Address) : Nat → Nat
  | 0 => 0
  | rounds + 1 =>
    if bit ≠ 0 ∧ mask &&& bit ≠ 0 then leadingOnes mask (bit >>> 1) rounds + 1 else 0

/-- `PrefixLength`. -/
def prefixLength (mask : Address) : Int :=
  if !isContiguousMask mask then -1 else leadingOnes mask 0x80000000 32

/-- `SameSubnet`. -/
def sameSubnet (a b mask : Address) : Bool := (a &&& mask) == (b &&& mask)

/-- `IsUsableHost`. -/
def isUsableHost (ip mask : Address) : Bool :=
  if ip = 0 then false
  else if ip >>> 24 = 127 ∨ 224 ≤ ip >>> 24 then false
  else if mask ≠ 0xFFFFFFFF ∧ mask ≠ 0 then
    if ip &&& mask = ip then false
    else if ip ||| ~~~mask = ip then false
    else true
  else true

/-- `HostAddress`. -/
structure HostAddress where
  ip : Text
  subnetMask : Text
  deriving DecidableEq

/-- The interfaces seen, with one more. -/
def appendHost (hostList : Text) (h : HostAddress) : Text :=
  (if hostList.isEmpty then [] else hostList ++ ascii ", ") ++ (h.ip ++ ascii "/" ++ h.subnetMask)

/-- The loop over the interfaces: the reason to stop, or whether the address is reachable and the
interfaces seen. -/
def scanHosts (ip : Text) (ipV maskV : Address) :
    List HostAddress → Bool → Text → Except Text (Bool × Text)
  | [], reachable, hostList => .ok (reachable, hostList)
  | h :: hosts, reachable, hostList =>
    match parseIpv4 h.ip, parseIpv4 h.subnetMask with
    | some hIp, some hMask =>
      if hIp = ipV then .error (ip ++ ascii " is the address of the host adapter itself")
      else scanHosts ip ipV maskV hosts
        (reachable || (sameSubnet hIp ipV hMask && sameSubnet hIp ipV maskV))
        (appendHost hostList h)
    | _, _ => scanHosts ip ipV maskV hosts reachable hostList

/-- The part of `ValidateSetIp` behind the tests on the three addresses alone. -/
def validateReachable (ip : Text) (ipV maskV : Address) (length : Int)
    (hostAddresses : List HostAddress) (allowForeignSubnet : Bool) : Text :=
  match scanHosts ip ipV maskV hostAddresses false [] with
  | .error reason => reason
  | .ok (reachable, hostList) =>
    if !reachable && !allowForeignSubnet then
      ip ++ ascii "/" ++ intText length ++
        ascii " is not on a subnet of the host adapter that sees this camera (host: " ++
        (if hostList.isEmpty then ascii "no IPv4 address" else hostList) ++
        ascii "); the camera would become unreachable from this machine. Pick an address in one " ++
        ascii "of those subnets, or pass --allow-foreign-subnet if the host will be re-addressed" ++
        ascii " afterwards"
    else []

/-- `ValidateSetIp`. -/
def validateSetIp (ip subnetMask gateway : Text) (hostAddresses : List HostAddress)
    (allowForeignSubnet : Bool) : Text :=
  match parseIpv4 ip, parseIpv4 subnetMask, parseIpv4 gateway with
  | none, _, _ => ascii "\"" ++ ip ++ ascii "\" is not an IPv4 address"
  | _, none, _ => ascii "\"" ++ subnetMask ++ ascii "\" is not an IPv4 subnet mask"
  | _, _, none => ascii "\"" ++ gateway ++ ascii "\" is not an IPv4 gateway address"
  | some ipV, some maskV, some gwV =>
    let length := prefixLength maskV
    if length < 8 ∨ 30 < length then
      ascii "subnet mask " ++ subnetMask ++ ascii " must be contiguous and between /8 and /30"
    else if !isUsableHost ipV maskV then
      ip ++ ascii "/" ++ intText length ++ ascii " is not a usable host address (network, " ++
        ascii "broadcast, loopback, multicast or 0.0.0.0)"
    else if gwV ≠ 0 ∧ (!sameSubnet gwV ipV maskV || !isUsableHost gwV maskV) then
      ascii "gateway " ++ gateway ++ ascii " is not a host on " ++ formatIpv4 (ipV &&& maskV) ++
        ascii "/" ++ intText length
    else if gwV ≠ 0 ∧ gwV = ipV then
      ascii "gateway " ++ gateway ++ ascii " is the camera address itself"
    else validateReachable ip ipV maskV length hostAddresses allowForeignSubnet

/-! ## What the tests say -/

/-- A mask of `p` ones followed by zeros. -/
def PrefixMask (mask : Address) (p : Nat) : Prop := mask.toNat = 2 ^ 32 - 2 ^ (32 - p)

theorem leadingOnes_eq {mask : Address} {k : Nat} (h : Splits mask k) {i : Nat} (hi : i < 32) :
    leadingOnes mask (BitVec.twoPow 32 i) (i + 1) = i + 1 - k := by
  have hset (i : Nat) (hi : i < 32) : (BitVec.twoPow 32 i ≠ 0 ∧ mask &&& BitVec.twoPow 32 i ≠ 0) ↔
      k ≤ i := by
    have hne : BitVec.twoPow 32 i ≠ 0 := by
      intro hzero
      have hval := congrArg BitVec.toNat hzero
      rw [BitVec.toNat_twoPow_of_lt hi] at hval
      exact absurd hval (Nat.two_pow_pos i).ne'
    rw [BitVec.and_twoPow, h.bit i hi]
    by_cases hk : k ≤ i
    · rw [if_pos (decide_eq_true hk)]
      exact iff_of_true ⟨hne, hne⟩ hk
    · rw [if_neg (by simpa using hk)]
      exact iff_of_false (fun h => h.2 rfl) hk
  induction i with
  | zero =>
    unfold leadingOnes
    simp only [hset 0 hi, leadingOnes]
    split_ifs <;> omega
  | succ i ih =>
    have hshift : BitVec.twoPow 32 (i + 1) >>> 1 = BitVec.twoPow 32 i := by
      refine BitVec.eq_of_toNat_eq ?_
      rw [BitVec.toNat_ushiftRight, BitVec.toNat_twoPow_of_lt hi,
        BitVec.toNat_twoPow_of_lt (by omega), Nat.shiftRight_eq_div_pow, Nat.pow_succ, Nat.pow_one,
        Nat.mul_div_cancel _ (by decide)]
    unfold leadingOnes
    simp only [hset (i + 1) hi, hshift, ih (by omega)]
    split_ifs <;> omega

theorem isContiguousMask_iff {mask : Address} :
    isContiguousMask mask = true ↔ ∃ k, Splits mask k := by
  unfold isContiguousMask
  rw [← exists_splits_iff]
  exact beq_iff_eq

theorem prefixLength_eq {mask : Address} {k : Nat} (h : Splits mask k) :
    prefixLength mask = (32 - k : Nat) := by
  unfold prefixLength
  rw [isContiguousMask_iff.mpr ⟨k, h⟩, if_neg (by decide)]
  have hfirst : BitVec.twoPow 32 31 = 0x80000000 := by decide
  exact congrArg _ (hfirst ▸ leadingOnes_eq h (show 31 < 32 by decide))

theorem prefixMask_iff {mask : Address} {p : Nat} :
    PrefixMask mask p ↔ Splits mask (32 - p) := by
  rw [splits_iff_toNat]
  exact (and_iff_right (Nat.sub_le 32 p)).symm

/-- The length is that of a mask which starts with so many ones, or negative. -/
theorem prefixLength_iff {mask : Address} {p : Nat} (hp : p ≤ 32) :
    prefixLength mask = p ↔ PrefixMask mask p := by
  rw [prefixMask_iff]
  by_cases hmask : ∃ k, Splits mask k
  · obtain ⟨k, hk⟩ := hmask
    rw [prefixLength_eq hk]
    have hle := hk.inside
    constructor
    · intro heq
      have : 32 - p = k := by omega
      exact this ▸ hk
    · intro h
      have := hk.unique h
      omega
  · unfold prefixLength
    rw [Bool.eq_false_iff.mpr (isContiguousMask_iff.not.mpr hmask), if_pos (by decide)]
    exact iff_of_false (by omega) fun h => hmask ⟨_, h⟩

/-- A host of a subnet of prefix length `p`: neither the network nor its broadcast address, nor a
loopback, multicast or reserved address. -/
structure UsableHost (ip : Address) (p : Nat) : Prop where
  network : ip.toNat % 2 ^ (32 - p) ≠ 0
  broadcast : ip.toNat % 2 ^ (32 - p) ≠ 2 ^ (32 - p) - 1
  loopback : ip.toNat / 2 ^ 24 ≠ 127
  unicast : ip.toNat / 2 ^ 24 < 224

theorem sameSubnet_iff {mask a b : Address} {p : Nat} (hmask : PrefixMask mask p) :
    sameSubnet a b mask = true ↔ a.toNat / 2 ^ (32 - p) = b.toNat / 2 ^ (32 - p) :=
  beq_iff_eq.trans (prefixMask_iff.mp hmask).and_eq_and_iff

theorem isUsableHost_iff {mask ip : Address} {p : Nat} (hlow : 0 < p) (hhigh : p < 32)
    (hmask : PrefixMask mask p) : isUsableHost ip mask = true ↔ UsableHost ip p := by
  have hsplits := prefixMask_iff.mp hmask
  have hnetwork := hsplits.and_eq_self_iff (a := ip)
  have hbroadcast := hsplits.or_not_eq_self_iff (a := ip)
  have hones : mask ≠ 0xFFFFFFFF ∧ mask ≠ 0 := by
    have hval := hmask
    unfold PrefixMask at hval
    have hle : 2 ^ (32 - p) ≤ 2 ^ 31 := Nat.pow_le_pow_right (by decide) (by omega)
    have hge : 2 ^ 1 ≤ 2 ^ (32 - p) := Nat.pow_le_pow_right (by decide) (by omega)
    constructor
    · rintro rfl
      exact absurd hval (by show 2 ^ 32 - 1 ≠ _; omega)
    · rintro rfl
      exact absurd hval (by show 0 ≠ _; omega)
  have hfirst : (ip >>> 24).toNat = ip.toNat / 2 ^ 24 := by
    rw [BitVec.toNat_ushiftRight, Nat.shiftRight_eq_div_pow]
  have hloopback : ip >>> 24 = 127 ↔ ip.toNat / 2 ^ 24 = 127 := by
    rw [← hfirst, ← BitVec.toNat_inj]
    rfl
  have hunicast : 224 ≤ ip >>> 24 ↔ 224 ≤ ip.toNat / 2 ^ 24 := by
    rw [← hfirst, BitVec.le_def]
    rfl
  unfold isUsableHost
  simp only [hones, hnetwork, hbroadcast, hloopback, hunicast, ne_eq, not_false_eq_true, and_self,
    if_true]
  split_ifs with hzero hreserved hempty hfull
  · refine iff_of_false (by decide) fun h => h.network ?_
    rw [hzero]
    exact Nat.zero_mod _
  · exact iff_of_false (by decide) fun h => hreserved.elim h.loopback (Nat.not_le.mpr h.unicast)
  · exact iff_of_false (by decide) fun h => h.network hempty
  · exact iff_of_false (by decide) fun h => h.broadcast hfull
  · exact iff_of_true rfl ⟨hempty, hfull, fun h => hreserved (.inl h),
      Nat.lt_of_not_le fun h => hreserved (.inr h)⟩

/-- Two addresses have the same bits where the mask is set. -/
def OneSubnet (a b mask : Address) : Prop :=
  ∀ i, mask.getLsbD i = true → a.getLsbD i = b.getLsbD i

theorem sameSubnet_iff_bits {a b mask : Address} :
    sameSubnet a b mask = true ↔ OneSubnet a b mask := by
  unfold sameSubnet
  rw [beq_iff_eq]
  constructor
  · intro heq i hi
    have hbit := congrArg (BitVec.getLsbD · i) heq
    simpa [hi] using hbit
  · intro h
    refine BitVec.eq_of_getLsbD_eq fun i _ => ?_
    rw [BitVec.getLsbD_and, BitVec.getLsbD_and]
    cases hbit : mask.getLsbD i with
    | false => rw [Bool.and_false, Bool.and_false]
    | true => rw [h i hbit]

/-! ## The interfaces -/

/-- An interface with an address and a mask that can be read. -/
def Interface (hosts : List HostAddress) (hIp hMask : Address) : Prop :=
  ∃ h ∈ hosts, parseIpv4 h.ip = some hIp ∧ parseIpv4 h.subnetMask = some hMask

theorem not_interface_nil {hIp hMask : Address} : ¬Interface [] hIp hMask :=
  fun ⟨_, hmem, _⟩ => List.not_mem_nil hmem

theorem interface_cons {h : HostAddress} {hosts : List HostAddress} {hIp hMask : Address} :
    Interface (h :: hosts) hIp hMask ↔
      (parseIpv4 h.ip = some hIp ∧ parseIpv4 h.subnetMask = some hMask) ∨
        Interface hosts hIp hMask := by
  unfold Interface
  rw [List.exists_mem_cons_iff]

variable {ip : Text} {ipV maskV : Address}

/-- The scan stops at an interface with the address itself. -/
theorem scanHosts_error {hosts : List HostAddress} {reachable : Bool} {hostList reason : Text}
    (h : scanHosts ip ipV maskV hosts reachable hostList = .error reason) :
    reason ≠ [] ∧ ∃ hMask, Interface hosts ipV hMask := by
  induction hosts generalizing reachable hostList with
  | nil => exact nomatch h
  | cons host hosts ih =>
    have hlater {reachable : Bool} {hostList : Text}
        (h : scanHosts ip ipV maskV hosts reachable hostList = .error reason) :
        reason ≠ [] ∧ ∃ hMask, Interface (host :: hosts) ipV hMask := by
      obtain ⟨hne, hMask, hin⟩ := ih h
      exact ⟨hne, hMask, interface_cons.mpr (.inr hin)⟩
    unfold scanHosts at h
    split at h
    · rename_i hIp hMask hparsed hparsedMask
      split_ifs at h with hself
      · obtain rfl := Except.error.inj h
        refine ⟨List.append_ne_nil_of_right_ne_nil ip (by decide), hMask,
          interface_cons.mpr (.inl ⟨?_, hparsedMask⟩)⟩
        rw [hparsed, hself]
      · exact hlater h
    · exact hlater h

/-- Otherwise it says whether an interface reaches the address. -/
theorem scanHosts_ok {hosts : List HostAddress} {reachable reachable' : Bool}
    {hostList hostList' : Text}
    (h : scanHosts ip ipV maskV hosts reachable hostList = .ok (reachable', hostList')) :
    (∀ hIp hMask, Interface hosts hIp hMask → hIp ≠ ipV) ∧
      (reachable' = true ↔ reachable = true ∨ ∃ hIp hMask, Interface hosts hIp hMask ∧
        sameSubnet hIp ipV hMask = true ∧ sameSubnet hIp ipV maskV = true) := by
  induction hosts generalizing reachable hostList with
  | nil =>
    obtain ⟨rfl, rfl⟩ := Prod.mk.inj (Except.ok.inj h)
    constructor
    · exact fun hIp hMask hin => absurd hin not_interface_nil
    · exact ⟨.inl, fun hreach => hreach.resolve_right
        fun ⟨_, _, hin, _⟩ => not_interface_nil hin⟩
  | cons host hosts ih =>
    unfold scanHosts at h
    split at h
    · rename_i hIp hMask hparsed hparsedMask
      split_ifs at h with hself
      obtain ⟨hothers, hreach⟩ := ih h
      constructor
      · intro hIp' hMask' hin
        obtain ⟨hip, -⟩ | hin := interface_cons.mp hin
        · exact fun heq => hself (Option.some.inj (hparsed.symm.trans (hip.trans (heq ▸ rfl))))
        · exact hothers hIp' hMask' hin
      · rw [hreach, Bool.or_eq_true, Bool.and_eq_true, or_assoc]
        refine or_congr_right ⟨?_, ?_⟩
        · rintro (hsame | ⟨hIp', hMask', hin, hsame⟩)
          · exact ⟨hIp, hMask, interface_cons.mpr (.inl ⟨hparsed, hparsedMask⟩), hsame⟩
          · exact ⟨hIp', hMask', interface_cons.mpr (.inr hin), hsame⟩
        · rintro ⟨hIp', hMask', hin, hsame⟩
          obtain ⟨hip, hmask⟩ | hin := interface_cons.mp hin
          · obtain rfl := Option.some.inj (hparsed.symm.trans hip)
            obtain rfl := Option.some.inj (hparsedMask.symm.trans hmask)
            exact .inl hsame
          · exact .inr ⟨hIp', hMask', hin, hsame⟩
    · rename_i hunread
      have hskip {hIp hMask : Address} :
          Interface (host :: hosts) hIp hMask ↔ Interface hosts hIp hMask := by
        rw [interface_cons]
        exact or_iff_right fun hread => hunread hIp hMask hread.1 hread.2
      simp only [hskip]
      exact ih h

theorem validateReachable_eq_nil {length : Int} {hosts : List HostAddress} {allowed : Bool} :
    validateReachable ip ipV maskV length hosts allowed = [] ↔
      (∀ hIp hMask, Interface hosts hIp hMask → hIp ≠ ipV) ∧
        (allowed = false → ∃ hIp hMask, Interface hosts hIp hMask ∧
          sameSubnet hIp ipV hMask = true ∧ sameSubnet hIp ipV maskV = true) := by
  unfold validateReachable
  split
  · rename_i reason hscan
    obtain ⟨hne, hMask, hin⟩ := scanHosts_error hscan
    exact iff_of_false hne fun h => h.1 ipV hMask hin rfl
  · rename_i reachable hostList hscan
    obtain ⟨hothers, hreach⟩ := scanHosts_ok hscan
    rw [Bool.false_eq_true, false_or] at hreach
    rw [and_iff_right hothers, ← hreach]
    by_cases hbad : (!reachable && !allowed) = true
    · rw [if_pos hbad]
      rw [Bool.and_eq_true, Bool.not_eq_true', Bool.not_eq_true'] at hbad
      refine iff_of_false (List.append_ne_nil_of_right_ne_nil _ (by decide)) fun h => ?_
      exact nomatch hbad.1.symm.trans (h hbad.2)
    · rw [if_neg hbad]
      refine iff_of_true rfl fun hallowed => ?_
      rw [hallowed, Bool.not_false, Bool.and_true, Bool.not_eq_true', Bool.not_eq_false] at hbad
      exact hbad

/-! ## What is accepted -/

/-- An address that a camera may be given. -/
structure Acceptable (ipV maskV gwV : Address) (hosts : List HostAddress) (allowed : Bool)
    (p : Nat) : Prop where
  long : 8 ≤ p
  short : p ≤ 30
  mask : PrefixMask maskV p
  address : UsableHost ipV p
  gateway : gwV = 0 ∨
    gwV ≠ ipV ∧ UsableHost gwV p ∧ gwV.toNat / 2 ^ (32 - p) = ipV.toNat / 2 ^ (32 - p)
  free : ∀ hIp hMask, Interface hosts hIp hMask → hIp ≠ ipV
  reachable : allowed = false → ∃ hIp hMask, Interface hosts hIp hMask ∧
    OneSubnet hIp ipV hMask ∧ hIp.toNat / 2 ^ (32 - p) = ipV.toNat / 2 ^ (32 - p)

theorem prefixLength_of_accepted {mask : Address}
    (h : ¬(prefixLength mask < 8 ∨ 30 < prefixLength mask)) :
    ∃ p : Nat, 8 ≤ p ∧ p ≤ 30 ∧ prefixLength mask = p ∧ PrefixMask mask p := by
  have hnat : prefixLength mask = (prefixLength mask).toNat := by omega
  exact ⟨_, by omega, by omega, hnat, (prefixLength_iff (by omega)).mp hnat⟩

/-- The tests behind the one on the mask. -/
theorem accepts_of_mask {gwV : Address} {hosts : List HostAddress} {allowed : Bool} {p : Nat}
    (hlong : 8 ≤ p) (hshort : p ≤ 30) (hmask : PrefixMask maskV p) {a b c : Text}
    (ha : a ≠ []) (hb : b ≠ []) (hc : c ≠ []) (length : Int) :
    (if !isUsableHost ipV maskV then a
      else if gwV ≠ 0 ∧ (!sameSubnet gwV ipV maskV || !isUsableHost gwV maskV) = true then b
      else if gwV ≠ 0 ∧ gwV = ipV then c
      else validateReachable ip ipV maskV length hosts allowed) = [] ↔
    Acceptable ipV maskV gwV hosts allowed p := by
  have husable (v : Address) : isUsableHost v maskV = true ↔ UsableHost v p :=
    isUsableHost_iff (by omega) (by omega) hmask
  have hsubnet (v : Address) : sameSubnet v ipV maskV = true ↔
      v.toNat / 2 ^ (32 - p) = ipV.toNat / 2 ^ (32 - p) := sameSubnet_iff hmask
  split_ifs with hip hgw hself
  · refine iff_of_false ha fun h => ?_
    rw [(husable ipV).mpr h.address] at hip
    exact absurd hip (by decide)
  · refine iff_of_false hb fun h => ?_
    obtain hzero | ⟨-, hhost, hsame⟩ := h.gateway
    · exact hgw.1 hzero
    · rw [(husable gwV).mpr hhost, (hsubnet gwV).mpr hsame] at hgw
      exact absurd hgw.2 (by decide)
  · refine iff_of_false hc fun h => ?_
    obtain hzero | ⟨hother, -⟩ := h.gateway
    · exact hself.1 hzero
    · exact hother hself.2
  · rw [validateReachable_eq_nil]
    rw [Bool.not_eq_true', Bool.not_eq_false] at hip
    simp only [hsubnet]
    simp only [sameSubnet_iff_bits]
    refine ⟨fun h => ?_, fun h => ⟨h.free, h.reachable⟩⟩
    refine ⟨hlong, hshort, hmask, (husable ipV).mp hip, ?_, h.1, h.2⟩
    by_cases hzero : gwV = 0
    · exact .inl hzero
    · have hhost : ¬(!sameSubnet gwV ipV maskV || !isUsableHost gwV maskV) = true :=
        fun hbad => hgw ⟨hzero, hbad⟩
      rw [Bool.or_eq_true, Bool.not_eq_true', Bool.not_eq_true', not_or, Bool.not_eq_false,
        Bool.not_eq_false, hsubnet, husable] at hhost
      exact .inr ⟨fun heq => hself ⟨hzero, heq⟩, hhost.2, hhost.1⟩

/-- **An address is accepted exactly when the three texts are IPv4 addresses, the mask has a length
from 8 to 30, the address is a usable host of its subnet, the gateway is none or a different one, and
the address is free and can be reached.** -/
theorem validateSetIp_accepts_iff (ip subnetMask gateway : Text) (hosts : List HostAddress)
    (allowed : Bool) :
    validateSetIp ip subnetMask gateway hosts allowed = [] ↔
      ∃ ipV maskV gwV p, parseIpv4 ip = some ipV ∧ parseIpv4 subnetMask = some maskV ∧
        parseIpv4 gateway = some gwV ∧ Acceptable ipV maskV gwV hosts allowed p := by
  have hright {t s : Text} (h : s ≠ []) : t ++ s ≠ [] := List.append_ne_nil_of_right_ne_nil t h
  unfold validateSetIp
  split
  · rename_i hip
    refine iff_of_false (hright (by decide)) ?_
    rintro ⟨ipV, maskV, gwV, p, h, -⟩
    exact nomatch hip.symm.trans h
  · rename_i hmask _
    refine iff_of_false (hright (by decide)) ?_
    rintro ⟨ipV, maskV, gwV, p, -, h, -⟩
    exact nomatch hmask.symm.trans h
  · rename_i hgateway _ _
    refine iff_of_false (hright (by decide)) ?_
    rintro ⟨ipV, maskV, gwV, p, -, -, h, -⟩
    exact nomatch hgateway.symm.trans h
  · rename_i ipV maskV gwV hip hmask hgateway
    have hsome : (∃ ipV maskV gwV p, parseIpv4 ip = some ipV ∧ parseIpv4 subnetMask = some maskV ∧
        parseIpv4 gateway = some gwV ∧ Acceptable ipV maskV gwV hosts allowed p) ↔
        ∃ p, Acceptable ipV maskV gwV hosts allowed p := by
      simp only [hip, hmask, hgateway, Option.some.injEq, exists_and_left, exists_eq_left']
    rw [hsome]
    by_cases hlength : prefixLength maskV < 8 ∨ 30 < prefixLength maskV
    · rw [if_pos hlength]
      refine iff_of_false (hright (by decide)) ?_
      rintro ⟨p, h⟩
      have hp := (prefixLength_iff (Nat.le_trans h.short (by decide))).mpr h.mask
      have hlong := h.long
      have hshort := h.short
      omega
    · obtain ⟨p, hlong, hshort, hp, hprefix⟩ := prefixLength_of_accepted hlength
      have hunique : (∃ p, Acceptable ipV maskV gwV hosts allowed p) ↔
          Acceptable ipV maskV gwV hosts allowed p := by
        refine ⟨fun ⟨q, hq⟩ => ?_, fun h => ⟨p, h⟩⟩
        have hq' := (prefixLength_iff (Nat.le_trans hq.short (by decide))).mpr hq.mask
        have hsame : q = p := by omega
        exact hsame ▸ hq
      rw [if_neg hlength, hunique]
      exact accepts_of_mask hlong hshort hprefix (hright (by decide)) (hright (intText_ne_nil _))
        (hright (by decide)) _

end Ipv4
end Ebus
end AmigaDrivers
