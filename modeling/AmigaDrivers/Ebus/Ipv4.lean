import AmigaDrivers.Common.DecimalText

/-!
# IPv4 addresses

`ipv4.cpp`: an address is a word of 32 bits, written as four decimal numbers with dots between
them.

* `Quad`: four canonical decimal numbers of at most 255.
* `codec_inverse`: **reading accepts exactly these texts, and undoes writing and is undone by it.**
-/

namespace AmigaDrivers
namespace Ebus
namespace Ipv4

open StringUtil DecimalText

/-- `uint32_t`, the first number of an address in the highest byte. -/
abbrev Address := BitVec 32

/-! ## Reading and writing -/

/-- One number of an address. -/
def parseOctet (part : Text) : Option Nat :=
  if part.isEmpty || 3 < part.length || part.any (fun c => !isDigit c) ||
      (1 < part.length && part.head? == some 48) then
    -- no leading zeros: "010" is not an octet
    none
  else if 255 < digitsValue part then none
  else some (digitsValue part)

/-- The word with one more number. -/
def appendOctet (value : Address) (part : Text) : Option Address :=
  (parseOctet part).map fun octet => (value <<< 8) ||| BitVec.ofNat 32 octet

/-- `ParseIpv4`. -/
def parseIpv4 (text : Text) : Option Address :=
  let parts := split text 46
  if parts.length ≠ 4 then none else parts.foldlM appendOctet 0

/-- `FormatIpv4`. -/
def formatIpv4 (value : Address) : Text :=
  join [natText ((value >>> 24) &&& 0xFF).toNat, natText ((value >>> 16) &&& 0xFF).toNat,
    natText ((value >>> 8) &&& 0xFF).toNat, natText (value &&& 0xFF).toNat] 46

/-! ## Numbers of an address -/

/-- A canonical decimal number of at most 255. -/
def Octet (part : Text) : Prop := CanonicalDigits part ∧ digitsValue part ≤ 255

/-- A canonical dotted quad. -/
def Quad (text : Text) : Prop :=
  ∃ parts, parts.length = 4 ∧ (∀ part ∈ parts, Octet part) ∧ text = join parts 46

theorem octet_natText {n : Nat} (h : n ≤ 255) : Octet (natText n) :=
  ⟨canonicalDigits_natText n, by rwa [digitsValue_natText]⟩

theorem Octet.length_le {part : Text} (h : Octet part) : part.length ≤ 3 := by
  rw [← natText_digitsValue h.1]
  exact length_natText_le (by decide) (Nat.lt_of_le_of_lt h.2 (by decide))

theorem Octet.no_dot {part : Text} (h : Octet part) : 46 ∉ part :=
  fun hmem => absurd (h.1.2.1 46 hmem) (by decide)

/-- An octet is accepted with its value, and nothing else is. -/
theorem parseOctet_eq_some {part : Text} {n : Nat} :
    parseOctet part = some n ↔ Octet part ∧ digitsValue part = n := by
  unfold parseOctet
  split_ifs with hbad hlarge
  · refine iff_of_false nofun fun ⟨hoctet, _⟩ => ?_
    simp only [Bool.or_eq_true, decide_eq_true_eq, List.isEmpty_iff, List.any_eq_true,
      Bool.not_eq_true', Bool.and_eq_true, beq_iff_eq] at hbad
    obtain ((hempty | hlong) | ⟨c, hc, hdigit⟩) | ⟨hlong, hzero⟩ := hbad
    · exact hoctet.1.1 hempty
    · exact absurd hoctet.length_le (Nat.not_le.mpr hlong)
    · exact nomatch hdigit.symm.trans (hoctet.1.2.1 c hc)
    · exact hoctet.1.2.2 hlong hzero
  · exact iff_of_false nofun fun ⟨hoctet, _⟩ => absurd hoctet.2 (Nat.not_le.mpr hlarge)
  · simp only [Bool.or_eq_true, decide_eq_true_eq, List.isEmpty_iff, List.any_eq_true,
      Bool.not_eq_true', Bool.and_eq_true, beq_iff_eq, not_or, not_exists, not_and,
      Bool.not_eq_false] at hbad
    obtain ⟨⟨⟨hne, -⟩, hdigits⟩, hzero⟩ := hbad
    have hoctet : Octet part := ⟨⟨hne, hdigits, hzero⟩, Nat.le_of_not_lt hlarge⟩
    rw [Option.some.injEq]
    exact (and_iff_right hoctet).symm

/-- The word that the numbers make. -/
def horner (value : Nat) (parts : List Text) : Nat :=
  parts.foldl (fun value part => value * 256 + digitsValue part) value

theorem toNat_shifted {value : Address} {n : Nat} (hvalue : value.toNat < 256 ^ 3)
    (hn : n ≤ 255) : ((value <<< 8) ||| BitVec.ofNat 32 n).toNat = value.toNat * 256 + n := by
  have hshift : value.toNat <<< 8 = value.toNat * 256 := Nat.shiftLeft_eq _ _
  have hor := Nat.shiftLeft_add_eq_or_of_lt (show n < 2 ^ 8 by omega) value.toNat
  rw [BitVec.toNat_or, BitVec.toNat_shiftLeft, BitVec.toNat_ofNat, hshift,
    Nat.mod_eq_of_lt (by omega), Nat.mod_eq_of_lt (by omega), ← hshift, ← hor]

/-- As long as there is room, the numbers are appended to the word. -/
theorem foldlM_octets {parts : List Text} {value : Address} {k : Nat}
    (h : ∀ part ∈ parts, Octet part) (hvalue : value.toNat < 256 ^ k)
    (hk : k + parts.length ≤ 4) :
    ∃ v, parts.foldlM appendOctet value = some v ∧ v.toNat = horner value.toNat parts := by
  induction parts generalizing value k with
  | nil => exact ⟨value, rfl, rfl⟩
  | cons part parts ih =>
    obtain ⟨hpart, hparts⟩ := List.forall_mem_cons.mp h
    rw [List.length_cons] at hk
    have hroom : value.toNat < 256 ^ 3 :=
      Nat.lt_of_lt_of_le hvalue (Nat.pow_le_pow_right (by decide) (by omega))
    have hnext := toNat_shifted hroom hpart.2
    have hgrown : ((value <<< 8) ||| BitVec.ofNat 32 (digitsValue part)).toNat < 256 ^ (k + 1) := by
      have hlast := hpart.2
      rw [hnext, Nat.pow_succ]
      omega
    obtain ⟨v, hv, hval⟩ := ih hparts hgrown (by omega)
    refine ⟨v, ?_, by rw [hval, hnext]; rfl⟩
    have hstep : appendOctet value part =
        some ((value <<< 8) ||| BitVec.ofNat 32 (digitsValue part)) := by
      unfold appendOctet
      rw [parseOctet_eq_some.mpr ⟨hpart, rfl⟩]
      rfl
    rw [List.foldlM_cons, hstep]
    exact hv

theorem octet_of_foldlM {parts : List Text} {value v : Address}
    (h : parts.foldlM appendOctet value = some v) : ∀ part ∈ parts, Octet part := by
  induction parts generalizing value with
  | nil => nofun
  | cons part parts ih =>
    rw [List.foldlM_cons] at h
    obtain ⟨next, hnext, hrest⟩ := Option.bind_eq_some_iff.mp h
    obtain ⟨n, hn, -⟩ := Option.map_eq_some_iff.mp hnext
    exact List.forall_mem_cons.mpr ⟨(parseOctet_eq_some.mp hn).1, ih hrest⟩

theorem split_join {parts : List Text} (hlength : parts.length = 4)
    (h : ∀ part ∈ parts, Octet part) : split (join parts 46) 46 = parts :=
  List.splitOn_intercalate 46 (fun part hpart => (h part hpart).no_dot)
    (List.ne_nil_of_length_pos (by omega))

theorem parseIpv4_join {parts : List Text} (hlength : parts.length = 4)
    (h : ∀ part ∈ parts, Octet part) :
    ∃ v, parseIpv4 (join parts 46) = some v ∧ v.toNat = horner 0 parts := by
  unfold parseIpv4
  dsimp only
  rw [split_join hlength h, if_neg (not_not.mpr hlength)]
  have hzero : (0 : Address).toNat < 256 ^ 0 := by decide
  exact foldlM_octets h hzero (by omega)

theorem quad_of_parse {text : Text} {v : Address} (h : parseIpv4 text = some v) :
    ∃ parts, parts.length = 4 ∧ (∀ part ∈ parts, Octet part) ∧ text = join parts 46 := by
  unfold parseIpv4 at h
  dsimp only at h
  split_ifs at h with hlength
  exact ⟨_, not_not.mp hlength, octet_of_foldlM h, (List.intercalate_splitOn 46).symm⟩

/-! ## The two ways -/

theorem formatIpv4_eq (v : Address) :
    formatIpv4 v = join [natText (v.toNat / 2 ^ 24), natText (v.toNat / 2 ^ 16 % 256),
      natText (v.toNat / 2 ^ 8 % 256), natText (v.toNat % 256)] 46 := by
  have hbyte (w : Address) : (w &&& 0xFF).toNat = w.toNat % 256 := by
    rw [BitVec.toNat_and]
    exact Nat.and_two_pow_sub_one_eq_mod w.toNat 8
  have hhigh : v.toNat / 2 ^ 24 < 256 := by omega
  unfold formatIpv4
  simp only [hbyte, BitVec.toNat_ushiftRight, Nat.shiftRight_eq_div_pow, Nat.mod_eq_of_lt hhigh]

/-- The buffer of 16 characters holds every address and its end. -/
theorem length_formatIpv4_le (v : Address) : (formatIpv4 v).length ≤ 15 := by
  have hoctet {n : Nat} (h : n < 256) : (natText n).length ≤ 3 :=
    length_natText_le (by decide) (Nat.lt_trans h (by decide))
  have ha := hoctet (show v.toNat / 2 ^ 24 < 256 by omega)
  have hb := hoctet (Nat.mod_lt (v.toNat / 2 ^ 16) (by decide))
  have hc := hoctet (Nat.mod_lt (v.toNat / 2 ^ 8) (by decide))
  have hd := hoctet (Nat.mod_lt v.toNat (by decide))
  rw [formatIpv4_eq, join_cons_cons, join_cons_cons, join_cons_cons]
  simp only [join, List.intercalate_singleton, List.length_append, List.length_cons]
  omega

theorem horner_four (a b c d : Text) :
    horner 0 [a, b, c, d] = ((digitsValue a * 256 + digitsValue b) * 256 + digitsValue c) * 256 +
      digitsValue d := by
  show (((0 * 256 + digitsValue a) * 256 + digitsValue b) * 256 + digitsValue c) * 256 +
    digitsValue d = _
  rw [Nat.zero_mul, Nat.zero_add]

theorem parse_format (v : Address) : parseIpv4 (formatIpv4 v) = some v := by
  have hv := v.isLt
  rw [formatIpv4_eq]
  have hoctets : ∀ part ∈ [natText (v.toNat / 2 ^ 24), natText (v.toNat / 2 ^ 16 % 256),
      natText (v.toNat / 2 ^ 8 % 256), natText (v.toNat % 256)], Octet part := by
    simp only [List.forall_mem_cons, List.not_mem_nil, false_implies, implies_true, and_true]
    exact ⟨octet_natText (by omega), octet_natText (by omega), octet_natText (by omega),
      octet_natText (by omega)⟩
  obtain ⟨w, hw, hval⟩ := parseIpv4_join rfl hoctets
  rw [horner_four, digitsValue_natText, digitsValue_natText, digitsValue_natText,
    digitsValue_natText] at hval
  rw [hw]
  exact congrArg some (BitVec.eq_of_toNat_eq (by omega))

theorem format_parse {text : Text} {v : Address} (h : parseIpv4 text = some v) :
    formatIpv4 v = text := by
  obtain ⟨parts, hlength, hoctets, rfl⟩ := quad_of_parse h
  obtain ⟨w, hw, hval⟩ := parseIpv4_join hlength hoctets
  obtain rfl := Option.some.inj (h.symm.trans hw)
  obtain ⟨a, b, c, d, rfl⟩ : ∃ a b c d, parts = [a, b, c, d] := by
    match parts, hlength with
    | [a, b, c, d], _ => exact ⟨a, b, c, d, rfl⟩
  simp only [List.forall_mem_cons, List.not_mem_nil, false_implies, implies_true, and_true]
    at hoctets
  obtain ⟨ha, hb, hc, hd⟩ := hoctets
  have hmb := hb.2
  have hmc := hc.2
  have hmd := hd.2
  rw [horner_four] at hval
  rw [formatIpv4_eq, hval]
  generalize hx : digitsValue a = x at *
  have h1 : (((x * 256 + digitsValue b) * 256 + digitsValue c) * 256 + digitsValue d) / 2 ^ 24 =
      x := by omega
  have h2 : (((x * 256 + digitsValue b) * 256 + digitsValue c) * 256 + digitsValue d) / 2 ^ 16 %
      256 = digitsValue b := by omega
  have h3 : (((x * 256 + digitsValue b) * 256 + digitsValue c) * 256 + digitsValue d) / 2 ^ 8 %
      256 = digitsValue c := by omega
  have h4 : (((x * 256 + digitsValue b) * 256 + digitsValue c) * 256 + digitsValue d) % 256 =
      digitsValue d := by omega
  rw [h1, h2, h3, h4, ← hx, natText_digitsValue ha.1, natText_digitsValue hb.1,
    natText_digitsValue hc.1, natText_digitsValue hd.1]

/-- **Reading accepts exactly the canonical dotted quads, and is undone by writing and undoes it.** -/
theorem codec_inverse :
    (∀ text, (parseIpv4 text).isSome = true ↔ Quad text) ∧
    (∀ v, parseIpv4 (formatIpv4 v) = some v) ∧
    ∀ text v, parseIpv4 text = some v → formatIpv4 v = text := by
  refine ⟨fun text => ⟨fun h => ?_, ?_⟩, parse_format, fun text v => format_parse⟩
  · obtain ⟨v, hv⟩ := Option.isSome_iff_exists.mp h
    exact quad_of_parse hv
  · rintro ⟨parts, hlength, hoctets, rfl⟩
    obtain ⟨v, hv, -⟩ := parseIpv4_join hlength hoctets
    exact Option.isSome_iff_exists.mpr ⟨v, hv⟩

end Ipv4
end Ebus
end AmigaDrivers
