import Mathlib.Data.Int.Log
import Mathlib.Data.Rat.Floor
import Mathlib.Tactic.Linarith
import Mathlib.Tactic.Positivity
import Mathlib.Tactic.FieldSimp
import Mathlib.Tactic.Ring
import AmigaDrivers.Common.StringUtil

/-!
# Numbers as text

`std::to_string` and the output of floating-point numbers to a stream, in the
fixed notation and in the default one.  A finite `double` is the rational number
it stands for; the ranges that the configuration is checked against exclude the
others.  The library prints the exact value, rounded to the digits asked for,
ties to even.
-/

namespace AmigaDrivers
namespace DecimalText

open ByteUtil StringUtil

/-- The nearest integer to a number that is not negative, ties to even. -/
def roundHalfEven (x : ℚ) : Nat :=
  let below := x.floor.toNat
  let rest := x - below
  if rest < 1 / 2 then below
  else if 1 / 2 < rest then below + 1
  else if below % 2 = 0 then below
  else below + 1

/-- The `double` nearest to a positive number of ordinary size. -/
def nearestDouble (x : ℚ) : ℚ :=
  let ulp : ℚ := 2 ^ (Int.log 2 x - 52)
  roundHalfEven (x / ulp) * ulp

/-- `std::to_string` of an unsigned number. -/
def natText (n : Nat) : Text := (Nat.toDigits 10 n).map fun c => UInt8.ofNat c.toNat

/-- `std::to_string`. -/
def intText (i : Int) : Text :=
  if i < 0 then ascii "-" ++ natText i.natAbs else natText i.natAbs

/-- `std::stoi` of a text of digits. -/
def digitsValue (digits : Text) : Nat := digits.foldl (fun n c => 10 * n + (c.toNat - 48)) 0

/-- `os << std::fixed << std::setprecision(digits) << v`. -/
def fixedDecimal (v : ℚ) (digits : Nat) : Text :=
  let n := roundHalfEven (|v| * 10 ^ digits)
  let whole := (if v < 0 then ascii "-" else []) ++ natText (n / 10 ^ digits)
  if digits = 0 then whole
  else whole ++ ascii "." ++ List.leftpad digits 48 (natText (n % 10 ^ digits))

/-- A fraction without the zeros at its end. -/
def withFraction (whole fraction : Text) : Text :=
  let fraction := fraction.rdropWhile (· == 48)
  if fraction = [] then whole else whole ++ ascii "." ++ fraction

/-- `os << v` in the default notation: six significant digits. -/
def generalDecimal (v : ℚ) : Text :=
  if v = 0 then ascii "0"
  else
    let start := Int.log 10 |v|
    let rounded := roundHalfEven (|v| / 10 ^ (start - 5))
    let exponent := if rounded = 10 ^ 6 then start + 1 else start
    let digits := natText (if rounded = 10 ^ 6 then 10 ^ 5 else rounded)
    (if v < 0 then ascii "-" else []) ++
      if exponent < -4 ∨ 6 ≤ exponent then
        withFraction (digits.take 1) (digits.drop 1) ++ ascii (if exponent < 0 then "e-" else "e+") ++
          List.leftpad 2 48 (natText exponent.natAbs)
      else if exponent < 0 then
        withFraction (ascii "0") (List.replicate (exponent.natAbs - 1) 48 ++ digits)
      else
        withFraction (digits.take (exponent.toNat + 1)) (digits.drop (exponent.toNat + 1))

theorem nearestDouble_nonneg (x : ℚ) : 0 ≤ nearestDouble x := by
  have hulp : (0 : ℚ) ≤ 2 ^ (Int.log 2 x - 52) := zpow_nonneg (by norm_num) _
  exact mul_nonneg (Nat.cast_nonneg _) hulp

/-! ## What the texts are made of -/

/-- The characters of a number. -/
def isNumeral (c : UInt8) : Bool := isDigit c || c == 45 || c == 46

theorem natText_ne_nil (n : Nat) : natText n ≠ [] := by
  unfold natText
  exact fun h => Nat.toDigits_ne_nil (List.map_eq_nil_iff.mp h)

theorem isDigit_of_mem_natText {n : Nat} {c : UInt8} (h : c ∈ natText n) : isDigit c = true := by
  obtain ⟨d, hd, rfl⟩ := List.mem_map.mp h
  have hdigit : d.isDigit = true := Nat.isDigit_of_mem_toDigits (by decide) (by decide) hd
  simp only [Char.isDigit, ge_iff_le, Bool.and_eq_true, decide_eq_true_eq, UInt32.le_iff_toNat_le]
    at hdigit
  have hval : (UInt8.ofNat d.toNat).toNat = d.toNat :=
    UInt8.toNat_ofNat_of_lt' (Nat.lt_of_le_of_lt hdigit.2 (by decide))
  simp only [isDigit, Bool.and_eq_true, decide_eq_true_eq, UInt8.le_iff_toNat_le, hval]
  exact hdigit

theorem length_natText_le {n k : Nat} (hk : 0 < k) (h : n < 10 ^ k) : (natText n).length ≤ k := by
  unfold natText
  rw [List.length_map]
  exact (Nat.length_toDigits_le_iff (by decide) hk).mpr h

theorem isNumeral_of_mem_natText {n : Nat} {c : UInt8} (h : c ∈ natText n) :
    isNumeral c = true := by
  unfold isNumeral
  rw [isDigit_of_mem_natText h]
  rfl

theorem intText_ne_nil (i : Int) : intText i ≠ [] := by
  unfold intText
  split
  · exact fun h => natText_ne_nil _ (List.append_eq_nil_iff.mp h).2
  · exact natText_ne_nil _

theorem isNumeral_of_mem_intText {i : Int} {c : UInt8} (h : c ∈ intText i) :
    isNumeral c = true := by
  unfold intText at h
  split at h
  · obtain h | h := List.mem_append.mp h
    · exact (show ∀ c ∈ ascii "-", isNumeral c = true by decide) c h
    · exact isNumeral_of_mem_natText h
  · exact isNumeral_of_mem_natText h

theorem length_intText_le {i : Int} {k : Nat} (hk : 0 < k) (h : i.natAbs < 10 ^ k) :
    (intText i).length ≤ k + 1 := by
  have hnat := length_natText_le hk h
  unfold intText
  split
  · rw [List.length_append, show (ascii "-").length = 1 from rfl]
    omega
  · omega

theorem fixedDecimal_ne_nil (v : ℚ) (digits : Nat) : fixedDecimal v digits ≠ [] := by
  have hwhole : (if v < 0 then ascii "-" else []) ++
      natText (roundHalfEven (|v| * 10 ^ digits) / 10 ^ digits) ≠ [] :=
    fun h => natText_ne_nil _ (List.append_eq_nil_iff.mp h).2
  unfold fixedDecimal
  dsimp only
  by_cases hdigits : digits = 0
  · rw [if_pos hdigits]
    exact hwhole
  · rw [if_neg hdigits]
    exact fun h => hwhole (List.append_eq_nil_iff.mp (List.append_eq_nil_iff.mp h).1).1

theorem isNumeral_of_mem_fixedDecimal {v : ℚ} {digits : Nat} {c : UInt8}
    (h : c ∈ fixedDecimal v digits) : isNumeral c = true := by
  have hwhole (n : Nat) (h : c ∈ (if v < 0 then ascii "-" else []) ++ natText n) :
      isNumeral c = true := by
    obtain h | h := List.mem_append.mp h
    · split at h
      · exact (show ∀ c ∈ ascii "-", isNumeral c = true by decide) c h
      · exact nomatch h
    · exact isNumeral_of_mem_natText h
  unfold fixedDecimal at h
  dsimp only at h
  split at h
  · exact hwhole _ h
  · obtain h | h := List.mem_append.mp h
    · obtain h | h := List.mem_append.mp h
      · exact hwhole _ h
      · exact (show ∀ c ∈ ascii ".", isNumeral c = true by decide) c h
    · unfold List.leftpad at h
      obtain h | h := List.mem_append.mp h
      · rw [(List.mem_replicate.mp h).2]
        rfl
      · exact isNumeral_of_mem_natText h

theorem roundHalfEven_le {x : ℚ} (hx : 0 ≤ x) {m : Nat} (h : x ≤ m) : roundHalfEven x ≤ m := by
  have hfloor : ((x.floor.toNat : Nat) : ℚ) = (x.floor : ℚ) := by
    have hnonneg : 0 ≤ x.floor := Rat.le_floor_iff.mpr (by simpa using hx)
    exact_mod_cast Int.toNat_of_nonneg hnonneg
  have hbelow : ((x.floor.toNat : Nat) : ℚ) ≤ x := hfloor ▸ Rat.floor_le x
  have hup (hrest : ¬x - (x.floor.toNat : Nat) < 1 / 2) : x.floor.toNat + 1 ≤ m := by
    have hlt : ((x.floor.toNat : Nat) : ℚ) < m := by linarith
    exact Nat.succ_le_of_lt (by exact_mod_cast hlt)
  have hdown : x.floor.toNat ≤ m := by exact_mod_cast hbelow.trans h
  unfold roundHalfEven
  dsimp only
  split
  · exact hdown
  · rename_i hrest
    split
    · exact hup hrest
    · split
      · exact hdown
      · exact hup hrest

/-- A number of at most a million is short. -/
theorem length_fixedDecimal_le {v : ℚ} (h : |v| ≤ 10 ^ 6) {digits : Nat} (hdigits : 0 < digits) :
    (fixedDecimal v digits).length ≤ 9 + digits := by
  have hround : roundHalfEven (|v| * 10 ^ digits) ≤ 10 ^ 6 * 10 ^ digits :=
    roundHalfEven_le (by positivity) (by push_cast; exact mul_le_mul_of_nonneg_right h (by positivity))
  have hpos : 0 < 10 ^ digits := Nat.pow_pos (by decide)
  have hwhole : roundHalfEven (|v| * 10 ^ digits) / 10 ^ digits < 10 ^ 7 := by
    have hdiv := Nat.div_le_div_right (c := 10 ^ digits) hround
    rw [Nat.mul_div_cancel _ hpos] at hdiv
    omega
  have hleft := length_natText_le (by decide) hwhole
  have hright := length_natText_le hdigits
    (Nat.mod_lt (roundHalfEven (|v| * 10 ^ digits)) hpos)
  have hsign : (if v < 0 then ascii "-" else []).length ≤ 1 := by
    split
    · exact Nat.le_refl 1
    · exact Nat.zero_le 1
  unfold fixedDecimal
  dsimp only
  rw [if_neg hdigits.ne', List.length_append, List.length_append, List.length_append,
    List.length_leftpad, Nat.max_eq_left hright, show (ascii ".").length = 1 from rfl]
  omega

/-! ## Reading a number back -/

/-- The decimal digits of a number: one zero, or digits of which the first is not zero. -/
def CanonicalDigits (t : Text) : Prop :=
  t ≠ [] ∧ (∀ c ∈ t, isDigit c = true) ∧ (1 < t.length → t.head? ≠ some 48)

instance (t : Text) : Decidable (CanonicalDigits t) := inferInstanceAs (Decidable (_ ∧ _ ∧ _))

/-- The digit of a number below ten. -/
def digit (d : Nat) : UInt8 := UInt8.ofNat (48 + d)

theorem toNat_digit {d : Nat} (h : d < 10) : (digit d).toNat = 48 + d :=
  UInt8.toNat_ofNat_of_lt' (by simp only [UInt8.size]; omega)

theorem isDigit_iff {c : UInt8} : isDigit c = true ↔ ∃ d < 10, c = digit d := by
  unfold isDigit
  rw [Bool.and_eq_true, decide_eq_true_eq, decide_eq_true_eq, UInt8.le_iff_toNat_le,
    UInt8.le_iff_toNat_le]
  constructor
  · rintro ⟨hlow, hhigh⟩
    have hlow : 48 ≤ c.toNat := hlow
    have hhigh : c.toNat ≤ 57 := hhigh
    refine ⟨c.toNat - 48, by omega, UInt8.toNat_inj.mp ?_⟩
    rw [toNat_digit (by omega)]
    omega
  · rintro ⟨d, hd, rfl⟩
    rw [toNat_digit hd]
    exact ⟨Nat.le_add_right 48 d, by show 48 + d ≤ 57; omega⟩

theorem digitsValue_concat (t : Text) {d : Nat} (h : d < 10) :
    digitsValue (t ++ [digit d]) = 10 * digitsValue t + d := by
  unfold digitsValue
  rw [List.foldl_append, List.foldl_cons, List.foldl_nil, toNat_digit h, Nat.add_sub_cancel_left]

/-- The last digit is the rest of the division by ten. -/
theorem natText_eq (n : Nat) :
    natText n = (if n < 10 then [] else natText (n / 10)) ++ [digit (n % 10)] := by
  have hchar : ∀ d < 10, UInt8.ofNat (Nat.digitChar d).toNat = digit d := by decide
  unfold natText
  rw [Nat.toDigits_eq_if (by decide)]
  split_ifs with h
  · rw [List.map_singleton, hchar n h, Nat.mod_eq_of_lt h, List.nil_append]
  · rw [List.map_append, List.map_singleton, hchar _ (Nat.mod_lt n (by decide))]

/-- A printed number is read back. -/
theorem digitsValue_natText (n : Nat) : digitsValue (natText n) = n := by
  induction n using Nat.strong_induction_on with
  | _ n ih =>
    rw [natText_eq, digitsValue_concat _ (Nat.mod_lt n (by decide))]
    split_ifs with h
    · rw [show digitsValue [] = 0 from rfl]
      omega
    · rw [ih (n / 10) (by omega)]
      omega

theorem head_natText {n : Nat} (h : 0 < n) : (natText n).head? ≠ some 48 := by
  induction n using Nat.strong_induction_on with
  | _ n ih =>
    rw [natText_eq]
    split_ifs with hlt
    · rw [List.nil_append, List.head?_cons, Nat.mod_eq_of_lt hlt]
      intro heq
      have hval := congrArg UInt8.toNat (Option.some.inj heq)
      rw [toNat_digit hlt] at hval
      exact absurd hval (by show 48 + n ≠ 48; omega)
    · rw [List.head?_append_of_ne_nil _ (natText_ne_nil _)]
      exact ih (n / 10) (by omega) (by omega)

theorem canonicalDigits_natText (n : Nat) : CanonicalDigits (natText n) := by
  refine ⟨natText_ne_nil n, fun c hc => isDigit_of_mem_natText hc, fun hlong => ?_⟩
  obtain rfl | hpos := Nat.eq_zero_or_pos n
  · exact absurd hlong (by decide)
  · exact head_natText hpos

/-- A number that is read from its decimal digits is printed as them. -/
theorem natText_digitsValue {t : Text} (h : CanonicalDigits t) : natText (digitsValue t) = t := by
  induction t using List.reverseRecOn with
  | nil => exact absurd rfl h.1
  | append_singleton t c ih =>
    obtain ⟨-, hdigits, hhead⟩ := h
    obtain ⟨d, hd, rfl⟩ := isDigit_iff.mp (hdigits c (by simp))
    have hdigits : ∀ c ∈ t, isDigit c = true := fun c hc => hdigits c (by simp [hc])
    rw [digitsValue_concat t hd]
    by_cases hnil : t = []
    · subst hnil
      rw [show digitsValue [] = 0 from rfl, natText_eq, if_pos (by omega)]
      congr 3
      omega
    · have hlong : 1 < (t ++ [digit d]).length := by
        rw [List.length_append, List.length_singleton]
        have := List.length_pos_iff.mpr hnil
        omega
      have hfirst : t.head? ≠ some 48 := by
        have hsame : (t ++ [digit d]).head? = t.head? := List.head?_append_of_ne_nil t hnil
        exact hsame ▸ hhead hlong
      have hvalue := ih ⟨hnil, hdigits, fun _ => hfirst⟩
      have hpos : 0 < digitsValue t := by
        rw [Nat.pos_iff_ne_zero]
        intro hzero
        rw [hzero] at hvalue
        exact hfirst (hvalue ▸ rfl)
      rw [natText_eq, if_neg (by omega)]
      have hdiv : (10 * digitsValue t + d) / 10 = digitsValue t := by omega
      have hmod : (10 * digitsValue t + d) % 10 = d := by omega
      rw [hdiv, hmod, hvalue]

end DecimalText
end AmigaDrivers
