import AmigaDrivers.Common.DecimalText

/-!
# Doubles

`double` as the code computes with it: a finite value is the rational number it stands for,
beside the two infinities and the value that is not a number.  Every operation is the exact one,
rounded to the nearest double, ties to even.  The two zeros are one value here; no comparison
tells them apart.

* `Double.lt`, `Double.le`: comparisons, which fail on what is not a number.
* `Double.round`, `Double.ofNat`, `Double.mul`, `Double.ceil`: the arithmetic.
* `Double.mul_of_nonneg`, `Double.ceil_of_nonneg`: a finite product that is not negative rounds up
  to a whole number that is not negative.
-/

namespace AmigaDrivers

/-- `double`. -/
inductive Double
  | nan
  | infinite (negative : Bool)
  | finite (value : ℚ)
  deriving DecidableEq

namespace Double

open DecimalText ByteUtil

/-- `<`. -/
def lt : Double → Double → Bool
  | finite a, finite b => a < b
  | infinite true, finite _ => true
  | finite _, infinite false => true
  | infinite true, infinite false => true
  | _, _ => false

/-- `<=`. -/
def le : Double → Double → Bool
  | finite a, finite b => a ≤ b
  | infinite true, finite _ => true
  | finite _, infinite false => true
  | infinite a, infinite b => a || !b
  | _, _ => false

instance : LT Double := ⟨fun a b => a.lt b = true⟩

instance : LE Double := ⟨fun a b => a.le b = true⟩

instance (a b : Double) : Decidable (a < b) := inferInstanceAs (Decidable (a.lt b = true))

instance (a b : Double) : Decidable (a ≤ b) := inferInstanceAs (Decidable (a.le b = true))

/-- `std::isfinite`. -/
def isFinite : Double → Bool
  | finite _ => true
  | _ => false

/-- The double nearest to a number. -/
def round (x : ℚ) : Double :=
  let ulp : ℚ := 2 ^ max (Int.log 2 |x| - 52) (-1074)
  let nearest := roundHalfEven (|x| / ulp) * ulp
  if 2 ^ 1024 ≤ nearest then infinite (x < 0)
  else finite (if x < 0 then -nearest else nearest)

/-- The conversion of an unsigned number. -/
def ofNat (n : Nat) : Double := round n

instance (n : Nat) : OfNat Double n := ⟨ofNat n⟩

/-- `*`. -/
def mul : Double → Double → Double
  | finite a, finite b => round (a * b)
  | nan, _ | _, nan => nan
  | infinite s, infinite t => infinite (s != t)
  | infinite s, finite b => if b = 0 then nan else infinite (s != decide (b < 0))
  | finite a, infinite t => if a = 0 then nan else infinite (decide (a < 0) != t)

/-- `/`. -/
def div : Double → Double → Double
  | nan, _ | _, nan => nan
  | finite a, finite b =>
    if b ≠ 0 then round (a / b) else if a = 0 then nan else infinite (decide (a < 0))
  | infinite s, finite b => infinite (s != decide (b < 0))
  | finite _, infinite _ => finite 0
  | infinite _, infinite _ => nan

/-- `/` by a positive number. -/
def divNat : Double → Nat → Double
  | finite a, n => round (a / n)
  | x, _ => x

/-- `std::ceil`. -/
def ceil : Double → Double
  | finite a => finite ⌈a⌉
  | x => x

/-- The conversion to an unsigned number, which drops the fraction.  It is defined from zero on. -/
def toNat : Double → Nat
  | finite a => a.floor.toNat
  | _ => 0

/-- `{:.1f}`. -/
def fixed : Double → Nat → Text
  | nan, _ => ascii "nan"
  | infinite negative, _ => if negative then ascii "-inf" else ascii "inf"
  | finite a, digits => fixedDecimal a digits

theorem finite_lt {a b : ℚ} : finite a < finite b ↔ a < b := decide_eq_true_iff

theorem finite_le {a b : ℚ} : finite a ≤ finite b ↔ a ≤ b := decide_eq_true_iff

/-! ## Exact values -/

theorem roundHalfEven_natCast (n : Nat) : roundHalfEven n = n := by
  have hfloor : ((n : ℚ).floor).toNat = n := by
    rw [← Int.cast_natCast, Rat.floor_intCast, Int.toNat_natCast]
  unfold roundHalfEven
  simp only [hfloor, sub_self]
  rw [if_pos (by norm_num)]

/-- A number of at most 53 bits is a double. -/
theorem ofNat_eq {n : Nat} (h : n < 2 ^ 53) : ofNat n = finite n := by
  have hlog : Int.log 2 |(n : ℚ)| ≤ 52 := by
    rw [Nat.abs_cast, show (2 : Nat) = ((2 : Nat) : Nat) from rfl, Int.log_natCast]
    have hlt := Nat.log_lt_of_lt_pow' (b := 2) (x := 53) (y := n) (by decide) h
    omega
  obtain ⟨k, hk⟩ : ∃ k : Nat, max (Int.log 2 |(n : ℚ)| - 52) (-1074) = -(k : Int) :=
    ⟨(-max (Int.log 2 |(n : ℚ)| - 52) (-1074)).toNat, by omega⟩
  have hscaled : |(n : ℚ)| / 2 ^ (-(k : Int)) = ((n * 2 ^ k : Nat) : ℚ) := by
    rw [Nat.abs_cast, zpow_neg, zpow_natCast, div_inv_eq_mul]
    push_cast
    rfl
  have hnearest : ((n * 2 ^ k : Nat) : ℚ) * 2 ^ (-(k : Int)) = n := by
    rw [zpow_neg, zpow_natCast]
    push_cast
    field_simp
  have hsmall : ¬(2 ^ 1024 : ℚ) ≤ n := by
    have hbound : (n : ℚ) < 2 ^ 53 := by exact_mod_cast h
    have hpow : (2 ^ 53 : ℚ) ≤ 2 ^ 1024 := pow_le_pow_right₀ (by norm_num) (by norm_num)
    exact not_le.mpr (hbound.trans_le hpow)
  unfold ofNat round
  simp only [hk, hscaled, roundHalfEven_natCast, hnearest]
  rw [if_neg hsmall, if_neg (not_lt.mpr (Nat.cast_nonneg n))]

/-- A product of numbers that are not negative is not negative, if it is finite. -/
theorem mul_of_nonneg {a b : ℚ} (ha : 0 ≤ a) (hb : 0 ≤ b) {c : ℚ}
    (h : mul (finite a) (finite b) = finite c) : 0 ≤ c := by
  have hnonneg : ¬a * b < 0 := not_lt.mpr (mul_nonneg ha hb)
  unfold mul round at h
  simp only [hnonneg, if_false] at h
  split_ifs at h
  obtain rfl := finite.inj h
  exact mul_nonneg (Nat.cast_nonneg _) (zpow_nonneg (by norm_num) _)

theorem ceil_of_nonneg {a b : ℚ} (ha : 0 ≤ a) (h : ceil (finite a) = finite b) : 0 ≤ b := by
  obtain rfl := finite.inj h
  exact_mod_cast Int.ceil_nonneg ha

end Double
end AmigaDrivers
