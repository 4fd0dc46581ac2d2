import AmigaDrivers.Foundation.MachineWord

/-!
# Word arithmetic that notes where it wraps

A computation in machine words that may give up, and that notes whether each of its operations had
the result it has in the natural numbers.  The words themselves are what the machine computes.

* `Noted`: the computations, and `add`, `sub`, `mul`, `div`, `narrow`: the operations.
* `Meets`: nothing has wrapped, and what is returned has a property.
* `Meets.bind`, `meets_add`, `meets_sub`, `meets_mul`, `meets_div`, `meets_narrow`: the rules.
-/

namespace ExactArithmetic

open MachineWord

/-- A computation, and whether no operation has wrapped or divided by zero. -/
def Noted (ε α : Type) : Type := Except ε α × Bool

variable {ε α β : Type}

instance : Monad (Noted ε) where
  pure a := (.ok a, true)
  bind m f :=
    match m with
    | (.error e, noted) => (.error e, noted)
    | (.ok a, noted) => ((f a).1, noted && (f a).2)

/-! ## The operations -/

/-- Give up. -/
def raise (wrong : Prop) [Decidable wrong] (e : ε) : Noted ε Unit :=
  (if wrong then .error e else .ok (), true)

/-- `+`. -/
def add (a b : UInt64) : Noted ε UInt64 := (.ok (a + b), decide (a.toNat + b.toNat < 2 ^ 64))

/-- `-`. -/
def sub (a b : UInt64) : Noted ε UInt64 := (.ok (a - b), decide (b ≤ a))

/-- `*`. -/
def mul (a b : UInt64) : Noted ε UInt64 := (.ok (a * b), decide (a.toNat * b.toNat < 2 ^ 64))

/-- `/`. -/
def div (a b : UInt64) : Noted ε UInt64 := (.ok (a / b), decide (b ≠ 0))

/-- The conversion to 32 bits. -/
def narrow (a : UInt64) : Noted ε UInt32 := (.ok a.toUInt32, decide (a.toNat < 2 ^ 32))

/-! ## The rules -/

/-- Nothing has wrapped, and what is returned has the property. -/
def Meets (m : Noted ε α) (post : α → Prop) : Prop := m.2 = true ∧ ∀ a, m.1 = .ok a → post a

variable {a b : UInt64} {m n : Nat}

theorem meets_pure {post : α → Prop} {x : α} (h : post x) : Meets (pure x : Noted ε α) post :=
  ⟨rfl, fun _ heq => Except.ok.inj heq ▸ h⟩

/-- One computation after another. -/
theorem Meets.bind {p : Noted ε α} {f : α → Noted ε β} {mid : α → Prop} {post : β → Prop}
    (hp : Meets p mid) (hf : ∀ x, mid x → Meets (f x) post) : Meets (p >>= f) post := by
  obtain ⟨result, noted⟩ := p
  obtain ⟨hnoted, hmid⟩ := hp
  obtain rfl : noted = true := hnoted
  cases result with
  | error e => exact ⟨rfl, fun _ heq => nomatch heq⟩
  | ok x =>
    obtain ⟨hexact, hpost⟩ := hf x (hmid x rfl)
    exact ⟨hexact, hpost⟩

theorem meets_raise (wrong : Prop) [Decidable wrong] (e : ε) :
    Meets (raise wrong e) fun _ => ¬wrong := by
  refine ⟨rfl, fun _ heq hwrong => ?_⟩
  unfold raise at heq
  rw [if_pos hwrong] at heq
  exact nomatch heq

theorem meets_add (ha : Is a m) (hb : Is b n) (h : m + n < 2 ^ 64) :
    Meets (add a b : Noted ε UInt64) (Is · (m + n)) := by
  refine ⟨decide_eq_true ?_, fun _ heq => Except.ok.inj heq ▸ ha.add hb h⟩
  rwa [show a.toNat = m from ha, show b.toNat = n from hb]

theorem meets_sub (ha : Is a m) (hb : Is b n) (h : n ≤ m) :
    Meets (sub a b : Noted ε UInt64) (Is · (m - n)) :=
  ⟨decide_eq_true ((hb.le_iff ha).mpr h), fun _ heq => Except.ok.inj heq ▸ ha.sub hb h⟩

theorem meets_mul (ha : Is a m) (hb : Is b n) (h : m * n < 2 ^ 64) :
    Meets (mul a b : Noted ε UInt64) (Is · (m * n)) := by
  unfold Is at ha hb
  refine ⟨decide_eq_true ?_, fun _ heq => Except.ok.inj heq ▸ ?_⟩
  · rwa [ha, hb]
  · show (a * b).toNat = m * n
    rw [UInt64.toNat_mul, ha, hb, Nat.mod_eq_of_lt h]

theorem meets_div (ha : Is a m) (hb : Is b n) (h : 0 < n) :
    Meets (div a b : Noted ε UInt64) (Is · (m / n)) := by
  refine ⟨decide_eq_true fun hzero => h.ne' (hb.eq_zero_iff.mp hzero), fun _ heq =>
    Except.ok.inj heq ▸ ?_⟩
  show (a / b).toNat = m / n
  rw [UInt64.toNat_div, show a.toNat = m from ha, show b.toNat = n from hb]

theorem meets_narrow (ha : Is a m) (h : m < 2 ^ 32) :
    Meets (narrow a : Noted ε UInt32) fun w => w.toNat = m := by
  unfold Is at ha
  refine ⟨decide_eq_true (ha ▸ h), fun _ heq => Except.ok.inj heq ▸ ?_⟩
  show a.toUInt32.toNat = m
  rw [UInt64.toNat_toUInt32, ha, Nat.mod_eq_of_lt h]

end ExactArithmetic
