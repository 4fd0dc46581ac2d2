import Mathlib.Data.List.Basic

/-!
# Walking over a byte string with a position

A hand-written parser keeps a pointer, a length and a position, tests how many bytes
are left, and then reads without further tests.  `Cursor` is that state; `Walk` is a
walk with it that may stop with an error of the parser's own, or run into
`outOfBounds` when it reads what its tests have not established.

* `Cursor.HasBytes`: the test, in a form that survives a position behind the end.
* `read_of_hasBytes`, `require_eq_ok`: what a read and a test do.
* `bind_eq_ok`: a walk succeeds exactly when its parts do.
* `times_read_of_hasBytes`: a run of equal reads moves on by their total size.

A walk may also note values on the way.  The notes steer nothing, and later steps keep
them (`KeepsNotes`).
-/

namespace ByteCursor

/-- Why a walk ends early. -/
inductive Stop (ε : Type) where
  | error (e : ε)
  | outOfBounds
  deriving DecidableEq, Repr

/-- The state of a walk over `data`.  The values noted on the way are in `noted`. -/
structure Cursor (κ : Type) where
  data : List UInt8
  pos : Nat := 0
  noted : List κ := []
  deriving DecidableEq, Repr

/-- A walk: from a cursor to a value and a cursor, or to the reason it stops. -/
abbrev Walk (κ ε α : Type) := StateT (Cursor κ) (Except (Stop ε)) α

variable {κ ε α β : Type}

namespace Cursor

/-- At least `n` bytes are left. -/
abbrev HasBytes (c : Cursor κ) (n : Nat) : Prop :=
  c.pos ≤ c.data.length ∧ n ≤ c.data.length - c.pos

/-- The bytes left. -/
def remaining (c : Cursor κ) : Nat := c.data.length - c.pos

/-- The bytes from the position on. -/
def rest (c : Cursor κ) : List UInt8 := c.data.drop c.pos

/-- The cursor `n` bytes further on. -/
def advance (c : Cursor κ) (n : Nat) : Cursor κ := { c with pos := c.pos + n }

/-- The cursor with one more value noted. -/
def note (c : Cursor κ) (k : κ) : Cursor κ := { c with noted := c.noted ++ [k] }

@[simp] theorem advance_data (c : Cursor κ) (n : Nat) : (c.advance n).data = c.data := rfl

@[simp] theorem advance_pos (c : Cursor κ) (n : Nat) : (c.advance n).pos = c.pos + n := rfl

@[simp] theorem advance_noted (c : Cursor κ) (n : Nat) : (c.advance n).noted = c.noted := rfl

@[simp] theorem note_data (c : Cursor κ) (k : κ) : (c.note k).data = c.data := rfl

@[simp] theorem note_pos (c : Cursor κ) (k : κ) : (c.note k).pos = c.pos := rfl

@[simp] theorem note_noted (c : Cursor κ) (k : κ) : (c.note k).noted = c.noted ++ [k] := rfl

@[simp] theorem advance_zero (c : Cursor κ) : c.advance 0 = c := rfl

@[simp] theorem advance_advance (c : Cursor κ) (m n : Nat) :
    (c.advance m).advance n = c.advance (m + n) := by
  simp only [advance, Nat.add_assoc]

theorem note_advance (c : Cursor κ) (k : κ) (n : Nat) :
    (c.note k).advance n = (c.advance n).note k := rfl

@[simp] theorem rest_note (c : Cursor κ) (k : κ) : (c.note k).rest = c.rest := rfl

@[simp] theorem remaining_note (c : Cursor κ) (k : κ) : (c.note k).remaining = c.remaining := rfl

@[simp] theorem remaining_advance (c : Cursor κ) (n : Nat) :
    (c.advance n).remaining = c.remaining - n := by
  simp only [remaining, advance_data, advance_pos]
  omega

theorem hasBytes_note (c : Cursor κ) (k : κ) (n : Nat) :
    (c.note k).HasBytes n ↔ c.HasBytes n := Iff.rfl

/-- Testing behind `m` more bytes is testing for `m` bytes more. -/
theorem hasBytes_advance (c : Cursor κ) (m n : Nat) :
    (c.advance m).HasBytes n ↔ c.HasBytes (m + n) := by
  simp only [HasBytes, advance_data, advance_pos]
  omega

theorem HasBytes.mono {c : Cursor κ} {m n : Nat} (h : c.HasBytes n) (hle : m ≤ n) :
    c.HasBytes m := ⟨h.1, Nat.le_trans hle h.2⟩

theorem HasBytes.le_remaining {c : Cursor κ} {n : Nat} (h : c.HasBytes n) : n ≤ c.remaining :=
  h.2

end Cursor

/-! ## The steps of a walk -/

/-- Read `n` bytes at the position without a test. -/
def read (n : Nat) (decode : List UInt8 → α) : Walk κ ε α := fun c =>
  if c.HasBytes n then .ok (decode (c.rest.take n), c.advance n) else .error .outOfBounds

/-- Move `n` bytes on without a test. -/
def skip (n : Nat) : Walk κ ε Unit := fun c => .ok ((), c.advance n)

/-- Stop with an error of the parser. -/
def fail (e : ε) : Walk κ ε α := fun _ => .error (.error e)

/-- Go on only if the test holds of the cursor. -/
def guardOr (test : Cursor κ → Prop) [DecidablePred test] (e : ε) : Walk κ ε Unit := fun c =>
  if test c then .ok ((), c) else .error (.error e)

/-- Go on only with `n` bytes left. -/
def require (n : Nat) (e : ε) : Walk κ ε Unit := guardOr (fun c => c.HasBytes n) e

/-- Note a value. -/
def note (k : κ) : Walk κ ε Unit := fun c => .ok ((), c.note k)

/-- The same walk `n` times over. -/
def times : Nat → Walk κ ε α → Walk κ ε (List α)
  | 0, _ => pure []
  | n + 1, m => do
    let a ← m
    let as ← times n m
    pure (a :: as)

/-! ## What the steps do -/

section Steps

variable {c c' : Cursor κ} {a : α} {b : β}

/-- A walk succeeds exactly when both of its parts do. -/
theorem bind_eq_ok {m : Walk κ ε α} {f : α → Walk κ ε β} :
    (m >>= f) c = .ok (b, c') ↔ ∃ a d, m c = .ok (a, d) ∧ f a d = .ok (b, c') := by
  change (m c >>= fun p => f p.1 p.2) = _ ↔ _
  cases hm : m c with
  | error stop => exact ⟨fun h => (nomatch h), fun ⟨_, _, h, _⟩ => (nomatch h)⟩
  | ok p =>
    refine ⟨fun h => ⟨p.1, p.2, rfl, h⟩, ?_⟩
    rintro ⟨x, d, hp, hf⟩
    obtain rfl : p = (x, d) := Except.ok.inj hp
    exact hf

/-- After a step that succeeds, the walk is what follows. -/
theorem bind_of_ok {m : Walk κ ε α} {f : α → Walk κ ε β} {d : Cursor κ} (h : m c = .ok (a, d)) :
    (m >>= f) c = f a d := by
  change (m c >>= fun p => f p.1 p.2) = _
  rw [h]
  rfl

@[simp] theorem pure_apply : (pure a : Walk κ ε α) c = .ok (a, c) := rfl

theorem pure_eq_ok {x : α} : (pure x : Walk κ ε α) c = .ok (a, c') ↔ a = x ∧ c' = c := by
  rw [pure_apply, Except.ok.injEq, Prod.mk.injEq]
  exact and_congr eq_comm eq_comm

theorem read_of_hasBytes {n : Nat} {decode : List UInt8 → α} (h : c.HasBytes n) :
    (read n decode : Walk κ ε α) c = .ok (decode (c.rest.take n), c.advance n) :=
  if_pos h

theorem read_eq_ok {n : Nat} {decode : List UInt8 → α} :
    (read n decode : Walk κ ε α) c = .ok (a, c') ↔
      c.HasBytes n ∧ a = decode (c.rest.take n) ∧ c' = c.advance n := by
  unfold read
  split
  · next h =>
    rw [Except.ok.injEq, Prod.mk.injEq]
    exact ⟨fun ⟨ha, hc⟩ => ⟨h, ha.symm, hc.symm⟩, fun ⟨_, ha, hc⟩ => ⟨ha.symm, hc.symm⟩⟩
  · next h => exact ⟨fun hbad => (nomatch hbad), fun ⟨hok, _⟩ => absurd hok h⟩

@[simp] theorem skip_apply (n : Nat) :
    (skip n : Walk κ ε Unit) c = .ok ((), c.advance n) := rfl

@[simp] theorem note_apply (k : κ) : (note k : Walk κ ε Unit) c = .ok ((), c.note k) := rfl

@[simp] theorem fail_ne_ok (e : ε) : (fail e : Walk κ ε α) c ≠ .ok (a, c') := nofun

theorem guardOr_eq_ok {test : Cursor κ → Prop} [DecidablePred test] {e : ε} :
    (guardOr test e : Walk κ ε Unit) c = .ok ((), c') ↔ test c ∧ c' = c := by
  unfold guardOr
  split
  · next h =>
    rw [Except.ok.injEq, Prod.mk.injEq]
    exact ⟨fun ⟨_, hc⟩ => ⟨h, hc.symm⟩, fun ⟨_, hc⟩ => ⟨rfl, hc.symm⟩⟩
  · next h => exact ⟨fun hbad => (nomatch hbad), fun ⟨hok, _⟩ => absurd hok h⟩

theorem require_eq_ok {n : Nat} {e : ε} :
    (require n e : Walk κ ε Unit) c = .ok ((), c') ↔ c.HasBytes n ∧ c' = c :=
  guardOr_eq_ok

theorem require_of_hasBytes {n : Nat} {e : ε} (h : c.HasBytes n) :
    (require n e : Walk κ ε Unit) c = .ok ((), c) :=
  if_pos h

/-- A test in front of a walk that succeeds. -/
theorem require_bind_eq_ok {n : Nat} {e : ε} {f : Unit → Walk κ ε β} :
    (require n e >>= f) c = .ok (b, c') ↔ c.HasBytes n ∧ f () c = .ok (b, c') := by
  rw [bind_eq_ok]
  constructor
  · rintro ⟨⟨⟩, d, hd, hf⟩
    obtain ⟨h, rfl⟩ := require_eq_ok.mp hd
    exact ⟨h, hf⟩
  · exact fun ⟨h, hf⟩ => ⟨(), c, require_of_hasBytes h, hf⟩

theorem guardOr_bind_eq_ok {test : Cursor κ → Prop} [DecidablePred test] {e : ε}
    {f : Unit → Walk κ ε β} :
    (guardOr test e >>= f) c = .ok (b, c') ↔ test c ∧ f () c = .ok (b, c') := by
  rw [bind_eq_ok]
  constructor
  · rintro ⟨⟨⟩, d, hd, hf⟩
    obtain ⟨h, rfl⟩ := guardOr_eq_ok.mp hd
    exact ⟨h, hf⟩
  · exact fun ⟨h, hf⟩ => ⟨(), c, if_pos h, hf⟩

theorem require_bind {n : Nat} {e : ε} {f : Unit → Walk κ ε β} (h : c.HasBytes n) :
    (require n e >>= f) c = f () c :=
  bind_of_ok (require_of_hasBytes h)

theorem guardOr_bind {test : Cursor κ → Prop} [DecidablePred test] {e : ε}
    {f : Unit → Walk κ ε β} (h : test c) : (guardOr test e >>= f) c = f () c :=
  bind_of_ok (if_pos h)

theorem read_bind {n : Nat} {decode : List UInt8 → α} {f : α → Walk κ ε β} (h : c.HasBytes n) :
    (read n decode >>= f) c = f (decode (c.rest.take n)) (c.advance n) :=
  bind_of_ok (read_of_hasBytes h)

@[simp] theorem skip_bind {n : Nat} {f : Unit → Walk κ ε β} :
    (skip n >>= f) c = f () (c.advance n) := rfl

@[simp] theorem note_bind {k : κ} {f : Unit → Walk κ ε β} :
    (note k >>= f) c = f () (c.note k) := rfl

end Steps

/-- A run of equal reads moves on by their total size. -/
theorem times_read_of_hasBytes {size : Nat} {decode : List UInt8 → α} :
    ∀ (n : Nat) {c : Cursor κ}, c.HasBytes (n * size) →
      ∃ as, (times n (read size decode) : Walk κ ε (List α)) c = .ok (as, c.advance (n * size)) ∧
        as.length = n
  | 0, c, _ => ⟨[], by rw [Nat.zero_mul, Cursor.advance_zero]; exact ⟨rfl, rfl⟩⟩
  | n + 1, c, h => by
    have hone : c.HasBytes size := h.mono (Nat.le_mul_of_pos_left size (Nat.succ_pos n))
    have hsplit : (n + 1) * size = size + n * size := by rw [Nat.succ_mul, Nat.add_comm]
    have hrest : (c.advance size).HasBytes (n * size) :=
      (Cursor.hasBytes_advance c size (n * size)).mpr (hsplit ▸ h)
    obtain ⟨as, has, hlen⟩ := @times_read_of_hasBytes size decode n (c.advance size) hrest
    rw [hsplit, ← Cursor.advance_advance]
    refine ⟨decode (c.rest.take size) :: as, ?_, by rw [List.length_cons, hlen]⟩
    unfold times
    rw [read_bind hone, bind_of_ok has]
    rfl

/-! ## Notes only grow -/

/-- A walk keeps the notes made before it. -/
def KeepsNotes (m : Walk κ ε α) : Prop :=
  ∀ ⦃c c' : Cursor κ⦄ ⦃a : α⦄, m c = .ok (a, c') → c.noted <+: c'.noted

theorem keepsNotes_bind {m : Walk κ ε α} {f : α → Walk κ ε β} (hm : KeepsNotes m)
    (hf : ∀ a, KeepsNotes (f a)) : KeepsNotes (m >>= f) := by
  intro c c' b h
  obtain ⟨a, d, ha, hb⟩ := bind_eq_ok.mp h
  exact (hm ha).trans (hf a hb)

theorem keepsNotes_pure (a : α) : KeepsNotes (pure a : Walk κ ε α) := by
  intro c c' b h
  obtain ⟨-, rfl⟩ := pure_eq_ok.mp h
  exact List.prefix_refl _

theorem keepsNotes_read (n : Nat) (decode : List UInt8 → α) :
    KeepsNotes (read n decode : Walk κ ε α) := by
  intro c c' a h
  obtain ⟨-, -, rfl⟩ := read_eq_ok.mp h
  exact List.prefix_refl _

theorem keepsNotes_skip (n : Nat) : KeepsNotes (skip n : Walk κ ε Unit) := by
  intro c c' a h
  obtain ⟨-, rfl⟩ := Prod.mk.inj (Except.ok.inj h)
  exact List.prefix_refl _

theorem keepsNotes_note (k : κ) : KeepsNotes (note k : Walk κ ε Unit) := by
  intro c c' a h
  obtain ⟨-, rfl⟩ := Prod.mk.inj (Except.ok.inj h)
  exact List.prefix_append _ _

theorem keepsNotes_guardOr (test : Cursor κ → Prop) [DecidablePred test] (e : ε) :
    KeepsNotes (guardOr test e : Walk κ ε Unit) := by
  intro c c' a h
  obtain ⟨-, rfl⟩ := guardOr_eq_ok.mp h
  exact List.prefix_refl _

theorem keepsNotes_require (n : Nat) (e : ε) : KeepsNotes (require n e : Walk κ ε Unit) :=
  keepsNotes_guardOr _ e

end ByteCursor
