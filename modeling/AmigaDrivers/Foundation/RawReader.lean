import AmigaDrivers.Foundation.ByteCursor
import AmigaDrivers.Foundation.Effect
import Mathlib.Data.List.Forall2
import Mathlib.Data.UInt

/-!
# Reading memory with a position in 64 bits

The walks of `ByteCursor` as a machine makes them: the position and the length are words, sums and
products wrap, and nothing keeps a load inside the buffer but the tests made before it.  Every load,
every move, every product and every subtraction from the length is put down as an `Event`.

* `Event.Safe`: a load or a move stays inside, and what is computed does not wrap.
* `Follows`: with so many bytes known to be left, a machine does what a walk does, and safely.
* `Follows.bind`, `Follows.read`, `Follows.require`: the rules, one for each step.
-/

namespace RawReader

open ByteCursor (Cursor Walk Stop)

/-- What a machine does that may go wrong. -/
inductive Event
  | load (pos : UInt64) (size : Nat)
  | move (pos n : UInt64)
  | product (a b : UInt64)
  | left (pos : UInt64)
  deriving DecidableEq, Repr

/-- It goes well in a buffer of this length. -/
def Event.Safe (length : Nat) : Event → Prop
  | .load pos size => pos.toNat + size ≤ length
  | .move pos n => pos.toNat + n.toNat ≤ length
  | .product a b => a.toNat * b.toNat < 2 ^ 64
  | .left pos => pos.toNat ≤ length

/-- A pointer, a length and a position, and what has been done with them. -/
structure Machine where
  data : List UInt8
  len : UInt64
  pos : UInt64 := 0
  trace : List Event := []
  deriving DecidableEq, Repr

/-- A machine at the start of a buffer. -/
def Machine.start (data : List UInt8) : Machine := { data, len := .ofNat data.length }

/-- Nothing has gone wrong in this buffer. -/
structure Machine.Within (s : Machine) (data : List UInt8) : Prop where
  safe : ∀ e ∈ s.trace, e.Safe data.length
  inside : s.pos.toNat ≤ data.length

/-- A computation of a machine. -/
abbrev Raw (ε : Type) : Type → Type := Effect Machine ε

variable {κ ε α α' β β' : Type}

/-! ## Steps -/

/-- Put down what is done. -/
def log (e : Event) : Raw ε Unit := modify fun s => { s with trace := s.trace ++ [e] }

/-- `n` bytes are left. -/
def hasBytes (n : UInt64) : Raw ε Bool := do
  let s ← get
  pure (decide (s.pos ≤ s.len) && decide (n ≤ s.len - s.pos))

/-- The length of the buffer. -/
def length : Raw ε UInt64 := do
  let s ← get
  pure s.len

/-- How many bytes are left. -/
def remaining : Raw ε UInt64 := do
  let s ← get
  log (.left s.pos)
  pure (s.len - s.pos)

/-- The bytes at the position, whether or not they are in the buffer. -/
def peek (size : Nat) (decode : List UInt8 → α) : Raw ε α := do
  let s ← get
  log (.load s.pos size)
  pure (decode ((s.data.drop s.pos.toNat).take size))

/-- Move on. -/
def skip (n : UInt64) : Raw ε Unit := do
  let s ← get
  log (.move s.pos n)
  modify fun s => { s with pos := s.pos + n }

/-- Read, and move on. -/
def read (size : Nat) (decode : List UInt8 → α) : Raw ε α := do
  let a ← peek size decode
  skip (.ofNat size)
  pure a

/-- A product of two words. -/
def product (a b : UInt64) : Raw ε UInt64 := do
  log (.product a b)
  pure (a * b)

/-- Stop with an error if something is the case. -/
@[irreducible] def throwIf (p : Prop) [Decidable p] (e : ε) : Raw ε Unit :=
  if p then throw e else pure ()

/-- Stop with an error unless `n` bytes are left. -/
def require (n : UInt64) (e : ε) : Raw ε Unit := do
  let there ← hasBytes n
  throwIf (there = false) e

/-- The same computation `n` times over. -/
def times : Nat → Raw ε α → Raw ε (List α)
  | 0, _ => pure []
  | n + 1, m => do
    let a ← m
    let as ← times n m
    pure (a :: as)

/-! ## Machines and cursors -/

/-- Machine and cursor stand at the same place of a buffer, and nothing has gone wrong. -/
structure At (data : List UInt8) (c : Cursor κ) (s : Machine) : Prop where
  cursor : c.data = data
  machine : s.data = data
  len : s.len.toNat = data.length
  pos : s.pos.toNat = c.pos
  within : s.Within data

/-- From a place with `n` bytes left, the machine does what the walk does, and safely. -/
def Follows (n : Nat) (R : α → β → Prop) (m : Raw ε α) (w : Walk κ ε β) : Prop :=
  ∀ (data : List UInt8) (c : Cursor κ), c.HasBytes n → Effect.Triple (At data c) m
    (fun a s => ∃ b c', w c = .ok (b, c') ∧ R a b ∧ At data c' s)
    (fun e s => w c = .error (.error e) ∧ s.Within data)

theorem at_start {data : List UInt8} (h : data.length < 2 ^ 64) :
    At data ({ data } : Cursor κ) (.start data) where
  cursor := rfl
  machine := rfl
  len := UInt64.toNat_ofNat_of_lt' h
  pos := rfl
  within := ⟨nofun, Nat.zero_le _⟩

section

variable {data : List UInt8} {c : Cursor κ} {s : Machine}

theorem At.inside (h : At data c s) : c.pos ≤ data.length := h.pos ▸ h.within.inside

theorem At.hasBytes_zero (h : At data c s) : c.HasBytes 0 :=
  ⟨h.cursor ▸ h.inside, Nat.zero_le _⟩

/-- Something safe may be put down. -/
theorem At.log (h : At data c s) {e : Event} (he : e.Safe data.length) :
    At data c { s with trace := s.trace ++ [e] } := by
  refine ⟨h.cursor, h.machine, h.len, h.pos, fun e' he' => ?_, h.within.inside⟩
  obtain he' | he' := List.mem_append.mp he'
  · exact h.within.safe e' he'
  · obtain rfl := List.mem_singleton.mp he'
    exact he

theorem At.toNat_left (h : At data c s) : (s.len - s.pos).toNat = c.remaining := by
  have hle : s.pos ≤ s.len := by
    rw [UInt64.le_iff_toNat_le, h.pos, h.len]
    exact h.inside
  rw [UInt64.toNat_sub_of_le _ _ hle, h.len, h.pos, ← h.cursor]
  rfl

/-- The test for bytes is the test of the cursor. -/
theorem At.hasBytes_iff (h : At data c s) (n : UInt64) :
    (decide (s.pos ≤ s.len) && decide (n ≤ s.len - s.pos)) = true ↔ c.HasBytes n.toNat := by
  rw [Bool.and_eq_true, decide_eq_true_eq, decide_eq_true_eq, UInt64.le_iff_toNat_le,
    UInt64.le_iff_toNat_le, h.toNat_left, h.pos, h.len, ← h.cursor]
  rfl

/-- Bytes that are left may be loaded. -/
theorem At.load (h : At data c s) {size : Nat} (hbytes : c.HasBytes size) :
    (Event.load s.pos size).Safe data.length ∧
      (s.data.drop s.pos.toNat).take size = c.rest.take size ∧
        (c.rest.take size).length = size := by
  have hleft := hbytes.2
  have hinside := hbytes.1
  have hpos := h.pos
  refine ⟨?_, ?_, ?_⟩
  · show s.pos.toNat + size ≤ data.length
    rw [← h.cursor]
    omega
  · rw [h.machine, ← h.cursor, h.pos]
    rfl
  · unfold Cursor.rest
    rw [List.length_take, List.length_drop]
    omega

/-- A move inside the buffer. -/
theorem At.skip (h : At data c s) {n : UInt64} (hn : c.HasBytes n.toNat) :
    At data (c.advance n.toNat)
      { s with trace := s.trace ++ [.move s.pos n], pos := s.pos + n } := by
  have hinside : s.pos.toNat + n.toNat ≤ data.length := by
    have hpos := hn.1
    have hleft := hn.2
    rw [h.pos, ← h.cursor]
    omega
  have hsum : (s.pos + n).toNat = s.pos.toNat + n.toNat := by
    have hlt := s.len.toNat_lt
    have hlen := h.len
    rw [UInt64.toNat_add, Nat.mod_eq_of_lt (by omega)]
  have hlog := h.log (e := .move s.pos n) hinside
  refine ⟨h.cursor, h.machine, h.len, ?_, hlog.within.safe, hsum.trans_le hinside⟩
  rw [hsum, h.pos]
  rfl

end

/-! ## Rules -/

namespace Follows

variable {n n' : Nat} {R : α → β → Prop} {S : α' → β' → Prop} {m : Raw ε α} {w : Walk κ ε β}
  {f : α → Raw ε α'} {g : β → Walk κ ε β'} {k : Raw ε α'} {l : Walk κ ε β'}

theorem pure {a : α} {b : β} (h : R a b) :
    Follows n R (pure a : Raw ε α) (pure b : Walk κ ε β) :=
  fun _ c _ => .pure fun s hs => ⟨b, c, rfl, h, hs⟩

/-- Nothing need be known of what is left. -/
theorem mono (h : Follows n R m w) (hn : n ≤ n') : Follows n' R m w :=
  fun data c hc => h data c (hc.mono hn)

/-- One after another; the second has to see for itself what is left. -/
theorem bind (h : Follows n R m w) (hf : ∀ a b, R a b → Follows 0 S (f a) (g b)) :
    Follows n S (m >>= f) (w >>= g) := by
  intro data c hc
  refine .bind ((h data c hc).conseq (fun _ hs => hs) (fun _ _ h => h) ?_) fun a => ?_
  · rintro e s ⟨hw, hs⟩
    refine ⟨?_, hs⟩
    show (w c >>= fun p => g p.1 p.2) = _
    rw [hw]
    rfl
  · rintro s ⟨b, c', hw, hR, hs⟩
    have hnext := hf a b hR data c' hs.hasBytes_zero s hs
    rwa [ByteCursor.bind_of_ok hw]

/-- A step of the machine alone. -/
theorem bind_left {x : Raw ε β} {f : β → Raw ε α'} {Q : β → Prop}
    (hx : ∀ data (c : Cursor κ), c.HasBytes n → ∀ s, At data c s →
      ∃ a s', x.outcome s = (.ok a, s') ∧ Q a ∧ At data c s')
    (hf : ∀ a, Q a → Follows n S (f a) l) : Follows n S (x >>= f) l := by
  intro data c hc s hs
  obtain ⟨a, s', hout, hQ, hs'⟩ := hx data c hc s hs
  rw [Effect.outcome_bind, hout]
  exact hf a hQ data c hc s' hs'

/-- A note is for the walk only. -/
theorem note {i : κ} (h : Follows n S k l) :
    Follows n S k (ByteCursor.note i >>= fun _ => l : Walk κ ε β') := by
  intro data c hc s hs
  exact h data (c.note i) hc s ⟨hs.cursor, hs.machine, hs.len, hs.pos, hs.within⟩

/-- A test that both make. -/
theorem test {x : Raw ε Unit} {t : Walk κ ε Unit} {P : Cursor κ → Prop} {e : ε}
    (hx : ∀ data (c : Cursor κ), c.HasBytes n → ∀ s, At data c s → ∃ s', At data c s' ∧
      (P c ∧ x.outcome s = (.ok (), s') ∧ t c = .ok ((), c) ∨
        x.outcome s = (.error e, s') ∧ t c = .error (.error e)))
    (hP : ∀ c : Cursor κ, c.HasBytes n → P c → c.HasBytes n') (h : Follows n' S k l) :
    Follows n S (x >>= fun _ => k) (t >>= fun _ => l) := by
  intro data c hc s hs
  obtain ⟨s', hs', hout⟩ := hx data c hc s hs
  rw [Effect.outcome_bind]
  rcases hout with ⟨hp, hx, ht⟩ | ⟨hx, ht⟩
  · rw [hx, ByteCursor.bind_of_ok ht]
    exact h data c (hP c hc hp) s' hs'
  · rw [hx]
    refine ⟨?_, hs'.within⟩
    show (t c >>= fun p => l p.2) = _
    rw [ht]
    rfl

/-- A test for bytes. -/
theorem require {size : UInt64} {e : ε} (hsize : size.toNat = n') (h : Follows n' S k l) :
    Follows n S (RawReader.require size e >>= fun _ => k)
      (ByteCursor.require n' e >>= fun _ => l) := by
  subst hsize
  refine test (P := fun c => c.HasBytes size.toNat) (e := e) ?_ (fun _ _ h => h) h
  intro data c hc s hs
  refine ⟨s, hs, ?_⟩
  have hout : (RawReader.require size e).outcome s =
      Effect.outcome (throwIf ((decide (s.pos ≤ s.len) && decide (size ≤ s.len - s.pos)) = false)
        e) s := rfl
  rw [hout]
  unfold throwIf
  by_cases hbytes : c.HasBytes size.toNat
  · rw [(hs.hasBytes_iff size).mpr hbytes, if_neg (Bool.true_eq_false_eq_False)]
    exact .inl ⟨hbytes, rfl, ByteCursor.require_of_hasBytes hbytes⟩
  · rw [if_pos (Bool.eq_false_iff.mpr fun htrue => hbytes ((hs.hasBytes_iff size).mp htrue))]
    exact .inr ⟨rfl, if_neg hbytes⟩

/-- A test on what has been read. -/
theorem throwIf {p q : Prop} [Decidable p] [Decidable q] {e : ε} (hpq : q ↔ ¬p)
    (h : ¬p → Follows n S k l) :
    Follows n S (RawReader.throwIf p e >>= fun _ => k)
      (ByteCursor.guardOr (fun _ => q) e >>= fun _ => l) := by
  by_cases hp : p
  · intro data c hc s hs
    have hout : (RawReader.throwIf p e >>= fun _ => k).outcome s = (.error e, s) := by
      unfold RawReader.throwIf
      rw [if_pos hp]
      rfl
    rw [hout]
    refine ⟨?_, hs.within⟩
    show (ByteCursor.guardOr (fun _ => q) e c >>= fun p => l p.2) = _
    unfold ByteCursor.guardOr
    rw [if_neg fun hq => hpq.mp hq hp]
    rfl
  · intro data c hc s hs
    have hout : (RawReader.throwIf p e >>= fun _ => k).outcome s = k.outcome s := by
      unfold RawReader.throwIf
      rw [if_neg hp]
      rfl
    rw [hout, ByteCursor.guardOr_bind (hpq.mpr hp)]
    exact h hp data c hc s hs

/-- A move inside the bytes that are left. -/
theorem skip {size : UInt64} (hsize : size.toNat = n') (hle : n' ≤ n)
    (h : Follows (n - n') S k l) :
    Follows n S (RawReader.skip size >>= fun _ => k) (ByteCursor.skip n' >>= fun _ => l) := by
  subst hsize
  intro data c hc s hs
  have hout : (RawReader.skip size >>= fun _ => k).outcome s =
      k.outcome { s with trace := s.trace ++ [.move s.pos size], pos := s.pos + size } := rfl
  rw [hout, ByteCursor.skip_bind]
  refine h data _ ?_ _ (hs.skip (hc.mono hle))
  rw [Cursor.hasBytes_advance]
  exact hc.mono (by omega)

/-- A read inside the bytes that are left. -/
theorem read {size : Nat} {decode : List UInt8 → α} {decode' : List UInt8 → β} (hle : size ≤ n)
    (h : ∀ bytes, bytes.length = size → Follows (n - size) S (f (decode bytes)) (g (decode' bytes))) :
    Follows n S (RawReader.read size decode >>= f) (ByteCursor.read size decode' >>= g) := by
  intro data c hc s hs
  have hbytes : c.HasBytes size := hc.mono hle
  have hlt := s.len.toNat_lt
  have hlen := hs.len
  have hword : (UInt64.ofNat size).toNat = size := by
    have hleft := hbytes.2
    rw [hs.cursor] at hleft
    exact UInt64.toNat_ofNat_of_lt' (show size < 2 ^ 64 by omega)
  obtain ⟨hload, hvalue, hlength⟩ := hs.load hbytes
  have hat := (hs.log hload).skip (n := .ofNat size) (by rwa [hword])
  rw [hword] at hat
  rw [ByteCursor.read_bind hbytes]
  have hnext := h _ hlength data (c.advance size)
    ((Cursor.hasBytes_advance c size _).mpr (hc.mono (by omega))) _ hat
  rw [← hvalue] at hnext ⊢
  exact hnext

/-- A product that is small enough. -/
theorem product {a b : UInt64} {f : UInt64 → Raw ε α'} (hab : a.toNat * b.toNat < 2 ^ 64)
    (h : ∀ v : UInt64, v.toNat = a.toNat * b.toNat → Follows n S (f v) l) :
    Follows n S (RawReader.product a b >>= f) l := by
  refine bind_left (Q := fun v : UInt64 => v.toNat = a.toNat * b.toNat) ?_ h
  intro data c hc s hs
  refine ⟨a * b, _, rfl, ?_, hs.log (e := .product a b) hab⟩
  rw [UInt64.toNat_mul, Nat.mod_eq_of_lt hab]

/-- A test on how many bytes are left. -/
theorem room {p : UInt64 → Prop} [DecidablePred p] {q : Nat → Prop} [DecidablePred q] {e : ε}
    (hpq : ∀ left : UInt64, q left.toNat ↔ ¬p left) (h : Follows n S k l) :
    Follows n S (remaining >>= fun left => RawReader.throwIf (p left) e >>= fun _ => k)
      (ByteCursor.guardOr (fun c : Cursor κ => q c.remaining) e >>= fun _ => l) := by
  intro data c hc s hs
  have hleft : (Event.left s.pos).Safe data.length := hs.within.inside
  have htest : (q c.remaining) ↔ ¬p (s.len - s.pos) := hs.toNat_left ▸ hpq (s.len - s.pos)
  have hguard : (ByteCursor.guardOr (fun c : Cursor κ => q c.remaining) e >>= fun _ => l) c =
      (ByteCursor.guardOr (fun _ : Cursor κ => q c.remaining) e >>= fun _ => l) c := rfl
  rw [hguard]
  exact Follows.throwIf htest (fun _ => h) data c hc _ (hs.log hleft)

/-- A test on the length of the buffer. -/
theorem length {p : UInt64 → Prop} [DecidablePred p] {q : Nat → Prop} [DecidablePred q] {e : ε}
    (hpq : ∀ len : UInt64, q len.toNat ↔ ¬p len) (h : Follows n S k l) :
    Follows n S (RawReader.length >>= fun len => RawReader.throwIf (p len) e >>= fun _ => k)
      (ByteCursor.guardOr (fun c : Cursor κ => q c.data.length) e >>= fun _ => l) := by
  intro data c hc s hs
  have htest : q c.data.length ↔ ¬p s.len := by
    rw [hs.cursor, ← hs.len]
    exact hpq s.len
  have hguard : (ByteCursor.guardOr (fun c : Cursor κ => q c.data.length) e >>= fun _ => l) c =
      (ByteCursor.guardOr (fun _ : Cursor κ => q c.data.length) e >>= fun _ => l) c := rfl
  rw [hguard]
  exact Follows.throwIf htest (fun _ => h) data c hc s hs

/-- A test on bytes that are left where they are. -/
theorem look {size : Nat} {decode : List UInt8 → α} {p : α → Prop} [DecidablePred p]
    {q : List UInt8 → Prop} [DecidablePred q] {e : ε} (hle : size ≤ n)
    (hpq : ∀ bytes, bytes.length = size → (q bytes ↔ ¬p (decode bytes)))
    (h : Follows n S k l) :
    Follows n S (peek size decode >>= fun v => RawReader.throwIf (p v) e >>= fun _ => k)
      (ByteCursor.guardOr (fun c : Cursor κ => q (c.rest.take size)) e >>= fun _ => l) := by
  intro data c hc s hs
  have hbytes : c.HasBytes size := hc.mono hle
  obtain ⟨hload, hvalue, hlength⟩ := hs.load hbytes
  have htest : q (c.rest.take size) ↔ ¬p (decode ((s.data.drop s.pos.toNat).take size)) := by
    rw [hvalue]
    exact hpq _ hlength
  have hguard : (ByteCursor.guardOr (fun c : Cursor κ => q (c.rest.take size)) e >>=
      fun _ => l) c =
      (ByteCursor.guardOr (fun _ : Cursor κ => q (c.rest.take size)) e >>= fun _ => l) c := rfl
  rw [hguard]
  exact Follows.throwIf htest (fun _ => h) data c hc _ (hs.log hload)

/-- A branch that both take. -/
theorem ite {p q : Prop} [Decidable p] [Decidable q] {m' : Raw ε α} {w' : Walk κ ε β}
    (hpq : p ↔ q) (h : p → Follows n R m w) (h' : ¬p → Follows n R m' w') :
    Follows n R (if p then m else m') (if q then w else w') := by
  by_cases hp : p
  · rw [if_pos hp, if_pos (hpq.mp hp)]
    exact h hp
  · rw [if_neg hp, if_neg (mt hpq.mpr hp)]
    exact h' hp

/-- As many reads as there are bytes for. -/
theorem times {size : Nat} {decode : List UInt8 → α} {decode' : List UInt8 → β}
    {f : List α → Raw ε α'} {g : List β → Walk κ ε β'}
    (hdecode : ∀ bytes, bytes.length = size → R (decode bytes) (decode' bytes)) :
    ∀ (i : Nat), i * size ≤ n →
      (∀ as bs, List.Forall₂ R as bs → Follows (n - i * size) S (f as) (g bs)) →
      Follows n S (RawReader.times i (RawReader.read size decode) >>= f)
        (ByteCursor.times i (ByteCursor.read size decode') >>= g) := by
  intro i
  induction i generalizing n f g with
  | zero =>
    intro _ h
    rw [Nat.zero_mul, Nat.sub_zero] at h
    exact h [] [] .nil
  | succ i ih =>
    intro hle h
    rw [Nat.succ_mul] at hle h
    unfold RawReader.times ByteCursor.times
    rw [bind_assoc, bind_assoc]
    refine read (by omega) fun bytes hbytes => ?_
    rw [bind_assoc, bind_assoc]
    refine ih (by omega) fun as bs hR => ?_
    have hnext := h _ _ (.cons (hdecode bytes hbytes) hR)
    rwa [Nat.add_comm, ← Nat.sub_sub] at hnext

end Follows

end RawReader
