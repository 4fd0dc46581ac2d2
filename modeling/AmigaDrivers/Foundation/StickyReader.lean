import Mathlib.Data.List.Basic

/-!
# Reading fields and asking afterwards

A reader of a byte string that tests before every read, and once a test has failed reads zeros and
remembers it: the parser reads a whole run of fields and asks at the end.  A read may also give up
at once.

The loads are put down with their place and width; nothing reads them.

* `Reads`: how much a reader takes, what it makes of it, and what it insists on.
* `Reads.bind`, `reads_field`, `reads_require`: the rules, one for each step.
* `finish_framed`, `loads_framed`: behind a header that declares a length, a reader succeeds exactly
  when what it takes is covered, and loads nothing further on.
-/

namespace StickyReader

/-- A position in a byte string, of which only the first bytes may be read. -/
structure Reader where
  data : List UInt8
  size : Nat
  pos : Nat := 0
  ok : Bool := true
  loads : List (Nat × Nat) := []

namespace Reader

/-- A reader of the whole string. -/
def start (data : List UInt8) : Reader := { data, size := data.length }

/-- The position is inside, and so is what may be read.  The difference of the two never wraps. -/
structure Good (r : Reader) : Prop where
  inside : r.pos ≤ r.size
  bounded : r.size ≤ r.data.length

/-- The bytes from the position on. -/
def rest (r : Reader) : List UInt8 := r.data.drop r.pos

end Reader

theorem good_start (data : List UInt8) : (Reader.start data).Good := ⟨Nat.zero_le _, Nat.le_refl _⟩

/-- A computation with a reader, which may give up. -/
def Read (α : Type) : Type := Reader → Option α × Reader

variable {α β : Type}

instance : Monad Read where
  pure a r := (some a, r)
  bind m f r :=
    match m r with
    | (none, r) => (none, r)
    | (some a, r) => f a r

theorem pure_apply (a : α) (r : Reader) : (pure a : Read α) r = (some a, r) := rfl

theorem bind_apply (m : Read α) (f : α → Read β) (r : Reader) :
    (m >>= f) r =
      match m r with
      | (none, r) => (none, r)
      | (some a, r) => f a r := rfl

/-! ## The steps -/

/-- The test: `k` bytes are left. -/
def need (r : Reader) (k : Nat) : Bool := r.ok && !decide (r.size - r.pos < k)

/-- Read `n` bytes, or nothing and remember it. -/
def field (n : Nat) (decode : List UInt8 → α) (missing : α) : Read α := fun r =>
  if need r n then
    (some (decode (r.rest.take n)), { r with pos := r.pos + n, loads := r.loads ++ [(r.pos, n)] })
  else (some missing, { r with ok := false })

/-- Pass over `n` bytes. -/
def skip (n : Nat) : Read Unit := fun r =>
  if need r n then (some (), { r with pos := r.pos + n }) else (some (), { r with ok := false })

/-- Give up unless the condition holds. -/
def require (p : Prop) [Decidable p] : Read Unit := fun r => (if p then some () else none, r)

/-- Give up if a read has failed. -/
def check : Read Unit := fun r => (if r.ok then some () else none, r)

/-- Read no further than the first `n` bytes; give up where there are not so many. -/
def limit (n : Nat) : Read Unit := fun r =>
  if n > r.size then (none, r) else (some (), { r with size := n })

/-- What came of a computation, when no read has failed. -/
def finish (p : Option α × Reader) : Option α := if p.2.ok then p.1 else none

theorem finish_eq_some {p : Option α × Reader} {a : α} :
    finish p = some a ↔ p.1 = some a ∧ p.2.ok = true := by
  unfold finish
  cases p.2.ok <;> simp

/-! ## What a computation takes -/

/-- What a computation leaves alone. -/
structure Frame (r s : Reader) : Prop where
  data : s.data = r.data
  size : s.size = r.size
  inside : r.pos ≤ r.size → s.pos ≤ s.size
  ok : s.ok = true → r.ok = true
  failed : r.ok = false → s.loads = r.loads

theorem Frame.refl (r : Reader) : Frame r r := ⟨rfl, rfl, id, id, fun _ => rfl⟩

theorem Frame.good {r s : Reader} (h : Frame r s) (hr : r.Good) : s.Good := by
  refine ⟨h.inside hr.inside, ?_⟩
  rw [h.size, h.data]
  exact hr.bounded

theorem Frame.trans {r s t : Reader} (h : Frame r s) (h' : Frame s t) : Frame r t where
  data := h'.data.trans h.data
  size := h'.size.trans h.size
  inside := h'.inside ∘ h.inside
  ok := h.ok ∘ h'.ok
  failed hr := by
    have hs : s.ok = false := eq_false_of_ne_true fun hok => nomatch hr.symm.trans (h.ok hok)
    exact (h'.failed hs).trans (h.failed hr)

/-- The computation takes `size` of the bytes before it, makes `value` of them, and insists on
`cond`; it loads nothing else. -/
structure Reads (m : Read α) (size : List UInt8 → Nat) (value : List UInt8 → α)
    (cond : List UInt8 → Prop) : Prop where
  frame : ∀ r, Frame r (m r).2
  loads : ∀ r, r.Good → ∀ e ∈ (m r).2.loads, e ∈ r.loads ∨
    e.1 + e.2 ≤ r.size ∧ e.1 + e.2 ≤ r.pos + size r.rest
  succeeds : ∀ r, r.Good → (((m r).1.isSome = true ∧ (m r).2.ok = true) ↔
    r.ok = true ∧ r.pos + size r.rest ≤ r.size ∧ cond r.rest)
  value : ∀ r a, r.Good → (m r).1 = some a → (m r).2.ok = true →
    a = value r.rest ∧ (m r).2.pos = r.pos + size r.rest

theorem rest_eq {r s : Reader} {n : Nat} (hdata : s.data = r.data) (hpos : s.pos = r.pos + n) :
    s.rest = r.rest.drop n := by
  unfold Reader.rest
  rw [hdata, hpos, List.drop_drop]

theorem Reads.congr {m : Read α} {size size' : List UInt8 → Nat} {value value' : List UInt8 → α}
    {cond cond' : List UInt8 → Prop} (h : Reads m size value cond) (hsize : size = size')
    (hvalue : value = value') (hcond : ∀ l, cond l ↔ cond' l) : Reads m size' value' cond' := by
  obtain rfl : cond = cond' := funext fun l => propext (hcond l)
  exact hsize ▸ hvalue ▸ h

theorem reads_pure (a : α) : Reads (pure a : Read α) (fun _ => 0) (fun _ => a) (fun _ => True) where
  frame r := .refl r
  loads _ _ _ he := .inl he
  succeeds _ hr := ⟨fun h => ⟨h.2, hr.inside, trivial⟩, fun h => ⟨rfl, h.1⟩⟩
  value _ _ _ ha _ := ⟨(Option.some.inj ha).symm, rfl⟩

/-- One computation after another. -/
theorem Reads.bind {m : Read α} {f : α → Read β} {size : List UInt8 → Nat}
    {value : List UInt8 → α} {cond : List UInt8 → Prop} {size' : α → List UInt8 → Nat}
    {value' : α → List UInt8 → β} {cond' : α → List UInt8 → Prop} (hm : Reads m size value cond)
    (hf : ∀ a, Reads (f a) (size' a) (value' a) (cond' a)) :
    Reads (m >>= f) (fun l => size l + size' (value l) (l.drop (size l)))
      (fun l => value' (value l) (l.drop (size l)))
      (fun l => cond l ∧ cond' (value l) (l.drop (size l))) := by
  refine ⟨fun r => ?_, fun r hr e he => ?_, fun r hr => ?_, fun r b hr hb hok => ?_⟩
  · have hframe := hm.frame r
    rw [bind_apply]
    generalize m r = p at hframe ⊢
    obtain ⟨_ | a, s⟩ := p
    · exact hframe
    · exact hframe.trans ((hf a).frame s)
  · have hframe := hm.frame r
    have hloads := hm.loads r hr
    have hvalue := hm.value r
    rw [bind_apply] at he
    generalize m r = p at hframe hloads hvalue he
    obtain ⟨_ | a, s⟩ := p
    · obtain hold | ⟨hsize, hend⟩ := hloads e he
      · exact .inl hold
      · exact .inr ⟨hsize, by omega⟩
    · dsimp only at hframe hloads hvalue he
      have hnew : e ∈ s.loads ∨ e.1 + e.2 ≤ r.size ∧
          e.1 + e.2 ≤ r.pos + (size r.rest + size' (value r.rest) (r.rest.drop (size r.rest))) := by
        cases hok : s.ok with
        | false => exact .inl (((hf a).frame s).failed hok ▸ he)
        | true =>
          obtain ⟨rfl, hpos⟩ := hvalue a hr rfl hok
          have hlater := (hf _).loads s (hframe.good hr) e he
          rw [hframe.size, rest_eq hframe.data hpos, hpos, Nat.add_assoc] at hlater
          exact hlater
      obtain hmid | hnew := hnew
      · obtain hold | ⟨hsize, hend⟩ := hloads e hmid
        · exact .inl hold
        · exact .inr ⟨hsize, by omega⟩
      · exact .inr hnew
  · have hframe := hm.frame r
    have hsucceeds := hm.succeeds r hr
    have hvalue := hm.value r
    rw [bind_apply]
    generalize m r = p at hframe hsucceeds hvalue ⊢
    obtain ⟨_ | a, s⟩ := p
    · refine iff_of_false (fun h => nomatch h.1) ?_
      rintro ⟨hok, hfits, hcond, -⟩
      exact nomatch (hsucceeds.mpr ⟨hok, by omega, hcond⟩).1
    · dsimp only at hframe hsucceeds hvalue ⊢
      rw [(hf a).succeeds s (hframe.good hr)]
      constructor
      · rintro ⟨hok, hfits, hcond'⟩
        obtain ⟨hrok, -, hcond⟩ := hsucceeds.mp ⟨rfl, hok⟩
        obtain ⟨rfl, hpos⟩ := hvalue a hr rfl hok
        rw [rest_eq hframe.data hpos, hpos, hframe.size, Nat.add_assoc] at hfits
        rw [rest_eq hframe.data hpos] at hcond'
        exact ⟨hrok, hfits, hcond, hcond'⟩
      · rintro ⟨hrok, hfits, hcond, hcond'⟩
        obtain ⟨-, hok⟩ := hsucceeds.mpr ⟨hrok, by omega, hcond⟩
        obtain ⟨rfl, hpos⟩ := hvalue a hr rfl hok
        rw [rest_eq hframe.data hpos, hpos, hframe.size, Nat.add_assoc]
        exact ⟨hok, hfits, hcond'⟩
  · have hframe := hm.frame r
    have hvalue := hm.value r
    rw [bind_apply] at hb hok ⊢
    generalize m r = p at hframe hvalue hb hok ⊢
    obtain ⟨_ | a, s⟩ := p
    · exact nomatch hb
    · dsimp only at hframe hvalue hb hok ⊢
      obtain ⟨rfl, hpos⟩ := hvalue a hr rfl (((hf a).frame s).ok hok)
      obtain ⟨rfl, hpos'⟩ := (hf _).value s b (hframe.good hr) hb hok
      rw [rest_eq hframe.data hpos] at hpos' ⊢
      exact ⟨rfl, by rw [hpos', hpos, Nat.add_assoc]⟩

theorem need_eq_true {r : Reader} (hr : r.Good) (k : Nat) :
    need r k = true ↔ r.ok = true ∧ r.pos + k ≤ r.size := by
  have hin := hr.inside
  unfold need
  rw [Bool.and_eq_true, Bool.not_eq_true', decide_eq_false_iff_not]
  exact and_congr_right fun _ => by omega

/-- A test that passes leaves room. -/
theorem pos_le_of_need {r : Reader} {k : Nat} (h : need r k = true) (hin : r.pos ≤ r.size) :
    r.ok = true ∧ r.pos + k ≤ r.size := by
  unfold need at h
  rw [Bool.and_eq_true, Bool.not_eq_true', decide_eq_false_iff_not] at h
  exact ⟨h.1, by omega⟩

theorem reads_field (n : Nat) (decode : List UInt8 → α) (missing : α) :
    Reads (field n decode missing) (fun _ => n) (fun l => decode (l.take n)) (fun _ => True) := by
  refine ⟨fun r => ?_, fun r hr e he => ?_, fun r hr => ?_, fun r a hr ha hok => ?_⟩
  · unfold field
    split_ifs with h
    · have hok : r.ok = true := (Bool.and_eq_true_iff.mp h).1
      exact ⟨rfl, rfl, fun hin => (pos_le_of_need h hin).2, fun _ => hok,
        fun hbad => nomatch hok.symm.trans hbad⟩
    · exact ⟨rfl, rfl, id, nofun, fun _ => rfl⟩
  · unfold field at he
    split_ifs at he with h
    · obtain hold | hnew := List.mem_append.mp he
      · exact .inl hold
      · obtain rfl := List.mem_singleton.mp hnew
        exact .inr ⟨(pos_le_of_need h hr.inside).2, Nat.le_refl _⟩
    · exact .inl he
  · have hneed := need_eq_true hr n
    unfold field
    split_ifs with h
    · obtain ⟨hok, hfits⟩ := hneed.mp h
      exact iff_of_true ⟨rfl, hok⟩ ⟨hok, hfits, trivial⟩
    · exact iff_of_false (fun hbad => nomatch hbad.2)
        fun ⟨hok, hfits, _⟩ => h (hneed.mpr ⟨hok, hfits⟩)
  · unfold field at ha hok ⊢
    split_ifs at ha hok ⊢ with h
    exact ⟨(Option.some.inj ha).symm, rfl⟩

theorem reads_skip (n : Nat) : Reads (skip n) (fun _ => n) (fun _ => ()) (fun _ => True) := by
  refine ⟨fun r => ?_, fun r hr e he => ?_, fun r hr => ?_, fun r a hr ha hok => ?_⟩
  · unfold skip
    split_ifs with h
    · have hok : r.ok = true := (Bool.and_eq_true_iff.mp h).1
      exact ⟨rfl, rfl, fun hin => (pos_le_of_need h hin).2, fun _ => hok, fun _ => rfl⟩
    · exact ⟨rfl, rfl, id, nofun, fun _ => rfl⟩
  · unfold skip at he
    split_ifs at he <;> exact .inl he
  · have hneed := need_eq_true hr n
    unfold skip
    split_ifs with h
    · obtain ⟨hok, hfits⟩ := hneed.mp h
      exact iff_of_true ⟨rfl, hok⟩ ⟨hok, hfits, trivial⟩
    · exact iff_of_false (fun hbad => nomatch hbad.2)
        fun ⟨hok, hfits, _⟩ => h (hneed.mpr ⟨hok, hfits⟩)
  · unfold skip at hok ⊢
    split_ifs at hok ⊢ with h
    exact ⟨rfl, rfl⟩

theorem reads_require (p : Prop) [Decidable p] :
    Reads (require p) (fun _ => 0) (fun _ => ()) (fun _ => p) where
  frame r := .refl r
  loads _ _ _ he := .inl he
  succeeds r hr := by
    unfold require
    split_ifs with h
    · exact ⟨fun hok => ⟨hok.2, hr.inside, h⟩, fun hok => ⟨rfl, hok.1⟩⟩
    · exact iff_of_false (fun hbad => nomatch hbad.1) fun hok => h hok.2.2
  value _ _ _ _ _ := ⟨rfl, rfl⟩

theorem reads_check : Reads check (fun _ => 0) (fun _ => ()) (fun _ => True) where
  frame r := .refl r
  loads _ _ _ he := .inl he
  succeeds r hr := by
    unfold check
    cases hok : r.ok with
    | false => exact iff_of_false (fun hbad => nomatch hbad.1) fun hbad => nomatch hbad.1
    | true => exact iff_of_true ⟨rfl, rfl⟩ ⟨rfl, hr.inside, trivial⟩
  value _ _ _ _ _ := ⟨rfl, rfl⟩

/-! ## A header that says how long the whole is -/

/-- A header, then no further than it says. -/
def framed (header : Read α) (length : α → Nat) (body : α → Read β) : Read β :=
  header >>= fun a => limit (length a) >>= fun _ => body a

section Framed

variable {header : Read α} {k : Nat} {value : List UInt8 → α} {cond : List UInt8 → Prop}
  {length : α → Nat} {body : α → Read β} {size' : α → List UInt8 → Nat}
  {value' : α → List UInt8 → β} {cond' : α → List UInt8 → Prop}

theorem framed_apply (r : Reader) :
    framed header length body r =
      match header r with
      | (none, s) => (none, s)
      | (some a, s) =>
        if length a > s.size then (none, s) else body a { s with size := length a } := by
  unfold framed
  rw [bind_apply]
  generalize header r = p
  obtain ⟨_ | a, s⟩ := p
  · rfl
  · dsimp only
    rw [bind_apply]
    unfold limit
    split_ifs <;> rfl

/-- A reader whose size is cut behind its position. -/
theorem good_limited {s : Reader} {n : Nat} (hs : s.Good) (hpos : s.pos ≤ n) (hn : n ≤ s.size) :
    ({ s with size := n } : Reader).Good := ⟨hpos, Nat.le_trans hn hs.bounded⟩

theorem rest_limited {r s : Reader} {n : Nat} (hframe : Frame r s) (hpos : s.pos = r.pos + k) :
    ({ s with size := n } : Reader).rest = r.rest.drop k :=
  rest_eq (s := { s with size := n }) hframe.data hpos

/-- **A framed computation succeeds exactly when the header is right, says no more than there is,
and covers what the body takes.** -/
theorem finish_framed (hm : Reads header (fun _ => k) value cond)
    (hf : ∀ a, Reads (body a) (size' a) (value' a) (cond' a))
    (hlong : ∀ l, cond l → k ≤ length (value l)) (data : List UInt8) (b : β) :
    finish (framed header length body (.start data)) = some b ↔
      b = value' (value data) (data.drop k) ∧ cond data ∧ length (value data) ≤ data.length ∧
        k + size' (value data) (data.drop k) ≤ length (value data) ∧
        cond' (value data) (data.drop k) := by
  have hgood := good_start data
  have hframe := hm.frame (.start data)
  have hsucceeds := hm.succeeds (.start data) hgood
  have hvalue := hm.value (.start data)
  have hrest : (Reader.start data).rest = data := List.drop_zero
  have hsize : (Reader.start data).size = data.length := rfl
  have hstart : (Reader.start data).pos = 0 := rfl
  rw [hrest, hsize, hstart, Nat.zero_add] at hsucceeds
  rw [finish_eq_some, framed_apply]
  generalize header (.start data) = p at hframe hsucceeds hvalue ⊢
  have hneeds : cond data → length (value data) ≤ data.length → k ≤ data.length :=
    fun hcond hle => Nat.le_trans (hlong data hcond) hle
  obtain ⟨_ | a, s⟩ := p
  · refine iff_of_false (fun h => nomatch h.1) ?_
    rintro ⟨-, hcond, hlength, -⟩
    exact nomatch (hsucceeds.mpr ⟨rfl, hneeds hcond hlength, hcond⟩).1
  · dsimp only at hframe hsucceeds hvalue ⊢
    obtain hok | hok := Bool.eq_false_or_eq_true s.ok
    · obtain ⟨rfl, hpos⟩ := hvalue a hgood rfl hok
      obtain ⟨-, hheader, hcond⟩ := hsucceeds.mp ⟨rfl, hok⟩
      rw [hrest]
      rw [hframe.size, hsize]
      split_ifs with hover
      · refine iff_of_false (fun h => nomatch h.1) ?_
        rintro ⟨-, -, hlength, -⟩
        omega
      · have hin : k ≤ length (value data) := hlong data hcond
        have hpos' : s.pos = k := hpos.trans (Nat.zero_add k)
        have hs := good_limited (hframe.good hgood) (hpos' ▸ hin)
          (hframe.size ▸ Nat.le_of_not_lt hover)
        have hbody := (hf (value data)).succeeds _ hs
        have hbodyValue := fun b => (hf (value data)).value _ b hs
        rw [rest_limited hframe hpos, hrest] at hbody
        simp only [rest_limited hframe hpos, hrest] at hbodyValue
        constructor
        · rintro ⟨hb, htok⟩
          obtain ⟨-, hfits, hcond'⟩ := hbody.mp ⟨by rw [hb]; rfl, htok⟩
          exact ⟨(hbodyValue b hb htok).1, hcond, Nat.le_of_not_lt hover, hpos' ▸ hfits, hcond'⟩
        · rintro ⟨rfl, -, -, hfits, hcond'⟩
          obtain ⟨hsome, htok⟩ := hbody.mpr ⟨hok, by rw [hpos']; exact hfits, hcond'⟩
          obtain ⟨b, hb⟩ := Option.isSome_iff_exists.mp hsome
          exact ⟨hb.trans (congrArg some (hbodyValue b hb htok).1), htok⟩
    · refine iff_of_false ?_ ?_
      · rintro ⟨-, htok⟩
        split_ifs at htok
        · exact nomatch hok.symm.trans htok
        · exact nomatch hok.symm.trans (((hf a).frame { s with size := length a }).ok htok)
      · rintro ⟨-, hcond, hlength, -⟩
        exact nomatch hok.symm.trans (hsucceeds.mpr ⟨rfl, hneeds hcond hlength, hcond⟩).2

/-- **Nothing is loaded behind the end of the string, nor behind what the header says**, where that
is behind the header. -/
theorem loads_framed (hm : Reads header (fun _ => k) value cond)
    (hf : ∀ a, Reads (body a) (size' a) (value' a) (cond' a))
    (hlong : ∀ l, cond l → k ≤ length (value l)) (data : List UInt8) :
    ∀ e ∈ (framed header length body (.start data)).2.loads,
      e.1 + e.2 ≤ data.length ∧ e.1 + e.2 ≤ max k (length (value data)) := by
  intro e he
  have hgood := good_start data
  have hframe := hm.frame (.start data)
  have hloads := hm.loads (.start data) hgood
  have hsucceeds := hm.succeeds (.start data) hgood
  have hvalue := hm.value (.start data)
  have hrest : (Reader.start data).rest = data := List.drop_zero
  have hsize : (Reader.start data).size = data.length := rfl
  have hstart : (Reader.start data).pos = 0 := rfl
  rw [hsize, hstart, Nat.zero_add] at hloads
  rw [framed_apply] at he
  generalize header (.start data) = p at hframe hloads hsucceeds hvalue he
  have hheader : e ∈ p.2.loads →
      e.1 + e.2 ≤ data.length ∧ e.1 + e.2 ≤ max k (length (value data)) := by
    intro he
    obtain hbad | ⟨hin, hend⟩ := hloads e he
    · exact nomatch hbad
    · exact ⟨hin, Nat.le_trans hend (Nat.le_max_left _ _)⟩
  obtain ⟨_ | a, s⟩ := p
  · exact hheader he
  · dsimp only at hframe hsucceeds hvalue hheader he
    split_ifs at he with hover
    · exact hheader he
    · obtain hok | hok := Bool.eq_false_or_eq_true s.ok
      · obtain ⟨rfl, hpos⟩ := hvalue a hgood rfl hok
        obtain ⟨-, -, hcond⟩ := hsucceeds.mp ⟨rfl, hok⟩
        rw [hrest] at hcond hover he
        have hs := good_limited (hframe.good hgood)
          (hpos.trans (Nat.zero_add k) ▸ hlong data hcond) (Nat.le_of_not_lt hover)
        obtain hold | ⟨hin, -⟩ := (hf (value data)).loads _ hs e he
        · exact hheader hold
        · refine ⟨?_, Nat.le_trans hin (Nat.le_max_right _ _)⟩
          have hlength : length (value data) ≤ data.length :=
            Nat.le_trans (Nat.le_of_not_lt hover) (Nat.le_of_eq hframe.size)
          exact Nat.le_trans hin hlength
      · have hsame := ((hf a).frame { s with size := length a }).failed hok
        rw [hsame] at he
        exact hheader he

end Framed

end StickyReader
