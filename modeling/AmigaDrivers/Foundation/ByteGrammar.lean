import AmigaDrivers.Foundation.ByteCursor

/-!
# What a walk accepts

A format says which byte strings encode which values.  A walk recognises a format when it takes
exactly the encodings of its values from the bytes in front of it, whatever stands behind them.

A walk that skips bytes without a test relies on a test made before.  So a format is recognised
from cursors with a number of bytes left, the budget of the walk: a test raises it, and a step
spends what it takes.

* `Takes`: the move of a cursor over some bytes.
* `Recognises`: a walk and its format.
* `Recognises.bind`, `Recognises.require`, `Recognises.guardOr`, `Recognises.times`: the format of
  a walk from those of its parts.
-/

namespace ByteCursor

variable {κ ε α β : Type}

/-- From one cursor to another over some bytes. -/
structure Takes (c : Cursor κ) (bytes : List UInt8) (c' : Cursor κ) : Prop where
  data : c'.data = c.data
  pos : c'.pos = c.pos + bytes.length
  there : bytes <+: c.rest

namespace Takes

variable {c c' c'' : Cursor κ} {bytes more : List UInt8}

theorem rest (h : Takes c bytes c') : c.rest = bytes ++ c'.rest := by
  obtain ⟨tail, htail⟩ := h.there
  rw [← htail]
  unfold Cursor.rest at htail ⊢
  rw [h.data, h.pos, ← List.drop_drop, ← htail, List.drop_left]

theorem refl (c : Cursor κ) : Takes c [] c := ⟨rfl, rfl, List.nil_prefix⟩

theorem note (c : Cursor κ) (k : κ) : Takes c [] (c.note k) := ⟨rfl, rfl, List.nil_prefix⟩

theorem advance {n : Nat} (hlength : bytes.length = n) (hthere : bytes <+: c.rest) :
    Takes c bytes (c.advance n) :=
  ⟨rfl, by rw [Cursor.advance_pos, hlength], hthere⟩

theorem trans (h : Takes c bytes c') (h' : Takes c' more c'') : Takes c (bytes ++ more) c'' := by
  refine ⟨h'.data.trans h.data, ?_, ?_⟩
  · rw [h'.pos, h.pos, List.length_append, Nat.add_assoc]
  · obtain ⟨tail, htail⟩ := h'.there
    exact ⟨tail, by rw [h.rest, ← htail, List.append_assoc]⟩

theorem le_remaining (h : Takes c bytes c') : bytes.length ≤ c.remaining := by
  have hle := h.there.length_le
  unfold Cursor.rest at hle
  rwa [List.length_drop] at hle

/-- What is left of the budget. -/
theorem hasBytes (h : Takes c bytes c') {k : Nat} (hc : c.HasBytes k) :
    c'.HasBytes (k - bytes.length) := by
  have hle := h.le_remaining
  unfold Cursor.remaining at hle
  unfold Cursor.HasBytes at hc ⊢
  rw [h.data, h.pos]
  omega

/-- Behind the first part of the bytes stands the second. -/
theorem there_right (h : Takes c bytes c') (hboth : bytes ++ more <+: c.rest) : more <+: c'.rest := by
  obtain ⟨tail, htail⟩ := hboth
  refine ⟨tail, ?_⟩
  rw [h.rest, List.append_assoc] at htail
  exact List.append_cancel_left htail

end Takes

/-- A test for `n` bytes holds before `n` bytes and more. -/
theorem hasBytes_of_there {c : Cursor κ} {bytes : List UInt8} {k n : Nat} (hc : c.HasBytes k)
    (hthere : bytes <+: c.rest) (hn : n ≤ bytes.length) : c.HasBytes n := by
  have hle := hthere.length_le
  unfold Cursor.rest at hle
  rw [List.length_drop] at hle
  exact ⟨hc.1, Nat.le_trans hn hle⟩

/-- From a cursor with `k` bytes left, the walk takes exactly the encodings of its values. -/
structure Recognises (k : Nat) (m : Walk κ ε α) (G : α → List UInt8 → Prop) : Prop where
  sound : ∀ {c c' : Cursor κ} {a : α}, c.HasBytes k → m c = .ok (a, c') →
    ∃ bytes, G a bytes ∧ Takes c bytes c'
  complete : ∀ {c : Cursor κ} {a : α} {bytes : List UInt8}, c.HasBytes k → G a bytes →
    bytes <+: c.rest → ∃ c', m c = .ok (a, c') ∧ Takes c bytes c'

namespace Recognises

variable {k n : Nat} {m : Walk κ ε α} {G G' : α → List UInt8 → Prop}

/-- The same format, said otherwise. -/
theorem congr (h : Recognises k m G) (hG : ∀ a bytes, G a bytes ↔ G' a bytes) :
    Recognises k m G' where
  sound hc hm := by
    obtain ⟨bytes, hbytes, htakes⟩ := h.sound hc hm
    exact ⟨bytes, (hG _ _).1 hbytes, htakes⟩
  complete hc hbytes hthere := h.complete hc ((hG _ _).2 hbytes) hthere

/-- A larger budget. -/
theorem mono (h : Recognises k m G) {k' : Nat} (hk : k ≤ k') : Recognises k' m G where
  sound hc hm := h.sound (hc.mono hk) hm
  complete hc hbytes hthere := h.complete (hc.mono hk) hbytes hthere

/-! ## Steps -/

theorem pure (a : α) : Recognises k (pure a : Walk κ ε α) fun x bytes => x = a ∧ bytes = [] where
  sound {c c' x} _ hm := by
    obtain ⟨hx, hc⟩ := pure_eq_ok.mp hm
    exact ⟨[], ⟨hx, rfl⟩, hc ▸ Takes.refl c⟩
  complete {c x bytes} _ hbytes _ := by
    obtain ⟨rfl, rfl⟩ := hbytes
    exact ⟨c, rfl, Takes.refl c⟩

/-- A read takes `n` bytes, whatever they are. -/
theorem read (n : Nat) (decode : List UInt8 → α) :
    Recognises k (read n decode : Walk κ ε α) fun a bytes => bytes.length = n ∧ a = decode bytes where
  sound {c c' a} _ hm := by
    obtain ⟨hhas, ha, rfl⟩ := read_eq_ok.mp hm
    have hlength : (c.rest.take n).length = n := by
      unfold Cursor.rest
      rw [List.length_take, List.length_drop]
      exact Nat.min_eq_left hhas.2
    exact ⟨c.rest.take n, ⟨hlength, ha⟩, Takes.advance hlength (List.take_prefix _ _)⟩
  complete {c a bytes} hc hbytes hthere := by
    obtain ⟨hlength, rfl⟩ := hbytes
    refine ⟨c.advance n, ?_, Takes.advance hlength hthere⟩
    obtain ⟨tail, htail⟩ := hthere
    have htake : c.rest.take n = bytes := by
      rw [← htail, ← hlength, List.take_left]
    rw [read_of_hasBytes (hasBytes_of_there hc ⟨tail, htail⟩ (Nat.le_of_eq hlength.symm)), htake]

/-- So does a skip, within the budget. -/
theorem skip (hn : n ≤ k) :
    Recognises k (skip n : Walk κ ε Unit) fun _ bytes => bytes.length = n where
  sound {c c' a} hc hm := by
    obtain ⟨-, rfl⟩ := Prod.mk.inj (Except.ok.inj hm)
    have hlength : (c.rest.take n).length = n := by
      unfold Cursor.rest
      rw [List.length_take, List.length_drop]
      exact Nat.min_eq_left (Nat.le_trans hn hc.2)
    exact ⟨c.rest.take n, hlength, Takes.advance hlength (List.take_prefix _ _)⟩
  complete {c a bytes} _ hlength hthere := ⟨c.advance n, rfl, Takes.advance hlength hthere⟩

/-! ## Walks -/

/-- One walk behind another. -/
theorem bind {f : α → Walk κ ε β} {H : α → β → List UInt8 → Prop} (hm : Recognises k m G)
    (hf : ∀ a first, G a first → Recognises (k - first.length) (f a) (H a)) :
    Recognises k (m >>= f) fun b bytes =>
      ∃ a first second, G a first ∧ H a b second ∧ bytes = first ++ second where
  sound hc hrun := by
    obtain ⟨a, d, ha, hb⟩ := bind_eq_ok.mp hrun
    obtain ⟨first, hfirst, htakes⟩ := hm.sound hc ha
    obtain ⟨second, hsecond, htakes'⟩ := (hf a first hfirst).sound (htakes.hasBytes hc) hb
    exact ⟨first ++ second, ⟨a, first, second, hfirst, hsecond, rfl⟩, htakes.trans htakes'⟩
  complete {c b bytes} hc hbytes hthere := by
    obtain ⟨a, first, second, hfirst, hsecond, rfl⟩ := hbytes
    obtain ⟨d, hd, htakes⟩ :=
      hm.complete hc hfirst ((List.prefix_append first second).trans hthere)
    obtain ⟨c', hc', htakes'⟩ := (hf a first hfirst).complete (htakes.hasBytes hc) hsecond
      (htakes.there_right hthere)
    exact ⟨c', (bind_of_ok hd).trans hc', htakes.trans htakes'⟩

/-- A walk that returns a value made of a hidden one, and what it is for the hidden values. -/
theorem bind_hidden {σ : Type} {w : σ → α} {B : σ → List UInt8 → Prop} {f : α → Walk κ ε β}
    {H : σ → β → List UInt8 → Prop} (hm : Recognises 0 m fun a bytes => ∃ s, a = w s ∧ B s bytes)
    (hf : ∀ s, Recognises 0 (f (w s)) (H s)) :
    Recognises 0 (m >>= f) fun b bytes =>
      ∃ s first, B s first ∧ ∃ second, bytes = first ++ second ∧ H s b second where
  sound hc hrun := by
    obtain ⟨a, d, ha, hb⟩ := bind_eq_ok.mp hrun
    obtain ⟨first, ⟨s, rfl, hfirst⟩, htakes⟩ := hm.sound hc ha
    obtain ⟨second, hsecond, htakes'⟩ :=
      (hf s).sound ((htakes.hasBytes hc).mono (Nat.zero_le _)) hb
    exact ⟨first ++ second, ⟨s, first, hfirst, second, rfl, hsecond⟩, htakes.trans htakes'⟩
  complete {c b bytes} hc hbytes hthere := by
    obtain ⟨s, first, hfirst, second, rfl, hsecond⟩ := hbytes
    obtain ⟨d, hd, htakes⟩ :=
      hm.complete hc ⟨s, rfl, hfirst⟩ ((List.prefix_append first second).trans hthere)
    obtain ⟨c', hc', htakes'⟩ := (hf s).complete ((htakes.hasBytes hc).mono (Nat.zero_le _)) hsecond
      (htakes.there_right hthere)
    exact ⟨c', (bind_of_ok hd).trans hc', htakes.trans htakes'⟩

/-- One walk behind another, without a budget. -/
theorem bind_free {f : α → Walk κ ε β} {H : α → β → List UInt8 → Prop} (hm : Recognises k m G)
    (hf : ∀ a, Recognises 0 (f a) (H a)) :
    Recognises k (m >>= f) fun b bytes =>
      ∃ a first second, G a first ∧ H a b second ∧ bytes = first ++ second :=
  hm.bind fun a _ _ => (hf a).mono (Nat.zero_le _)

/-- A field of a fixed size, and what stands behind it. -/
theorem field {f : α → Walk κ ε β} {H : α → β → List UInt8 → Prop} {ok : α → Prop}
    {encode : α → List UInt8} (hm : Recognises k m fun a bytes => ok a ∧ bytes = encode a)
    (hn : ∀ a, ok a → (encode a).length = n) (hf : ∀ a, ok a → Recognises (k - n) (f a) (H a)) :
    Recognises k (m >>= f) fun b bytes =>
      ∃ a, ok a ∧ ∃ tail, bytes = encode a ++ tail ∧ H a b tail := by
  refine (hm.bind (H := H) ?_).congr ?_
  · rintro a _ ⟨ha, rfl⟩
    rw [hn a ha]
    exact hf a ha
  · intro b bytes
    constructor
    · rintro ⟨a, _, tail, ⟨ha, rfl⟩, hb, rfl⟩
      exact ⟨a, ha, tail, rfl, hb⟩
    · rintro ⟨a, ha, tail, rfl, hb⟩
      exact ⟨a, _, tail, ⟨ha, rfl⟩, hb, rfl⟩

/-- Bytes that are skipped within the budget, and what stands behind them. -/
theorem reserved {f : Unit → Walk κ ε β} {H : β → List UInt8 → Prop} (hn : n ≤ k)
    (hf : Recognises (k - n) (f ()) H) :
    Recognises k (ByteCursor.skip n >>= f) fun b bytes =>
      ∃ skipped : List UInt8, skipped.length = n ∧ ∃ tail, bytes = skipped ++ tail ∧ H b tail := by
  refine ((Recognises.skip hn).bind (H := fun _ => H) ?_).congr ?_
  · rintro _ skipped rfl
    exact hf
  · intro b bytes
    constructor
    · rintro ⟨_, skipped, tail, hlength, hb, rfl⟩
      exact ⟨skipped, hlength, tail, rfl, hb⟩
    · rintro ⟨skipped, hlength, tail, rfl, hb⟩
      exact ⟨(), skipped, tail, hlength, hb, rfl⟩

/-- A test for bytes that the format has anyway. -/
theorem require {e : ε} {f : Unit → Walk κ ε β} {H : β → List UInt8 → Prop}
    (hf : Recognises n (f ()) H) (hn : ∀ b bytes, H b bytes → n ≤ bytes.length) :
    Recognises k (require n e >>= f) H where
  sound hc hrun := by
    obtain ⟨hhas, hb⟩ := require_bind_eq_ok.mp hrun
    exact hf.sound hhas hb
  complete hc hbytes hthere := by
    have hhas := hasBytes_of_there hc hthere (hn _ _ hbytes)
    obtain ⟨c', hc', htakes⟩ := hf.complete hhas hbytes hthere
    exact ⟨c', (require_bind hhas).trans hc', htakes⟩

/-- A test on a value. -/
theorem guardOr {p : Prop} [Decidable p] {e : ε} {f : Unit → Walk κ ε β}
    {H : β → List UInt8 → Prop} (hf : p → Recognises k (f ()) H) :
    Recognises k (guardOr (fun _ => p) e >>= f) fun b bytes => p ∧ H b bytes where
  sound hc hrun := by
    obtain ⟨hp, hb⟩ := guardOr_bind_eq_ok.mp hrun
    obtain ⟨bytes, hbytes, htakes⟩ := (hf hp).sound hc hb
    exact ⟨bytes, ⟨hp, hbytes⟩, htakes⟩
  complete {c b bytes} hc hbytes hthere := by
    obtain ⟨hp, hbytes⟩ := hbytes
    obtain ⟨c', hc', htakes⟩ := (hf hp).complete hc hbytes hthere
    have hguard : (ByteCursor.guardOr (fun _ => p) e >>= f) c = f () c := guardOr_bind hp
    exact ⟨c', hguard.trans hc', htakes⟩

/-- A choice by a value. -/
theorem ite {p : Prop} [Decidable p] {x y : Walk κ ε α} (hx : p → Recognises k x G)
    (hy : ¬p → Recognises k y G') :
    Recognises k (if p then x else y) fun a bytes => p ∧ G a bytes ∨ ¬p ∧ G' a bytes := by
  by_cases hp : p
  · rw [if_pos hp]
    exact (hx hp).congr fun _ _ => ⟨fun h => .inl ⟨hp, h⟩, fun h => h.elim And.right
      fun h => absurd hp h.1⟩
  · rw [if_neg hp]
    exact (hy hp).congr fun _ _ => ⟨fun h => .inr ⟨hp, h⟩, fun h => h.elim
      (fun h => absurd h.1 hp) And.right⟩

/-- A note takes nothing. -/
theorem note (x : κ) {f : Unit → Walk κ ε β} {H : β → List UInt8 → Prop}
    (hf : Recognises k (f ()) H) : Recognises k (note x >>= f) H where
  sound {c c' b} hc hrun := by
    obtain ⟨bytes, hbytes, htakes⟩ := hf.sound (c := c.note x) hc hrun
    exact ⟨bytes, hbytes, (Takes.note c x).trans htakes⟩
  complete {c b bytes} hc hbytes hthere := by
    obtain ⟨c', hc', htakes⟩ := hf.complete (c := c.note x) hc hbytes hthere
    exact ⟨c', hc', (Takes.note c x).trans htakes⟩

/-- The same walk several times over: the encodings one behind another. -/
theorem times {ok : α → Prop} {encode : α → List UInt8}
    (hm : Recognises 0 m fun a bytes => ok a ∧ bytes = encode a) :
    ∀ n, Recognises 0 (times n m : Walk κ ε (List α)) fun as bytes =>
      as.length = n ∧ (∀ a ∈ as, ok a) ∧ bytes = as.flatMap encode
  | 0 => by
    refine (Recognises.pure []).congr fun as bytes => ⟨?_, ?_⟩
    · rintro ⟨rfl, rfl⟩
      exact ⟨rfl, nofun, rfl⟩
    · rintro ⟨hlength, -, rfl⟩
      obtain rfl := List.eq_nil_of_length_eq_zero hlength
      exact ⟨rfl, rfl⟩
  | n + 1 => by
    refine (hm.bind_free fun a => (times hm n).bind_free fun as => .pure (a :: as)).congr ?_
    intro all bytes
    constructor
    · rintro ⟨a, _, _, ⟨hfirst, rfl⟩, ⟨as, _, _, ⟨hlength, hrest, rfl⟩, ⟨rfl, rfl⟩, rfl⟩, rfl⟩
      refine ⟨by rw [List.length_cons, hlength], ?_, ?_⟩
      · intro x hx
        obtain rfl | hx := List.mem_cons.mp hx
        · exact hfirst
        · exact hrest x hx
      · rw [List.append_nil, List.flatMap_cons]
    · rintro ⟨hlength, hall, rfl⟩
      cases all with
      | nil => exact nomatch hlength
      | cons a as =>
        refine ⟨a, encode a, as.flatMap encode, ⟨hall a List.mem_cons_self, rfl⟩, ?_,
          List.flatMap_cons⟩
        exact ⟨as, as.flatMap encode, [],
          ⟨Nat.succ.inj hlength, fun x hx => hall x (List.mem_cons_of_mem a hx), rfl⟩,
          ⟨rfl, rfl⟩, (List.append_nil _).symm⟩

end Recognises

end ByteCursor
