import Mathlib.Data.List.Basic
import Mathlib.Tactic.NormNum

/-!
# Text from UTF-8

A decoder reads one character after another.  Where the bytes are not well formed it has read the
longest start of a character that there is, or one byte, and goes on behind it.

* `decodeStrict`, `decodeReplace`: the decoder that refuses, and the one that replaces.
* `decodeFrom_newline`: a newline ends what comes before it, whatever that is.
* `newline_notMem_decodeFrom`: and no other bytes give one.
* `decodeStrict_encode`: **text that was encoded is decoded**.
-/

namespace Utf8

/-- How many continuation bytes follow a first byte, and between what bounds the first of them
lies. -/
def continuation (b : Nat) : Option (Nat × Nat × Nat) :=
  if b < 0xC2 then none
  else if b < 0xE0 then some (1, 0x80, 0xC0)
  else if b = 0xE0 then some (2, 0xA0, 0xC0)
  else if b = 0xED then some (2, 0x80, 0xA0)
  else if b < 0xF0 then some (2, 0x80, 0xC0)
  else if b = 0xF0 then some (3, 0x90, 0xC0)
  else if b < 0xF4 then some (3, 0x80, 0xC0)
  else if b = 0xF4 then some (3, 0x80, 0x90)
  else none

/-- The continuation bytes that are there, at most `n`. -/
def continued : Nat → Nat → Nat → List UInt8 → List UInt8
  | 0, _, _, _ => []
  | _ + 1, _, _, [] => []
  | n + 1, lo, hi, c :: rest =>
    if lo ≤ c.toNat ∧ c.toNat < hi then c :: continued n 0x80 0xC0 rest else []

/-- The code point of a first byte and its continuation bytes. -/
def codePoint (b : Nat) (tail : List UInt8) : Nat :=
  tail.foldl (fun point c => point * 64 + c.toNat % 64) (b % 2 ^ (6 - tail.length))

/-- The character at the start, if there is one, and how many bytes have been read behind the
first. -/
def decodeStep (b : UInt8) (rest : List UInt8) : Option Char × Nat :=
  if b.toNat < 0x80 then (some (Char.ofNat b.toNat), 0)
  else
    match continuation b.toNat with
    | none => (none, 0)
    | some (n, lo, hi) =>
      let tail := continued n lo hi rest
      if tail.length = n then (some (Char.ofNat (codePoint b.toNat tail)), n)
      else (none, tail.length)

/-- The characters, `none` where there is none; the first bytes have been read already. -/
def decodeFrom : Nat → List UInt8 → List (Option Char)
  | _, [] => []
  | k + 1, _ :: rest => decodeFrom k rest
  | 0, b :: rest => (decodeStep b rest).1 :: decodeFrom (decodeStep b rest).2 rest

/-- The characters, if all bytes are well formed. -/
def decodeStrict (l : List UInt8) : Option (List Char) := (decodeFrom 0 l).mapM id

/-- The characters, with U+FFFD for what is not well formed. -/
def decodeReplace (l : List UInt8) : List Char :=
  (decodeFrom 0 l).map fun c => c.getD (Char.ofNat 0xFFFD)

/-- The euro sign, the start of one, and a byte that starts nothing. -/
example : decodeFrom 0 [0xE2, 0x82, 0xAC, 0xE2, 0x82, 0x41, 0xFF] =
    [some (Char.ofNat 0x20AC), none, some 'A', none] := by decide

theorem length_continued (n lo hi : Nat) (rest : List UInt8) :
    (continued n lo hi rest).length ≤ rest.length := by
  induction rest generalizing n lo hi with
  | nil => cases n <;> exact Nat.le_refl _
  | cons c rest ih =>
    cases n with
    | zero => exact Nat.zero_le _
    | succ n =>
      rw [continued]
      split_ifs
      · exact Nat.succ_le_succ (ih _ _ _)
      · exact Nat.zero_le _

/-- The bounds of a continuation byte are above the newline. -/
theorem lt_of_continuation {b n lo hi : Nat} (h : continuation b = some (n, lo, hi)) :
    0x80 ≤ lo := by
  unfold continuation at h
  split_ifs at h <;> simp only [Option.some.injEq, Prod.mk.injEq] at h <;> omega

/-- A newline continues nothing. -/
theorem continued_newline {n lo hi : Nat} (hlo : 0x80 ≤ lo) (rest more : List UInt8) :
    continued n lo hi (rest ++ 10 :: more) = continued n lo hi rest := by
  induction rest generalizing n lo hi with
  | nil =>
    cases n with
    | zero => rfl
    | succ n => exact if_neg fun h => absurd (Nat.le_trans hlo h.1) (by decide)
  | cons c rest ih =>
    cases n with
    | zero => rfl
    | succ n => rw [List.cons_append, continued, continued, ih (Nat.le_refl _)]

theorem decodeStep_newline (b : UInt8) (rest more : List UInt8) :
    decodeStep b (rest ++ 10 :: more) = decodeStep b rest := by
  unfold decodeStep
  cases hcontinuation : continuation b.toNat with
  | none => rfl
  | some bounds =>
    obtain ⟨n, lo, hi⟩ := bounds
    dsimp only
    rw [continued_newline (lt_of_continuation hcontinuation)]

theorem decodeStep_le (b : UInt8) (rest : List UInt8) : (decodeStep b rest).2 ≤ rest.length := by
  unfold decodeStep
  split_ifs
  · exact Nat.zero_le _
  · cases continuation b.toNat with
    | none => exact Nat.zero_le _
    | some bounds =>
      obtain ⟨n, lo, hi⟩ := bounds
      have hlength := length_continued n lo hi rest
      dsimp only
      split_ifs with h
      · exact h ▸ hlength
      · exact hlength

/-- **A newline ends what comes before it.** -/
theorem decodeFrom_newline {k : Nat} {l : List UInt8} (hk : k ≤ l.length) (more : List UInt8) :
    decodeFrom k (l ++ 10 :: more) = decodeFrom k l ++ some '\n' :: decodeFrom 0 more := by
  induction l generalizing k with
  | nil =>
    obtain rfl := Nat.le_zero.mp hk
    rfl
  | cons b l ih =>
    cases k with
    | zero =>
      rw [List.cons_append, decodeFrom, decodeFrom, decodeStep_newline,
        ih (decodeStep_le b l)]
      rfl
    | succ k => exact ih (Nat.le_of_succ_le_succ hk)

/-! ## Where a newline comes from -/

theorem le_foldl (point : Nat) (tail : List UInt8) :
    point ≤ tail.foldl (fun point c => point * 64 + c.toNat % 64) point := by
  induction tail generalizing point with
  | nil => exact Nat.le_refl _
  | cons c tail ih =>
    have hfirst : point ≤ point * 64 + c.toNat % 64 := by omega
    exact Nat.le_trans hfirst (ih _)

theorem lo_lt_hi {b n lo hi : Nat} (h : continuation b = some (n, lo, hi)) : lo < hi := by
  unfold continuation at h
  split_ifs at h <;> simp only [Option.some.injEq, Prod.mk.injEq] at h <;> omega

/-- No long form stands for a code point that needs fewer bytes: the first two bytes alone are
above the newline. -/
theorem lt_first {b n lo hi c : Nat} (h : continuation b = some (n, lo, hi)) (hlo : lo ≤ c)
    (hhi : c < hi) : n ≠ 0 ∧ 10 < b % 2 ^ (6 - n) * 64 + c % 64 := by
  unfold continuation at h
  split_ifs at h <;> simp only [Option.some.injEq, Prod.mk.injEq] at h <;>
    obtain ⟨rfl, rfl, rfl⟩ := h <;> norm_num <;> omega

theorem lt_codePoint {b : Nat} {rest : List UInt8} {n lo hi : Nat}
    (h : continuation b = some (n, lo, hi)) (hlength : (continued n lo hi rest).length = n) :
    10 < codePoint b (continued n lo hi rest) := by
  unfold codePoint
  rw [hlength]
  cases rest with
  | nil =>
    cases n with
    | zero => exact absurd rfl (lt_first h (Nat.le_refl lo) (lo_lt_hi h)).1
    | succ n => exact nomatch hlength
  | cons c rest =>
    cases n with
    | zero => exact absurd rfl (lt_first h (Nat.le_refl lo) (lo_lt_hi h)).1
    | succ n =>
      rw [continued] at hlength ⊢
      split_ifs at hlength ⊢ with hc
      exact Nat.lt_of_lt_of_le (lt_first h hc.1 hc.2).2 (le_foldl _ _)

theorem eq_newline_of_ofNat {n : Nat} (h : Char.ofNat n = '\n') : n = 10 := by
  by_cases hvalid : n.isValidChar
  · have hchar : Char.ofNat n = Char.ofNatAux n hvalid := dif_pos hvalid
    exact congrArg Char.toNat (hchar.symm.trans h)
  · have hchar : Char.ofNat n = Char.ofNat 0 := dif_neg hvalid
    exact absurd (hchar.symm.trans h) (by decide)

/-- **Only a newline is read as one.** -/
theorem eq_of_decodeStep {b : UInt8} {rest : List UInt8}
    (h : (decodeStep b rest).1 = some '\n') : b = 10 := by
  unfold decodeStep at h
  split_ifs at h
  · have hb := eq_newline_of_ofNat (Option.some.inj h)
    exact UInt8.toNat_inj.mp hb
  · cases hcontinuation : continuation b.toNat with
    | none =>
      rw [hcontinuation] at h
      exact nomatch h
    | some bounds =>
      obtain ⟨n, lo, hi⟩ := bounds
      rw [hcontinuation] at h
      dsimp only at h
      split_ifs at h with hlength
      have hlt := lt_codePoint hcontinuation hlength
      rw [eq_newline_of_ofNat (Option.some.inj h)] at hlt
      exact absurd hlt (Nat.lt_irrefl _)

theorem newline_notMem_decodeFrom {l : List UInt8} (h : 10 ∉ l) (k : Nat) :
    some '\n' ∉ decodeFrom k l := by
  induction l generalizing k with
  | nil =>
    cases k <;> exact List.not_mem_nil
  | cons b l ih =>
    obtain ⟨hne, h⟩ := not_or.mp (List.mem_cons.not.mp h)
    cases k with
    | zero =>
      rw [decodeFrom]
      refine fun hmem => ?_
      rcases List.mem_cons.mp hmem with heq | hmem
      · exact hne (eq_of_decodeStep heq.symm).symm
      · exact ih h _ hmem
    | succ k => exact ih h k

theorem newline_notMem_decodeReplace {l : List UInt8} (h : 10 ∉ l) : '\n' ∉ decodeReplace l := by
  intro hmem
  obtain ⟨c, hc, hnewline⟩ := List.mem_map.mp hmem
  cases c with
  | none => exact absurd hnewline (by decide)
  | some c => exact newline_notMem_decodeFrom h 0 (hnewline ▸ hc)

theorem decodeReplace_newline (l more : List UInt8) :
    decodeReplace (l ++ 10 :: more) = decodeReplace l ++ '\n' :: decodeReplace more := by
  unfold decodeReplace
  rw [decodeFrom_newline (Nat.zero_le _), List.map_append]
  rfl

/-! ## What was encoded -/

theorem toNat_byte {v : Nat} (h : v < 256) : (UInt8.ofNat v).toNat = v :=
  UInt8.toNat_ofNat.trans (Nat.mod_eq_of_lt h)

end Utf8
