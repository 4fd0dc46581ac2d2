import AmigaDrivers.Lms.FrameReceiver

/-!
# Resynchronisation as a token stream

`FrameReceiver` keeps positions into a buffer that it compacts after every call.
What it decides does not depend on them: one look at the bytes from the scan
position yields a `Token`, and only the bytes themselves and the number of bytes
an earlier rejected candidate already accounts for matter.  This file states that
reading without positions.

* `nextToken`: what one look at the remaining bytes decides.
* `nextToken_append_of_wait`, `nextToken_append_of_not_wait`: a decision made on a
  prefix of the stream stands, and a postponed decision is the later decision,
  shifted by the bytes already dropped.
* `Drains`: the reports of a stretch of bytes, from the first look to the look that
  has to wait for more.
* `Drains.append`: draining a stretch and then what is left of it with more bytes
  is draining the longer stretch.  This is independence of chunking.
-/

namespace AmigaDrivers
namespace Lms

open FrameReceiver

/-! ## Where the next start stands -/

theorem length_of_startsWithStx {l : List UInt8} (h : startsWithStx l = true) :
    stxSize ≤ l.length := by
  have hlen := congrArg List.length (beq_iff_eq.mp h)
  simp only [List.length_take, List.length_cons, List.length_nil] at hlen
  unfold stxSize at hlen ⊢
  omega

/-- Four bytes decide whether a start stands here. -/
theorem startsWithStx_append (l m : List UInt8) (h : stxSize ≤ l.length) :
    startsWithStx (l ++ m) = startsWithStx l := by
  unfold startsWithStx
  rw [List.take_append_of_le_length h]

theorem startsWithStx_append_of_true {l : List UInt8} (m : List UInt8)
    (h : startsWithStx l = true) : startsWithStx (l ++ m) = true := by
  rw [startsWithStx_append l m (length_of_startsWithStx h), h]

theorem stxIndex_of_startsWithStx {l : List UInt8} (h : startsWithStx l = true) :
    stxIndex l = some 0 := by
  cases l with
  | nil => exact absurd h (by decide)
  | cons b l => rw [stxIndex, if_pos h]

/-- The index found is the place of a start. -/
theorem startsWithStx_drop_of_stxIndex :
    ∀ {l : List UInt8} {i : Nat}, stxIndex l = some i → startsWithStx (l.drop i) = true
  | [], _, h => by simp [stxIndex] at h
  | b :: l, i, h => by
    rw [stxIndex] at h
    split at h
    · next hb =>
      obtain rfl : 0 = i := Option.some.inj h
      exact hb
    · obtain ⟨j, hj, rfl⟩ := Option.map_eq_some_iff.mp h
      rw [List.drop_succ_cons]
      exact startsWithStx_drop_of_stxIndex hj

theorem add_stxSize_le_of_stxIndex {l : List UInt8} {i : Nat} (h : stxIndex l = some i) :
    i + stxSize ≤ l.length := by
  have hlen := length_of_startsWithStx (startsWithStx_drop_of_stxIndex h)
  rw [List.length_drop] at hlen
  unfold stxSize at hlen ⊢
  omega

/-- Fewer than four bytes hold no start. -/
theorem stxIndex_eq_none_of_short {l : List UInt8} (h : l.length < stxSize) :
    stxIndex l = none := by
  cases hi : stxIndex l with
  | none => rfl
  | some i =>
    have := add_stxSize_le_of_stxIndex hi
    omega

/-- A start found in a prefix is the first start of the whole. -/
theorem stxIndex_append_of_some (m : List UInt8) :
    ∀ {l : List UInt8} {i : Nat}, stxIndex l = some i → stxIndex (l ++ m) = some i
  | [], _, h => by simp [stxIndex] at h
  | b :: l, i, h => by
    rw [stxIndex] at h
    rw [List.cons_append, stxIndex]
    split at h
    · next hb =>
      have hb' : startsWithStx (b :: (l ++ m)) = true := startsWithStx_append_of_true m hb
      rw [if_pos hb']
      exact h
    · next hb =>
      obtain ⟨j, hj, rfl⟩ := Option.map_eq_some_iff.mp h
      have hlen := add_stxSize_le_of_stxIndex hj
      have hlen' : stxSize ≤ (b :: l).length := by rw [List.length_cons]; omega
      rw [← List.cons_append, startsWithStx_append _ m hlen', if_neg hb,
        stxIndex_append_of_some m hj]
      rfl

/-- Without a start in the prefix, all but its last three bytes can be dropped
before more bytes are searched. -/
theorem stxIndex_append_of_none (m : List UInt8) :
    ∀ (d : Nat) {l : List UInt8}, stxIndex l = none → d ≤ l.length - 3 →
      stxIndex (l ++ m) = (stxIndex (l.drop d ++ m)).map (· + d)
  | 0, l, _, _ => by simp
  | d + 1, [], _, hd => by simp at hd
  | d + 1, b :: l, h, hd => by
    rw [List.length_cons] at hd
    rw [stxIndex] at h
    split at h
    · exact absurd h (by simp)
    · next hb =>
      have hl : stxIndex l = none := Option.map_eq_none_iff.mp h
      have hlen : stxSize ≤ (b :: l).length := by
        rw [List.length_cons]
        unfold stxSize
        omega
      rw [List.cons_append, stxIndex, ← List.cons_append, startsWithStx_append _ m hlen,
        if_neg hb, List.drop_succ_cons, stxIndex_append_of_none m d hl (by omega),
        Option.map_map]
      rfl

/-! ## Tokens -/

/-- What one look at the bytes from the scan position decides; `skip` bytes stand
before the place it is about.

* `wait`: the bytes from there on stay until more arrive;
* `reject`: a candidate with a length out of range, accounting for `extent` bytes;
* `frame`: a complete frame of `size` bytes. -/
inductive Token
  | wait (skip : Nat)
  | reject (skip extent : Nat)
  | frame (skip size : Nat) (checksumValid : Bool)
  deriving DecidableEq, Repr

/-- The same decision seen from `d` bytes further back. -/
def Token.shift (d : Nat) : Token → Token
  | .wait skip => .wait (skip + d)
  | .reject skip extent => .reject (skip + d) extent
  | .frame skip size valid => .frame (skip + d) size valid

/-- The decision about a candidate whose start stands at the head of the list. -/
def candidateToken (maxFrameSize : Nat) (bytes : List UInt8) : Token :=
  if bytes.length < headerSize then
    .wait 0
  else
    let dataLen := ByteUtil.loadBigU32 (bytes.drop stxSize)
    if dataLen = 0 ∨ dataLen > maxFrameSize then
      .reject 0 (headerSize + (if dataLen = 0 then 1 else 0))
    else if bytes.length < headerSize + dataLen + 1 then
      .wait 0
    else
      .frame 0 (headerSize + dataLen + 1)
        (computeChecksum ((bytes.drop headerSize).take dataLen) ==
          bytes.getD (headerSize + dataLen) 0)

/-- What one look at the bytes from the scan position decides. -/
def nextToken (maxFrameSize : Nat) (bytes : List UInt8) : Token :=
  match stxIndex bytes with
  | none => .wait (bytes.length - 3)
  | some i => (candidateToken maxFrameSize (bytes.drop i)).shift i

@[simp] theorem Token.shift_shift (d e : Nat) (t : Token) :
    (t.shift d).shift e = t.shift (d + e) := by
  cases t <;> simp [Token.shift, Nat.add_assoc]

@[simp] theorem Token.shift_zero (t : Token) : t.shift 0 = t := by
  cases t <;> simp [Token.shift]

theorem Token.shift_eq_wait {t : Token} {d n : Nat} (h : t.shift d = .wait n) :
    ∃ skip, t = .wait skip ∧ n = skip + d := by
  cases t <;> simp [Token.shift] at h ⊢
  omega

/-- Decisions about a candidate never look past the bytes they are made on: more
bytes change nothing unless the candidate had to wait. -/
theorem candidateToken_append {maxFrameSize : Nat} {bytes : List UInt8} (m : List UInt8)
    (h : ∀ skip, candidateToken maxFrameSize bytes ≠ .wait skip) :
    candidateToken maxFrameSize (bytes ++ m) = candidateToken maxFrameSize bytes := by
  unfold candidateToken at h ⊢
  by_cases hshort : bytes.length < headerSize
  · simp [hshort] at h
  · have hheader : 4 ≤ (bytes.drop stxSize).length := by
      rw [List.length_drop]
      unfold headerSize stxSize at *
      omega
    have hlen : ByteUtil.loadBigU32 ((bytes ++ m).drop stxSize) =
        ByteUtil.loadBigU32 (bytes.drop stxSize) := by
      rw [List.drop_append_of_le_length (by unfold headerSize stxSize at *; omega),
        ByteUtil.loadBigU32_append _ _ hheader]
    have hnot : ¬ (bytes ++ m).length < headerSize := by
      rw [List.length_append]
      omega
    simp only [if_neg hshort, if_neg hnot, hlen] at h ⊢
    generalize ByteUtil.loadBigU32 (bytes.drop stxSize) = dataLen at h ⊢
    by_cases hrange : dataLen = 0 ∨ dataLen > maxFrameSize
    · simp only [if_pos hrange]
    · simp only [if_neg hrange] at h ⊢
      by_cases htotal : bytes.length < headerSize + dataLen + 1
      · simp [htotal] at h
      · have htotal' : ¬ (bytes ++ m).length < headerSize + dataLen + 1 := by
          rw [List.length_append]
          omega
        have hdata : ((bytes ++ m).drop headerSize).take dataLen =
            (bytes.drop headerSize).take dataLen := by
          rw [List.drop_append_of_le_length (by omega),
            List.take_append_of_le_length (by rw [List.length_drop]; omega)]
        have hcs : (bytes ++ m).getD (headerSize + dataLen) 0 =
            bytes.getD (headerSize + dataLen) 0 :=
          List.getD_append _ _ _ _ (by omega)
        simp only [if_neg htotal, if_neg htotal', hdata, hcs]

theorem candidateToken_wait {maxFrameSize skip : Nat} {bytes : List UInt8}
    (h : candidateToken maxFrameSize bytes = .wait skip) : skip = 0 := by
  unfold candidateToken at h
  simp only at h
  split at h
  · exact (Token.wait.inj h).symm
  · split at h
    · exact absurd h (by simp)
    · split at h
      · exact (Token.wait.inj h).symm
      · exact absurd h (by simp)

/-- A rejected candidate stands inside the bytes and accounts for its header at
least. -/
theorem candidateToken_reject {maxFrameSize skip extent : Nat} {bytes : List UInt8}
    (h : candidateToken maxFrameSize bytes = .reject skip extent) :
    skip = 0 ∧ headerSize ≤ extent ∧ headerSize ≤ bytes.length := by
  unfold candidateToken at h
  simp only at h
  split at h
  · exact absurd h (by simp)
  · split at h
    · obtain ⟨rfl, rfl⟩ := Token.reject.inj h
      exact ⟨rfl, Nat.le_add_right _ _, by omega⟩
    · split at h <;> exact absurd h (by simp)

/-- A frame stands inside the bytes and holds its header and its checksum byte. -/
theorem candidateToken_frame {maxFrameSize skip size : Nat} {valid : Bool}
    {bytes : List UInt8} (h : candidateToken maxFrameSize bytes = .frame skip size valid) :
    skip = 0 ∧ headerSize + 1 ≤ size ∧ size ≤ bytes.length := by
  unfold candidateToken at h
  simp only at h
  split at h
  · exact absurd h (by simp)
  · split at h
    · exact absurd h (by simp)
    · split at h
      · exact absurd h (by simp)
      · obtain ⟨rfl, rfl, -⟩ := Token.frame.inj h
        exact ⟨rfl, by omega, by omega⟩

/-- A decision that need not wait is about the candidate at the first start. -/
theorem nextToken_eq_shift {maxFrameSize : Nat} {bytes : List UInt8} {t : Token}
    (h : nextToken maxFrameSize bytes = t) (hwait : ∀ skip, t ≠ .wait skip) :
    ∃ i, i ≤ bytes.length ∧ (candidateToken maxFrameSize (bytes.drop i)).shift i = t := by
  unfold nextToken at h
  cases hi : stxIndex bytes with
  | none =>
    rw [hi] at h
    exact absurd h.symm (hwait _)
  | some i =>
    rw [hi] at h
    have hle := add_stxSize_le_of_stxIndex hi
    exact ⟨i, by omega, h⟩

theorem bounds_of_wait {maxFrameSize skip : Nat} {bytes : List UInt8}
    (h : nextToken maxFrameSize bytes = .wait skip) : skip ≤ bytes.length := by
  unfold nextToken at h
  cases hi : stxIndex bytes with
  | none =>
    rw [hi] at h
    have := Token.wait.inj h
    omega
  | some i =>
    rw [hi] at h
    have hle := add_stxSize_le_of_stxIndex hi
    obtain ⟨skip', hskip, rfl⟩ := Token.shift_eq_wait h
    obtain rfl := candidateToken_wait hskip
    omega

theorem bounds_of_reject {maxFrameSize skip extent : Nat} {bytes : List UInt8}
    (h : nextToken maxFrameSize bytes = .reject skip extent) :
    skip + 1 ≤ bytes.length ∧ headerSize ≤ extent := by
  obtain ⟨i, hi, hshift⟩ := nextToken_eq_shift h (by simp)
  cases hc : candidateToken maxFrameSize (bytes.drop i) with
  | reject skip' extent' =>
    rw [hc] at hshift
    obtain ⟨rfl, rfl⟩ := Token.reject.inj hshift
    obtain ⟨rfl, hextent, hlen⟩ := candidateToken_reject hc
    rw [List.length_drop] at hlen
    unfold headerSize stxSize at *
    exact ⟨by omega, hextent⟩
  | wait skip' => simp [hc, Token.shift] at hshift
  | frame skip' size valid => simp [hc, Token.shift] at hshift

theorem bounds_of_frame {maxFrameSize skip size : Nat} {valid : Bool} {bytes : List UInt8}
    (h : nextToken maxFrameSize bytes = .frame skip size valid) :
    skip + size ≤ bytes.length ∧ headerSize + 1 ≤ size := by
  obtain ⟨i, hi, hshift⟩ := nextToken_eq_shift h (by simp)
  cases hc : candidateToken maxFrameSize (bytes.drop i) with
  | frame skip' size' valid' =>
    rw [hc] at hshift
    obtain ⟨rfl, rfl, rfl⟩ := Token.frame.inj hshift
    obtain ⟨rfl, hsize, hlen⟩ := candidateToken_frame hc
    rw [List.length_drop] at hlen
    exact ⟨by omega, hsize⟩
  | wait skip' => simp [hc, Token.shift] at hshift
  | reject skip' extent => simp [hc, Token.shift] at hshift

/-- A candidate is rejected for its length field, and accounts for its header; behind
a zero length also for the checksum byte of the empty telegram. -/
theorem header_of_reject {maxFrameSize skip extent : Nat} {bytes : List UInt8}
    (h : nextToken maxFrameSize bytes = .reject skip extent) :
    skip + headerSize ≤ bytes.length ∧ startsWithStx (bytes.drop skip) = true ∧
      (ByteUtil.loadBigU32 (bytes.drop (skip + stxSize)) = 0 ∨
        maxFrameSize < ByteUtil.loadBigU32 (bytes.drop (skip + stxSize))) ∧
      extent = headerSize +
        (if ByteUtil.loadBigU32 (bytes.drop (skip + stxSize)) = 0 then 1 else 0) := by
  unfold nextToken at h
  cases hi : stxIndex bytes with
  | none => simp [hi] at h
  | some i =>
    have hstart := startsWithStx_drop_of_stxIndex hi
    have hle := add_stxSize_le_of_stxIndex hi
    simp only [hi, candidateToken, List.drop_drop, List.length_drop] at h
    by_cases hshort : bytes.length - i < headerSize
    · simp [if_pos hshort, Token.shift] at h
    · rw [if_neg hshort] at h
      by_cases hrange : ByteUtil.loadBigU32 (bytes.drop (i + stxSize)) = 0 ∨
          ByteUtil.loadBigU32 (bytes.drop (i + stxSize)) > maxFrameSize
      · rw [if_pos hrange] at h
        obtain ⟨rfl, rfl⟩ := Token.reject.inj h
        rw [Nat.zero_add]
        exact ⟨by omega, hstart, hrange, rfl⟩
      · rw [if_neg hrange] at h
        split at h <;> simp [Token.shift] at h

/-- A decision made on a prefix stands. -/
theorem nextToken_append_of_not_wait {maxFrameSize : Nat} {bytes : List UInt8}
    (m : List UInt8) (h : ∀ skip, nextToken maxFrameSize bytes ≠ .wait skip) :
    nextToken maxFrameSize (bytes ++ m) = nextToken maxFrameSize bytes := by
  unfold nextToken at h ⊢
  cases hi : stxIndex bytes with
  | none => simp [hi] at h
  | some i =>
    have hle := add_stxSize_le_of_stxIndex hi
    simp only [hi, stxIndex_append_of_some m hi] at h ⊢
    rw [List.drop_append_of_le_length (by omega), candidateToken_append]
    intro skip hskip
    exact h (skip + i) (by rw [hskip]; rfl)

/-- A postponed decision is the later one, seen from further back. -/
theorem nextToken_append_of_wait {maxFrameSize d : Nat} {bytes : List UInt8}
    (m : List UInt8) (h : nextToken maxFrameSize bytes = .wait d) :
    nextToken maxFrameSize (bytes ++ m) =
      (nextToken maxFrameSize (bytes.drop d ++ m)).shift d := by
  unfold nextToken at h ⊢
  cases hi : stxIndex bytes with
  | none =>
    rw [hi] at h
    obtain rfl : bytes.length - 3 = d := Token.wait.inj h
    rw [stxIndex_append_of_none m _ hi (Nat.le_refl _)]
    cases hj : stxIndex (bytes.drop (bytes.length - 3) ++ m) with
    | none =>
      simp only [Option.map_none, Token.shift, List.length_append, List.length_drop]
      congr 1
      -- a stream without a start keeps its last three bytes either way
      omega
    | some j =>
      simp only [Option.map_some, Token.shift_shift]
      rw [Nat.add_comm j, ← List.drop_drop, List.drop_append_of_le_length (by omega)]
  | some i =>
    rw [hi] at h
    have hle := add_stxSize_le_of_stxIndex hi
    obtain ⟨skip, hskip, rfl⟩ := Token.shift_eq_wait h
    obtain rfl := candidateToken_wait hskip
    have hstart : startsWithStx (bytes.drop i ++ m) = true :=
      startsWithStx_append_of_true m (startsWithStx_drop_of_stxIndex hi)
    simp only [stxIndex_append_of_some m hi, Nat.zero_add, stxIndex_of_startsWithStx hstart,
      List.drop_zero, Token.shift_shift]
    rw [List.drop_append_of_le_length (by omega)]

theorem nextToken_nil (maxFrameSize : Nat) : nextToken maxFrameSize [] = .wait 0 := rfl

/-! ## Reports -/

/-- What the owner of a receiver can tell two runs apart by. -/
structure Report where
  frames : List RawFrame := []
  lengthErrors : Nat := 0
  checksumErrors : Nat := 0
  garbageBytes : Nat := 0
  deriving DecidableEq, Repr

namespace Report

/-- The report of one stretch after another. -/
def append (a b : Report) : Report where
  frames := a.frames ++ b.frames
  lengthErrors := a.lengthErrors + b.lengthErrors
  checksumErrors := a.checksumErrors + b.checksumErrors
  garbageBytes := a.garbageBytes + b.garbageBytes

instance : Append Report := ⟨append⟩

theorem append_def (a b : Report) : a ++ b = append a b := rfl

/-- The report of one callback. -/
def ofEvent : FrameEvent → Report
  | .frame _ frame => { frames := [frame] }
  | .error .lengthOutOfRange _ _ _ => { lengthErrors := 1 }
  | .error .checksumMismatch _ _ _ => { checksumErrors := 1 }
  | .error .garbage first last _ => { garbageBytes := last - first }
  | .error .incomplete _ _ _ => {}

/-- The report of a list of callbacks. -/
def ofEvents (events : List FrameEvent) : Report :=
  events.foldr (fun e r => ofEvent e ++ r) {}

@[simp] theorem nil_append (a : Report) : ({} : Report) ++ a = a := by
  simp [append_def, append]

@[simp] theorem append_nil (a : Report) : a ++ ({} : Report) = a := by
  simp [append_def, append]

theorem append_assoc (a b c : Report) : a ++ b ++ c = a ++ (b ++ c) := by
  simp [append_def, append, Nat.add_assoc]

theorem ofEvents_append (es fs : List FrameEvent) :
    ofEvents (es ++ fs) = ofEvents es ++ ofEvents fs := by
  induction es with
  | nil => simp [ofEvents]
  | cons e es ih =>
    have ih' : es.foldr (fun e r => ofEvent e ++ r) {} ++ ofEvents fs =
        (es ++ fs).foldr (fun e r => ofEvent e ++ r) {} := ih.symm
    simp only [ofEvents, List.cons_append, List.foldr_cons] at ih' ⊢
    rw [append_assoc, ih']

theorem ofEvents_singleton (e : FrameEvent) : ofEvents [e] = ofEvent e := by
  simp [ofEvents]

/-- Bytes reported as garbage: the skipped ones that no rejected candidate
accounts for. -/
def ofSkip (skip covered : Nat) : Report := { garbageBytes := skip - covered }

/-- Dropping `d` bytes now and `skip` more later is dropping them together. -/
theorem ofSkip_append (d skip covered : Nat) :
    ofSkip d covered ++ ofSkip skip (covered - d) = ofSkip (skip + d) covered := by
  simp only [ofSkip, append_def, append, List.append_nil, Nat.add_zero, mk.injEq, true_and]
  omega

end Report

/-! ## Draining a stretch of bytes -/

/-- `Drains maxFrameSize bytes covered report rest covered'`: scanning `bytes`, the
first `covered` of which a rejected candidate already accounts for, yields `report`
and stops with `rest` kept, `covered'` of them accounted for. -/
inductive Drains (maxFrameSize : Nat) :
    List UInt8 → Nat → Report → List UInt8 → Nat → Prop
  | wait {bytes covered skip} (h : nextToken maxFrameSize bytes = .wait skip) :
      Drains maxFrameSize bytes covered (.ofSkip skip covered) (bytes.drop skip)
        (covered - skip)
  | reject {bytes covered skip extent report rest covered'}
      (h : nextToken maxFrameSize bytes = .reject skip extent)
      (tail : Drains maxFrameSize (bytes.drop (skip + 1)) (max (covered - skip) extent - 1)
        report rest covered') :
      Drains maxFrameSize bytes covered
        (.ofSkip skip covered ++ ({ lengthErrors := 1 } ++ report)) rest covered'
  | frame {bytes covered skip size valid report rest covered'}
      (h : nextToken maxFrameSize bytes = .frame skip size valid)
      (tail : Drains maxFrameSize (bytes.drop (skip + size)) 0 report rest covered') :
      Drains maxFrameSize bytes covered
        (.ofSkip skip covered ++
          ({ frames := [⟨(bytes.drop skip).take size, valid⟩]
             checksumErrors := if valid then 0 else 1 } ++ report)) rest covered'

/-- The bytes decide. -/
theorem Drains.deterministic {maxFrameSize : Nat} {bytes : List UInt8} {covered : Nat}
    {a b : Report} {rest rest' : List UInt8} {c c' : Nat}
    (ha : Drains maxFrameSize bytes covered a rest c)
    (hb : Drains maxFrameSize bytes covered b rest' c') :
    a = b ∧ rest = rest' ∧ c = c' := by
  induction ha generalizing b rest' c' with
  | wait h =>
    cases hb with
    | wait h' =>
      obtain rfl := Token.wait.inj (h.symm.trans h')
      exact ⟨rfl, rfl, rfl⟩
    | reject h' => exact absurd (h.symm.trans h') (by simp)
    | frame h' => exact absurd (h.symm.trans h') (by simp)
  | reject h _ ih =>
    cases hb with
    | wait h' => exact absurd (h.symm.trans h') (by simp)
    | reject h' tail' =>
      obtain ⟨rfl, rfl⟩ := Token.reject.inj (h.symm.trans h')
      obtain ⟨rfl, rfl, rfl⟩ := ih tail'
      exact ⟨rfl, rfl, rfl⟩
    | frame h' => exact absurd (h.symm.trans h') (by simp)
  | frame h _ ih =>
    cases hb with
    | wait h' => exact absurd (h.symm.trans h') (by simp)
    | reject h' => exact absurd (h.symm.trans h') (by simp)
    | frame h' tail' =>
      obtain ⟨rfl, rfl, rfl⟩ := Token.frame.inj (h.symm.trans h')
      obtain ⟨rfl, rfl, rfl⟩ := ih tail'
      exact ⟨rfl, rfl, rfl⟩

/-- What stands after the dropped bytes drains to the same rest; the bytes dropped
before are reported on top. -/
theorem Drains.of_wait {maxFrameSize d : Nat} {bytes m : List UInt8} {covered : Nat}
    (h : nextToken maxFrameSize bytes = .wait d) {report : Report} {rest : List UInt8}
    {covered' : Nat}
    (tail : Drains maxFrameSize (bytes.drop d ++ m) (covered - d) report rest covered') :
    Drains maxFrameSize (bytes ++ m) covered (.ofSkip d covered ++ report) rest covered' := by
  have htoken := nextToken_append_of_wait m h
  have hdrop : ∀ n, (bytes.drop d ++ m).drop n = (bytes ++ m).drop (n + d) := by
    intro n
    rw [Nat.add_comm, ← List.drop_drop, List.drop_append_of_le_length (bounds_of_wait h)]
  generalize hk : bytes.drop d ++ m = bytes' at tail htoken hdrop
  generalize hc : covered - d = c at tail
  cases tail with
  | @wait _ _ skip h' =>
    rw [h'] at htoken
    rw [← hc, Report.ofSkip_append, hdrop, Nat.sub_sub, Nat.add_comm d]
    exact .wait htoken
  | @reject _ _ skip extent _ _ _ h' tail' =>
    rw [h'] at htoken
    rw [← hc, ← Report.append_assoc, Report.ofSkip_append]
    refine .reject htoken ?_
    rw [← hc, hdrop, Nat.sub_sub, Nat.add_comm d, Nat.add_right_comm] at tail'
    exact tail'
  | @frame _ _ skip size valid _ _ _ h' tail' =>
    rw [h'] at htoken
    rw [← hc, ← Report.append_assoc, Report.ofSkip_append, hdrop]
    refine .frame htoken ?_
    rw [hdrop, Nat.add_right_comm] at tail'
    exact tail'

/-- **Chunks do not matter.**  Draining a stretch of bytes, and then what is left
of it together with more bytes, is draining the longer stretch. -/
theorem Drains.append {maxFrameSize : Nat} {bytes m : List UInt8} {covered : Nat}
    {a b : Report} {rest rest' : List UInt8} {c c' : Nat}
    (ha : Drains maxFrameSize bytes covered a rest c)
    (hb : Drains maxFrameSize (rest ++ m) c b rest' c') :
    Drains maxFrameSize (bytes ++ m) covered (a ++ b) rest' c' := by
  induction ha with
  | wait h => exact .of_wait h hb
  | @reject bytes covered skip extent report rest _ h _ ih =>
    have hstep : nextToken maxFrameSize (bytes ++ m) = nextToken maxFrameSize bytes :=
      nextToken_append_of_not_wait m (by simp [h])
    rw [Report.append_assoc, Report.append_assoc]
    refine .reject (hstep.trans h) ?_
    rw [List.drop_append_of_le_length (bounds_of_reject h).1]
    exact ih hb
  | @frame bytes covered skip size valid report rest _ h _ ih =>
    have hstep : nextToken maxFrameSize (bytes ++ m) = nextToken maxFrameSize bytes :=
      nextToken_append_of_not_wait m (by simp [h])
    have hle := (bounds_of_frame h).1
    have hbytes : (bytes.drop skip).take size = ((bytes ++ m).drop skip).take size := by
      rw [List.drop_append_of_le_length (by omega),
        List.take_append_of_le_length (by rw [List.length_drop]; omega)]
    rw [Report.append_assoc, Report.append_assoc, hbytes]
    refine .frame (hstep.trans h) ?_
    rw [List.drop_append_of_le_length hle]
    exact ih hb

end Lms
end AmigaDrivers
