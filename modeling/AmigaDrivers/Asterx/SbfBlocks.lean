import Mathlib.Tactic.IntervalCases
import AmigaDrivers.Asterx.SbfParsers

/-!
# Which SBF blocks are accepted, and where their fields are

* `reads_insNavGeodBody`, `reads_receiverStatusBody`: what the parsers take behind the header.
* `group_placed`: an optional group stands behind the groups of the lower bits that are set.
* `header_read_past_short_length`: a declared length shorter than the header bounds no read.
* `sbf_blocks`: **when the two parsers accept a buffer, what they read where, and how far.**
-/

namespace AmigaDrivers
namespace Asterx
namespace Sbf

open StickyReader

/-! ## Fields at their offsets -/

/-- The number in `n` bytes at an offset. -/
def word (n offset : Nat) (l : List UInt8) : Nat := LittleEndian.decode ((l.drop offset).take n)

@[simp] theorem word_drop (n offset k : Nat) (l : List UInt8) :
    word n offset (l.drop k) = word n (k + offset) l := by
  unfold word
  rw [List.drop_drop]

theorem reads_u8 : Reads u8 (fun _ => 1) (word 1 0) fun _ => True := reads_field 1 _ 0

theorem reads_i8 : Reads i8 (fun _ => 1) (fun l => signed (word 1 0 l)) fun _ => True :=
  reads_field 1 _ 0

theorem reads_u16 : Reads u16 (fun _ => 2) (word 2 0) fun _ => True := reads_field 2 _ 0

theorem reads_u32 : Reads u32 (fun _ => 4) (word 4 0) fun _ => True := reads_field 4 _ 0

theorem reads_f32 : Reads f32 (fun _ => 4) (fun l => dnuToNanF (word 4 0 l)) fun _ => True :=
  reads_field 4 _ 0

theorem reads_f64 : Reads f64 (fun _ => 8) (fun l => dnuToNanD (word 8 0 l)) fun _ => True :=
  reads_field 8 _ 0

/-! ## The header -/

/-- The header at the start of a block. -/
def headerAt (l : List UInt8) : BlockHeader where
  sync1 := word 1 0 l
  sync2 := word 1 1 l
  crc := word 2 2 l
  id := word 2 4 l &&& 8191
  revision := word 2 4 l >>> 13
  length := word 2 6 l
  tow := word 4 8 l
  wnc := word 2 12 l

/-- The sync bytes are there. -/
def Synced (l : List UInt8) : Prop := word 1 0 l = 0x24 ∧ word 1 1 l = 0x40

theorem reads_readHeader : Reads readHeader (fun _ => 14) headerAt Synced := by
  refine (reads_u8.bind fun sync1 => (reads_require _).bind fun _ => reads_u8.bind fun sync2 =>
    (reads_require _).bind fun _ => reads_u16.bind fun crc => reads_u16.bind fun raw =>
    reads_u16.bind fun length => reads_u32.bind fun tow => reads_u16.bind fun wnc =>
    reads_check.bind fun _ => reads_pure _).congr rfl ?_ ?_
  · funext l
    simp only [word_drop, headerAt]
  · intro l
    simp only [word_drop, Synced, and_true, true_and]

theorem reads_longHeader :
    Reads longHeader (fun _ => 14) headerAt fun l => Synced l ∧ 14 ≤ (headerAt l).length := by
  refine (reads_readHeader.bind fun h => (reads_require _).bind fun _ => reads_pure _).congr rfl
    rfl ?_
  intro l
  simp only [and_true, Nat.not_lt]

/-! ## The optional groups -/

/-- How many of the lower bits are set. -/
def lower (sbList bits : Nat) : Nat := (List.range bits).countP fun i => sbList.testBit i

theorem lower_succ (sbList bits : Nat) :
    lower sbList (bits + 1) = lower sbList bits + if sbList.testBit bits = true then 1 else 0 := by
  unfold lower
  rw [List.range_succ, List.countP_append, List.countP_singleton]

/-- The three numbers at an offset. -/
def tripleAt (offset : Nat) (l : List UInt8) : Triple :=
  ⟨dnuToNanF (word 4 offset l), dnuToNanF (word 4 (offset + 4) l),
    dnuToNanF (word 4 (offset + 8) l)⟩

theorem tripleAt_drop (offset k : Nat) (l : List UInt8) :
    tripleAt offset (l.drop k) = tripleAt (k + offset) l := by
  simp only [tripleAt, word_drop, Nat.add_assoc]

/-- The block with the groups of the first bits. -/
def placed : Nat → INSNavGeod → List UInt8 → INSNavGeod
  | 0, out, _ => out
  | bits + 1, out, l =>
    if out.sbList.testBit bits = true then
      (placed bits out l).setGroup bits (tripleAt (12 * lower out.sbList bits) l)
    else placed bits out l

@[simp] theorem sbList_setGroup (out : INSNavGeod) (bit : Nat) (t : Triple) :
    (out.setGroup bit t).sbList = out.sbList := by
  unfold INSNavGeod.setGroup
  split <;> rfl

@[simp] theorem sbList_placed (bits : Nat) (out : INSNavGeod) (l : List UInt8) :
    (placed bits out l).sbList = out.sbList := by
  induction bits with
  | zero => rfl
  | succ bits ih =>
    unfold placed
    split_ifs
    · rw [sbList_setGroup, ih]
    · exact ih

/-- A group is changed by its own assignments alone. -/
theorem group_setGroup (out : INSNavGeod) (t : Triple) {i j : Nat} (hi : i < 8) (hj : j < 8) :
    (out.setGroup j t).group i = if i = j then t else out.group i := by
  interval_cases i <;> interval_cases j <;> rfl

/-- A group that is present stands behind those of the lower bits; one that is not stays. -/
theorem group_placed (out : INSNavGeod) (l : List UInt8) {i bits : Nat} (hi : i < 8)
    (hbits : bits ≤ 8) :
    (placed bits out l).group i =
      if i < bits ∧ out.sbList.testBit i = true then tripleAt (12 * lower out.sbList i) l
      else out.group i := by
  induction bits with
  | zero => rfl
  | succ bits ih =>
    have ih := ih (Nat.le_of_succ_le hbits)
    unfold placed
    by_cases hbit : out.sbList.testBit bits = true
    · rw [if_pos hbit, group_setGroup _ _ hi hbits, ih]
      by_cases heq : i = bits
      · subst heq
        rw [if_pos rfl, if_pos ⟨Nat.lt_succ_self i, hbit⟩]
      · have hlt : i < bits + 1 ↔ i < bits := by omega
        simp only [if_neg heq, hlt]
    · rw [if_neg hbit, ih]
      have hlt : (i < bits + 1 ∧ out.sbList.testBit i = true) ↔
          (i < bits ∧ out.sbList.testBit i = true) := by
        refine and_congr_left fun hset => ?_
        have hne : i ≠ bits := fun heq => hbit (heq ▸ hset)
        omega
      simp only [hlt]

theorem reads_readGroup (out : INSNavGeod) (bit : Nat) :
    Reads (readGroup out bit) (fun _ => if out.sbList.testBit bit = true then 12 else 0)
      (fun l => if out.sbList.testBit bit = true then out.setGroup bit (tripleAt 0 l) else out)
      fun _ => True := by
  unfold readGroup
  split_ifs
  · refine (reads_f32.bind fun first => reads_f32.bind fun second => reads_f32.bind fun third =>
      reads_pure _).congr rfl ?_ ?_
    · funext l
      simp only [word_drop, tripleAt]
    · exact fun _ => by simp only [and_true]
  · exact reads_pure out

theorem reads_readGroups (bits : Nat) (out : INSNavGeod) :
    Reads (readGroups bits out) (fun _ => 12 * lower out.sbList bits) (placed bits out)
      fun _ => True := by
  induction bits with
  | zero => exact reads_pure out
  | succ bits ih =>
    refine (ih.bind fun out => reads_readGroup out bits).congr ?_ ?_ ?_
    · funext l
      rw [lower_succ, sbList_placed, Nat.mul_add]
      split_ifs <;> rfl
    · funext l
      rw [sbList_placed, tripleAt_drop, Nat.add_zero]
      rfl
    · exact fun _ => by simp only [and_true]

/-! ## The bodies -/

/-- The fixed fields of the body at the front of `l`. -/
def fixedAt (out : INSNavGeod) (h : BlockHeader) (l : List UInt8) : INSNavGeod :=
  { out with
    blockHeader := h
    gnssMode := word 1 0 l
    error := word 1 1 l
    info := word 2 2 l
    gnssAge := word 2 4 l
    latitude := dnuToNanD (word 8 6 l)
    longitude := dnuToNanD (word 8 14 l)
    height := dnuToNanD (word 8 22 l)
    undulation := dnuToNanF (word 4 30 l)
    accuracy := word 2 34 l
    latency := word 2 36 l
    datum := word 1 38 l
    sbList := word 2 40 l }

@[simp] theorem group_fixedAt (out : INSNavGeod) (h : BlockHeader) (l : List UInt8) (i : Nat) :
    (fixedAt out h l).group i = out.group i := by
  unfold INSNavGeod.group
  split <;> rfl

theorem reads_insNavGeodBody (out : INSNavGeod) (h : BlockHeader) :
    Reads (insNavGeodBody out h) (fun l => 42 + 12 * lower (word 2 40 l) 8)
      (fun l => placed 8 (fixedAt out h l) (l.drop 42))
      fun _ => h.id = kIdINSNavGeod ∨ h.id = kIdExtEventINSNavGeod := by
  refine ((reads_require _).bind fun _ => reads_u8.bind fun gnssMode => reads_u8.bind fun error =>
    reads_u16.bind fun info => reads_u16.bind fun gnssAge => reads_f64.bind fun latitude =>
    reads_f64.bind fun longitude => reads_f64.bind fun height => reads_f32.bind fun undulation =>
    reads_u16.bind fun accuracy => reads_u16.bind fun latency => reads_u8.bind fun datum =>
    (reads_skip 1).bind fun _ => reads_u16.bind fun sbList => reads_readGroups 8 _).congr ?_ ?_ ?_
  · funext l
    simp only [word_drop, Nat.reduceAdd]
    omega
  · funext l
    simp only [word_drop, List.drop_drop]
    rfl
  · exact fun _ => by simp only [and_true]

/-- The sub-block at the front of `l`. -/
def agcAt (l : List UInt8) : AgcState where
  frontendId := word 1 0 l
  gain := signed (word 1 1 l)
  sampleVar := word 1 2 l
  blankingStat := word 1 3 l

/-- The sub-blocks follow one another at the declared stride. -/
theorem reads_readAgcStates (sbLength n : Nat) :
    Reads (readAgcStates sbLength n) (fun _ => n * (4 + (sbLength - 4)))
      (fun l => (List.range n).map fun i => agcAt (l.drop (i * (4 + (sbLength - 4)))))
      fun _ => True := by
  induction n with
  | zero => exact (reads_pure []).congr (funext fun _ => (Nat.zero_mul _).symm) rfl fun _ => Iff.rfl
  | succ n ih =>
    refine (reads_u8.bind fun frontendId => reads_i8.bind fun gain => reads_u8.bind fun sampleVar =>
      reads_u8.bind fun blankingStat => (reads_skip _).bind fun _ => ih.bind fun rest =>
      reads_pure _).congr ?_ ?_ ?_
    · funext l
      rw [Nat.succ_mul]
      omega
    · funext l
      simp only [word_drop, List.drop_drop, List.range_succ_eq_map, List.map_cons, List.map_map]
      refine congrArg₂ List.cons ?_ (List.map_congr_left fun i _ => ?_)
      · simp only [agcAt, word_drop, Nat.zero_mul]
      · simp only [Function.comp_apply, Nat.succ_mul]
        congr 2
        omega
    · exact fun _ => by simp only [and_true]

/-- The status whose body is at the front of `l`. -/
def statusAt (h : BlockHeader) (l : List UInt8) : ReceiverStatus where
  blockHeader := h
  cpuLoad := word 1 0 l
  extError := word 1 1 l
  upTime := word 4 2 l
  rxStatus := word 4 6 l
  rxError := word 4 10 l
  n := word 1 14 l
  sbLength := word 1 15 l
  cmdCount := word 1 16 l
  temperature := word 1 17 l
  agcState :=
    (List.range (word 1 14 l)).map fun i => agcAt (l.drop (18 + i * (4 + (word 1 15 l - 4))))

theorem reads_receiverStatusBody (h : BlockHeader) :
    Reads (receiverStatusBody h) (fun l => 18 + word 1 14 l * (4 + (word 1 15 l - 4)))
      (statusAt h)
      fun l => h.id = kIdReceiverStatus ∧ ¬(word 1 14 l > 0 ∧ word 1 15 l < 4) := by
  refine ((reads_require _).bind fun _ => reads_u8.bind fun cpuLoad => reads_u8.bind fun extError =>
    reads_u32.bind fun upTime => reads_u32.bind fun rxStatus => reads_u32.bind fun rxError =>
    reads_u8.bind fun n => reads_u8.bind fun sbLength => reads_u8.bind fun cmdCount =>
    reads_u8.bind fun temperature => reads_check.bind fun _ => (reads_require _).bind fun _ =>
    (reads_readAgcStates _ _).bind fun agcState => reads_pure _).congr ?_ ?_ ?_
  · funext l
    simp only [word_drop, Nat.reduceAdd]
    omega
  · funext l
    simp only [word_drop, List.drop_drop]
    rfl
  · intro l
    simp only [word_drop, and_true, true_and]

/-! ## The frames -/

theorem loads_readFrame {α : Type} {body : BlockHeader → Read α}
    {size : BlockHeader → List UInt8 → Nat} {value : BlockHeader → List UInt8 → α}
    {cond : BlockHeader → List UInt8 → Prop}
    (hbody : ∀ h, Reads (body h) (size h) (value h) (cond h)) (data : List UInt8) :
    ∀ e ∈ (readFrame body (.start data)).2.loads,
      e.1 + e.2 ≤ data.length ∧ e.1 + e.2 ≤ max 14 (headerAt data).length :=
  loads_framed reads_longHeader hbody (fun _ h => h.2) data

theorem parseINSNavGeod_eq_some (data : List UInt8) (out b : INSNavGeod) :
    parseINSNavGeod data out = some b ↔
      b = placed 8 (fixedAt out (headerAt data) (data.drop 14)) (data.drop 56) ∧ Synced data ∧
        ((headerAt data).id = kIdINSNavGeod ∨ (headerAt data).id = kIdExtEventINSNavGeod) ∧
        14 ≤ (headerAt data).length ∧ (headerAt data).length ≤ data.length ∧
        56 + 12 * lower (word 2 54 data) 8 ≤ (headerAt data).length := by
  unfold parseINSNavGeod readFrame
  rw [finish_framed reads_longHeader (reads_insNavGeodBody out) (fun _ h => h.2)]
  simp only [word_drop, List.drop_drop, Nat.reduceAdd]
  grind

theorem parseReceiverStatus_eq_some (data : List UInt8) (b : ReceiverStatus) :
    parseReceiverStatus data = some b ↔
      b = statusAt (headerAt data) (data.drop 14) ∧ Synced data ∧
        (headerAt data).id = kIdReceiverStatus ∧
        14 ≤ (headerAt data).length ∧ (headerAt data).length ≤ data.length ∧
        (0 < word 1 28 data → 4 ≤ word 1 29 data) ∧
        32 + word 1 28 data * word 1 29 data ≤ (headerAt data).length := by
  unfold parseReceiverStatus readFrame
  rw [finish_framed reads_longHeader reads_receiverStatusBody (fun _ h => h.2)]
  simp only [word_drop, Nat.reduceAdd]
  generalize word 1 28 data = n
  generalize word 1 29 data = sbLength
  have hstride : (0 < n → 4 ≤ sbLength) → n * (4 + (sbLength - 4)) = n * sbLength := by
    intro h
    obtain rfl | hn := Nat.eq_zero_or_pos n
    · rw [Nat.zero_mul, Nat.zero_mul]
    · rw [Nat.add_sub_cancel' (h hn)]
  grind

/-- A group of the parsed block is at its offset when its bit is set, and as given otherwise. -/
theorem group_of_parsed {data : List UInt8} {out b : INSNavGeod}
    (h : parseINSNavGeod data out = some b) {i : Nat} (hi : i < 8) :
    b.group i =
      if (word 2 54 data).testBit i = true then tripleAt (56 + 12 * lower (word 2 54 data) i) data
      else out.group i := by
  obtain ⟨rfl, -⟩ := (parseINSNavGeod_eq_some data out b).mp h
  rw [group_placed _ _ hi (Nat.le_refl 8), group_fixedAt, tripleAt_drop]
  have hlist : (fixedAt out (headerAt data) (data.drop 14)).sbList = word 2 54 data :=
    word_drop 2 40 14 data
  simp only [hlist, hi, true_and]

/-- **The two parsers accept a buffer exactly when the sync bytes and the id are right and the
declared length is at least the header, at most the buffer, and covers the groups or the
sub-blocks.**  A present group is behind those of the lower set bits, an absent one stays as it was,
and nothing is read behind the buffer, nor, behind the header, behind the declared length. -/
theorem sbf_blocks (data : List UInt8) (out : INSNavGeod) :
    ((parseINSNavGeod data out).isSome = true ↔
      Synced data ∧
        ((headerAt data).id = kIdINSNavGeod ∨ (headerAt data).id = kIdExtEventINSNavGeod) ∧
        14 ≤ (headerAt data).length ∧ (headerAt data).length ≤ data.length ∧
        56 + 12 * lower (word 2 54 data) 8 ≤ (headerAt data).length) ∧
    (∀ b, parseINSNavGeod data out = some b → ∀ i < 8,
      b.group i =
        if (word 2 54 data).testBit i = true then
          tripleAt (56 + 12 * lower (word 2 54 data) i) data
        else out.group i) ∧
    ((parseReceiverStatus data).isSome = true ↔
      Synced data ∧ (headerAt data).id = kIdReceiverStatus ∧
        14 ≤ (headerAt data).length ∧ (headerAt data).length ≤ data.length ∧
        (0 < word 1 28 data → 4 ≤ word 1 29 data) ∧
        32 + word 1 28 data * word 1 29 data ≤ (headerAt data).length) ∧
    (∀ e ∈ (readFrame (insNavGeodBody out) (.start data)).2.loads,
      e.1 + e.2 ≤ data.length ∧ e.1 + e.2 ≤ max 14 (headerAt data).length) ∧
    ∀ e ∈ (readFrame receiverStatusBody (.start data)).2.loads,
      e.1 + e.2 ≤ data.length ∧ e.1 + e.2 ≤ max 14 (headerAt data).length := by
  refine ⟨?_, fun b h i hi => group_of_parsed h hi, ?_,
    loads_readFrame (reads_insNavGeodBody out) data, loads_readFrame reads_receiverStatusBody data⟩
  · simp only [Option.isSome_iff_exists, parseINSNavGeod_eq_some, exists_eq_left]
  · simp only [Option.isSome_iff_exists, parseReceiverStatus_eq_some, exists_eq_left]

/-- A block that declares fewer bytes than its header has is read to the end of the header. -/
theorem header_read_past_short_length :
    ¬∀ data, ∀ e ∈ (readFrame receiverStatusBody (.start data)).2.loads,
      e.1 + e.2 ≤ (headerAt data).length := by
  intro h
  have hread := h [0x24, 0x40, 0, 0, 0xAE, 0x0F, 8, 0, 0, 0, 0, 0, 0, 0] (12, 2) (by decide)
  exact absurd hread (by decide)

end Sbf
end Asterx
end AmigaDrivers
