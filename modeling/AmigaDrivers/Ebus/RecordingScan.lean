import AmigaDrivers.Ebus.Recording

/-!
# Scanning a segment file

What the reader gives out of a file, and of the beginning of a file.

* `Scans`: records stand one behind another up to the end of a file, numbered in order.
* `scan_eq_ok_iff`: those are the files that the strict reader takes.
* `scan_take_live`, `scan_take_strict`: what it gives out of the beginning of such a file.
-/

namespace AmigaDrivers
namespace Ebus
namespace Reader

variable {loads : Loads} {path : String} {source : List UInt8} {offset size n : Nat} {live : Bool}
  {r : Record} {records : List Record} {previous : Option Nat}

/-! ## One record -/

theorem read_take (h : offset + size ≤ n) :
    read (source.take n) offset size = read source offset size := by
  unfold read
  rw [List.drop_take, List.take_take, Nat.min_eq_left (by omega)]

theorem length_read (source : List UInt8) (offset size : Nat) :
    (read source offset size).length = min size (source.length - offset) := by
  unfold read
  rw [List.length_take, List.length_drop]

namespace Found

theorem offset_eq (h : Found loads path source offset r) : r.offset = offset :=
  congrArg Record.offset h.record

/-- Where the record ends. -/
theorem stop_eq (h : Found loads path source offset r) :
    r.stop = offset + recordHeaderSize + r.metadataSize + r.payloadSize := by
  unfold Record.stop Record.payloadOffset
  rw [h.offset_eq]

theorem lt_stop (h : Found loads path source offset r) : offset < r.stop := by
  have hstop := h.stop_eq
  unfold recordHeaderSize at hstop
  omega

/-- What is cut off behind the record does not matter. -/
theorem take (h : Found loads path source offset r) (hn : r.stop ≤ n) :
    Found loads path (source.take n) offset r := by
  have hstop := h.stop_eq
  have hheader : read (source.take n) offset recordHeaderSize =
      read source offset recordHeaderSize := read_take (by omega)
  have hmetadata : read (source.take n) (offset + recordHeaderSize) r.metadataSize =
      read source (offset + recordHeaderSize) r.metadataSize := read_take (by omega)
  constructor
  · rw [hheader]
    exact h.header
  · rw [hheader]
    exact h.supported
  · rw [hheader]
    exact h.headerCrc
  · rw [hheader, hmetadata]
    exact h.metadataCrc
  · rw [hmetadata]
    exact h.content
  · exact h.valid
  · rw [hheader]
    exact h.record

/-- A record of which the end is cut off is passed over, or is an error. -/
theorem recordAt_torn (h : Found loads path source offset r) (hn : n < r.stop)
    (hlength : n ≤ source.length) : ∃ e, ∀ live,
      recordAt loads path (source.take n) offset n live = if live then .ok none else .error e := by
  by_cases hheader : offset + recordHeaderSize ≤ n
  · refine ⟨"Incomplete eBUS metadata/payload at " ++ (path ++ ":" ++ toString offset),
      fun live => ?_⟩
    have hsame : read (source.take n) offset recordHeaderSize =
        read source offset recordHeaderSize := read_take hheader
    have hstop : n < offset + recordHeaderSize +
        (RecordPrefix.unpack (read source offset recordHeaderSize)).metadataSize +
          (RecordPrefix.unpack (read source offset recordHeaderSize)).payloadSize := by
      have hmetadata := congrArg Record.metadataSize h.record
      have hpayload := congrArg Record.payloadSize h.record
      have hstop := h.stop_eq
      dsimp only [RecordPrefix.record] at hmetadata hpayload
      omega
    unfold recordAt
    dsimp only
    rw [hsame, if_neg (not_not.mpr h.header), if_neg (not_not.mpr h.supported),
      if_neg (not_not.mpr h.headerCrc), if_pos hstop]
  · refine ⟨"Incomplete eBUS record prefix at " ++ (path ++ ":" ++ toString offset),
      fun live => ?_⟩
    have hshort : (read (source.take n) offset recordHeaderSize).length ≠ recordHeaderSize := by
      have hlt := h.header
      rw [length_read] at hlt
      rw [length_read, List.length_take]
      unfold recordHeaderSize at *
      omega
    unfold recordAt
    dsimp only
    rw [if_pos hshort]

end Found

/-! ## All records -/

/-- The number of a record follows that of the one before. -/
def Follows (previous : Option Nat) (sequence : Nat) : Prop :=
  ∀ p, previous = some p → sequence = p + 1

/-- Records stand one behind another up to the end of a file, numbered in order. -/
inductive Scans (loads : Loads) (path : String) (source : List UInt8) :
    Nat → Option Nat → List Record → Prop
  | nil (previous : Option Nat) : Scans loads path source source.length previous []
  | cons {offset : Nat} {previous : Option Nat} {r : Record} {records : List Record}
      (found : Found loads path source offset r) (stop : r.stop ≤ source.length)
      (follows : Follows previous r.sequence)
      (tail : Scans loads path source r.stop (some r.sequence) records) :
      Scans loads path source offset previous (r :: records)

theorem any_ne_eq_false (h : Follows previous n) :
    previous.any (fun previous => n ≠ previous + 1) = false := by
  cases previous with
  | none => rfl
  | some p => simpa using h p rfl

theorem follows_of_any (h : ¬previous.any (fun previous => n ≠ previous + 1) = true) :
    Follows previous n := by
  rintro p rfl
  simpa using h

theorem scan_of_le (h : size ≤ offset) :
    scan loads path source size live offset previous = ([], .ok ()) := by
  rw [scan, if_neg (Nat.not_lt.mpr h)]

theorem scan_of_none (h : recordAt loads path source offset size live = .ok none) :
    scan loads path source size live offset previous = ([], .ok ()) := by
  rw [scan]
  split
  · split <;> rename_i hr <;> rw [h] at hr <;> first | rfl | cases hr
  · rfl

theorem scan_of_error {e : String} (hlt : offset < size)
    (h : recordAt loads path source offset size live = .error e) :
    scan loads path source size live offset previous = ([], .error e) := by
  rw [scan, if_pos hlt]
  split <;> rename_i hr <;> rw [h] at hr
  · rw [Except.error.inj hr]
  · cases hr
  · cases hr

theorem scan_of_found (h : Found loads path source offset r) (hstop : r.stop ≤ size)
    (hfollows : Follows previous r.sequence) :
    scan loads path source size live offset previous =
      ((r :: (scan loads path source size live r.stop (some r.sequence)).1),
        (scan loads path source size live r.stop (some r.sequence)).2) := by
  have hrecord : recordAt loads path source offset size live = .ok (some r) :=
    recordAt_eq_some_iff.mpr ⟨h, hstop⟩
  have hlt := h.lt_stop
  rw [scan, if_pos (by omega)]
  split <;> rename_i hr <;> rw [hrecord] at hr
  · cases hr
  · cases hr
  · obtain rfl := Option.some.inj (Except.ok.inj hr)
    rw [if_neg (by rw [any_ne_eq_false hfollows]; exact Bool.false_ne_true)]

theorem scan_of_misnumbered (hlt : offset < size)
    (h : recordAt loads path source offset size live = .ok (some r))
    (hfollows : ¬Follows previous r.sequence) :
    scan loads path source size live offset previous =
      ([], .error "Missing, duplicate or reversed eBUS record sequence") := by
  rw [scan, if_pos hlt]
  split <;> rename_i hr <;> rw [h] at hr
  · cases hr
  · cases hr
  · obtain rfl := Option.some.inj (Except.ok.inj hr)
    rw [if_pos (not_not.mp fun hany => hfollows (follows_of_any hany))]

/-- The strict reader never stops without an error. -/
theorem recordAt_strict_ne_none : recordAt loads path source offset size false ≠ .ok none := by
  have hbind : ∀ (x : Except String Json) (check : Json → Except String Unit) (f : Json → Record),
      (do
        let metadata ← x
        check metadata
        pure (some (f metadata))) ≠ (Except.ok none : Except String (Option Record)) := by
    intro x check f
    cases x with
    | error e => exact nofun
    | ok metadata =>
      cases hcheck : check metadata with
      | error e => simp [bind, Except.bind, hcheck]
      | ok u => simp [bind, Except.bind, pure, Except.pure, hcheck]
  unfold recordAt
  simp only [Bool.false_eq_true, if_false]
  split_ifs
  · exact nofun
  · exact nofun
  · exact nofun
  · exact nofun
  · exact hbind _ _ _
  · exact nofun

/-- Records that stand up to the end of a file are given out. -/
theorem Scans.scan_eq (h : Scans loads path source offset previous records) :
    scan loads path source source.length live offset previous = (records, .ok ()) := by
  induction h with
  | nil previous => exact scan_of_le le_rfl
  | cons found stop follows _ ih => rw [scan_of_found found stop follows, ih]

theorem Scans.le_length (h : Scans loads path source offset previous records) :
    offset ≤ source.length := by
  cases h with
  | nil previous => exact le_rfl
  | cons found stop => exact found.lt_stop.le.trans stop

/-- Records that the strict reader gives out of a whole file stand up to its end. -/
theorem scans_of_scan (hoffset : offset ≤ source.length)
    (h : scan loads path source source.length false offset previous = (records, .ok ())) :
    Scans loads path source offset previous records := by
  induction hk : source.length - offset using Nat.strong_induction_on generalizing offset previous
    records with
  | _ k ih =>
    subst hk
    by_cases hlt : offset < source.length
    · cases hrecord : recordAt loads path source offset source.length false with
      | error e =>
        rw [scan_of_error hlt hrecord] at h
        exact nomatch h
      | ok found =>
        cases found with
        | none => exact absurd hrecord recordAt_strict_ne_none
        | some r =>
          obtain ⟨hfound, hstop⟩ := recordAt_eq_some_iff.mp hrecord
          by_cases hfollows : Follows previous r.sequence
          · rw [scan_of_found hfound hstop hfollows] at h
            obtain ⟨rfl, hresult⟩ := Prod.mk.inj h
            have hlt := hfound.lt_stop
            exact .cons hfound hstop hfollows
              (ih _ (by omega) hstop (Prod.ext rfl hresult) rfl)
          · rw [scan_of_misnumbered hlt hrecord hfollows] at h
            exact nomatch h
    · obtain rfl : offset = source.length := by omega
      rw [scan_of_le le_rfl] at h
      obtain ⟨rfl, -⟩ := Prod.mk.inj h
      exact .nil previous

/-- **The strict reader takes the files in which records stand one behind another.** -/
theorem scan_eq_ok_iff (hoffset : offset ≤ source.length) :
    scan loads path source source.length false offset previous = (records, .ok ()) ↔
      Scans loads path source offset previous records :=
  ⟨scans_of_scan hoffset, Scans.scan_eq⟩

/-! ## The beginning of a file -/

/-- The records that end in the first bytes of a file. -/
def within (n : Nat) (records : List Record) : List Record := records.filter fun r => r.stop ≤ n

theorem Scans.lt_stop (h : Scans loads path source offset previous records) :
    ∀ r ∈ records, offset < r.stop := by
  induction h with
  | nil previous => exact nofun
  | cons found stop follows tail ih =>
    intro x hx
    obtain rfl | hx := List.mem_cons.mp hx
    · exact found.lt_stop
    · exact found.lt_stop.trans (ih x hx)

theorem Scans.within_eq_nil (h : Scans loads path source offset previous records) (hn : n ≤ offset) :
    within n records = [] := by
  refine List.filter_eq_nil_iff.mpr fun r hr => ?_
  have hlt := h.lt_stop r hr
  simp only [decide_eq_true_eq]
  omega

/-- **What the reader gives out of the beginning of a file**: the records that end in it.  Unless
one of them, or what stands before them all, ends with it, the strict reader objects. -/
theorem Scans.scan_take (h : Scans loads path source offset previous records) (hoffset : offset ≤ n)
    (hn : n ≤ source.length) :
    scan loads path (source.take n) n true offset previous = (within n records, .ok ()) ∧
      ∃ result, scan loads path (source.take n) n false offset previous =
          (within n records, result) ∧
        (result = .ok () ↔ n = offset ∨ ∃ r ∈ records, r.stop = n) := by
  induction h with
  | nil previous =>
    obtain rfl : n = source.length := le_antisymm hn hoffset
    exact ⟨scan_of_le le_rfl, .ok (), scan_of_le le_rfl, iff_of_true rfl (.inl rfl)⟩
  | @cons offset previous r records found stop follows tail ih =>
    by_cases hstop : r.stop ≤ n
    · obtain ⟨hlive, result, hstrict, hresult⟩ := ih hstop
      have hwithin : within n (r :: records) = r :: within n records :=
        List.filter_cons_of_pos (decide_eq_true hstop)
      have hlt := found.lt_stop
      rw [scan_of_found (found.take hstop) hstop follows, hlive,
        scan_of_found (found.take hstop) hstop follows, hstrict, hwithin]
      refine ⟨rfl, result, rfl, hresult.trans ?_⟩
      rw [List.exists_mem_cons_iff, eq_comm ]
      exact ⟨.inr, fun h => h.resolve_left (by omega)⟩
    · have htorn := found.recordAt_torn (Nat.not_le.mp hstop) hn
      obtain ⟨e, he⟩ := htorn
      have hnil : within n (r :: records) = [] := by
        unfold within
        rw [List.filter_cons_of_neg (by simpa using hstop)]
        exact tail.within_eq_nil (Nat.not_le.mp hstop).le
      have hlater : ¬∃ x ∈ r :: records, x.stop = n := by
        rintro ⟨x, hx, rfl⟩
        obtain rfl | hx := List.mem_cons.mp hx
        · exact hstop le_rfl
        · exact hstop (tail.lt_stop x hx).le
      rw [hnil]
      refine ⟨scan_of_none (he true), ?_⟩
      rcases hoffset.eq_or_lt with rfl | hlt
      · exact ⟨.ok (), scan_of_le le_rfl, iff_of_true rfl (.inl rfl)⟩
      · refine ⟨.error e, scan_of_error hlt (he false), iff_of_false nofun ?_⟩
        rintro (rfl | hx)
        · exact lt_irrefl _ hlt
        · exact hlater hx

end Reader
end Ebus
end AmigaDrivers
