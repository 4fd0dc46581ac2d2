import AmigaDrivers.Foundation.PrefixCode
import AmigaDrivers.Lms.ReceiveMonitor

/-!
# The messages of the device

The scanner reports its active messages as a count and a list of texts, each behind its number and
its length.  `DecodeActiveMessages` turns them into lines and says whether it understood all of the
payload.

* `ActiveMessage`: a number and a text that fit their fields.
* `encodeActiveMessages`: the payload for a list of messages.
* `active_messages`: the payloads that are understood, and the lines for every payload.
-/

namespace AmigaDrivers
namespace Lms

open ByteUtil

/-! ## Messages -/

/-- A message, its number and the length of its text of 16 bits. -/
structure ActiveMessage where
  id : Nat
  text : List UInt8
  id_lt : id < 2 ^ 16
  length_lt : text.length < 2 ^ 16

namespace ActiveMessage

/-- The bytes of a message. -/
def encode (m : ActiveMessage) : List UInt8 :=
  storeBigU16 m.id ++ (storeBigU16 m.text.length ++ m.text)

/-- The line for a message. -/
def line (m : ActiveMessage) : List Char :=
  (toString m.id).toList ++ [':', ' '] ++ m.text.map fun b => Char.ofNat b.toNat

theorem length_encode (m : ActiveMessage) : m.encode.length = 4 + m.text.length := by
  unfold encode
  rw [List.length_append, List.length_append, length_storeBigU16, length_storeBigU16]
  omega

theorem encode_ne_nil (m : ActiveMessage) : m.encode ≠ [] := by
  intro h
  have hlength := m.length_encode
  rw [h, List.length_nil] at hlength
  omega

/-- What stands in the fields of a message. -/
theorem fields_of_encode {m : ActiveMessage} {rest s : List UInt8} (h : m.encode ++ rest = s) :
    loadBigU16 s = m.id ∧ loadBigU16 (s.drop 2) = m.text.length ∧
      (s.drop 4).take m.text.length = m.text := by
  unfold encode at h
  rw [List.append_assoc, List.append_assoc] at h
  subst h
  have hfour : (4 : Nat) = (storeBigU16 m.id).length + 2 := rfl
  refine ⟨?_, ?_, ?_⟩
  · rw [loadBigU16_append _ _ (length_storeBigU16 _).ge, loadBigU16_storeBigU16 m.id_lt]
  · rw [List.drop_left' (length_storeBigU16 _), loadBigU16_append _ _ (length_storeBigU16 _).ge,
      loadBigU16_storeBigU16 m.length_lt]
  · rw [hfour, ← List.drop_drop, List.drop_left, List.drop_left' (length_storeBigU16 _),
      List.take_left]

theorem ext_fields {m m' : ActiveMessage} (hid : m.id = m'.id) (htext : m.text = m'.text) :
    m = m' := by
  cases m
  cases m'
  obtain rfl : _ = _ := hid
  obtain rfl : _ = _ := htext
  rfl

/-- Messages need no separators. -/
theorem prefixFree_encode : PrefixFree encode := by
  intro m m' rest rest' h
  obtain ⟨hid, hlength, htext⟩ := fields_of_encode (Eq.refl (m.encode ++ rest))
  obtain ⟨hid', hlength', htext'⟩ := fields_of_encode h.symm
  have hlengths : m.text.length = m'.text.length := hlength.symm.trans hlength'
  refine ext_fields (hid.symm.trans hid') ?_
  rw [← htext, ← htext', hlengths]

end ActiveMessage

open ActiveMessage

/-- The payload for a list of messages. -/
def encodeActiveMessages (ms : List ActiveMessage) : List UInt8 :=
  storeBigU16 ms.length ++ ms.flatMap encode

/-! ## The loop -/

/-- Two bytes are a number. -/
theorem storeBigU16_loadBigU16_take {s : List UInt8} (h : 2 ≤ s.length) :
    storeBigU16 (loadBigU16 s) = s.take 2 := by
  have htake : (s.take 2).length = 2 := List.length_take_of_le h
  have hload := loadBigU16_append (s.take 2) (s.drop 2) htake.ge
  rw [List.take_append_drop] at hload
  rw [hload, storeBigU16_loadBigU16 htake]

/-- Enough bytes are a message. -/
theorem exists_message {s : List UInt8} (htext : 4 + loadBigU16 (s.drop 2) ≤ s.length) :
    ∃ m : ActiveMessage, m.encode ++ s.drop (4 + m.text.length) = s ∧
      m.text.length = loadBigU16 (s.drop 2) ∧
      m.line = (toString (loadBigU16 s)).toList ++ [':', ' '] ++
        ((s.drop 4).take (loadBigU16 (s.drop 2))).map fun b => Char.ofNat b.toNat := by
  have hid : storeBigU16 (loadBigU16 s) = s.take 2 := storeBigU16_loadBigU16_take (by omega)
  have hlen : storeBigU16 (loadBigU16 (s.drop 2)) = (s.drop 2).take 2 :=
    storeBigU16_loadBigU16_take (by rw [List.length_drop]; omega)
  have hlt : loadBigU16 (s.drop 2) < 2 ^ 16 := loadBigU16_lt _
  generalize loadBigU16 (s.drop 2) = n at htext hlen hlt ⊢
  have hlength : ((s.drop 4).take n).length = n := by
    rw [List.length_take, List.length_drop]
    omega
  refine ⟨⟨loadBigU16 s, (s.drop 4).take n, loadBigU16_lt s, hlength.symm ▸ hlt⟩, ?_, hlength, rfl⟩
  have htail : (s.drop 4).take n ++ s.drop (4 + n) = (s.drop 2).drop 2 := by
    rw [← List.drop_drop, List.take_append_drop, List.drop_drop]
  unfold encode
  dsimp only
  rw [hlength, hid, hlen, List.append_assoc, List.append_assoc, htail, List.take_append_drop,
    List.take_append_drop]

/-- A message takes its bytes. -/
theorem bytes_of_message {s : List UInt8} {m : ActiveMessage} (h : m.encode <+: s) :
    4 + loadBigU16 (s.drop 2) ≤ s.length := by
  obtain ⟨rest, hrest⟩ := h
  obtain ⟨-, htext, -⟩ := fields_of_encode hrest
  rw [htext, ← hrest, List.length_append, length_encode]
  exact Nat.le_add_right _ _

/-- One more message in front. -/
theorem cons_there {s : List UInt8} {m : ActiveMessage}
    (hm : m.encode ++ s.drop (4 + m.text.length) = s) (more : List ActiveMessage) :
    (m :: more).flatMap encode <+: s ↔ more.flatMap encode <+: s.drop (4 + m.text.length) := by
  conv_lhs => rw [List.flatMap_cons, ← hm]
  exact List.prefix_append_right_inj _

/-- The loop lists messages that stand in front, until there are as many as it looks for, or no more
of them. -/
theorem activeMessages_spec (left : Nat) : ∀ s : List UInt8, ∃ ms : List ActiveMessage,
    (activeMessages left s).1 = ms.map line ∧ ms.flatMap encode <+: s ∧
      (ms.length = left ∧ ms.flatMap encode ++ (activeMessages left s).2 = s ∨
        ms.length < left ∧ ∀ m : ActiveMessage, ¬ (ms ++ [m]).flatMap encode <+: s) := by
  induction left with
  | zero => exact fun s => ⟨[], rfl, List.nil_prefix, .inl ⟨rfl, rfl⟩⟩
  | succ left ih =>
    intro s
    unfold activeMessages
    by_cases hbytes : 4 + loadBigU16 (s.drop 2) ≤ s.length
    · obtain ⟨m, hm, hlength, hline⟩ := exists_message hbytes
      have hhead : ¬ s.length < 4 := by omega
      have htext : ¬ (s.drop 4).length < loadBigU16 (s.drop 2) := by
        rw [List.length_drop]
        omega
      obtain ⟨ms, hout, hthere, hend⟩ := ih (s.drop (4 + m.text.length))
      have hcons := cons_there hm
      dsimp only
      rw [if_neg hhead, if_neg htext, ← hline, List.drop_drop, ← hlength]
      refine ⟨m :: ms, ?_, (hcons ms).2 hthere, ?_⟩
      · rw [hout]
        rfl
      · obtain ⟨hall, hbehind⟩ | ⟨hfew, hmore⟩ := hend
        · refine .inl ⟨by rw [List.length_cons, hall], ?_⟩
          rw [List.flatMap_cons, List.append_assoc, hbehind, hm]
        · exact .inr ⟨Nat.succ_lt_succ hfew, fun m' hm' => hmore m' ((hcons _).1 hm')⟩
    · -- the loop ends, at its test or at the break
      have hout : ∃ behind, (if s.length < 4 then ([], s)
          else if (s.drop 4).length < loadBigU16 (s.drop 2) then ([], s.drop 4)
          else
            ((((toString (loadBigU16 s)).toList ++ [':', ' '] ++
                ((s.drop 4).take (loadBigU16 (s.drop 2))).map fun b => Char.ofNat b.toNat) ::
              (activeMessages left ((s.drop 4).drop (loadBigU16 (s.drop 2)))).1),
              (activeMessages left ((s.drop 4).drop (loadBigU16 (s.drop 2)))).2)) =
            (([] : List (List Char)), behind) := by
        split_ifs with hhead htext
        · exact ⟨_, rfl⟩
        · exact ⟨_, rfl⟩
        · rw [List.length_drop] at htext
          omega
      obtain ⟨behind, hout⟩ := hout
      dsimp only
      rw [hout]
      refine ⟨[], rfl, List.nil_prefix, .inr ⟨Nat.succ_pos left, fun m hm => ?_⟩⟩
      rw [List.nil_append, List.flatMap_singleton] at hm
      exact hbytes (bytes_of_message hm)

/-! ## The payload -/

/-- What `DecodeActiveMessages` returns: lines of messages that stand behind the count, and whether
they are as many as it says and all that stands there. -/
theorem decodeActiveMessages_spec {p : List UInt8} (hcount : 2 ≤ p.length) :
    ∃ ms : List ActiveMessage, (decodeActiveMessages p).1 = ms.map line ∧
      ms.flatMap encode <+: p.drop 2 ∧ ms.length ≤ loadBigU16 p ∧
      (ms.length = loadBigU16 p ∨ Spells encode (p.drop 2) ms) ∧
      ((decodeActiveMessages p).2 = true ↔
        ms.length = loadBigU16 p ∧ ms.flatMap encode = p.drop 2) := by
  obtain ⟨ms, hout, hthere, hend⟩ := activeMessages_spec (loadBigU16 p) (p.drop 2)
  have hlines : (activeMessages (loadBigU16 p) (p.drop 2)).1.length = ms.length := by
    rw [hout, List.length_map]
  unfold decodeActiveMessages
  rw [if_neg (Nat.not_lt.mpr hcount)]
  dsimp only
  rw [decide_eq_true_iff, hlines]
  obtain ⟨hall, hbehind⟩ | ⟨hfew, hmore⟩ := hend
  · refine ⟨ms, hout, hthere, hall.le, .inl hall, ?_⟩
    rw [and_comm]
    refine and_congr_right fun _ => ⟨fun hnone => ?_, fun hbytes => ?_⟩
    · rwa [hnone, List.append_nil] at hbehind
    · rw [hbytes] at hbehind
      exact List.append_right_eq_self.mp hbehind
  · exact ⟨ms, hout, hthere, hfew.le, .inr ⟨hthere, hmore⟩,
      fun h => absurd h.2 hfew.ne, fun h => absurd h.1 hfew.ne⟩

/-- The count and the messages of a payload. -/
theorem eq_encodeActiveMessages_iff {p : List UInt8} {ms : List ActiveMessage}
    (hfit : ms.length < 2 ^ 16) :
    p = encodeActiveMessages ms ↔
      2 ≤ p.length ∧ ms.length = loadBigU16 p ∧ ms.flatMap encode = p.drop 2 := by
  unfold encodeActiveMessages
  constructor
  · rintro rfl
    refine ⟨?_, ?_, ?_⟩
    · rw [List.length_append, length_storeBigU16]
      exact Nat.le_add_right _ _
    · rw [loadBigU16_append _ _ (length_storeBigU16 _).ge, loadBigU16_storeBigU16 hfit]
    · rw [List.drop_left' (length_storeBigU16 _)]
  · rintro ⟨hcount, hlength, hbytes⟩
    rw [hlength, hbytes, storeBigU16_loadBigU16_take hcount, List.take_append_drop]

/-- **Active messages.**  `DecodeActiveMessages` is complete exactly on the payloads for a list of
messages, and lists them all in order.  Any other payload spells some messages behind its count; the
lines are those of the first of them, as many as the count asks for.  So they are a start of the
lines of every list of messages that the payload is a truncation of. -/
theorem active_messages (p : List UInt8) :
    ((decodeActiveMessages p).2 = true ↔
      ∃ ms : List ActiveMessage, ms.length < 2 ^ 16 ∧ p = encodeActiveMessages ms) ∧
    (∀ ms : List ActiveMessage, ms.length < 2 ^ 16 → p = encodeActiveMessages ms →
      (decodeActiveMessages p).1 = ms.map line) ∧
    (∃ ms, Spells encode (p.drop 2) ms ∧
      (decodeActiveMessages p).1 = (ms.take (loadBigU16 p)).map line) ∧
    (∀ ms : List ActiveMessage, p.drop 2 <+: ms.flatMap encode →
      (decodeActiveMessages p).1 <+: ms.map line) := by
  by_cases hcount : 2 ≤ p.length
  · obtain ⟨listed, hout, hthere, hle, hend, hcomplete⟩ := decodeActiveMessages_spec hcount
    obtain ⟨all, hall⟩ := exists_spells encode_ne_nil (p.drop 2)
    -- as many messages as the count asks for are the ones listed
    have hlisted {ms : List ActiveMessage} (hlength : ms.length = loadBigU16 p)
        (hbytes : ms.flatMap encode = p.drop 2) : listed = ms := by
      have hms : ms.flatMap encode <+: p.drop 2 := hbytes ▸ List.prefix_refl _
      have hstart := prefixFree_encode.prefix_of_prefix hthere hms (hlength ▸ hle)
      refine hstart.eq_of_length_le ?_
      obtain hfull | hspells := hend
      · exact (hlength.trans hfull.symm).le
      · exact (prefixFree_encode.prefix_of_spells hspells hms).length_le
    refine ⟨?_, ?_, ⟨all, hall, ?_⟩, ?_⟩
    · rw [hcomplete]
      constructor
      · rintro ⟨hlength, hbytes⟩
        have hfit : listed.length < 2 ^ 16 := hlength ▸ loadBigU16_lt p
        exact ⟨listed, hfit, (eq_encodeActiveMessages_iff hfit).2 ⟨hcount, hlength, hbytes⟩⟩
      · rintro ⟨ms, hfit, hp⟩
        obtain ⟨-, hlength, hbytes⟩ := (eq_encodeActiveMessages_iff hfit).1 hp
        rw [hlisted hlength hbytes]
        exact ⟨hlength, hbytes⟩
    · intro ms hfit hp
      obtain ⟨-, hlength, hbytes⟩ := (eq_encodeActiveMessages_iff hfit).1 hp
      rw [hout, hlisted hlength hbytes]
    · rw [hout]
      congr 1
      obtain hfull | hspells := hend
      · rw [← hfull]
        exact List.prefix_iff_eq_take.mp (prefixFree_encode.prefix_of_spells hall hthere)
      · obtain rfl := prefixFree_encode.spells_unique hspells hall
        exact (List.take_of_length_le hle).symm
    · intro ms htruncated
      rw [hout]
      exact (prefixFree_encode.prefix_of_truncated encode_ne_nil htruncated hthere).map line
  · have hnone : decodeActiveMessages p = ([], false) := by
      unfold decodeActiveMessages
      rw [if_pos (Nat.lt_of_not_le hcount)]
    have hrest : p.drop 2 = [] := List.drop_eq_nil_of_le (Nat.le_of_not_le hcount)
    rw [hnone, hrest]
    refine ⟨⟨nofun, ?_⟩, ?_, ⟨[], ⟨List.nil_prefix, ?_⟩, ?_⟩, fun _ _ => List.nil_prefix⟩
    · rintro ⟨ms, hfit, hp⟩
      exact absurd ((eq_encodeActiveMessages_iff hfit).1 hp).1 hcount
    · intro ms hfit hp
      exact absurd ((eq_encodeActiveMessages_iff hfit).1 hp).1 hcount
    · intro m hm
      rw [List.nil_append, List.flatMap_singleton, List.prefix_nil] at hm
      exact encode_ne_nil m hm
    · rw [List.take_nil]
      rfl

end Lms
end AmigaDrivers
