import AmigaDrivers.Foundation.EscapeCode
import AmigaDrivers.Asterx.Redaction

/-!
# Which passwords the receiver can read back

`EscapeNtripPassword` spells out five characters and leaves the percent sign as it is, and
`ValidateReceiverSettings` accepts a password in which a sequence stands literally.

* `ntripCode`: the sequences as a code.
* `password_recoverable_iff`: **which passwords are sent like no other one.**
-/

namespace AmigaDrivers
namespace Asterx.Commands

open ByteUtil StringUtil DecimalText EscapeCode

/-! ## The sequences -/

/-- The characters that are spelled out, and their sequences. -/
def ntripSequences : List (UInt8 × Text) :=
  [(34, ascii "%%DQ"), (39, ascii "%%SQ"), (36, ascii "%%DL"), (38, ascii "%%AM"),
    (44, ascii "%%CM")]

/-- The sequence of a character. -/
def ntripWord (c : UInt8) : Option Text :=
  (ntripSequences.find? fun s => s.1 == c).map Prod.snd

theorem mem_ntripSequences {c : UInt8} {w : Text} (h : ntripWord c = some w) :
    (c, w) ∈ ntripSequences := by
  obtain ⟨⟨d, v⟩, hfind, rfl⟩ := Option.map_eq_some_iff.mp h
  have hkey : (d == c) = true := List.find?_some (p := fun s : UInt8 × Text => s.1 == c) hfind
  obtain rfl := eq_of_beq hkey
  exact List.mem_of_find?_eq_some hfind

/-- The sequences of the password. -/
def ntripCode : Code UInt8 where
  word := ntripWord
  nonempty h := by
    have hall : ∀ s ∈ ntripSequences, s.2 ≠ [] := by decide
    exact hall _ (mem_ntripSequences h)
  plain h := by
    have hall : ∀ s ∈ ntripSequences, ∀ d ∈ s.2, ntripWord d = none := by decide
    exact hall _ (mem_ntripSequences h)
  start h h' := by
    have hall : ∀ s ∈ ntripSequences, ∀ s' ∈ ntripSequences,
        s.2 <+: s'.2 ∨ s'.2 <+: s.2 → s.1 = s'.1 := by decide
    exact hall _ (mem_ntripSequences h) _ (mem_ntripSequences h')
  apart h h' k hk hlt := by
    have hall : ∀ s ∈ ntripSequences, ∀ s' ∈ ntripSequences, ∀ k < s.2.length, 0 < k →
        ¬(s.2.drop k <+: s'.2 ∨ s'.2 <+: s.2.drop k) := by decide
    exact hall _ (mem_ntripSequences h) _ (mem_ntripSequences h') k hlt hk

theorem escapeNtripPassword_eq (raw : Text) : escapeNtripPassword raw = ntripCode.escape raw := by
  have hchar : ∀ c, escapeNtripChar c = ntripCode.spell c := forall_byte (by decide +kernel)
  exact congrArg (raw.flatMap ·) (funext hchar)

/-! ## Accepted passwords -/

theorem validateNtrip_password {n : NtripSettings} (h : validateNtrip n = .ok ()) {password : Text}
    (hpassword : validateNtripText (ascii "receiver.ntrip.password") password 32 true = .ok ()) :
    validateNtrip { n with password } = .ok () := by
  unfold validateNtrip at h ⊢
  dsimp only
  cases henabled : n.enabled with
  | false => rfl
  | true =>
    rw [henabled, if_neg (by decide)] at h
    rw [if_neg (by decide)]
    simp only [check_bind_eq_ok] at h ⊢
    obtain ⟨hcaster, hspace, hport, husername, -, hmount, hversion, hgga⟩ := h
    exact ⟨hcaster, hspace, hport, husername, hpassword, hmount, hversion, hgga⟩

/-- Accepted settings stay so with another password that passes its own check. -/
theorem validate_password {s : ReceiverSettings} (h : validateReceiverSettings s = .ok ())
    {password : Text}
    (hpassword : validateNtripText (ascii "receiver.ntrip.password") password 32 true = .ok ()) :
    validateReceiverSettings { s with ntrip := { s.ntrip with password } } = .ok () := by
  unfold validateReceiverSettings at h ⊢
  simp only [check_bind_eq_ok] at h ⊢
  obtain ⟨haccount, hantenna, hgnss, himu, hnavigation, hpps, hntrip, hwarmup, hstreams⟩ := h
  exact ⟨haccount, hantenna, hgnss, himu, hnavigation, hpps, validateNtrip_password hntrip hpassword,
    hwarmup, hstreams⟩

theorem validateNtripText_eq_ok {key v : Text} {max : Nat} {isPassword : Bool} :
    validateNtripText key v max isPassword = .ok () ↔
      v ≠ [] ∧ v ≠ ascii "<?>" ∧ v.length ≤ max ∧ receiverTextOk v isPassword = true := by
  unfold validateNtripText
  simp only [check_bind_eq_ok, throwIf_eq_ok, Bool.or_eq_true, not_or, List.isEmpty_iff,
    beq_iff_eq, Nat.not_lt, Bool.not_eq_true', Bool.not_eq_false, and_assoc]

theorem receiverTextOk_append {a b : Text} {allowed : Bool} :
    receiverTextOk (a ++ b) allowed = true ↔
      receiverTextOk a allowed = true ∧ receiverTextOk b allowed = true := by
  unfold receiverTextOk
  rw [List.all_append, Bool.and_eq_true]

/-- A character that is spelled out and its sequence may both stand in a password. -/
theorem receiverTextOk_sequence {c : UInt8} {w : Text} (h : ntripWord c = some w) :
    receiverTextOk [c] true = true ∧ receiverTextOk w true = true := by
  have hall : ∀ s ∈ ntripSequences,
      receiverTextOk [s.1] true = true ∧ receiverTextOk s.2 true = true := by decide
  exact hall _ (mem_ntripSequences h)

/-! ## Recovery -/

/-- A password without sequences, and with one of the characters only if there is no room for its
sequence. -/
def Recoverable (password : Text) : Prop :=
  (∀ s ∈ ntripSequences, ¬s.2 <:+: password) ∧
    ((∃ c ∈ password, c ∈ escapable) → 29 < password.length)

theorem ntripWord_isSome {c : UInt8} : (∃ w, ntripWord c = some w) ↔ c ∈ escapable := by
  rw [← Option.isSome_iff_exists, ← List.contains_iff_mem, Bool.eq_iff_iff.symm]
  exact forall_byte (p := fun c => (ntripWord c).isSome = escapable.contains c) (by decide +kernel) c

/-- A password stays acceptable when a part of it is replaced. -/
theorem validate_replaced {a b x y : Text} (hok : receiverTextOk (a ++ (x ++ b)) true = true)
    (hy : receiverTextOk y true = true) (hmark : ∃ d ∈ y, d ∉ ascii "<?>")
    (hlength : (a ++ (y ++ b)).length ≤ 32) :
    validateNtripText (ascii "receiver.ntrip.password") (a ++ (y ++ b)) 32 true = .ok () := by
  obtain ⟨d, hd, hplace⟩ := hmark
  have hmem : d ∈ a ++ (y ++ b) := List.mem_append_right a (List.mem_append_left b hd)
  rw [receiverTextOk_append, receiverTextOk_append] at hok
  refine validateNtripText_eq_ok.mpr ⟨List.ne_nil_of_mem hmem, ?_, hlength, ?_⟩
  · intro heq
    exact hplace (heq ▸ hmem)
  · rw [receiverTextOk_append, receiverTextOk_append]
    exact ⟨hok.1, hy, hok.2.2⟩

theorem sequence_shape {c : UInt8} {w : Text} (h : ntripWord c = some w) :
    w.length = 4 ∧ (∃ d ∈ w, d ∉ ascii "<?>") ∧ c ∉ ascii "<?>" := by
  have hall : ∀ s ∈ ntripSequences,
      s.2.length = 4 ∧ (∃ d ∈ s.2, d ∉ ascii "<?>") ∧ s.1 ∉ ascii "<?>" := by decide
  exact hall _ (mem_ntripSequences h)

/-- **A password is sent like no other accepted one exactly when no sequence stands in it, and none
of the five characters unless it is longer than 29.** -/
theorem password_recoverable_iff {s : ReceiverSettings} (h : validateReceiverSettings s = .ok ())
    (henabled : s.ntrip.enabled = true) :
    (∀ s', validateReceiverSettings s' = .ok () → s'.ntrip.enabled = true →
      s'.ntrip.password ≠ s.ntrip.password →
      escapeNtripPassword s'.ntrip.password ≠ escapeNtripPassword s.ntrip.password) ↔
    Recoverable s.ntrip.password := by
  obtain ⟨-, hok, hlength⟩ := ((acceptedSettings_of_validate h).ntrip henabled).password
  constructor
  · intro hunique
    have hother {q : Text}
        (hq : validateNtripText (ascii "receiver.ntrip.password") q 32 true = .ok ())
        (hne : q ≠ s.ntrip.password) :
        ntripCode.escape q ≠ ntripCode.escape s.ntrip.password := by
      rw [← escapeNtripPassword_eq, ← escapeNtripPassword_eq]
      exact hunique { s with ntrip := { s.ntrip with password := q } } (validate_password h hq)
        henabled hne
    constructor
    · -- the sequence is replaced by its character
      rintro ⟨c, w⟩ hmem ⟨a, b, hp⟩
      have hw : ntripCode.word c = some w := by
        have hall : ∀ s ∈ ntripSequences, ntripWord s.1 = some s.2 := by decide
        exact hall _ hmem
      obtain ⟨hfour, -, hc⟩ := sequence_shape hw
      rw [List.append_assoc] at hp
      rw [← hp] at hok hlength hother
      simp only [List.length_append, hfour] at hlength
      have hq := validate_replaced hok (receiverTextOk_sequence hw).1 ⟨c, by simp, hc⟩
        (by simp only [List.length_append, List.length_singleton]; omega)
      refine hother hq (fun heq => ?_) (Code.escape_word hw a b).symm
      have hshort := congrArg List.length heq
      simp only [List.length_append, List.length_singleton, hfour] at hshort
      omega
    · -- the character is replaced by its sequence
      rintro ⟨c, hc, hescapable⟩
      obtain ⟨w, hw⟩ := ntripWord_isSome.mpr hescapable
      obtain ⟨a, b, hp⟩ := List.append_of_mem hc
      obtain ⟨hfour, hmark, -⟩ := sequence_shape hw
      rw [hp] at hok hother ⊢
      by_contra hshort
      rw [List.length_append, List.length_cons] at hshort
      have hq := validate_replaced (x := [c]) hok (receiverTextOk_sequence hw).2 hmark
        (by simp only [List.length_append, hfour]; omega)
      refine hother hq (fun heq => ?_) (Code.escape_word hw a b)
      have hlong := congrArg List.length heq
      simp only [List.length_append, List.length_cons, hfour] at hlong
      omega
  · intro hrecoverable s' h' henabled' hne heq
    obtain ⟨-, -, hlength'⟩ := ((acceptedSettings_of_validate h').ntrip henabled').password
    rw [escapeNtripPassword_eq, escapeNtripPassword_eq] at heq
    have hfree : ntripCode.Free s.ntrip.password :=
      fun c w hw => hrecoverable.1 _ (mem_ntripSequences hw)
    obtain hsame | ⟨c, hc, w, hw, hlonger⟩ := Code.eq_or_longer hfree heq
    · exact hne hsame
    · have hroom := hrecoverable.2 ⟨c, hc, ntripWord_isSome.mp ⟨w, hw⟩⟩
      rw [(sequence_shape hw).1] at hlonger
      omega

theorem password_recoverable_iff_of_letters :
    validateReceiverSettings (clientSettings (ascii "secret")) = .ok () ∧
      Recoverable (ascii "secret") ∧
      ∀ s', validateReceiverSettings s' = .ok () → s'.ntrip.enabled = true →
        s'.ntrip.password ≠ ascii "secret" →
        escapeNtripPassword s'.ntrip.password ≠ escapeNtripPassword (ascii "secret") := by
  have haccepted : validateReceiverSettings (clientSettings (ascii "secret")) = .ok () := by
    decide +kernel
  have hrecoverable : Recoverable (ascii "secret") := ⟨by decide, by decide⟩
  exact ⟨haccepted, hrecoverable, (password_recoverable_iff haccepted rfl).mpr hrecoverable⟩

/-- A quote and its sequence are sent the same way. -/
theorem sequence_sent_as_quote :
    ∃ s s', validateReceiverSettings s = .ok () ∧ validateReceiverSettings s' = .ok () ∧
      s.ntrip.enabled = true ∧ s'.ntrip.enabled = true ∧ s.ntrip.password ≠ s'.ntrip.password ∧
      escapeNtripPassword s.ntrip.password = escapeNtripPassword s'.ntrip.password :=
  ⟨clientSettings (ascii "\""), clientSettings (ascii "%%DQ"), by decide +kernel, by decide +kernel,
    rfl, rfl, by decide, by decide⟩

end Asterx.Commands
end AmigaDrivers
