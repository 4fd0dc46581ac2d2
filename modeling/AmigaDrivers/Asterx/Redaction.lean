import AmigaDrivers.Asterx.CommandLines
import AmigaDrivers.Asterx.CommandReadback

/-!
# The password in the log

`commands.cpp`: `RedactCmd`, through which every command and every reply goes before it is logged.
It masks the seventh field of a line that begins with the name of the NTRIP settings.

The receiver repeats a command in its reply: behind `$R` and one more character, behind `#`, under
one of three names, and with the password as it was sent or as the receiver shows it.

* `redactCmd_append`: a text is redacted line by line.
* `redactCmd_settingsLine`: what a line with the NTRIP settings is shown as.
* `redaction_hides_password`: **the redacted text does not depend on the password.**
-/

namespace AmigaDrivers
namespace Asterx.Commands

open ByteUtil StringUtil DecimalText

/-! ## `RedactCmd` -/

/-- The first field of a line with the NTRIP settings. -/
def namesNtripSettings (field : Text) : Bool :=
  equalsCi field (ascii "setNtripSettings") || equalsCi field (ascii "NtripSettings") ||
    equalsCi field (ascii "snts")

/-- What stands before the command in a reply, and the rest. -/
def replyMark (body : Text) : Text × Text :=
  if 3 ≤ body.length ∧ body.take 2 = ascii "$R" then
    (body.take 3 ++ ascii " ", trim (body.drop 3))
  else ([], body)

/-- The sign of a command that is not executed, and the rest. -/
def commentMark (body : Text) : Text × Text :=
  if body.head? = some 35 then (ascii "#", trim (body.drop 1)) else ([], body)

/-- `RedactCmd` of a single line. -/
def redactLine (cmd : Text) : Text :=
  let (reply, body) := replyMark (trim cmd)
  let (comment, body) := commentMark body
  let fields := splitTrim body 44
  if 7 ≤ fields.length ∧ namesNtripSettings (fields.headD []) = true then
    reply ++ comment ++ fields.headD [] ++
      ((fields.set 6 (ascii "<REDACTED>")).drop 1).flatMap fun field => ascii ", " ++ field
  else cmd

/-- `RedactCmd`.  The lines that it calls itself on have no line feed. -/
def redactCmd (cmd : Text) : Text :=
  if 10 ∈ cmd then join ((split cmd 10).map redactLine) 10 else redactLine cmd

/-! ## Line by line -/

theorem redactCmd_eq (cmd : Text) : redactCmd cmd = join ((split cmd 10).map redactLine) 10 := by
  unfold redactCmd
  split_ifs with h
  · rfl
  · unfold split
    rw [List.splitOn_eq_singleton h]
    exact (List.intercalate_singleton).symm

theorem redactCmd_of_line {line : Text} (h : 10 ∉ line) : redactCmd line = redactLine line :=
  if_neg h

/-- A text is redacted line by line. -/
theorem redactCmd_append (a b : Text) :
    redactCmd (a ++ 10 :: b) = redactCmd a ++ 10 :: redactCmd b := by
  have hne (t : Text) : (split t 10).map redactLine ≠ [] := by
    rw [Ne, List.map_eq_nil_iff]
    exact List.splitOn_ne_nil 10 t
  have hsplit : split (a ++ 10 :: b) 10 = split a 10 ++ split b 10 :=
    List.splitOn_append_cons_self a b
  rw [redactCmd_eq, redactCmd_eq a, redactCmd_eq b, hsplit, List.map_append,
    join_append (hne a) (hne b)]

theorem redactCmd_join (lines : List Text) :
    redactCmd (join lines 10) = join (lines.map redactCmd) 10 := by
  induction lines with
  | nil => decide
  | cons line lines ih =>
    cases lines with
    | nil =>
      unfold join
      rw [List.map_singleton, List.intercalate_singleton, List.intercalate_singleton]
    | cons next lines =>
      rw [List.map_cons, List.map_cons, join_cons_cons, join_cons_cons, ← List.map_cons, ← ih,
        redactCmd_append]

/-! ## A line with the settings -/

/-- What is sent for the password. -/
def sentPassword (password : Text) : Text := quoteIfWhitespace (escapeNtripPassword password)

/-- The line with the NTRIP settings, under a name and with what is shown for the password. -/
def settingsLine (n : NtripSettings) (name shown : Text) : Text :=
  if !n.enabled then name ++ ascii ", NTR1, off"
  else name ++ ascii ", NTR1, Client, " ++ n.caster ++ ascii ", " ++ intText n.port ++
    ascii ", " ++ quoteIfWhitespace n.username ++ ascii ", " ++ shown ++ ascii ", " ++
    n.mountPoint ++ ascii ", " ++ n.version ++ ascii ", " ++ n.sendGga

/-- Spaces inside a line. -/
structure Blank where
  text : Text := []
  blank : ∀ c ∈ text, isSpace c = true ∧ c ≠ 10 := by decide

/-- A line of a reply that repeats the settings. -/
structure SettingsEcho where
  indent : Blank := {}
  /-- The character behind `$R`. -/
  reply : Option UInt8 := none
  afterReply : Blank := {}
  comment : Bool := false
  afterComment : Blank := {}
  name : Text := ascii "setNtripSettings"
  shown : Text → Text := sentPassword
  ending : Blank := {}
  reply_line : reply ≠ some 10
  named : namesNtripSettings name = true
  shown_field : ∀ p, receiverTextOk p true = true → 44 ∉ shown p ∧ 10 ∉ shown p

namespace SettingsEcho

/-- The sign of a reply. -/
def replyText (e : SettingsEcho) : Text :=
  match e.reply with
  | none => []
  | some c => ascii "$R" ++ [c]

/-- The line. -/
def text (e : SettingsEcho) (n : NtripSettings) : Text :=
  e.indent.text ++ (e.replyText ++ (e.afterReply.text ++ ((if e.comment then ascii "#" else []) ++
    (e.afterComment.text ++ (settingsLine n e.name (e.shown n.password) ++ e.ending.text)))))

end SettingsEcho

/-- A line of a reply: anything that does not depend on the settings, or the settings. -/
inductive ReplyLine
  | other (text : Text)
  | settings (echo : SettingsEcho)

/-- The line. -/
def ReplyLine.text (n : NtripSettings) : ReplyLine → Text
  | other text => text
  | settings echo => echo.text n

/-- The reply. -/
def replyText (n : NtripSettings) (reply : List ReplyLine) : Text :=
  join (reply.map (ReplyLine.text n)) 10

/-! ## What is shown of it -/

theorem name_token {name : Text} (h : namesNtripSettings name = true) :
    Token 20 name ∧ ∀ c ∈ name.head?, c ≠ 36 ∧ c ≠ 35 := by
  unfold namesNtripSettings at h
  simp only [Bool.or_eq_true] at h
  have hhead {known rest : Text} {d : UInt8} (heq : equalsCi name known = true)
      (hknown : known = d :: rest) (hmark : toLowerChar d ≠ 36) (hsign : toLowerChar d ≠ 35) :
      ∀ c ∈ name.head?, c ≠ 36 ∧ c ≠ 35 := by
    intro c hc
    have hlower := congrArg List.head? (equalsCi_iff.mp heq)
    unfold toLower at hlower
    rw [hknown, List.head?_map, List.head?_map, Option.mem_def.mp hc] at hlower
    have hcd : toLowerChar c = toLowerChar d := Option.some.inj hlower
    rw [← hcd] at hmark hsign
    constructor
    · rintro rfl
      exact hmark rfl
    · rintro rfl
      exact hsign rfl
  obtain (h | h) | h := h
  · exact ⟨token_of_equalsCi h (by decide), hhead h rfl (by decide) (by decide)⟩
  · exact ⟨token_of_equalsCi h (by decide), hhead h rfl (by decide) (by decide)⟩
  · exact ⟨token_of_equalsCi h (by decide), hhead h rfl (by decide) (by decide)⟩

theorem replyMark_of_head {t : Text} (h : t.head? ≠ some 36) : replyMark t = ([], t) := by
  refine if_neg fun hmark => h ?_
  obtain ⟨hlength, htake⟩ := hmark
  cases t with
  | nil => exact nomatch hlength
  | cons c t =>
    rw [List.take_succ_cons] at htake
    exact congrArg some (List.cons.inj htake).1

theorem commentMark_of_head {t : Text} (h : t.head? ≠ some 35) : commentMark t = ([], t) :=
  if_neg h

theorem head_trim {c : UInt8} (h : isSpace c = false) (t : Text) :
    (trim (c :: t)).head? = some c := by
  have htrim := trim_append_solid h (s := []) (rdropWhile_of_forall (by simpa using h)) t
  rw [List.singleton_append] at htrim
  rw [htrim]
  rfl

theorem rdropWhile_cons {t : Text} (h : trim t ≠ []) (c : UInt8) :
    (c :: t).rdropWhile isSpace = c :: t.rdropWhile isSpace := by
  have hne : t.rdropWhile isSpace ≠ [] := by
    intro hnil
    rw [← trim_rdropWhile, hnil] at h
    exact h rfl
  calc (c :: t).rdropWhile isSpace
      = ([c] ++ (t.rdropWhile isSpace ++ t.rtakeWhile isSpace)).rdropWhile isSpace := by
        rw [List.rdropWhile_append_rtakeWhile, List.singleton_append]
    _ = ([c] ++ t.rdropWhile isSpace).rdropWhile isSpace := by
        rw [← List.append_assoc, rdropWhile_append_right fun c => List.mem_rtakeWhile_imp]
    _ = [c] ++ t.rdropWhile isSpace := by
        rw [List.rdropWhile_eq_self_iff]
        intro _
        rw [List.getLast_append_of_ne_nil _ hne]
        exact List.rdropWhile_last_not _ _ hne

theorem replyMark_reply {t : Text} (h : trim t ≠ []) (c : UInt8) :
    replyMark (trim (ascii "$R" ++ c :: t)) = (ascii "$R" ++ [c] ++ ascii " ", trim t) := by
  have htrim : trim (ascii "$R" ++ c :: t) = ascii "$R" ++ c :: t.rdropWhile isSpace := by
    rw [← rdropWhile_cons h]
    exact trim_append_solid (by decide) (by decide) _
  unfold replyMark
  rw [htrim, if_pos ⟨by simp [ascii], rfl⟩]
  exact congrArg _ (trim_rdropWhile t)

theorem commentMark_comment (t : Text) :
    commentMark (trim (ascii "#" ++ t)) = (ascii "#", trim t) := by
  have htrim : trim (ascii "#" ++ t) = ascii "#" ++ t.rdropWhile isSpace :=
    trim_append_solid (by decide) (by decide) _
  rw [htrim]
  refine (if_pos rfl).trans ?_
  exact congrArg _ (trim_rdropWhile t)

/-- The signs as they are shown. -/
def SettingsEcho.mark (e : SettingsEcho) : Text :=
  (match e.reply with
    | none => []
    | some c => ascii "$R" ++ [c] ++ ascii " ") ++ if e.comment then ascii "#" else []

theorem trim_blank_append (blank : Blank) (t : Text) : trim (blank.text ++ t) = trim t :=
  trim_append_left (fun c hc => (blank.blank c hc).1) t

theorem commentMark_line (e : SettingsEcho) {c : UInt8} (hsolid : isSpace c = false)
    (hcomment : c ≠ 35) (rest : Text) :
    commentMark (trim (e.afterReply.text ++
      ((if e.comment then ascii "#" else []) ++ (e.afterComment.text ++ c :: rest)))) =
      (if e.comment then ascii "#" else [], trim (c :: rest)) := by
  rw [trim_blank_append]
  cases e.comment with
  | false =>
    rw [if_neg Bool.false_ne_true, List.nil_append, trim_blank_append]
    exact commentMark_of_head (by rw [head_trim hsolid]; simpa using hcomment)
  | true => rw [if_pos rfl, commentMark_comment, trim_blank_append]

/-- The signs are taken off one after the other. -/
theorem redactLine_marked (e : SettingsEcho) {c : UInt8} (hsolid : isSpace c = false)
    (hreply : c ≠ 36) (hcomment : c ≠ 35) (rest : Text)
    (hsettings : 7 ≤ (splitTrim (trim (c :: rest)) 44).length ∧
      namesNtripSettings ((splitTrim (trim (c :: rest)) 44).headD []) = true) :
    redactLine (e.indent.text ++ (e.replyText ++ (e.afterReply.text ++
        ((if e.comment then ascii "#" else []) ++ (e.afterComment.text ++ c :: rest))))) =
      e.mark ++ (splitTrim (trim (c :: rest)) 44).headD [] ++
        (((splitTrim (trim (c :: rest)) 44).set 6 (ascii "<REDACTED>")).drop 1).flatMap
          fun field => ascii ", " ++ field := by
  have hmark := commentMark_line e hsolid hcomment rest
  unfold redactLine SettingsEcho.replyText SettingsEcho.mark
  rw [trim_blank_append]
  generalize hbody : e.afterReply.text ++
    ((if e.comment then ascii "#" else []) ++ (e.afterComment.text ++ c :: rest)) = body at hmark ⊢
  have hhead : (trim body).head? = some (if e.comment then 35 else c) := by
    rw [← hbody, trim_blank_append]
    cases e.comment with
    | false =>
      rw [if_neg Bool.false_ne_true, List.nil_append, trim_blank_append]
      exact head_trim hsolid rest
    | true => exact head_trim (by decide) _
  cases e.reply with
  | none =>
    have hnone : replyMark (trim body) = ([], trim body) := by
      refine replyMark_of_head ?_
      rw [hhead]
      split_ifs
      · decide
      · simpa using hreply
    simp only [List.nil_append, hnone, hmark]
    rw [if_pos hsettings]
  | some mark =>
    have hne : trim body ≠ [] := by
      intro hnil
      rw [hnil] at hhead
      exact nomatch hhead
    simp only [List.append_assoc, List.singleton_append, replyMark_reply hne mark, hmark]
    rw [if_pos hsettings]

/-! ## The fields of the settings -/

section Settings

variable {n : NtripSettings} {name shown : Text}

theorem settingsLine_eq (henabled : n.enabled = true) :
    settingsLine n name shown = name ++ 44 :: (ascii " NTR1" ++ 44 :: (ascii " Client" ++
      44 :: (32 :: n.caster ++ 44 :: (32 :: intText n.port ++
      44 :: (32 :: quoteIfWhitespace n.username ++ 44 :: (32 :: shown ++
      44 :: (32 :: n.mountPoint ++ 44 :: (32 :: n.version ++ 44 :: 32 :: n.sendGga)))))))) := by
  have hseparator (t rest : Text) : t ++ ascii ", " ++ rest = t ++ 44 :: 32 :: rest := by
    rw [List.append_assoc]
    rfl
  have hclient (rest : Text) : name ++ ascii ", NTR1, Client, " ++ rest =
      name ++ 44 :: (ascii " NTR1" ++ 44 :: (ascii " Client" ++ 44 :: 32 :: rest)) := by
    rw [List.append_assoc]
    rfl
  unfold settingsLine
  rw [henabled, if_neg (by decide)]
  simp only [hseparator, hclient, List.append_assoc, List.cons_append]

/-- The fields that are read from a line with the settings. -/
theorem splitTrim_settingsLine (h : NtripOk n) (henabled : n.enabled = true)
    (hname : Token 20 name) (hshown : 44 ∉ shown) (ending : Blank) :
    splitTrim (trim (settingsLine n name shown ++ ending.text)) 44 =
      [name, ascii "NTR1", ascii "Client", n.caster, intText n.port, quoteIfWhitespace n.username,
        trim shown, n.mountPoint, n.version, n.sendGga] := by
  have hspace : isSpace 44 = false := by decide
  have htrim (t : Text) : trim (32 :: t) = trim t :=
    trim_append_left (show ∀ c ∈ [(32 : UInt8)], isSpace c = true by decide) t
  have hfield {t : Text} (ht : 44 ∉ t) (rest : Text) :
      splitTrim (trim (32 :: (t ++ 44 :: rest))) 44 = trim t :: splitTrim (trim rest) 44 := by
    rw [htrim]
    exact splitTrim_trim_cons hspace ht rest
  have husername : 44 ∉ quoteIfWhitespace n.username :=
    (inField_quoteIfWhitespace h.username.2.inField.1).1
  have hgga : splitTrim (trim (32 :: (n.sendGga ++ ending.text))) 44 = [n.sendGga] := by
    rw [htrim, trim_append_right fun c hc => (ending.blank c hc).1,
      splitTrim_trim_single h.sendGga.inField.1 (by rw [h.sendGga.trim_eq]; exact h.sendGga.1),
      h.sendGga.trim_eq]
  have hport := token_intText (by decide) h.port
  rw [settingsLine_eq henabled]
  simp only [List.append_assoc, List.cons_append]
  rw [splitTrim_trim_cons hspace hname.inField.1, splitTrim_trim_cons hspace (by decide),
    splitTrim_trim_cons hspace (by decide), hfield h.caster.inField.1, hfield hport.inField.1,
    hfield husername, hfield hshown, hfield h.mountPoint.inField.1, hfield h.version.inField.1,
    hgga, hname.trim_eq, h.caster.trim_eq, hport.trim_eq, trim_quoteIfWhitespace,
    h.mountPoint.trim_eq, h.version.trim_eq]
  rfl

theorem lf_not_mem_settingsLine (h : NtripOk n) (henabled : n.enabled = true)
    (hname : Token 20 name) (hshown : 10 ∉ shown) : 10 ∉ settingsLine n name shown := by
  have husername := (inField_quoteIfWhitespace h.username.2.inField.1).2
  have hport : InField (intText n.port) := (token_intText (by decide) h.port).inField
  unfold settingsLine
  rw [henabled, if_neg (by decide)]
  simp only [List.mem_append, not_or]
  exact ⟨⟨⟨⟨⟨⟨⟨⟨⟨⟨⟨⟨⟨⟨hname.inField.2, by decide⟩, h.caster.inField.2⟩, by decide⟩, hport.2⟩,
    by decide⟩, husername⟩, by decide⟩, hshown⟩, by decide⟩, h.mountPoint.inField.2⟩, by decide⟩,
    h.version.inField.2⟩, by decide⟩, h.sendGga.inField.2⟩

/-- A line with the settings is shown with its signs, and masked. -/
theorem redactCmd_settingsLine (e : SettingsEcho) (h : NtripOk n) (henabled : n.enabled = true) :
    redactCmd (e.text n) = e.mark ++ settingsLine n e.name (ascii "<REDACTED>") := by
  obtain ⟨hname, hhead⟩ := name_token e.named
  obtain ⟨hcomma, hlf⟩ := e.shown_field n.password h.password.2.1
  have hblank (b : Blank) : 10 ∉ b.text := fun hmem => (b.blank 10 hmem).2 rfl
  have hreply : 10 ∉ e.replyText := by
    unfold SettingsEcho.replyText
    cases hmark : e.reply with
    | none => exact List.not_mem_nil
    | some c =>
      rw [List.mem_append, List.mem_singleton, not_or]
      exact ⟨by decide, fun heq => e.reply_line (heq ▸ hmark)⟩
  have hcomment : 10 ∉ if e.comment then ascii "#" else [] := by
    split_ifs <;> decide
  have hline : 10 ∉ e.text n := by
    unfold SettingsEcho.text
    simp only [List.mem_append, not_or]
    exact ⟨hblank _, hreply, hblank _, hcomment, hblank _,
      lf_not_mem_settingsLine h henabled hname hlf, hblank _⟩
  have hfields := splitTrim_settingsLine h henabled hname hcomma e.ending
  obtain ⟨c, rest, hcons⟩ := List.exists_cons_of_ne_nil hname.1
  have hsolid : isSpace c = false :=
    isTokenChar_of_isSpace c (hname.2.1 c (hcons ▸ List.mem_cons_self))
  obtain ⟨hmark, hsign⟩ := hhead c (by rw [hcons]; rfl)
  obtain ⟨tail, htail⟩ :
      ∃ tail, settingsLine n e.name (e.shown n.password) ++ e.ending.text = c :: tail := by
    rw [settingsLine_eq henabled, hcons]
    exact ⟨_, rfl⟩
  rw [redactCmd_of_line hline]
  unfold SettingsEcho.text
  rw [htail] at hfields ⊢
  rw [redactLine_marked e hsolid hmark hsign tail (by rw [hfields]; exact ⟨by simp, e.named⟩),
    hfields]
  unfold settingsLine
  rw [henabled, if_neg (by decide)]
  simp only [List.headD_cons, List.set_cons_succ, List.set_cons_zero, List.drop_one,
    List.tail_cons, List.flatMap_cons, List.flatMap_nil, List.append_nil, List.append_assoc]
  rfl

end Settings

/-! ## Two runs -/

theorem length_escapeNtripPassword (raw : Text) :
    (escapeNtripPassword raw).length ≤ 5 * raw.length := by
  have hchar (c : UInt8) : (escapeNtripChar c).length ≤ 5 := by
    unfold escapeNtripChar
    split_ifs <;> simp [ascii]
  induction raw with
  | nil => exact Nat.le_refl _
  | cons c raw ih =>
    unfold escapeNtripPassword at ih ⊢
    rw [List.flatMap_cons, List.length_append, List.length_cons]
    have := hchar c
    omega

/-- The line as it is sent. -/
def SettingsEcho.sent : SettingsEcho where
  reply_line := by decide
  named := by decide
  shown_field _ hp :=
    (inField_quoteIfWhitespace (MessageText.inField ⟨isTokenChar_of_escape hp, Nat.le_refl _⟩).1)

/-- The command is built from accepted settings, and is the line as it is sent. -/
theorem buildNtripCommands_sent {n : NtripSettings} (h : n.enabled = true → NtripOk n) :
    ∃ tls, buildNtripCommands n = .ok (SettingsEcho.sent.text n, tls) := by
  have htext : SettingsEcho.sent.text n =
      settingsLine n (ascii "setNtripSettings") (sentPassword n.password) :=
    List.append_nil (settingsLine n _ _)
  rw [htext]
  unfold buildNtripCommands settingsLine
  cases henabled : n.enabled with
  | false => exact ⟨none, rfl⟩
  | true =>
    have h := h henabled
    have hlength : (ntripSettingsCommand n).length ≤ kMaxAsciiCommandLength := by
      have hpassword : Fits 160 (escapeNtripPassword n.password) :=
        ⟨singleLine_of_tokenChars (isTokenChar_of_escape h.password.2.1),
          Nat.le_trans (length_escapeNtripPassword _) (Nat.mul_le_mul_left 5 h.password.2.2)⟩
      have hport : Token (5 + 1) (intText n.port) := token_intText (by decide) h.port
      have huser := h.username.2.fits.quoteIfWhitespace
      have hsep := fits_separator
      have hname := fits_ascii "setNtripSettings, NTR1, Client, " (by decide +kernel)
      have hserver := ((hname.append h.caster.fits).append hsep).append hport.fits
      have hlogin := ((hserver.append hsep).append huser).append hsep
      have hmount := ((hlogin.append hpassword.quoteIfWhitespace).append hsep).append
        h.mountPoint.fits
      have hline := (((hmount.append hsep).append h.version.fits).append hsep).append h.sendGga.fits
      exact (hline.sendable (by decide)).2
    have hsettings : ntripSettingsCommand n =
        ascii "setNtripSettings" ++ ascii ", NTR1, Client, " ++ n.caster ++ ascii ", " ++
          intText n.port ++ ascii ", " ++ quoteIfWhitespace n.username ++ ascii ", " ++
          sentPassword n.password ++ ascii ", " ++ n.mountPoint ++ ascii ", " ++ n.version ++
          ascii ", " ++ n.sendGga := rfl
    rw [if_neg (by decide), if_neg (by decide), ← hsettings]
    simp only [check_bind_eq_ok, enforceCommandLength_eq_ok]
    exact ⟨_, hlength, rfl⟩

/-- **The redacted text does not depend on the password**: neither that of the command with the
NTRIP settings, nor that of any reply that repeats them. -/
theorem redaction_hides_password {s s' : ReceiverSettings}
    (h : validateReceiverSettings s = .ok ()) (h' : validateReceiverSettings s' = .ok ())
    (hsame : s' = { s with ntrip := { s.ntrip with password := s'.ntrip.password } }) :
    (∃ c c', buildNtripCommands s.ntrip = .ok c ∧ buildNtripCommands s'.ntrip = .ok c' ∧
      redactCmd c.1 = redactCmd c'.1) ∧
    ∀ reply, redactCmd (replyText s.ntrip reply) = redactCmd (replyText s'.ntrip reply) := by
  have hntrip : s'.ntrip = { s.ntrip with password := s'.ntrip.password } :=
    congrArg ReceiverSettings.ntrip hsame
  have hok := (acceptedSettings_of_validate h).ntrip
  have hok' := (acceptedSettings_of_validate h').ntrip
  generalize s.ntrip = n at hok hntrip ⊢
  generalize s'.ntrip = n' at hok' hntrip ⊢
  have henabled' : n'.enabled = n.enabled := by rw [hntrip]
  have hlines (name shown : Text) : settingsLine n' name shown = settingsLine n name shown := by
    rw [hntrip]
    rfl
  have hecho (e : SettingsEcho) : redactCmd (e.text n) = redactCmd (e.text n') := by
    cases henabled : n.enabled with
    | false =>
      have hoff : settingsLine n e.name (e.shown n.password) =
          settingsLine n e.name (e.shown n'.password) := by
        unfold settingsLine
        rw [henabled]
        rfl
      unfold SettingsEcho.text
      rw [hlines, hoff]
    | true =>
      rw [redactCmd_settingsLine e (hok henabled) henabled,
        redactCmd_settingsLine e (hok' (henabled'.trans henabled)) (henabled'.trans henabled),
        hlines]
  constructor
  · obtain ⟨tls, hbuild⟩ := buildNtripCommands_sent hok
    obtain ⟨tls', hbuild'⟩ := buildNtripCommands_sent hok'
    exact ⟨_, _, hbuild, hbuild', hecho _⟩
  · intro reply
    unfold replyText
    rw [redactCmd_join, redactCmd_join, List.map_map, List.map_map]
    refine congrArg (join · 10) (List.map_congr_left fun line _ => ?_)
    cases line with
    | other text => rfl
    | settings e => exact hecho e

/-- Settings with an NTRIP client. -/
def clientSettings (password : Text) : ReceiverSettings :=
  { defaultSettings with
    ntrip :=
      { enabled := true, caster := ascii "ntrip.com", username := ascii "user", password
        mountPoint := ascii "MP1" } }

theorem redaction_hides_password_of_two :
    redactCmd (replyText (clientSettings (ascii "a,b")).ntrip [.settings .sent]) =
      redactCmd (replyText (clientSettings (ascii "$R \"'")).ntrip [.settings .sent]) :=
  (redaction_hides_password (by decide +kernel) (by decide +kernel) rfl).2 [.settings .sent]

end Asterx.Commands
end AmigaDrivers
