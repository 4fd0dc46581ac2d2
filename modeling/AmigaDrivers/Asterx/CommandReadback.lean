import Mathlib.Data.List.Chain
import AmigaDrivers.Asterx.AcceptedSettings

/-!
# The readback of what was set

After a set command the driver asks for the value and compares the first fields
of the reply with what it expects.  The command and the expected fields are built
by different expressions, so they have to agree for every setting: a receiver
that answers with the arguments it was given must be believed.

* `IsAnswer` --- a reply that holds the line `key, arguments`, with any lines
  before it and anything after its end;
* `confirms_iff` --- such replies pass exactly when the fields of the first line
  of the arguments agree with the expected ones;
* `command_list_confirmed_iff` --- for accepted settings every pair of the list
  agrees, unless a list or the descriptor breaks the line.
-/

namespace AmigaDrivers
namespace Asterx.Commands

open ByteUtil StringUtil DecimalText

/-! ## The comparison of the source -/

/-- `FindConfigLinePayload`: what follows the key on the first line that begins with it. -/
def findConfigLinePayload (reply key : Text) : Except ConfigError Text :=
  match (getlines reply 10).find? fun line => startsWithCi (trim line) (key ++ ascii ",") with
  | some line => .ok (trim ((trim line).drop (key ++ ascii ",").length))
  | none => .error ⟨ascii "receiver reply did not contain '" ++ key ++ ascii "' line: " ++
      oneLine (trim reply)⟩

/-- `Unquote`. -/
def unquote (s : Text) : Text :=
  let out := trim s
  if 2 ≤ out.length ∧ out.head? = some 34 ∧ out.getLast? = some 34 then (out.drop 1).dropLast
  else out

/-- The loop of `verify_first_fields` over the expected fields and those of the reply. -/
def verifyFields (key : Text) : Nat → List (Text × Text) → Except ConfigError Unit
  | _, [] => .ok ()
  | i, (expected, field) :: rest => do
    throwIf (expected ≠ [] ∧ !equalsCi (unquote field) expected)
      (key ++ ascii " field " ++ natText (i + 1) ++ ascii " reads back '" ++ field ++
        ascii "', expected '" ++ expected ++ ascii "'")
    verifyFields key (i + 1) rest

/-- `verify_first_fields`. -/
def verifyFirstFields (reply key : Text) (expected : List Text) : Except ConfigError Text := do
  let payload ← findConfigLinePayload reply key
  let fields := splitTrim payload 44
  throwIf (fields.length < expected.length)
    (key ++ ascii " reply had " ++ natText fields.length ++ ascii " field(s), expected at least " ++
      natText expected.length ++ ascii ": " ++ oneLine (trim reply))
  verifyFields key 0 (expected.zip fields)
  return payload

/-! ## When the comparison succeeds -/

/-- Each expected field that is not blank is there. -/
inductive Agrees : List Text → List Text → Prop
  | nil (fields : List Text) : Agrees [] fields
  | cons {e f : Text} {expected fields : List Text}
      (first : e = [] ∨ equalsCi (unquote f) e = true) (rest : Agrees expected fields) :
      Agrees (e :: expected) (f :: fields)

theorem agrees_cons_iff {e f : Text} {expected fields : List Text} :
    Agrees (e :: expected) (f :: fields) ↔
      (e = [] ∨ equalsCi (unquote f) e = true) ∧ Agrees expected fields :=
  ⟨fun h => by cases h with | cons first rest => exact ⟨first, rest⟩, fun h => .cons h.1 h.2⟩

theorem verifyFields_eq_ok {key : Text} {i : Nat} {expected fields : List Text}
    (hlength : expected.length ≤ fields.length) :
    verifyFields key i (expected.zip fields) = .ok () ↔ Agrees expected fields := by
  induction expected generalizing i fields with
  | nil => exact ⟨fun _ => .nil fields, fun _ => rfl⟩
  | cons e expected ih =>
    cases fields with
    | nil => exact absurd hlength (Nat.not_succ_le_zero _)
    | cons f fields =>
      rw [List.zip_cons_cons, verifyFields, check_bind_eq_ok, throwIf_eq_ok,
        ih (Nat.le_of_succ_le_succ hlength), agrees_cons_iff]
      refine and_congr_left fun _ => ?_
      rw [not_and_or, not_not, Bool.not_eq_true, Bool.not_eq_false']

theorem length_le_of_agrees {expected fields : List Text} (h : Agrees expected fields) :
    expected.length ≤ fields.length := by
  induction h with
  | nil => exact Nat.zero_le _
  | cons _ _ ih => exact Nat.succ_le_succ ih

/-- The comparison with a line that was found. -/
theorem verifyFirstFields_isOk {reply key payload : Text} {expected : List Text}
    (hpayload : findConfigLinePayload reply key = .ok payload) :
    (∃ p, verifyFirstFields reply key expected = .ok p) ↔
      Agrees expected (splitTrim payload 44) := by
  have hiff (p : Text) : verifyFirstFields reply key expected = .ok p ↔
      expected.length ≤ (splitTrim payload 44).length ∧
      verifyFields key 0 (expected.zip (splitTrim payload 44)) = .ok () ∧ payload = p := by
    unfold verifyFirstFields
    rw [bind_eq_ok]
    constructor
    · rintro ⟨found, hfound, h⟩
      obtain rfl : payload = found := Except.ok.inj (hpayload.symm.trans hfound)
      rw [check_bind_eq_ok, throwIf_eq_ok, Nat.not_lt, check_bind_eq_ok] at h
      exact ⟨h.1, h.2.1, Except.ok.inj h.2.2⟩
    · rintro ⟨hlength, hfields, rfl⟩
      refine ⟨payload, hpayload, ?_⟩
      rw [check_bind_eq_ok, throwIf_eq_ok, Nat.not_lt, check_bind_eq_ok]
      exact ⟨hlength, hfields, rfl⟩
  constructor
  · rintro ⟨p, h⟩
    obtain ⟨hlength, hfields, -⟩ := (hiff p).mp h
    exact (verifyFields_eq_ok hlength).mp hfields
  · intro h
    have hlength := length_le_of_agrees h
    exact ⟨payload, (hiff payload).mpr ⟨hlength, (verifyFields_eq_ok hlength).mpr h, rfl⟩⟩

/-! ## Answers -/

/-- The arguments of a command: what follows its name. -/
def arguments (text : Text) : Text := (text.dropWhile (· != 44)).drop 2

/-- A reply that answers with the arguments: lines that do not begin with the key, the line
`key, arguments`, indented or not, and what follows its end. -/
def IsAnswer (key args reply : Text) : Prop :=
  ∃ (before : List Text) (indent rest : Text),
    (∀ line ∈ before, 10 ∉ line ∧ startsWithCi (trim line) (key ++ ascii ",") = false) ∧
    (∀ c ∈ indent, c = 32) ∧
    (rest = [] ∨ ∃ more, rest = 10 :: more ∨ rest = 13 :: 10 :: more) ∧
    reply = before.flatMap (· ++ [10]) ++ (indent ++ (key ++ (ascii ", " ++ (args ++ rest))))

/-- A receiver that answers the query with the arguments of the command passes. -/
def Confirms (set get : Command) : Prop :=
  ∀ reply, IsAnswer get.verifyKey (arguments set.text) reply →
    ∃ payload, verifyFirstFields reply get.verifyKey get.verifyFields = .ok payload

/-- The first line of a text. -/
def firstLine (t : Text) : Text := t.takeWhile (· != 10)

/-- The fields that are read back when `args` is answered. -/
def readback (args : Text) : List Text := splitTrim (trim (firstLine args)) 44

theorem getlines_before {before : List Text} (h : ∀ line ∈ before, 10 ∉ line) (rest : Text) :
    getlines (before.flatMap (· ++ [10]) ++ rest) 10 = before ++ getlines rest 10 := by
  induction before with
  | nil => rfl
  | cons line before ih =>
    obtain ⟨hline, hbefore⟩ := List.forall_mem_cons.mp h
    rw [List.flatMap_cons, List.append_assoc, List.append_assoc, List.singleton_append,
      getlines_cons hline, ih hbefore, List.cons_append]

/-- The arguments up to the end of the first line, with the end of the line. -/
theorem exists_first_line {rest : Text}
    (hrest : rest = [] ∨ ∃ more, rest = 10 :: more ∨ rest = 13 :: 10 :: more) (args : Text) :
    ∃ cr tail : Text, (∀ c ∈ cr, isSpace c = true) ∧ 10 ∉ cr ∧
      (tail = [] ∨ ∃ more, tail = 10 :: more) ∧ args ++ rest = firstLine args ++ cr ++ tail := by
  induction args with
  | nil =>
    obtain rfl | ⟨more, rfl | rfl⟩ := hrest
    · exact ⟨[], [], nofun, by decide, .inl rfl, rfl⟩
    · exact ⟨[], _, nofun, by decide, .inr ⟨more, rfl⟩, rfl⟩
    · exact ⟨[13], 10 :: more, by decide, by decide, .inr ⟨more, rfl⟩, rfl⟩
  | cons c args ih =>
    by_cases hc : c = 10
    · subst hc
      exact ⟨[], 10 :: (args ++ rest), nofun, by decide, .inr ⟨_, rfl⟩, rfl⟩
    · obtain ⟨cr, tail, hcr, hlf, htail, happend⟩ := ih
      refine ⟨cr, tail, hcr, hlf, htail, ?_⟩
      have hfirst : firstLine (c :: args) = c :: firstLine args :=
        List.takeWhile_cons_of_pos (by simpa using hc)
      rw [hfirst, List.cons_append, happend]
      rfl

theorem lf_not_mem_firstLine (t : Text) : 10 ∉ firstLine t :=
  fun h => absurd (List.mem_takeWhile_imp h) (by decide)

/-- Only what follows a key and a comma is trimmed. -/
theorem trim_token_append {bound : Nat} {key : Text} (h : Token bound key) (t : Text) :
    trim (key ++ ascii "," ++ t) = key ++ ascii "," ++ t.rdropWhile isSpace := by
  have hsolid : ∀ c ∈ key ++ ascii ",", isSpace c = false := by
    intro c hc
    obtain hc | hc := List.mem_append.mp hc
    · exact isTokenChar_of_isSpace c (h.2.1 c hc)
    · exact (show ∀ c ∈ ascii ",", isSpace c = false by decide) c hc
  cases key with
  | nil => exact absurd rfl h.1
  | cons c key => exact trim_append_solid (hsolid c (by simp)) (rdropWhile_of_forall hsolid) t

/-- What is found after the key is the first line of the arguments. -/
theorem findConfigLinePayload_of_answer {bound : Nat} {key args reply : Text}
    (hkey : Token bound key) (h : IsAnswer key args reply) :
    findConfigLinePayload reply key = .ok (trim (firstLine args)) := by
  obtain ⟨before, indent, rest, hbefore, hindent, hrest, rfl⟩ := h
  obtain ⟨cr, tail, hcr, hcrlf, htail, happend⟩ := exists_first_line hrest args
  have hblank : ∀ c ∈ indent, isSpace c = true := fun c hc => hindent c hc ▸ rfl
  -- The line of the answer, and what is left of it after trimming.
  have hsplit : ∃ line, 10 ∉ line ∧ line ≠ [] ∧
      indent ++ (key ++ (ascii ", " ++ (args ++ rest))) = line ++ tail ∧
      trim line = key ++ ascii "," ++ (ascii " " ++ (firstLine args ++ cr)).rdropWhile isSpace := by
    have hcomma : ascii ", " = ascii "," ++ ascii " " := rfl
    refine ⟨indent ++ (key ++ (ascii ", " ++ (firstLine args ++ cr))), ?_, ?_, ?_, ?_⟩
    · simp only [List.mem_append, not_or]
      exact ⟨fun hmem => absurd (hindent 10 hmem) (by decide),
        fun hmem => absurd (hkey.2.1 10 hmem) (by decide), by decide, lf_not_mem_firstLine args,
        hcrlf⟩
    · simp [hkey.1]
    · rw [happend]
      simp only [List.append_assoc]
    · rw [trim_append_left hblank, hcomma, List.append_assoc, ← List.append_assoc key]
      exact trim_token_append hkey _
  obtain ⟨line, hlf, hne, hline, htrim⟩ := hsplit
  have hfirst : ∃ more, getlines (line ++ tail) 10 = line :: more := by
    obtain rfl | ⟨more, rfl⟩ := htail
    · exact ⟨[], by rw [List.append_nil, getlines_single hlf hne]⟩
    · exact ⟨_, getlines_cons hlf more⟩
  obtain ⟨more, hmore⟩ := hfirst
  have hnone : before.find? (fun line => startsWithCi (trim line) (key ++ ascii ",")) = none := by
    rw [List.find?_eq_none]
    exact fun line hline => by rw [(hbefore line hline).2]; exact Bool.false_ne_true
  unfold findConfigLinePayload
  rw [getlines_before (fun line hline => (hbefore line hline).1), hline, hmore, List.find?_append,
    hnone, Option.none_or, List.find?_cons_of_pos (by rw [htrim]; exact startsWithCi_append _ _)]
  dsimp only
  rw [htrim, List.drop_left, trim_rdropWhile,
    trim_append_left (show ∀ c ∈ ascii " ", isSpace c = true by decide), trim_append_right hcr]

/-- **Answers and fields.**  A receiver that answers with the arguments passes exactly when the
fields on the first line of the arguments agree with the expected ones. -/
theorem confirms_iff {bound : Nat} {set get : Command} (hkey : Token bound get.verifyKey) :
    Confirms set get ↔ Agrees get.verifyFields (readback (arguments set.text)) := by
  constructor
  · intro h
    have hanswer : IsAnswer get.verifyKey (arguments set.text)
        (get.verifyKey ++ (ascii ", " ++ (arguments set.text ++ []))) :=
      ⟨[], [], [], nofun, nofun, .inl rfl, rfl⟩
    exact (verifyFirstFields_isOk (findConfigLinePayload_of_answer hkey hanswer)).mp (h _ hanswer)
  · intro h reply hanswer
    exact (verifyFirstFields_isOk (findConfigLinePayload_of_answer hkey hanswer)).mpr h

/-! ## Fields that are read back -/

/-- A text that stays within its field. -/
def InField (t : Text) : Prop := 44 ∉ t ∧ 10 ∉ t

theorem Token.inField {bound : Nat} {t : Text} (h : Token bound t) : InField t :=
  ⟨fun hmem => absurd (h.2.1 44 hmem) (by decide), fun hmem => absurd (h.2.1 10 hmem) (by decide)⟩

theorem firstLine_append {t : Text} (h : 10 ∉ t) (rest : Text) :
    firstLine (t ++ rest) = t ++ firstLine rest := by
  unfold firstLine
  refine List.takeWhile_append_of_pos fun c hc => ?_
  simpa using fun heq : c = 10 => h (heq ▸ hc)

theorem firstLine_eq {t : Text} (h : 10 ∉ t) : firstLine t = t := by
  have happend := firstLine_append h []
  rwa [List.append_nil, show firstLine [] = [] from rfl, List.append_nil] at happend

theorem readback_cons {t : Text} (h : InField t) (rest : Text) :
    readback (t ++ (ascii ", " ++ rest)) = trim t :: readback rest := by
  have hseparator : firstLine (ascii ", " ++ rest) = 44 :: (ascii " " ++ firstLine rest) :=
    firstLine_append (show 10 ∉ ascii ", " by decide) rest
  unfold readback
  rw [firstLine_append h.2, hseparator, splitTrim_trim_cons (by decide) h.1,
    trim_append_left (show ∀ c ∈ ascii " ", isSpace c = true by decide)]

theorem readback_single {t : Text} (h : InField t) (hne : trim t ≠ []) : readback t = [trim t] := by
  unfold readback
  rw [firstLine_eq h.2, splitTrim_trim_single h.1 hne]

theorem unquote_trim (t : Text) : unquote (trim t) = unquote t := by
  unfold unquote
  rw [trim_trim]

theorem unquote_of_quoteless {t : Text} (htrim : trim t = t) (hquote : 34 ∉ t) : unquote t = t := by
  unfold unquote
  rw [htrim]
  exact if_neg fun h => hquote (List.mem_of_mem_head? h.2.1)

theorem Token.unquote_eq {bound : Nat} {t : Text} (h : Token bound t) : unquote t = t :=
  unquote_of_quoteless h.trim_eq fun hmem => absurd (h.2.1 34 hmem) (by decide)

/-- A token is read back as it was sent. -/
theorem agrees_token {bound : Nat} {t rest : Text} {expected : List Text} (h : Token bound t)
    (hrest : Agrees expected (readback rest)) :
    Agrees (t :: expected) (readback (t ++ (ascii ", " ++ rest))) := by
  rw [readback_cons h.inField]
  exact .cons (.inr (by rw [unquote_trim, h.unquote_eq, equalsCi_refl])) hrest

theorem agrees_last {bound : Nat} {t : Text} (h : Token bound t) : Agrees [t] (readback t) := by
  rw [readback_single h.inField (by rw [h.trim_eq]; exact h.1)]
  exact .cons (.inr (by rw [unquote_trim, h.unquote_eq, equalsCi_refl])) (.nil _)

/-- What is not compared. -/
theorem agrees_blank {t rest : Text} {expected : List Text} (h : InField t)
    (hrest : Agrees expected (readback rest)) :
    Agrees ([] :: expected) (readback (t ++ (ascii ", " ++ rest))) := by
  rw [readback_cons h]
  exact .cons (.inl rfl) hrest

/-- A text that is sent in quotes if it has spaces keeps them. -/
theorem trim_quoteIfWhitespace (t : Text) : trim (quoteIfWhitespace t) = quoteIfWhitespace t := by
  unfold quoteIfWhitespace
  split
  · have hsolid : isSpace 34 = false := by decide
    exact trim_enclosed hsolid hsolid t
  · rename_i h
    unfold hasWhitespace at h
    exact trim_of_forall (by simpa using h)

theorem unquote_quoteIfWhitespace {t : Text} (hquote : 34 ∉ t) :
    unquote (quoteIfWhitespace t) = t := by
  by_cases h : hasWhitespace t = true
  · have hquoted : quoteIfWhitespace t = 34 :: t ++ [34] := if_pos h
    have hends : 2 ≤ (34 :: t ++ [34]).length ∧ (34 :: t ++ [34]).head? = some 34 ∧
        (34 :: t ++ [34]).getLast? = some 34 := ⟨by simp, rfl, List.getLast?_concat⟩
    unfold unquote
    rw [trim_quoteIfWhitespace, hquoted]
    dsimp only
    rw [if_pos hends, List.cons_append, List.drop_one, List.tail_cons, List.dropLast_concat]
  · have hplain : quoteIfWhitespace t = t := if_neg h
    rw [hplain]
    exact unquote_of_quoteless (hplain ▸ trim_quoteIfWhitespace t) hquote

theorem inField_quoteIfWhitespace {t : Text} (h : InField t) : InField (quoteIfWhitespace t) := by
  unfold quoteIfWhitespace
  split
  · simp only [InField, List.mem_append, not_or]
    exact ⟨⟨⟨by decide, h.1⟩, by decide⟩, ⟨by decide, h.2⟩, by decide⟩
  · exact h

/-- It is read back as it was set. -/
theorem agrees_quoted_last {t : Text} (hne : t ≠ []) (h : InField t) (hquote : 34 ∉ t) :
    Agrees [t] (readback (quoteIfWhitespace t)) := by
  have htrim : trim (quoteIfWhitespace t) ≠ [] := by
    rw [trim_quoteIfWhitespace]
    unfold quoteIfWhitespace
    split
    · exact nofun
    · exact hne
  rw [readback_single (inField_quoteIfWhitespace h) htrim]
  exact .cons (.inr (by rw [unquote_trim, unquote_quoteIfWhitespace hquote, equalsCi_refl])) (.nil _)

theorem agrees_quoted {t rest : Text} {expected : List Text} (h : InField t) (hquote : 34 ∉ t)
    (hrest : Agrees expected (readback rest)) :
    Agrees (t :: expected) (readback (quoteIfWhitespace t ++ (ascii ", " ++ rest))) := by
  rw [readback_cons (inField_quoteIfWhitespace h)]
  exact .cons (.inr (by rw [unquote_trim, unquote_quoteIfWhitespace hquote, equalsCi_refl])) hrest

/-! ## Pairs of commands -/

/-- A query that is not of an SBF stream confirms the command before it. -/
def ConfirmsIfAsked (set get : Command) : Prop :=
  get.kind = .verifyEcho → get.verifyKey ≠ ascii "SBFOutput" → Confirms set get

/-- Every query of the list confirms the command before it. -/
def Confirmed (cmds : List Command) : Prop := cmds.IsChain ConfirmsIfAsked

/-- A list that does not begin with a query. -/
def Opens (cmds : List Command) : Prop := ∀ c ∈ cmds.head?, c.kind ≠ .verifyEcho

theorem opens_nil : Opens [] := nofun

theorem Opens.append {xs ys : List Command} (hx : Opens xs) (hy : Opens ys) : Opens (xs ++ ys) := by
  cases xs with
  | nil => exact hy
  | cons x xs => exact hx

theorem opens_setAndEcho {setText getText key : Text} {fields : List Text} :
    Opens (setAndEcho setText getText key fields) := by
  intro c hc
  obtain rfl := Option.some.inj hc
  exact nofun

theorem opens_setAndEcho_append {setText getText key : Text} {fields : List Text}
    {rest : List Command} : Opens (setAndEcho setText getText key fields ++ rest) := by
  intro c hc
  obtain rfl := Option.some.inj hc
  exact nofun

theorem confirmed_append {xs ys : List Command} (hy : Opens ys) :
    Confirmed (xs ++ ys) ↔ Confirmed xs ∧ Confirmed ys := by
  unfold Confirmed
  rw [List.isChain_append]
  constructor
  · exact fun h => ⟨h.1, h.2.1⟩
  · exact fun h => ⟨h.1, h.2, fun _ _ y hmem hkind => absurd hkind (hy y hmem)⟩

/-- The keys of the queries. -/
def Key (key : Text) : Prop := Token 40 key ∧ key ≠ ascii "SBFOutput"

instance (key : Text) : Decidable (Key key) := inferInstanceAs (Decidable (_ ∧ _))

theorem confirmed_setAndEcho {setText getText key : Text} {fields : List Text} (hkey : Key key) :
    Confirmed (setAndEcho setText getText key fields) ↔
      Agrees fields (readback (arguments setText)) := by
  unfold Confirmed setAndEcho
  rw [List.isChain_pair]
  exact ⟨fun h => (confirms_iff hkey.1).mp (h rfl hkey.2), fun h _ _ => (confirms_iff hkey.1).mpr h⟩

/-- The arguments of a command whose name and first arguments are a literal. -/
theorem arguments_append {name : Text} (first : Text)
    (h : name.dropWhile (· != 44) = ascii ", " ++ first) (rest : Text) :
    arguments (name ++ rest) = first ++ rest := by
  unfold arguments
  rw [List.dropWhile_append, if_neg (by rw [h]; exact Bool.false_ne_true), h]
  rfl

theorem token_onOff (v : Bool) : Token 3 (onOff v) := by
  cases v
  · show Token 3 (ascii "off")
    decide
  · show Token 3 (ascii "on")
    decide

theorem token_decimal {v : ℚ} (h : Decimal v) (digits : Nat) (hdigits : 0 < digits) :
    Token (9 + digits) (fmtCommandDecimal v digits) := token_fmtCommandDecimal h hdigits

/-- A pair whose command is a literal with first arguments, and more arguments. -/
theorem confirmed_of_first {name getText key rest : Text} {fields : List Text} (first : Text)
    (hkey : Key key) (hname : name.dropWhile (· != 44) = ascii ", " ++ first)
    (h : Agrees fields (readback (first ++ rest))) :
    Confirmed (setAndEcho (name ++ rest) getText key fields) := by
  rw [confirmed_setAndEcho hkey, arguments_append first hname]
  exact h

/-- A pair whose command is a name and arguments. -/
theorem confirmed_of_agrees {name getText key args : Text} {fields : List Text}
    (hkey : Key key) (hname : name.dropWhile (· != 44) = ascii ", ")
    (h : Agrees fields (readback args)) :
    Confirmed (setAndEcho (name ++ args) getText key fields) :=
  confirmed_of_first [] hkey hname h

theorem confirmed_time {ts : TimeSystemSettings} (h : PpsOk ts.pps) :
    Confirmed (timeCommands ts) := by
  unfold timeCommands buildPpsCommand
  simp only [confirmed_append, opens_setAndEcho, opens_setAndEcho_append, List.append_assoc]
  refine ⟨confirmed_of_agrees (by decide +kernel) (by decide +kernel) ?_,
    confirmed_of_agrees (by decide +kernel) (by decide +kernel) (agrees_last (token_onOff _)),
    confirmed_of_agrees (by decide +kernel) (by decide +kernel) (agrees_last (token_onOff _))⟩
  refine agrees_token h.interval ?_
  refine agrees_token h.polarity ?_
  refine agrees_token (token_decimal h.delay 2 (by decide)) ?_
  refine agrees_token h.timeScale ?_
  refine agrees_token (token_intText (by decide) h.maxHoldover) ?_
  exact agrees_last (token_decimal h.pulseWidth 6 (by decide))

theorem confirmed_antenna {a : AntennaSettings} (h : AntennaOk a) (hmain : 10 ∉ a.mainType)
    (haux : 10 ∉ a.auxType) : Confirmed (antennaCommands a) := by
  have hname {which : String} (hwhich : Token 40 (ascii which)) {type : Text}
      (htype : AntennaNameOk type) (hline : 10 ∉ type) {getText key : Text} (hkey : Key key) :
      Confirmed (setAndEcho (buildAntennaTypeCommand (ascii which) type) getText key
        [ascii which, type]) := by
    unfold buildAntennaTypeCommand
    simp only [List.append_assoc]
    refine confirmed_of_agrees hkey (by decide +kernel) (agrees_token hwhich ?_)
    exact agrees_quoted_last htype.ne ⟨htype.comma, hline⟩ htype.quote
  unfold antennaCommands
  rw [confirmed_append opens_setAndEcho_append]
  refine ⟨?_, ?_⟩
  · split
    · exact List.isChain_singleton _
    · exact List.isChain_nil
  · simp only [confirmed_append, opens_setAndEcho, opens_setAndEcho_append]
    refine ⟨hname (by decide) h.mainType hmain (by decide +kernel),
      hname (by decide) h.auxType haux (by decide +kernel), ?_, ?_⟩
    · simp only [List.append_assoc]
      refine confirmed_of_agrees (by decide +kernel) (by decide +kernel) ?_
      refine agrees_token (token_decimal h.heading 3 (by decide)) ?_
      exact agrees_last (token_decimal h.pitch 3 (by decide))
    · unfold buildInsAntLeverArmCommand setVec3Command
      simp only [List.append_assoc]
      rw [← List.append_assoc (ascii "setINSAntLeverArm")]
      refine confirmed_of_agrees (by decide +kernel) (by decide +kernel) ?_
      refine agrees_token (token_decimal h.x 3 (by decide)) ?_
      refine agrees_token (token_decimal h.y 3 (by decide)) ?_
      exact agrees_last (token_decimal h.z 3 (by decide))

theorem confirmed_imu {imu : ImuSettings} (h : ImuOk imu) : Confirmed (imuCommands imu) := by
  unfold imuCommands
  simp only [confirmed_append, opens_setAndEcho, opens_setAndEcho_append]
  refine ⟨confirmed_of_agrees (by decide +kernel) (by decide +kernel)
    (agrees_last h.startupDataMode), ?_, ?_⟩
  · rw [confirmed_setAndEcho (by decide +kernel)]
    unfold buildImuOrientationCommand
    split
    · exact agrees_last (show Token 40 (ascii "SensorDefault") by decide)
    · simp only [List.append_assoc]
      rw [arguments_append [] (by decide +kernel), List.nil_append]
      refine agrees_token h.orientationMode ?_
      refine agrees_token (token_decimal h.thetaX 3 (by decide)) ?_
      refine agrees_token (token_decimal h.thetaY 3 (by decide)) ?_
      exact agrees_last (token_decimal h.thetaZ 3 (by decide))
  · rw [confirmed_setAndEcho (by decide +kernel)]
    exact agrees_last (show Token 40 (ascii "MultiAntenna") by decide)

theorem confirmed_navigation {nav : NavigationSettings} (h : NavigationOk nav) :
    Confirmed (navigationCommands nav) := by
  unfold navigationCommands
  simp only [confirmed_append, opens_setAndEcho, opens_setAndEcho_append]
  refine ⟨?_, confirmed_of_agrees (by decide +kernel) (by decide +kernel)
      (agrees_last h.receiverDynamics),
    confirmed_of_agrees (by decide +kernel) (by decide +kernel)
      (agrees_last h.vehicleApplication),
    confirmed_of_agrees (by decide +kernel) (by decide +kernel)
      (agrees_last h.clockSyncThreshold), ?_, ?_⟩
  · exact confirmed_of_first (ascii "Rover" ++ ascii ", ") (by decide +kernel) (by decide +kernel)
      (agrees_token (show Token 40 (ascii "Rover") by decide) (.nil _))
  · simp only [List.append_assoc]
    refine confirmed_of_agrees (by decide +kernel) (by decide +kernel) ?_
    exact agrees_token (token_onOff _) (agrees_last (token_onOff _))
  · refine confirmed_of_first (ascii "on" ++ (ascii ", " ++ (ascii "all" ++ ascii ", ")))
      (by decide +kernel) (by decide +kernel) ?_
    simp only [List.append_assoc]
    refine agrees_token (show Token 40 (ascii "on") by decide) ?_
    exact agrees_blank ⟨by decide, by decide⟩ (agrees_last h.insOutputLocation)

/-! ## Lists that may break the line -/

/-- One field of a text without commas, unless its first line is blank. -/
theorem readback_line {t : Text} (hcomma : 44 ∉ t) :
    readback t = if trim (firstLine t) = [] then [] else [trim (firstLine t)] := by
  have hfirst : 44 ∉ firstLine t := fun h => hcomma ((List.takeWhile_prefix _).subset h)
  unfold readback
  split
  · rename_i hblank
    rw [hblank, splitTrim_nil]
  · rename_i hne
    exact splitTrim_trim_single hfirst hne

/-- A value that holds a line break ends its line, whatever follows. -/
theorem firstLine_of_mem {t : Text} (h : 10 ∈ t) (rest : Text) :
    firstLine (t ++ rest) = firstLine t := by
  unfold firstLine
  induction t with
  | nil => exact (List.not_mem_nil h).elim
  | cons c t ih =>
    by_cases hc : c = 10
    · rw [List.cons_append, List.takeWhile_cons_of_neg (by simpa using hc),
        List.takeWhile_cons_of_neg (by simpa using hc)]
    · have hmem := (List.mem_cons.mp h).resolve_left (Ne.symm hc)
      rw [List.cons_append, List.takeWhile_cons_of_pos (by simpa using hc),
        List.takeWhile_cons_of_pos (by simpa using hc), ih hmem]

/-- A field that is only compared when it is `none`. -/
theorem noneOrBlank_agrees (v : Text) :
    noneOrBlank v = [] ∨ equalsCi (unquote (trim v)) (noneOrBlank v) = true := by
  unfold noneOrBlank
  split
  · rename_i hnone
    have htoken := token_of_equalsCi hnone (show Token 4 (ascii "none") by decide)
    rw [unquote_trim, htoken.unquote_eq]
    exact .inr hnone
  · exact .inl rfl

/-- A single list is confirmed unless its first line is blank. -/
theorem agrees_list_iff {v : Text} (h : PlusList v) :
    Agrees [noneOrBlank v] (readback v) ↔ trim (firstLine v) ≠ [] := by
  rw [readback_line h.2]
  split
  · rename_i hblank
    exact ⟨nofun, fun hne => absurd hblank hne⟩
  · rename_i hne
    refine ⟨fun _ => hne, fun _ => .cons ?_ (.nil _)⟩
    by_cases hline : 10 ∈ v
    · have hnone : equalsCi v (ascii "none") = false := by
        rw [Bool.eq_false_iff]
        exact fun hequal => (token_of_equalsCi hequal
          (show Token 4 (ascii "none") by decide)).inField.2 hline
      exact .inl (if_neg (by rw [hnone]; exact Bool.false_ne_true))
    · rw [firstLine_eq hline]
      exact noneOrBlank_agrees v

/-- A list that is sent twice is confirmed unless it holds a line break. -/
theorem agrees_twice_iff {v : Text} (h : PlusList v) :
    Agrees [noneOrBlank v, noneOrBlank v] (readback (v ++ (ascii ", " ++ v))) ↔ 10 ∉ v := by
  constructor
  · intro hagrees hline
    have hlength := length_le_of_agrees hagrees
    have hone : readback (v ++ (ascii ", " ++ v)) = readback v := by
      unfold readback
      rw [firstLine_of_mem hline]
    rw [hone, readback_line h.2] at hlength
    split at hlength
    · exact absurd hlength (by simp)
    · exact absurd hlength (by simp)
  · intro hline
    rw [readback_cons ⟨h.2, hline⟩, readback_single ⟨h.2, hline⟩ h.1]
    exact .cons (noneOrBlank_agrees v) (.cons (noneOrBlank_agrees v) (.nil _))

/-- The lists of the GNSS section that are confirmed. -/
structure GnssReadable (g : GnssSettings) : Prop where
  satelliteTracking : trim (firstLine g.satelliteTracking) ≠ []
  satelliteUsage : trim (firstLine g.satelliteUsage) ≠ []
  satelliteHealthOverride : 10 ∉ g.satelliteHealthOverride

theorem confirmed_gnss_iff {g : GnssSettings} (h : GnssOk g) :
    Confirmed (gnssCommands g) ↔ GnssReadable g := by
  have hcn0 : Confirmed (setAndEcho (ascii "setCN0Mask, all, " ++ intText g.cn0MaskDbhz)
      (ascii "getCN0Mask") (ascii "CN0Mask") [[], intText g.cn0MaskDbhz]) := by
    refine confirmed_of_first (ascii "all" ++ ascii ", ") (by decide +kernel) (by decide +kernel) ?_
    rw [List.append_assoc]
    exact agrees_blank ⟨by decide, by decide⟩ (agrees_last (token_intText (by decide) h.cn0Mask))
  have helevation : Confirmed (setAndEcho (ascii "setElevationMask, all, " ++
      intText g.elevationMaskDeg) (ascii "getElevationMask") (ascii "ElevationMask")
      [[], intText g.elevationMaskDeg]) := by
    refine confirmed_of_first (ascii "all" ++ ascii ", ") (by decide +kernel) (by decide +kernel) ?_
    rw [List.append_assoc]
    exact agrees_blank ⟨by decide, by decide⟩
      (agrees_last (token_intText (by decide) h.elevationMask))
  have hsignals : Confirmed (setAndEcho (ascii "setSignalTracking, " ++ g.signalTracking)
      (ascii "getSignalTracking") (ascii "SignalTracking") []) :=
    confirmed_of_agrees (by decide +kernel) (by decide +kernel) (.nil _)
  have husage : Confirmed (setAndEcho (ascii "setSignalUsage, " ++ (g.signalUsage ++
      (ascii ", " ++ g.signalUsage))) (ascii "getSignalUsage") (ascii "SignalUsage") []) :=
    confirmed_of_agrees (by decide +kernel) (by decide +kernel) (.nil _)
  unfold gnssCommands
  simp only [confirmed_append, opens_setAndEcho, opens_setAndEcho_append, List.append_assoc]
  rw [confirmed_setAndEcho (show Key (ascii "SatelliteTracking") by decide +kernel),
    confirmed_setAndEcho (show Key (ascii "SatelliteUsage") by decide +kernel),
    confirmed_setAndEcho (show Key (ascii "SatelliteHealthOverride") by decide +kernel),
    arguments_append [] (by decide +kernel), arguments_append [] (by decide +kernel),
    arguments_append [] (by decide +kernel), List.nil_append, List.nil_append, List.nil_append,
    agrees_list_iff h.satelliteTracking, agrees_list_iff h.satelliteUsage,
    agrees_twice_iff h.satelliteHealthOverride]
  constructor
  · exact fun ⟨_, _, htracking, husage, hhealth, _⟩ => ⟨htracking, husage, hhealth⟩
  · exact fun hreadable => ⟨hcn0, helevation, hreadable.satelliteTracking,
      hreadable.satelliteUsage, hreadable.satelliteHealthOverride, hsignals, husage⟩

/-! ## The descriptor and the streams -/

theorem infix_unquote (t : Text) : unquote t <:+: t := by
  unfold unquote
  dsimp only
  split
  · exact ((List.dropLast_prefix _).isInfix.trans (List.drop_suffix 1 _).isInfix).trans (infix_trim t)
  · exact infix_trim t

/-- A descriptor is confirmed exactly when it stays on its line and nothing is trimmed from it. -/
theorem agrees_descriptor_iff {d : Text} (hne : d ≠ []) (hcomma : 44 ∉ d) (rest : Text) :
    Agrees [d] (readback (d ++ (ascii ", " ++ rest))) ↔ 10 ∉ d ∧ unquote d = d := by
  by_cases hline : 10 ∈ d
  · refine ⟨fun h => ?_, fun h => absurd hline h.1⟩
    have hone : readback (d ++ (ascii ", " ++ rest)) = readback d := by
      unfold readback
      rw [firstLine_of_mem hline]
    rw [hone, readback_line hcomma] at h
    split at h
    · exact nomatch h
    · -- What is read back is shorter than the descriptor.
      obtain hblank | hequal := (agrees_cons_iff.mp h).1
      · exact absurd hblank hne
      · have hlength := length_eq_of_equalsCi hequal
        have hshort : (unquote (trim (firstLine d))).length ≤ (firstLine d).length :=
          (infix_unquote _).length_le.trans (infix_trim _).length_le
        have hprefix : firstLine d <+: d := List.takeWhile_prefix _
        have hfirst : firstLine d = d := hprefix.eq_of_length_le (hlength ▸ hshort)
        exact absurd hline (hfirst ▸ lf_not_mem_firstLine d)
  · rw [readback_cons ⟨hcomma, hline⟩, agrees_cons_iff, unquote_trim]
    constructor
    · rintro ⟨hblank | hequal, -⟩
      · exact absurd hblank hne
      · exact ⟨hline, (infix_unquote d).eq_of_length (length_eq_of_equalsCi hequal)⟩
    · exact fun h => ⟨.inr (by rw [h.2, equalsCi_refl]), .nil _⟩

theorem key_dataInOut : Key (ascii "DataInOut") := by decide +kernel

theorem confirmed_connection_iff {descriptor : Text}
    (hdescriptor : enforceDescriptor descriptor = .ok ()) :
    Confirmed (connectionCommands descriptor) ↔
      10 ∉ descriptor ∧ unquote descriptor = descriptor := by
  unfold enforceDescriptor at hdescriptor
  rw [throwIf_eq_ok] at hdescriptor
  simp only [Bool.or_eq_true, not_or, List.contains_iff_mem, List.isEmpty_iff] at hdescriptor
  have hlist : Opens [{ text := ascii "lstConfigFile, Current", kind := .listConfig }] :=
    fun c hc => Option.some.inj hc ▸ nofun
  have hrest : ascii ", , +SBF" = ascii ", " ++ ascii ", +SBF" := by decide
  unfold connectionCommands
  rw [confirmed_append hlist, List.append_assoc, confirmed_setAndEcho key_dataInOut,
    arguments_append [] (by decide +kernel), List.nil_append, hrest,
    agrees_descriptor_iff hdescriptor.1.1 hdescriptor.1.2]
  exact and_iff_left (List.isChain_singleton _)

theorem token_streamId {id : Int} (h : id.natAbs < 10 ^ 2) :
    Token 9 (ascii "Stream" ++ intText id) := by
  have hid := token_intText (by decide) h
  have hstream : Token 6 (ascii "Stream") := by decide
  refine ⟨fun hnil => hstream.1 (List.append_eq_nil_iff.mp hnil).1,
    List.forall_mem_append.mpr ⟨hstream.2.1, hid.2.1⟩, ?_⟩
  rw [List.length_append]
  exact Nat.add_le_add hstream.2.2 hid.2.2

theorem inField_join {parts : List Text} (h : ∀ part ∈ parts, InField part) :
    InField (join parts 43) :=
  ⟨fun hmem => (forall_mem_join (p := (· ≠ 44)) (by decide)).mpr
      (fun part hpart c hc heq => (h part hpart).1 (heq ▸ hc)) 44 hmem rfl,
    fun hmem => (forall_mem_join (p := (· ≠ 10)) (by decide)).mpr
      (fun part hpart c hc heq => (h part hpart).2 (heq ▸ hc)) 10 hmem rfl⟩

theorem confirmed_nmea {nmeaPorts : List Text} {streams : List NmeaPinStream}
    {cmds : List Command} (h : nmeaCommands nmeaPorts streams = .ok cmds) :
    Confirmed cmds ∧ Opens cmds := by
  induction streams generalizing nmeaPorts cmds with
  | nil =>
    obtain rfl : [] = cmds := Except.ok.inj h
    exact ⟨List.isChain_nil, opens_nil⟩
  | cons s rest ih =>
    unfold nmeaCommands at h
    simp only [bind_eq_ok] at h
    obtain ⟨output, houtput, more, hmore, hcmds⟩ := h
    obtain rfl := Except.ok.inj hcmds
    obtain ⟨hbuilt, hdescriptor, hmessages, -, rfl⟩ := nmea_of_build houtput
    obtain ⟨hconfirmed, hopens⟩ := ih hmore
    have hport : Confirmed (setAndEcho (ascii "setDataInOut, " ++ s.descriptor ++ ascii ", , +NMEA")
        (ascii "getDataInOut, " ++ s.descriptor) (ascii "DataInOut") [s.descriptor]) := by
      have hrest : ascii ", , +NMEA" = ascii ", " ++ ascii ", +NMEA" := by decide
      rw [List.append_assoc, hrest]
      exact confirmed_of_agrees key_dataInOut (by decide +kernel) (agrees_token hdescriptor (.nil _))
    have houtput : Confirmed (setAndEcho (nmeaOutputText s)
        (ascii "getNMEAOutput, Stream" ++ intText s.streamId) (ascii "NMEAOutput")
        [ascii "Stream" ++ intText s.streamId, s.descriptor, [], s.interval]) := by
      unfold nmeaOutputText
      simp only [List.append_assoc]
      refine confirmed_of_first (ascii "Stream") (by decide +kernel) (by decide +kernel) ?_
      rw [← List.append_assoc]
      refine agrees_token (token_streamId hbuilt.streamId) ?_
      refine agrees_token hdescriptor ?_
      refine agrees_blank (inField_join fun m hm => (hmessages m hm).inField) ?_
      exact agrees_last hbuilt.interval
    rw [confirmed_append opens_setAndEcho_append, confirmed_append hopens]
    refine ⟨⟨?_, houtput, hconfirmed⟩, Opens.append ?_ opens_setAndEcho_append⟩
    · split
      · exact List.isChain_nil
      · exact hport
    · split
      · exact opens_nil
      · exact opens_setAndEcho

/-- The queries of the SBF streams are not among those that are asked for. -/
theorem confirmed_sbf {descriptor : Text} {streams : List SbfStream} {cmds : List Command}
    (h : sbfCommands descriptor streams = .ok cmds) : Confirmed cmds ∧ Opens cmds := by
  induction streams generalizing cmds with
  | nil =>
    obtain rfl : [] = cmds := Except.ok.inj h
    exact ⟨List.isChain_nil, opens_nil⟩
  | cons s rest ih =>
    unfold sbfCommands at h
    simp only [bind_eq_ok] at h
    obtain ⟨output, -, more, hmore, hcmds⟩ := h
    obtain rfl := Except.ok.inj hcmds
    obtain ⟨hconfirmed, hopens⟩ := ih hmore
    rw [confirmed_append hopens]
    refine ⟨⟨?_, hconfirmed⟩, opens_setAndEcho_append⟩
    exact List.isChain_pair.mpr fun _ hkey => absurd rfl hkey

theorem MessageText.inField {bound : Nat} {t : Text} (h : MessageText bound t) :
    InField t ∧ 34 ∉ t :=
  ⟨⟨fun hmem => absurd (h.1 44 hmem) (by decide), fun hmem => absurd (h.1 10 hmem) (by decide)⟩,
    fun hmem => absurd (h.1 34 hmem) (by decide)⟩

theorem confirmed_ntrip {n : NtripSettings} (h : n.enabled = true → NtripOk n)
    {cmds : List Command} (hcmds : ntripCommands n = .ok cmds) : Confirmed cmds ∧ Opens cmds := by
  have hkey : Key (ascii "NtripSettings") := by decide +kernel
  have hclient : Token 40 (ascii "NTR1") := by decide
  unfold ntripCommands buildNtripCommands at hcmds
  rw [bind_eq_ok] at hcmds
  obtain ⟨⟨text, tls⟩, hbuild, hcmds⟩ := hcmds
  obtain rfl := Except.ok.inj hcmds
  cases henabled : n.enabled with
  | false =>
    rw [henabled, if_pos (by decide)] at hbuild
    obtain ⟨rfl, rfl⟩ := Prod.mk.inj (Except.ok.inj hbuild)
    have htext : ascii "setNtripSettings, NTR1, off" =
        ascii "setNtripSettings, " ++ (ascii "NTR1" ++ (ascii ", " ++ ascii "off")) := by
      decide +kernel
    rw [if_neg (by decide), List.append_nil, htext]
    refine ⟨confirmed_of_agrees hkey (by decide +kernel) ?_, opens_setAndEcho⟩
    exact agrees_token hclient (agrees_last (show Token 40 (ascii "off") by decide))
  | true =>
    have hn := h henabled
    rw [henabled, if_neg (by decide)] at hbuild
    simp only [check_bind_eq_ok] at hbuild
    obtain ⟨-, hbuild⟩ := hbuild
    obtain ⟨rfl, rfl⟩ := Prod.mk.inj (Except.ok.inj hbuild)
    dsimp only
    rw [if_pos rfl, confirmed_append opens_setAndEcho]
    refine ⟨⟨?_, ?_⟩, opens_setAndEcho_append⟩
    · have hpassword : InField (escapeNtripPassword n.password) :=
        ⟨fun hmem => absurd (isTokenChar_of_escape hn.password.2.1 44 hmem) (by decide),
          fun hmem => absurd (isTokenChar_of_escape hn.password.2.1 10 hmem) (by decide)⟩
      unfold ntripSettingsCommand
      simp only [List.append_assoc]
      refine confirmed_of_first (ascii "NTR1" ++ (ascii ", " ++ (ascii "Client" ++ ascii ", ")))
        hkey (by decide +kernel) ?_
      simp only [List.append_assoc]
      refine agrees_token hclient ?_
      refine agrees_token (show Token 40 (ascii "Client") by decide) ?_
      refine agrees_token hn.caster ?_
      refine agrees_token (token_intText (by decide) hn.port) ?_
      refine agrees_quoted hn.username.2.inField.1 hn.username.2.inField.2 ?_
      refine agrees_blank (inField_quoteIfWhitespace hpassword) ?_
      refine agrees_token hn.mountPoint ?_
      refine agrees_token hn.version ?_
      exact agrees_last hn.sendGga
    · rw [List.append_assoc]
      refine confirmed_of_first (ascii "NTR1" ++ ascii ", ") (by decide +kernel)
        (by decide +kernel) ?_
      rw [List.append_assoc]
      refine agrees_token hclient ?_
      have hrest : ascii ", \"\"" = ascii ", " ++ ascii "\"\"" := by decide
      rw [hrest]
      exact agrees_token (token_onOff n.tls) (.nil _)

/-! ## The whole list -/

theorem opens_time (ts : TimeSystemSettings) : Opens (timeCommands ts) := opens_setAndEcho_append

theorem opens_antenna (a : AntennaSettings) : Opens (antennaCommands a) := by
  refine Opens.append ?_ opens_setAndEcho_append
  split
  · exact fun c hc => Option.some.inj hc ▸ nofun
  · exact opens_nil

theorem opens_gnss (g : GnssSettings) : Opens (gnssCommands g) := opens_setAndEcho_append

theorem opens_imu (imu : ImuSettings) : Opens (imuCommands imu) := opens_setAndEcho_append

theorem opens_navigation (nav : NavigationSettings) : Opens (navigationCommands nav) :=
  opens_setAndEcho_append

theorem opens_connection (descriptor : Text) : Opens (connectionCommands descriptor) :=
  opens_setAndEcho_append

theorem confirmed_start (settings : ReceiverSettings) : Confirmed (startCommands settings) := by
  unfold startCommands Confirmed
  rw [List.isChain_cons_cons, List.isChain_pair]
  exact ⟨nofun, nofun⟩

/-- The settings whose lists and descriptor are read back as they were set: a health override
within one line, tracking and usage lists whose first line is not blank, and a descriptor from
which nothing is cut. -/
structure Readable (settings : ReceiverSettings) (descriptor : Text) : Prop where
  gnss : GnssReadable settings.gnss
  descriptor : 10 ∉ descriptor ∧ unquote descriptor = descriptor

/-- **Set and readback.**  For accepted settings whose antenna names have no line break, every
query of the list, those of the SBF streams apart, passes when the receiver answers it with the
arguments of the command before it, exactly when the lists and the descriptor are readable. -/
theorem command_list_confirmed_iff {settings : ReceiverSettings} {descriptor : Text}
    {cmds : List Command} (hvalid : validateReceiverSettings settings = .ok ())
    (hmain : ∀ c ∈ settings.antenna.mainType, c ≠ 10 ∧ c ≠ 13)
    (haux : ∀ c ∈ settings.antenna.auxType, c ≠ 10 ∧ c ≠ 13)
    (hbuild : buildCommandList settings descriptor = .ok cmds) :
    (∀ before set get after, cmds = before ++ set :: get :: after → get.kind = .verifyEcho →
      get.verifyKey ≠ ascii "SBFOutput" → Confirms set get) ↔ Readable settings descriptor := by
  have haccepted := acceptedSettings_of_validate hvalid
  unfold buildCommandList at hbuild
  rw [check_bind_eq_ok] at hbuild
  simp only [bind_eq_ok] at hbuild
  obtain ⟨hdescriptor, nmea, hnmea, ntrip, hntrip, sbf, hsbf, hcmds⟩ := hbuild
  obtain rfl := Except.ok.inj hcmds
  obtain ⟨hnmea, hnmeaOpens⟩ := confirmed_nmea hnmea
  obtain ⟨hntrip, hntripOpens⟩ := confirmed_ntrip haccepted.ntrip hntrip
  obtain ⟨hsbf, hsbfOpens⟩ := confirmed_sbf hsbf
  -- No group begins with a query, so the groups are confirmed one by one.
  have hconnection := (opens_connection descriptor).append hsbfOpens
  have hnavigation := (opens_navigation settings.navigation).append hconnection
  have hntripRest := hntripOpens.append hnavigation
  have himu := (opens_imu settings.imu).append hntripRest
  have hgnss := (opens_gnss settings.gnss).append himu
  have hantenna := (opens_antenna settings.antenna).append hgnss
  have hnmeaRest := hnmeaOpens.append hantenna
  have hline {name : Text} (h : ∀ c ∈ name, c ≠ 10 ∧ c ≠ 13) : 10 ∉ name :=
    fun hmem => (h 10 hmem).1 rfl
  calc _ ↔ Confirmed _ := by
        unfold Confirmed
        rw [List.isChain_iff_forall_rel_of_append_cons_cons]
        exact ⟨fun h _ _ _ _ heq hkind hkey => h _ _ _ _ heq hkind hkey,
          fun h _ _ _ _ heq hkind hkey => h heq hkind hkey⟩
    _ ↔ Confirmed (gnssCommands settings.gnss) ∧ Confirmed (connectionCommands descriptor) := by
        rw [confirmed_append ((opens_time _).append hnmeaRest), confirmed_append hnmeaRest,
          confirmed_append hantenna, confirmed_append hgnss, confirmed_append himu,
          confirmed_append hntripRest, confirmed_append hnavigation,
          confirmed_append hconnection, confirmed_append hsbfOpens]
        exact ⟨fun ⟨_, _, _, _, hgnss, _, _, _, hconnection, _⟩ => ⟨hgnss, hconnection⟩,
          fun h => ⟨confirmed_start settings, confirmed_time haccepted.pps, hnmea,
            confirmed_antenna haccepted.antenna (hline hmain) (hline haux), h.1,
            confirmed_imu haccepted.imu, hntrip, confirmed_navigation haccepted.navigation, h.2,
            hsbf⟩⟩
    _ ↔ Readable settings descriptor := by
        rw [confirmed_gnss_iff haccepted.gnss, confirmed_connection_iff hdescriptor]
        exact ⟨fun h => ⟨h.1, h.2⟩, fun h => ⟨h.gnss, h.descriptor⟩⟩

theorem command_list_confirmed_iff_of_default :
    ∃ cmds, buildCommandList defaultSettings (ascii "IP10") = .ok cmds ∧
      ((∀ before set get after, cmds = before ++ set :: get :: after → get.kind = .verifyEcho →
        get.verifyKey ≠ ascii "SBFOutput" → Confirms set get) ↔
      Readable defaultSettings (ascii "IP10")) :=
  ⟨_, rfl, command_list_confirmed_iff (by decide +kernel) (by decide) (by decide) rfl⟩

/-- The default settings with a health override that ends its line. -/
def brokenLineSettings : ReceiverSettings :=
  { defaultSettings with gnss := { satelliteHealthOverride := ascii "GPS\n" } }

/-- The command that sets it, of two lines. -/
def overrideSet : Command := { text := ascii "setSatelliteHealthOverride, GPS\n, GPS\n" }

def overrideGet : Command where
  text := ascii "getSatelliteHealthOverride"
  kind := .verifyEcho
  verifyKey := ascii "SatelliteHealthOverride"
  verifyFields := [[], []]

def overrideReply : Text := ascii "SatelliteHealthOverride, GPS\n, GPS\n"

theorem brokenLine_commands : ∃ cmds before after,
    buildCommandList brokenLineSettings (ascii "IP10") = .ok cmds ∧
      cmds = before ++ overrideSet :: overrideGet :: after := by
  obtain ⟨cmds, hbuild⟩ : ∃ cmds, buildCommandList brokenLineSettings (ascii "IP10") = .ok cmds :=
    ⟨_, rfl⟩
  have hset : ((buildCommandList brokenLineSettings (ascii "IP10")).toOption.getD [])[25]? =
      some overrideSet := by decide +kernel
  have hget : ((buildCommandList brokenLineSettings (ascii "IP10")).toOption.getD [])[26]? =
      some overrideGet := by decide +kernel
  rw [hbuild] at hset hget
  obtain ⟨hsetLength, hset⟩ := List.getElem?_eq_some_iff.mp hset
  obtain ⟨hgetLength, hget⟩ := List.getElem?_eq_some_iff.mp hget
  refine ⟨cmds, cmds.take 25, cmds.drop 27, hbuild, ?_⟩
  rw [← hset, ← hget]
  exact (List.take_append_drop 25 cmds).symm.trans (congrArg (cmds.take 25 ++ ·)
    ((List.drop_eq_getElem_cons hsetLength).trans
      (congrArg (_ :: ·) (List.drop_eq_getElem_cons hgetLength))))

/-- A receiver that answers with the arguments it was given is rejected. -/
theorem brokenLine_not_confirmed :
    validateReceiverSettings brokenLineSettings = .ok () ∧
      (∀ c ∈ brokenLineSettings.antenna.mainType, c ≠ 10 ∧ c ≠ 13) ∧
      (∀ c ∈ brokenLineSettings.antenna.auxType, c ≠ 10 ∧ c ≠ 13) ∧
      ∃ cmds, buildCommandList brokenLineSettings (ascii "IP10") = .ok cmds ∧
        ∃ before set get after, cmds = before ++ set :: get :: after ∧ get.kind = .verifyEcho ∧
          get.verifyKey ≠ ascii "SBFOutput" ∧ ¬Confirms set get := by
  obtain ⟨cmds, before, after, hbuild, hcmds⟩ := brokenLine_commands
  refine ⟨by decide +kernel, by decide, by decide, cmds, hbuild,
    before, overrideSet, overrideGet, after, hcmds, rfl, by decide +kernel, ?_⟩
  intro h
  obtain ⟨payload, hpayload⟩ := h overrideReply ⟨[], [], [], nofun, nofun, .inl rfl, rfl⟩
  have hrejected : (verifyFirstFields overrideReply overrideGet.verifyKey
      overrideGet.verifyFields).isOk = false := by decide +kernel
  rw [hpayload] at hrejected
  exact nomatch hrejected

end Asterx.Commands
end AmigaDrivers
