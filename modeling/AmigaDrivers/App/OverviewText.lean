import AmigaDrivers.App.ConfigStoreSteps
import AmigaDrivers.App.OverviewFields

/-!
# The new text of the main configuration

* `Yaml.Exact`: what is taken for granted of PyYAML.
* `Edited`: the text that is to be saved, and the one that was read.
* `edited_of_checkEdited`: **the spans of the changed fields are replaced, and nothing else.**
-/

namespace AmigaDrivers
namespace App
namespace ConfigStore

open Patches

/-! ## The scalars of a document -/

mutual

/-- The scalars of a node, as they stand in the text. -/
def Node.scalars : Node → List Scalar
  | .scalar node => [node]
  | .sequence items => scalarsOfItems items
  | .mapping entries => scalarsOfEntries entries

/-- The scalars of the items of a sequence. -/
def scalarsOfItems : List Node → List Scalar
  | [] => []
  | item :: items => item.scalars ++ scalarsOfItems items

/-- The scalars of the entries of a mapping. -/
def scalarsOfEntries : List (Node × Node) → List Scalar
  | [] => []
  | (key, value) :: entries => key.scalars ++ (value.scalars ++ scalarsOfEntries entries)

end

/-- One scalar ends before another begins. -/
def Scalar.Before (a b : Scalar) : Prop := a.endMark.index ≤ b.startMark.index

/-- The spans of the scalars are where they stand: one behind another, in the text, and empty only
where nothing is written. -/
structure Spans (text : List Char) (root : Node) : Prop where
  order : root.scalars.Pairwise Scalar.Before
  within : ∀ s ∈ root.scalars, s.tag ≠ nullTag →
    s.startMark.index < s.endMark.index ∧ s.endMark.index ≤ text.length

/-- PyYAML reports exact spans, unless a node is used more than once. -/
structure Yaml.Exact (yaml : Yaml) : Prop where
  spans : ∀ {text root}, yaml.compose text = .ok (some root) →
    (yaml.scan text).1.any Token.isShared = false → Spans text root

/-! ## Where a field is -/

variable {yaml : Yaml} {text : List Char} {fields : List Field}

/-- The scalars among the values of a mapping. -/
def valueScalars (general : List (String × Node)) : List Scalar :=
  general.filterMap fun entry =>
    match entry.2 with
    | .scalar node => some node
    | _ => none

theorem collect_ok {label : String} {result all : List (String × Node)}
    {pairs : List (Node × Node)} (h : collect label result pairs = .ok all) :
    ∃ new, all = result ++ new ∧ (valueScalars new).Sublist (scalarsOfEntries pairs) ∧
      ∀ key value, (key, value) ∈ new → value.scalars.Sublist (scalarsOfEntries pairs) := by
  induction pairs generalizing result with
  | nil =>
    obtain rfl := Except.ok.inj h
    exact ⟨[], (List.append_nil _).symm, List.nil_sublist _, fun _ _ hmem => nomatch hmem⟩
  | cons pair pairs ih =>
    obtain ⟨name, value⟩ := pair
    cases name with
    | scalar name =>
      rw [collect] at h
      split_ifs at h
      obtain ⟨new, hall, hsub, hmem⟩ := ih h
      rw [scalarsOfEntries]
      refine ⟨(name.value, value) :: new, ?_, ?_, ?_⟩
      · rw [hall, List.append_assoc]
        rfl
      · refine List.Sublist.trans ?_ (List.sublist_append_right _ _)
        cases value with
        | scalar node =>
          rw [Node.scalars]
          exact hsub.cons_cons node
        | sequence items => exact hsub.trans (List.sublist_append_right _ _)
        | mapping entries => exact hsub.trans (List.sublist_append_right _ _)
      · rintro key value' hpair
        refine List.Sublist.trans ?_ (List.sublist_append_right _ _)
        rcases List.mem_cons.mp hpair with heq | hpair
        · obtain ⟨-, rfl⟩ := Prod.mk.inj heq
          exact List.sublist_append_left _ _
        · exact (hmem key value' hpair).trans (List.sublist_append_right _ _)
    | sequence items => exact nomatch h
    | mapping entries => exact nomatch h

theorem entries_ok {node : Option Node} {label : String} {all : List (String × Node)}
    (h : entries node label = .ok all) :
    ∃ root, node = some root ∧ (valueScalars all).Sublist root.scalars ∧
      ∀ key value, (key, value) ∈ all → value.scalars.Sublist root.scalars := by
  unfold entries at h
  split at h
  · rename_i pairs
    obtain ⟨new, rfl, hsub, hmem⟩ := collect_ok h
    refine ⟨.mapping pairs, rfl, ?_⟩
    rw [Node.scalars]
    exact ⟨hsub, hmem⟩
  · exact nomatch h

/-- The mapping `General` is a part of the document. -/
theorem generalOf_ok {document : Option Node} {general : List (String × Node)}
    (h : generalOf document false = .ok general) :
    ∃ root, document = some root ∧ (valueScalars general).Sublist root.scalars := by
  unfold generalOf at h
  rw [if_neg (by simp)] at h
  split at h
  · exact nomatch h
  · rename_i top htop
    rw [if_neg (by simp)] at h
    obtain ⟨root, hroot, -, hmem⟩ := entries_ok htop
    obtain ⟨node, hnode, hsub, -⟩ := entries_ok h
    obtain ⟨before, after, hsplit, -⟩ := List.lookup_eq_some_iff.mp hnode
    have hin : ("General", node) ∈ top := by
      rw [hsplit]
      exact List.mem_append_right _ List.mem_cons_self
    exact ⟨root, hroot, hsub.trans (hmem _ _ hin)⟩

/-- What is found where nothing may be missing is found where something may. -/
theorem generalOf_of_strict {document : Option Node} {general : List (String × Node)}
    (h : generalOf document false = .ok general) : generalOf document true = .ok general := by
  obtain ⟨root, rfl, -⟩ := generalOf_ok h
  unfold generalOf at h ⊢
  rw [if_neg (by simp)] at h ⊢
  split at h
  · exact nomatch h
  · rename_i top htop
    rw [if_neg (by simp)] at h
    obtain ⟨node, hnode, -⟩ := entries_ok h
    rw [if_neg (by simp [hnode])]
    exact h

/-- What it takes for a field to be found. -/
structure FoundIn (yaml : Yaml) (text : List Char) (key : String) (node : Scalar)
    (general : List (String × Node)) : Prop where
  plain : (yaml.scan text).1.any Token.isShared = false
  nodes : mainFieldNodes yaml text false = .ok general
  lookup : general.lookup key = some (.scalar node)
  tag : node.tag ≠ nullTag

theorem mainFieldNode_ok {key : String} {node : Scalar}
    (h : mainFieldNode yaml text key = .ok node) : ∃ general, FoundIn yaml text key node general := by
  unfold mainFieldNode at h
  rcases hscan : yaml.scan text with ⟨tokens, result⟩
  rw [hscan] at h
  dsimp only at h
  split_ifs at h with hshared
  split at h
  · exact nomatch h
  · split at h
    · exact nomatch h
    · rename_i general hgeneral
      have hplain : (yaml.scan text).1.any Token.isShared = false := by
        rw [hscan]
        exact Bool.eq_false_iff.mpr hshared
      refine ⟨general, ?_⟩
      cases hlookup : general.lookup key with
      | none =>
        rw [hlookup] at h
        exact nomatch h
      | some found =>
        rw [hlookup] at h
        cases found with
        | scalar found =>
          rw [checkNode] at h
          split_ifs at h with htag hline
          obtain rfl := Except.ok.inj h
          exact ⟨hplain, hgeneral, hlookup, htag⟩
        | sequence items => exact nomatch h
        | mapping pairs => exact nomatch h

/-- The application takes the value of a field to be what was found. -/
theorem settingOf_eq {key default : String} {node : Scalar}
    (h : mainFieldNode yaml text key = .ok node) :
    settingOf yaml text key default = .ok node.value := by
  obtain ⟨general, hfound⟩ := mainFieldNode_ok h
  have hnodes : mainFieldNodes yaml text true = .ok general := by
    have hnodes := hfound.nodes
    unfold mainFieldNodes at hnodes ⊢
    split at hnodes
    · exact nomatch hnodes
    · exact generalOf_of_strict hnodes
  unfold settingOf
  rw [hnodes]
  dsimp only
  rw [hfound.lookup]
  exact if_neg hfound.tag

theorem mem_valueScalars {general : List (String × Node)} {key : String} {node : Scalar}
    (h : general.lookup key = some (.scalar node)) : node ∈ valueScalars general := by
  obtain ⟨before, after, hsplit, -⟩ := List.lookup_eq_some_iff.mp h
  rw [hsplit]
  exact List.mem_filterMap.mpr
    ⟨(key, .scalar node), List.mem_append_right _ List.mem_cons_self, rfl⟩

/-- Two values of a mapping, one behind the other. -/
theorem apart_of_lookup {general : List (String × Node)} {key key' : String} {a b : Scalar}
    (horder : (valueScalars general).Pairwise Scalar.Before) (hne : key ≠ key')
    (ha : general.lookup key = some (.scalar a)) (hb : general.lookup key' = some (.scalar b)) :
    a.Before b ∨ b.Before a := by
  induction general with
  | nil => exact nomatch ha
  | cons entry general ih =>
    obtain ⟨name, node⟩ := entry
    have hrest : (valueScalars general).Pairwise Scalar.Before :=
      horder.sublist (List.Sublist.filterMap _ (List.sublist_cons_self _ _))
    have hfirst {s : Scalar} (hs : node = .scalar s) : ∀ t ∈ valueScalars general, s.Before t := by
      subst hs
      exact (List.pairwise_cons.mp horder).1
    rw [List.lookup_cons] at ha hb
    by_cases hname : key = name
    · subst hname
      rw [beq_self_eq_true, Option.some.injEq] at ha
      rw [beq_false_of_ne hne.symm] at hb
      exact .inl (hfirst ha b (mem_valueScalars hb))
    · rw [beq_false_of_ne hname] at ha
      by_cases hname' : key' = name
      · subst hname'
        rw [beq_self_eq_true, Option.some.injEq] at hb
        exact .inr (hfirst hb a (mem_valueScalars ha))
      · rw [beq_false_of_ne hname'] at hb
        exact ih hrest ha hb

/-! ## What is submitted -/

/-- The fields that are checked are those that are submitted. -/
abbrev Submitted (expected : Dict Json) (items : List (String × Json)) (fields : List Field) : Prop :=
  List.Forall₂ (fun item field => item = (field.key, .str field.value) ∧
    expected.items.lookup field.key = some (.str field.expected)) items fields

theorem Submitted.keys {expected : Dict Json} {items : List (String × Json)}
    (h : Submitted expected items fields) : fields.map Field.key = items.map Prod.fst := by
  induction h with
  | nil => rfl
  | cons hitem _ ih => rw [List.map_cons, List.map_cons, ih, hitem.1]

theorem Submitted.mem {expected : Dict Json} {items : List (String × Json)} {key value baseline}
    (h : Submitted expected items fields) (hmem : (key, .str value) ∈ items)
    (hlookup : expected.items.lookup key = some (.str baseline)) :
    ⟨key, value, baseline⟩ ∈ fields := by
  induction h with
  | nil => exact absurd hmem List.not_mem_nil
  | @cons item field items fields hitem _ ih =>
    rcases List.mem_cons.mp hmem with heq | hmem
    · obtain ⟨rfl, hexpected⟩ := hitem
      obtain ⟨rfl, hvalue⟩ := Prod.mk.inj heq
      rw [hlookup] at hexpected
      obtain rfl := Json.str.inj hvalue
      obtain rfl := Json.str.inj (Option.some.inj hexpected)
      exact List.mem_cons_self
    · exact List.mem_cons_of_mem _ (ih hmem)

/-! ## The replacements -/

/-- What replaces the value of a field that is changed. -/
def changeOf (yaml : Yaml) (text : List Char) (field : Field) : Option (String × Patch Char) :=
  match mainFieldNode yaml text field.key with
  | .ok node =>
    if node.value = field.value then none
    else some (field.key, ⟨node.startMark.index, node.endMark.index, replacementOf field.value⟩)
  | .error _ => none

/-- What replaces the values of the fields that are changed. -/
def changes (yaml : Yaml) (text : List Char) (fields : List Field) : List (String × Patch Char) :=
  fields.filterMap (changeOf yaml text)

/-- A field may be saved: its value is the one that was displayed, unless it is the new one. -/
def Allowed (yaml : Yaml) (text : List Char) (field : Field) : Prop :=
  ∃ node, mainFieldNode yaml text field.key = .ok node ∧
    (node.value = field.value ∨ node.value = field.expected)

theorem replacement_ok {field : Field} {found : Option (Patch Char)}
    (h : replacement yaml text field = .ok found) : Allowed yaml text field ∧
      found.map (fun patch => (field.key, patch)) = changeOf yaml text field := by
  unfold replacement at h
  unfold changeOf
  split at h
  · exact nomatch h
  · rename_i node hnode
    rw [hnode]
    dsimp only
    by_cases hvalue : node.value = field.value
    · rw [if_pos hvalue] at h
      obtain rfl := Except.ok.inj h
      rw [if_pos hvalue]
      exact ⟨⟨node, hnode, .inl hvalue⟩, rfl⟩
    · rw [if_neg hvalue] at h
      split_ifs at h with hexpected
      obtain rfl := Except.ok.inj h
      rw [if_neg hvalue]
      exact ⟨⟨node, hnode, .inr (not_not.mp hexpected)⟩, rfl⟩

theorem replacements_ok {found : List (String × Patch Char)}
    (h : replacements yaml text fields = .ok found) :
    (∀ field ∈ fields, Allowed yaml text field) ∧ found = changes yaml text fields := by
  induction fields generalizing found with
  | nil =>
    obtain rfl := Except.ok.inj h
    exact ⟨fun _ hmem => absurd hmem List.not_mem_nil, rfl⟩
  | cons field fields ih =>
    rw [replacements] at h
    split at h
    · exact nomatch h
    · rename_i one hone
      split at h
      · exact nomatch h
      · rename_i more hmore
        obtain rfl := Except.ok.inj h
        obtain ⟨hallowed, hchange⟩ := replacement_ok hone
        obtain ⟨hall, rfl⟩ := ih hmore
        refine ⟨List.forall_mem_cons.mpr ⟨hallowed, hall⟩, ?_⟩
        rw [hchange]
        show _ = (field :: fields).filterMap (changeOf yaml text)
        cases hone : changeOf yaml text field with
        | none => rw [List.filterMap_cons_none hone]; rfl
        | some change => rw [List.filterMap_cons_some hone]; rfl

/-- The spans of what is found. -/
theorem FoundIn.spans {key : String} {node : Scalar} {general : List (String × Node)}
    (hexact : yaml.Exact) (h : FoundIn yaml text key node general) :
    (valueScalars general).Pairwise Scalar.Before ∧
      node.startMark.index < node.endMark.index ∧ node.endMark.index ≤ text.length := by
  have hnodes := h.nodes
  unfold mainFieldNodes at hnodes
  split at hnodes
  · exact nomatch hnodes
  · rename_i document hcompose
    obtain ⟨root, rfl, hsub⟩ := generalOf_ok hnodes
    have hspans := hexact.spans hcompose h.plain
    exact ⟨hspans.order.sublist hsub,
      hspans.within node (hsub.subset (mem_valueScalars h.lookup)) h.tag⟩

/-- How a change came about. -/
theorem changeOf_eq_some {field : Field} {change : String × Patch Char}
    (h : changeOf yaml text field = some change) :
    ∃ node, mainFieldNode yaml text field.key = .ok node ∧ node.value ≠ field.value ∧
      change = (field.key, ⟨node.startMark.index, node.endMark.index,
        replacementOf field.value⟩) := by
  unfold changeOf at h
  split at h
  · rename_i node hnode
    split_ifs at h with hvalue
    exact ⟨node, hnode, hvalue, (Option.some.inj h).symm⟩
  · exact nomatch h

/-- The span of a field that is changed lies in the text. -/
theorem within_of_changeOf (hexact : yaml.Exact) {field : Field} {change : String × Patch Char}
    (h : changeOf yaml text field = some change) : change.2.Within text.length := by
  obtain ⟨node, hnode, -, rfl⟩ := changeOf_eq_some h
  obtain ⟨general, hfound⟩ := mainFieldNode_ok hnode
  obtain ⟨-, hnonempty, hstop⟩ := hfound.spans hexact
  exact ⟨hnonempty, hstop⟩

/-- The spans of two fields that are changed do not meet. -/
theorem apart_of_changeOf (hexact : yaml.Exact) {field field' : Field}
    {change change' : String × Patch Char} (hne : field.key ≠ field'.key)
    (h : changeOf yaml text field = some change) (h' : changeOf yaml text field' = some change') :
    change.2.Before change'.2 ∨ change'.2.Before change.2 := by
  obtain ⟨node, hnode, -, rfl⟩ := changeOf_eq_some h
  obtain ⟨node', hnode', -, rfl⟩ := changeOf_eq_some h'
  obtain ⟨general, hfound⟩ := mainFieldNode_ok hnode
  obtain ⟨general', hfound'⟩ := mainFieldNode_ok hnode'
  have hsame : general = general' := Except.ok.inj (hfound.nodes.symm.trans hfound'.nodes)
  exact apart_of_lookup (hfound.spans hexact).1 hne hfound.lookup (hsame ▸ hfound'.lookup)

/-- The changes are made where they belong, and nowhere else. -/
theorem patched_editText (hexact : yaml.Exact) (hkeys : (fields.map Field.key).Nodup) :
    ∃ patches, patches.Perm ((changes yaml text fields).map Prod.snd) ∧
      Patched 0 text patches (editText text ((changes yaml text fields).map Prod.snd)) := by
  have hwithin : ∀ patch ∈ (changes yaml text fields).map Prod.snd, patch.Within text.length := by
    intro patch hpatch
    obtain ⟨change, hchange, rfl⟩ := List.mem_map.mp hpatch
    obtain ⟨field, -, hfield⟩ := List.mem_filterMap.mp hchange
    exact within_of_changeOf hexact hfield
  have hapart : ((changes yaml text fields).map Prod.snd).Pairwise
      fun p q => p.Before q ∨ q.Before p := by
    rw [List.pairwise_map]
    unfold changes
    rw [List.pairwise_filterMap]
    refine (List.pairwise_map.mp hkeys).imp fun hne change hchange change' hchange' => ?_
    exact apart_of_changeOf hexact hne hchange hchange'
  refine ⟨_, (List.reverse_perm _).trans (List.mergeSort_perm _ _),
    patched_foldl_splice ?_ ?_ ?_ hwithin hapart⟩
  · intro p q hle
    rw [decide_eq_true_eq] at hle
    rcases Prod.Lex.le_iff.mp hle with hlt | ⟨heq, -⟩
    · exact hlt.le
    · exact heq.le
  · intro p q r hpq hqr
    rw [decide_eq_true_eq] at hpq hqr ⊢
    exact hqr.trans hpq
  · intro p q
    rw [Bool.or_eq_true, decide_eq_true_eq, decide_eq_true_eq]
    exact le_total _ _

/-! ## What is read back -/

/-- No carriage return is written: the text is read again as it is. -/
theorem not_mem_replacementOf (value : String) : '\r' ∉ replacementOf value := by
  have hunicode (c : Char) : '\r' ∉ unicodeEscape c := by
    have hdigit : ∀ n < 16, hexDigit n ≠ '\r' := by decide
    have hmod (n : Nat) : '\r' ≠ hexDigit (n % 16) :=
      (hdigit _ (Nat.mod_lt n (by decide))).symm
    unfold unicodeEscape
    simp only [List.mem_cons, List.not_mem_nil, or_false, not_or]
    exact ⟨by decide, by decide, hmod _, hmod _, hmod _, hmod _⟩
  have hdumps (c : Char) : '\r' ∉ dumpsChar c := by
    by_cases hcr : c = '\r'
    · rw [hcr]
      decide
    · unfold dumpsChar
      split_ifs
      all_goals first
        | exact hunicode c
        | decide
        | exact fun hmem => hcr (List.mem_singleton.mp hmem).symm
  intro hmem
  obtain ⟨c, hc, hmem⟩ := List.mem_flatMap.mp hmem
  split_ifs at hmem
  · exact hunicode c hmem
  · obtain rfl := List.mem_singleton.mp hmem
    rcases List.mem_cons.mp hc with hc | hc
    · exact absurd hc (by decide)
    · rcases List.mem_append.mp hc with hc | hc
      · obtain ⟨d, -, hd⟩ := List.mem_flatMap.mp hc
        exact hdumps d hd
      · exact absurd hc (by decide)

/-- A field is read back as its value, and as a text if it was changed. -/
def ReadBack (yaml : Yaml) (new : List Char) (changed : List String) (field : Field) : Prop :=
  ∃ node, mainFieldNode yaml new field.key = .ok node ∧ node.value = field.value ∧
    (field.key ∈ changed → node.tag = strTag)

theorem checkEdited_ok {new : List Char} {changed : List String}
    (h : checkEdited yaml new changed fields = .ok ()) :
    ∀ field ∈ fields, ReadBack yaml new changed field := by
  induction fields with
  | nil => exact fun _ hmem => absurd hmem List.not_mem_nil
  | cons field fields ih =>
    rw [checkEdited] at h
    split at h
    · exact nomatch h
    · rename_i node hnode
      split_ifs at h with hbad
      rw [not_or, not_not, not_and, not_not] at hbad
      exact List.forall_mem_cons.mpr ⟨⟨node, hnode, hbad⟩, ih h⟩

/-- A text, and what the main configuration is to be: every field may be saved, the spans of those
that are changed are replaced and nothing else is, and all are read back. -/
structure Edited (yaml : Yaml) (fields : List Field) (text new : List Char) : Prop where
  allowed : ∀ field ∈ fields, Allowed yaml text field
  patched : ∃ patches, patches.Perm ((changes yaml text fields).map Prod.snd) ∧
    Patched 0 text patches new
  readBack : ∀ field ∈ fields,
    ReadBack yaml new ((changes yaml text fields).map Prod.fst) field

/-- Nothing is changed. -/
theorem edited_of_changes_eq_nil (hallowed : ∀ field ∈ fields, Allowed yaml text field)
    (h : changes yaml text fields = []) : Edited yaml fields text text where
  allowed := hallowed
  patched := ⟨[], by rw [h]; rfl, .nil 0 text⟩
  readBack := by
    intro field hfield
    obtain ⟨node, hnode, -⟩ := hallowed field hfield
    have hnone := List.filterMap_eq_nil_iff.mp h field hfield
    unfold changeOf at hnone
    rw [hnode] at hnone
    dsimp only at hnone
    split_ifs at hnone with hvalue
    refine ⟨node, hnode, hvalue, fun hmem => ?_⟩
    rw [h] at hmem
    exact absurd hmem List.not_mem_nil

/-- **Only the spans of the changed fields are replaced.** -/
theorem edited_of_checkEdited (hexact : yaml.Exact) (hkeys : (fields.map Field.key).Nodup)
    (hallowed : ∀ field ∈ fields, Allowed yaml text field)
    (h : checkEdited yaml (editText text ((changes yaml text fields).map Prod.snd))
      ((changes yaml text fields).map Prod.fst) fields = .ok ()) :
    Edited yaml fields text (editText text ((changes yaml text fields).map Prod.snd)) :=
  ⟨hallowed, patched_editText hexact hkeys, checkEdited_ok h⟩

/-- A text with unix line ends keeps them. -/
theorem Edited.not_mem {new : List Char} (h : Edited yaml fields text new) (htext : '\r' ∉ text) :
    '\r' ∉ new := by
  obtain ⟨patches, hperm, hpatched⟩ := h.patched
  intro hmem
  rcases hpatched.mem hmem with hmem | ⟨patch, hpatch, hmem⟩
  · exact htext hmem
  · obtain ⟨change, hchange, rfl⟩ := List.mem_map.mp (hperm.mem_iff.mp hpatch)
    obtain ⟨field, -, hfield⟩ := List.mem_filterMap.mp hchange
    obtain ⟨node, -, -, rfl⟩ := changeOf_eq_some hfield
    exact not_mem_replacementOf _ hmem

end ConfigStore
end App
end AmigaDrivers
