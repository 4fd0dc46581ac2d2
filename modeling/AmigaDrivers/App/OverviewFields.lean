import AmigaDrivers.App.ConfigStore
import AmigaDrivers.Foundation.Json
import AmigaDrivers.Foundation.Patches
import Mathlib.Data.Prod.Lex
import Mathlib.Data.String.Basic

/-!
# Saving the fields of the overview

`set_main_fields`, with what it calls: a few fields of the main configuration are edited as text, so
that every comment survives.

* `Yaml`: what is used of PyYAML.
* `mainFieldNodes`, `mainFieldNode`: where a field is.
* `replacementOf`: how a value is written.
* `save`: the file takes the place of the old one.
* `setMainFields`: all of it.
-/

namespace AmigaDrivers
namespace App
namespace ConfigStore

open Effect SharedFiles Patches

/-! ## What is used of PyYAML -/

/-- `Mark`. -/
structure Mark where
  index : Nat
  line : Nat
  deriving DecidableEq, Repr

/-- `ScalarNode`. -/
structure Scalar where
  tag : String
  value : String
  startMark : Mark
  endMark : Mark
  style : Option Char
  deriving DecidableEq, Repr

/-- A node of a document. -/
inductive Node
  | scalar (node : Scalar)
  | sequence (items : List Node)
  | mapping (entries : List (Node × Node))

/-- A token, as far as it is looked at. -/
inductive Token
  | anchor
  | alias
  | other
  deriving DecidableEq, Repr

/-- `yaml.scan`, with how it ends, and `yaml.compose`. -/
structure Yaml where
  scan : List Char → List Token × Except String Unit
  compose : List Char → Except String (Option Node)

/-- `tag:yaml.org,2002:str`. -/
def strTag : String := "tag:yaml.org,2002:str"

/-- `tag:yaml.org,2002:null`. -/
def nullTag : String := "tag:yaml.org,2002:null"

/-- A `ValueError`, or an exception of PyYAML. -/
def valueError (message : String) : ConfigError := .fault (.other message)

/-! ## Where a field is -/

/-- The loop of `entries`. -/
def collect (label : String) (result : List (String × Node)) :
    List (Node × Node) → Except ConfigError (List (String × Node))
  | [] => .ok result
  | (.scalar name, value) :: entries =>
    if name.tag ≠ strTag then
      .error (.apply (label ++ " must have string keys without YAML merges"))
    else if result.any fun entry => entry.1 = name.value then
      .error (.apply ("Duplicate key " ++ label ++ "." ++ name.value
        ++ "; resolve it in the config editor"))
    else collect label (result ++ [(name.value, value)]) entries
  | _ :: _ => .error (.apply (label ++ " must have string keys without YAML merges"))

/-- `entries`. -/
def entries (node : Option Node) (label : String) : Except ConfigError (List (String × Node)) :=
  match node with
  | some (.mapping pairs) => collect label [] pairs
  | _ => .error (.apply (label ++ " must be a YAML mapping"))

/-- What `_main_field_nodes` makes of the document. -/
def generalOf (document : Option Node) (allowMissing : Bool) :
    Except ConfigError (List (String × Node)) :=
  if document.isNone ∧ allowMissing then .ok []
  else
    match entries document "Main config" with
    | .error error => .error error
    | .ok root =>
      if (root.lookup "General").isNone ∧ allowMissing then .ok []
      else entries (root.lookup "General") "General"

/-- `_main_field_nodes`. -/
def mainFieldNodes (yaml : Yaml) (text : List Char) (allowMissing : Bool) :
    Except ConfigError (List (String × Node)) :=
  match yaml.compose text with
  | .error message => .error (valueError message)
  | .ok document => generalOf document allowMissing

/-- What `_main_field_node` makes of the node. -/
def checkNode (key : String) : Option Node → Except ConfigError Scalar
  | none => .error (.apply ("General." ++ key
      ++ " is missing; add it in the config editor before editing here"))
  | some (.scalar node) =>
    if node.tag = nullTag then
      .error (.apply ("General." ++ key ++ " must be a non-null text scalar"))
    else if node.startMark.line ≠ node.endMark.line ∨ node.style = some '|' ∨
        node.style = some '>' then
      .error (.apply ("General." ++ key ++ " must occupy one line for Overview editing"))
    else .ok node
  | some _ => .error (.apply ("General." ++ key ++ " must be a non-null text scalar"))

/-- A token that more than a replacement would be needed for. -/
def Token.isShared : Token → Bool
  | .anchor | .alias => true
  | .other => false

/-- `_main_field_node`. -/
def mainFieldNode (yaml : Yaml) (text : List Char) (key : String) : Except ConfigError Scalar :=
  let (tokens, result) := yaml.scan text
  if tokens.any Token.isShared then
    .error (.apply "Overview editing does not support YAML anchors or aliases; use the config editor")
  else
    match result with
    | .error message => .error (valueError message)
    | .ok () =>
      match mainFieldNodes yaml text false with
      | .error error => .error error
      | .ok general => checkNode key (general.lookup key)

/-- The loop of `main_settings` over the fields of the overview: what the application takes the
value of a field to be. -/
def settingOf (yaml : Yaml) (text : List Char) (key default : String) :
    Except ConfigError String :=
  match mainFieldNodes yaml text true with
  | .error error => .error error
  | .ok nodes =>
    match nodes.lookup key with
    | none => .ok default
    | some (.scalar node) =>
      if node.tag = nullTag then
        .error (valueError ("General." ++ key ++ " must be a non-null text scalar"))
      else .ok node.value
    | some _ => .error (valueError ("General." ++ key ++ " must be a non-null text scalar"))

/-! ## How a value is written -/

/-- A hexadecimal digit. -/
def hexDigit (n : Nat) : Char := if n < 10 then Char.ofNat (48 + n) else Char.ofNat (87 + n)

/-- A character as `\u` and four digits. -/
def unicodeEscape (c : Char) : List Char :=
  ['\\', 'u', hexDigit (c.toNat / 4096 % 16), hexDigit (c.toNat / 256 % 16),
    hexDigit (c.toNat / 16 % 16), hexDigit (c.toNat % 16)]

/-- A character of a text, as `json.dumps` writes it with `ensure_ascii=False`. -/
def dumpsChar (c : Char) : List Char :=
  if c = '"' then ['\\', '"']
  else if c = '\\' then ['\\', '\\']
  else if c = '\n' then ['\\', 'n']
  else if c = '\r' then ['\\', 'r']
  else if c = '\t' then ['\\', 't']
  else if c.toNat = 12 then ['\\', 'f']
  else if c.toNat = 8 then ['\\', 'b']
  else if c.toNat < 32 then unicodeEscape c
  else [c]

/-- `json.dumps` of a text. -/
def dumps (value : List Char) : List Char := '"' :: (value.flatMap dumpsChar ++ ['"'])

/-- A character that is written as an escape, after all. -/
def isBreak (c : Char) : Bool :=
  (127 ≤ c.toNat ∧ c.toNat < 160) ∨ c.toNat ∈ [0x2028, 0x2029, 0xfffe, 0xffff]

/-- What takes the place of a value. -/
def replacementOf (value : String) : List Char :=
  (dumps value.toList).flatMap fun c => if isBreak c then unicodeEscape c else [c]

/-! ## What is submitted -/

/-- A `dict` whose keys are texts. -/
structure Dict (α : Type) where
  items : List (String × α)
  nodup : (items.map Prod.fst).Nodup

/-- The keys. -/
def Dict.keys {α : Type} (d : Dict α) : List String := d.items.map Prod.fst

/-- The two have the same keys. -/
def sameKeys {α β : Type} (d : Dict α) (d' : Dict β) : Bool :=
  d.keys.all (fun key => key ∈ d'.keys) && d'.keys.all fun key => key ∈ d.keys

/-- A field of the overview: its new value, and the one that was displayed. -/
structure Field where
  key : String
  value : String
  expected : String
  deriving DecidableEq, Repr

/-- `str.isspace` of a character. -/
def isSpace (c : Char) : Bool :=
  (9 ≤ c.toNat ∧ c.toNat ≤ 13) ∨ (28 ≤ c.toNat ∧ c.toNat ≤ 32) ∨
    c.toNat ∈ [0x85, 0xa0, 0x1680] ∨ (0x2000 ≤ c.toNat ∧ c.toNat ≤ 0x200a) ∨
    c.toNat ∈ [0x2028, 0x2029, 0x202f, 0x205f, 0x3000]

/-- A control character. -/
def isControl (c : Char) : Bool := c.toNat < 32 ∨ (127 ≤ c.toNat ∧ c.toNat < 160)

/-- The parts of a directory's path. -/
def parts (directory : String) : List (List Char) :=
  (directory.toList.splitOn '/').filter fun part => !part.isEmpty

/-- `resolve_output_dir`, resolved: the links on the way decide where it leads. -/
def resolveOutputDir (_raw : String) : Io String := do
  let t ← call
  pure t.directory

/-- `output_dir_problems`.  `root` is `AMIGA_DATA_ROOT`. -/
def outputDirProblems (root raw : String) : Io (List String) := do
  let path ← resolveOutputDir raw
  if root = "" then
    pure []
  else do
    let t ← call
    if (parts t.directory).isPrefixOf (parts path) then
      pure []
    else
      pure ["Output Directory must remain inside the shared recording mount " ++ root]

/-- The checks of one value. -/
def checkField (root : String) (expected : Dict Json) (key : String) (value : Json) : Io Field :=
  if key ∉ ["Operator", "Field", "Output Directory"] then
    throw (valueError ("Unsupported Overview field: " ++ key))
  else
    match value, expected.items.lookup key with
    | .str value, some (.str baseline) =>
      if value.toList.all isSpace then
        throw (valueError (key ++ " must not be empty or whitespace"))
      else if key = "Output Directory" then
        if value.toList.any isControl then
          throw (valueError "Output Directory must not contain control characters")
        else do
          let problems ← outputDirProblems root value
          if problems ≠ [] then
            throw (valueError ("; ".intercalate problems))
          else
            pure ⟨key, value, baseline⟩
      else
        pure ⟨key, value, baseline⟩
    | _, _ => throw (valueError ("General." ++ key ++ " and its expected value must be strings"))

/-- The loop of checks. -/
def checkFields (root : String) (expected : Dict Json) : List (String × Json) → Io (List Field)
  | [] => pure []
  | (key, value) :: values => do
    let field ← checkField root expected key value
    let fields ← checkFields root expected values
    pure (field :: fields)

/-! ## The new text -/

/-- What a field that is to be changed is replaced by, if it may be. -/
def replacement (yaml : Yaml) (text : List Char) (field : Field) :
    Except ConfigError (Option (Patch Char)) :=
  match mainFieldNode yaml text field.key with
  | .error error => .error error
  | .ok node =>
    if node.value = field.value then .ok none
    else if node.value ≠ field.expected then
      .error (.conflict ("General." ++ field.key ++ " was changed on disk; reload before saving"))
    else .ok (some ⟨node.startMark.index, node.endMark.index, replacementOf field.value⟩)

/-- The loop that fills `replacements` and `changed_keys`. -/
def replacements (yaml : Yaml) (text : List Char) :
    List Field → Except ConfigError (List (String × Patch Char))
  | [] => .ok []
  | field :: fields =>
    match replacement yaml text field with
    | .error error => .error error
    | .ok found =>
      match replacements yaml text fields with
      | .error error => .error error
      | .ok more => .ok ((found.map fun patch => (field.key, patch)).toList ++ more)

/-- How tuples are compared. -/
def tupleOf (patch : Patch Char) : ℕ ×ₗ ℕ ×ₗ List Char :=
  toLex (patch.start, toLex (patch.stop, patch.new))

/-- `sorted(replacements, reverse=True)`. -/
def sortedReverse (patches : List (Patch Char)) : List (Patch Char) :=
  patches.mergeSort fun p q => decide (tupleOf q ≤ tupleOf p)

/-- The loop that edits the text. -/
def editText (text : List Char) (patches : List (Patch Char)) : List Char :=
  (sortedReverse patches).foldl Patch.splice text

/-- The loop that reads the fields back. -/
def checkEdited (yaml : Yaml) (text : List Char) (changed : List String) :
    List Field → Except ConfigError Unit
  | [] => .ok ()
  | field :: fields =>
    match mainFieldNode yaml text field.key with
    | .error error => .error error
    | .ok edited =>
      if edited.value ≠ field.value ∨ (field.key ∈ changed ∧ edited.tag ≠ strTag) then
        .error (.apply ("General." ++ field.key ++ " did not round-trip as the requested string"))
      else checkEdited yaml text changed fields

/-! ## Saving -/

/-- `path.with_suffix(path.suffix + ".tmp")`. -/
def temporaryOf (path : Path) : Path := withSuffix path (suffix path.name ++ ".tmp".toList)

/-- `get("main")`. -/
def getMain : Io ConfigFile := do
  let t ← call
  pure ⟨"main", t.resolved⟩

/-- `cf.path.stat()` in `save`, where a file that is not there is a conflict. -/
def statLatest (cf : ConfigFile) : Io File :=
  tryCatch (stat cf.path) fun error =>
    match error with
    | .fault (.notFound _) =>
      throw (.conflict (String.ofList cf.path.name ++ " was removed from disk"))
    | error => throw error

/-- The check for a file that was modified. -/
def checkModified (cf : ConfigFile) (expectedMtime : Option Nat) : Io Unit :=
  match expectedMtime with
  | none => pure ()
  | some expectedMtime => do
    let current ← statLatest cf
    if current.mtime ≠ expectedMtime then
      throw (.conflict (String.ofList cf.path.name ++ " was modified on disk"))
    else
      pure ()

/-- The check for a path that leads elsewhere: both paths are resolved. -/
def checkPath (cf : ConfigFile) (expectedPath : Option Path) : Io Unit :=
  match expectedPath with
  | none => pure ()
  | some _ => do
    let here ← call
    let expected ← call
    if here.resolved ≠ expected.resolved then
      throw (.pathChanged ("Config path changed to " ++ cf.path.str ++ "; reload before saving"))
    else
      pure ()

/-- The copy that `save` makes of a file that is there. -/
def copyOld (cf : ConfigFile) : Io Unit := do
  let there ← present cf.path
  if there then copy2 cf.path (backupOf cf.path) else pure ()

/-- How `save` replaces the file. -/
def replaceOld (cf : ConfigFile) (text : List Char) : Io Unit := do
  copyOld cf
  writeText (temporaryOf cf.path) text
  replace (temporaryOf cf.path) cf.path

/-- `save` of the main configuration. -/
def save (text : List Char) (expectedMtime : Option Nat) (expectedPath : Option Path) :
    Io Nat := do
  requireWritable
  let cf ← getMain
  checkPath cf expectedPath
  checkModified cf expectedMtime
  replaceOld cf text
  let file ← stat cf.path
  pure file.mtime

/-! ## All of it -/

/-- What `set_main_fields` does with the fields once they are checked. -/
def saveFields (yaml : Yaml) (fields : List Field) : Io Unit := do
  let cf ← getMain
  let loaded ← readFile cf
  let found ← Effect.lift (replacements yaml loaded.text fields)
  if found = [] then
    pure ()
  else do
    let text := editText loaded.text (found.map Prod.snd)
    Effect.lift (checkEdited yaml text (found.map Prod.fst) fields)
    let _ ← save text (some loaded.mtime) (some loaded.path)
    pure ()

/-- `set_main_fields`. -/
def setMainFields (yaml : Yaml) (root : String) (values expected : Dict Json) : Io Unit :=
  if sameKeys values expected = false then
    throw (valueError "Each Overview field must have exactly one expected value")
  else do
    let fields ← checkFields root expected values.items
    if fields = [] then
      pure ()
    else
      saveFields yaml fields

end ConfigStore
end App
end AmigaDrivers
