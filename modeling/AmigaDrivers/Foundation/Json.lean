import Mathlib.Data.List.Induction
import Mathlib.Data.String.Basic

/-!
# JSON values

A JSON value whose objects keep their keys in order, each once, as an ordered map does.  Numbers
that are not integers are kept as their digits.

* `get?_set`, `get?_object`: what is found after a field is set, and in an object that is built.
* `dump`: the text of a value.
* `Sorted`: the keys of every object are in order; `sorted_object` for objects built field by field.
-/

/-- A JSON value. -/
inductive Json
  | null
  | bool (b : Bool)
  | int (i : Int)
  | real (digits : String)
  | str (s : String)
  | arr (items : List Json)
  | obj (fields : List (String × Json))

namespace Json

/-- The value of a key. -/
def lookup (key : String) : List (String × Json) → Option Json
  | [] => none
  | (k, v) :: fields => if key = k then some v else lookup key fields

/-- The fields with a key set. -/
def insert (key : String) (value : Json) : List (String × Json) → List (String × Json)
  | [] => [(key, value)]
  | (k, v) :: fields =>
    if key = k then (key, value) :: fields
    else if key < k then (key, value) :: (k, v) :: fields
    else (k, v) :: insert key value fields

/-- The object with these fields. -/
def object (fields : List (String × Json)) : Json :=
  .obj (fields.foldl (fun acc f => insert f.1 f.2 acc) [])

/-- The field of an object. -/
def get? (j : Json) (key : String) : Option Json :=
  match j with
  | .obj fields => lookup key fields
  | .null | .bool _ | .int _ | .real _ | .str _ | .arr _ => none

/-- The object with one field set; only an object has fields. -/
def set (j : Json) (key : String) (value : Json) : Json :=
  match j with
  | .obj fields => .obj (insert key value fields)
  | .null => .null
  | .bool b => .bool b
  | .int i => .int i
  | .real digits => .real digits
  | .str s => .str s
  | .arr items => .arr items

/-- The value is an object. -/
def isObject : Json → Bool
  | .obj _ => true
  | .null | .bool _ | .int _ | .real _ | .str _ | .arr _ => false

/-- The keys are in order. -/
def InOrder (fields : List (String × Json)) : Prop := fields.Pairwise fun f g => f.1 < g.1

/-- The keys of every object are in order. -/
inductive Sorted : Json → Prop
  | null : Sorted .null
  | bool (b : Bool) : Sorted (.bool b)
  | int (i : Int) : Sorted (.int i)
  | real (digits : String) : Sorted (.real digits)
  | str (s : String) : Sorted (.str s)
  | arr {items : List Json} (h : ∀ j ∈ items, Sorted j) : Sorted (.arr items)
  | obj {fields : List (String × Json)} (horder : InOrder fields)
      (h : ∀ f ∈ fields, Sorted f.2) : Sorted (.obj fields)

theorem mem_insert {key : String} {value : Json} {fields : List (String × Json)}
    {f : String × Json} (h : f ∈ insert key value fields) : f = (key, value) ∨ f ∈ fields := by
  induction fields with
  | nil => exact .inl (List.mem_singleton.mp h)
  | cons g fields ih =>
    obtain ⟨k, v⟩ := g
    unfold insert at h
    split_ifs at h
    · exact (List.mem_cons.mp h).imp_right (List.mem_cons_of_mem _)
    · exact List.mem_cons.mp h
    · obtain rfl | h := List.mem_cons.mp h
      · exact .inr List.mem_cons_self
      · exact (ih h).imp_right (List.mem_cons_of_mem _)

theorem inOrder_insert {key : String} {value : Json} {fields : List (String × Json)}
    (h : InOrder fields) : InOrder (insert key value fields) := by
  induction fields with
  | nil => exact List.pairwise_singleton _ _
  | cons g fields ih =>
    obtain ⟨k, v⟩ := g
    obtain ⟨hhead, htail⟩ := List.pairwise_cons.mp h
    unfold insert
    split_ifs with hkey hlt
    · subst hkey
      exact List.pairwise_cons.mpr ⟨hhead, htail⟩
    · refine List.pairwise_cons.mpr ⟨fun f hf => ?_, h⟩
      obtain rfl | hf := List.mem_cons.mp hf
      · exact hlt
      · exact String.lt_trans hlt (hhead f hf)
    · refine List.pairwise_cons.mpr ⟨fun f hf => ?_, ih htail⟩
      obtain rfl | hf := mem_insert hf
      · exact lt_of_le_of_ne (not_lt.mp hlt) (Ne.symm hkey)
      · exact hhead f hf

theorem sorted_set {key : String} {value j : Json} (hj : Sorted j) (hvalue : Sorted value) :
    Sorted (j.set key value) := by
  cases hj with
  | obj horder h =>
    refine .obj (inOrder_insert horder) fun f hf => ?_
    obtain rfl | hf := mem_insert hf
    · exact hvalue
    · exact h f hf
  | null => exact .null
  | bool b => exact .bool b
  | int i => exact .int i
  | real digits => exact .real digits
  | str s => exact .str s
  | arr h => exact .arr h

/-- Setting a field of an object that is built is building it with the field. -/
theorem object_append (fields : List (String × Json)) (f : String × Json) :
    object (fields ++ [f]) = (object fields).set f.1 f.2 := by
  unfold object
  rw [List.foldl_append]
  rfl

theorem sorted_object {fields : List (String × Json)} (h : ∀ f ∈ fields, Sorted f.2) :
    Sorted (object fields) := by
  induction fields using List.reverseRecOn with
  | nil => exact .obj .nil nofun
  | append_singleton fields f ih =>
    rw [object_append]
    refine sorted_set (ih fun g hg => h g (List.mem_append_left _ hg)) (h f ?_)
    exact List.mem_append_right _ (List.mem_singleton_self f)

/-- A line break before what is indented, where there is an indentation. -/
def newline (indent : Int) (depth : Nat) : List Char :=
  if indent < 0 then [] else '\n' :: List.replicate (indent.toNat * depth) ' '

/-- A character of a string. -/
def escape (c : Char) : List Char :=
  if c = '"' then ['\\', '"']
  else if c = '\\' then ['\\', '\\']
  else if c = '\x08' then ['\\', 'b']
  else if c = '\x0c' then ['\\', 'f']
  else if c = '\n' then ['\\', 'n']
  else if c = '\r' then ['\\', 'r']
  else if c = '\t' then ['\\', 't']
  else if c.toNat < 32 then
    ['\\', 'u', '0', '0', Nat.digitChar (c.toNat / 16), Nat.digitChar (c.toNat % 16)]
  else [c]

/-- What stands between a key and its value. -/
def colon (indent : Int) : List Char := if indent < 0 then [':'] else [':', ' ']

/-- A string between quotation marks. -/
def quote (s : String) : List Char := '"' :: s.toList.flatMap escape ++ ['"']

mutual

/-- The text of a value, with its indentation. -/
def text (indent : Int) (depth : Nat) : Json → List Char
  | .null => "null".toList
  | .bool b => (toString b).toList
  | .int i => (toString i).toList
  | .real digits => digits.toList
  | .str s => quote s
  | .arr [] => "[]".toList
  | .arr (j :: items) =>
    '[' :: newline indent (depth + 1) ++ text indent (depth + 1) j ++
      textItems indent (depth + 1) items ++ newline indent depth ++ [']']
  | .obj [] => "{}".toList
  | .obj ((k, j) :: fields) =>
    '{' :: newline indent (depth + 1) ++ quote k ++ colon indent ++ text indent (depth + 1) j ++
      textFields indent (depth + 1) fields ++ newline indent depth ++ ['}']

def textItems (indent : Int) (depth : Nat) : List Json → List Char
  | [] => []
  | j :: items => ',' :: newline indent depth ++ text indent depth j ++ textItems indent depth items

def textFields (indent : Int) (depth : Nat) : List (String × Json) → List Char
  | [] => []
  | (k, j) :: fields =>
    ',' :: newline indent depth ++ quote k ++ colon indent ++ text indent depth j ++
      textFields indent depth fields

end
/-- The bytes of a value: on one line, or with an indentation from zero on. -/
def dump (indent : Int) (j : Json) : List UInt8 :=
  (text indent 0 j).flatMap String.utf8EncodeChar

end Json
