import EnvAudit.Decimal.Shortest
import EnvAudit.Text.Quoted

/-! JSON values. An object is a list of fields in the order of their first appearance, each name once. -/
namespace EnvAudit

inductive Json
  | null
  | bool (value : Bool)
  | int (value : Int)
  | real (value : Decimal.Binary64)
  | text (value : String)
  | list (items : List Json)
  | object (fields : List (String × Json))
deriving Repr, Inhabited

namespace Json

mutual

def beq : Json → Json → Bool
  | .null, .null => true
  | .bool b, .bool b' => b == b'
  | .int n, .int n' => n == n'
  | .real r, .real r' => r == r'
  | .text s, .text s' => s == s'
  | .list items, .list items' => beqItems items items'
  | .object fields, .object fields' => beqFields fields fields'
  | _, _ => false

def beqItems : List Json → List Json → Bool
  | [], [] => true
  | item :: rest, item' :: rest' => beq item item' && beqItems rest rest'
  | _, _ => false

def beqFields : List (String × Json) → List (String × Json) → Bool
  | [], [] => true
  | (name, value) :: rest, (name', value') :: rest' => name == name' && beq value value' && beqFields rest rest'
  | _, _ => false

end

instance : BEq Json := ⟨beq⟩

def setField {α : Type} (name : String) (value : α) : List (String × α) → List (String × α)
  | [] => [(name, value)]
  | (n, v) :: rest => if n = name then (n, value) :: rest else (n, v) :: setField name value rest

/-- The fields that remain of a list with repeated names: the last value of each at its first place. -/
def ofFields (fields : List (String × Json)) : Json :=
  .object (fields.foldl (fun kept (name, value) => setField name value kept) [])

def field? (name : String) : Json → Option Json
  | .object fields => fields.lookup name
  | _ => none

def fields? : Json → Option (List (String × Json))
  | .object fields => some fields
  | _ => none

def items? : Json → Option (List Json)
  | .list items => some items
  | _ => none

def text? : Json → Option String
  | .text s => some s
  | _ => none

def isObject : Json → Bool
  | .object _ => true
  | _ => false

def kindName : Json → String
  | .null => "NoneType"
  | .bool _ => "bool"
  | .int _ => "int"
  | .real _ => "float"
  | .text _ => "str"
  | .list _ => "list"
  | .object _ => "dict"

def boolName (b : Bool) : String := if b then "True" else "False"

mutual

def display : Json → String
  | .null => "None"
  | .bool b => boolName b
  | .int n => toString n
  | .real r => r.write "inf" "nan"
  | .text s => quotedString s
  | .list items => "[" ++ joinWith ", " (displayItems items) ++ "]"
  | .object fields => "\x7b" ++ joinWith ", " (displayFields fields) ++ "\x7d"

def displayItems : List Json → List String
  | [] => []
  | item :: rest => display item :: displayItems rest

def displayFields : List (String × Json) → List String
  | [] => []
  | (name, value) :: rest => (quotedString name ++ ": " ++ display value) :: displayFields rest

end

mutual

def depth : Json → Nat
  | .list items => depthOfItems items + 1
  | .object fields => depthOfFields fields + 1
  | _ => 0

def depthOfItems : List Json → Nat
  | [] => 0
  | item :: rest => max (depth item) (depthOfItems rest)

def depthOfFields : List (String × Json) → Nat
  | [] => 0
  | (_, value) :: rest => max (depth value) (depthOfFields rest)

end

/-- The greatest depth of a value that is shown in a message. -/
def displayLimit : Nat := 950

theorem lookup_setField_same {α : Type} (name : String) (value : α) (fields : List (String × α)) :
    (setField name value fields).lookup name = some value := by
  induction fields with
  | nil => simp [setField]
  | cons head rest ih =>
    obtain ⟨n, v⟩ := head
    simp only [setField]
    split
    · next same => simp [same]
    · next other =>
      have differs : (name == n) = false := by simpa using fun same : name = n => other same.symm
      rw [List.lookup_cons, differs]
      exact ih

theorem lookup_setField_of_ne {α : Type} {name other : String} (differs : other ≠ name) (value : α)
    (fields : List (String × α)) : (setField name value fields).lookup other = fields.lookup other := by
  induction fields with
  | nil => rw [setField, List.lookup_cons, beq_false_of_ne differs]
  | cons field rest ih =>
    obtain ⟨first, old⟩ := field
    rw [setField]
    split
    · next same =>
      subst same
      rw [List.lookup_cons, List.lookup_cons, beq_false_of_ne differs]
    · rw [List.lookup_cons, List.lookup_cons, ih]

theorem setField_of_new {α : Type} {own : String} {value : α} {fields : List (String × α)}
    (new : own ∉ fields.map (·.1)) : setField own value fields = fields ++ [(own, value)] := by
  induction fields with
  | nil => rfl
  | cons field rest ih =>
    rw [List.map_cons, List.mem_cons, not_or] at new
    rw [setField, if_neg (Ne.symm new.1), ih new.2, List.cons_append]

theorem keys_setField_of_mem {α : Type} {own : String} {fields : List (String × α)} (known : own ∈ fields.map (·.1))
    (value : α) : (setField own value fields).map (·.1) = fields.map (·.1) := by
  induction fields with
  | nil => cases known
  | cons field rest ih =>
    obtain ⟨first, old⟩ := field
    rw [setField]
    split
    · rfl
    · next other =>
      rw [List.map_cons, List.map_cons, ih ((List.mem_cons.mp known).resolve_left (Ne.symm other))]

end Json
end EnvAudit
