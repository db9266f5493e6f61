import EnvAudit.Json.Value

/-! Values of TOML documents. Dates and times are kept as they are written. -/
namespace EnvAudit.Toml

inductive Moment
  | date
  | time
  | dateTime
deriving Repr, DecidableEq

inductive Value
  | text (value : String)
  | int (value : Int)
  | real (value : Decimal.Binary64)
  | bool (value : Bool)
  | moment (kind : Moment) (written : String)
  | list (items : List Value)
  | table (fields : List (String × Value))
deriving Repr

abbrev Table := List (String × Value)

abbrev Key := List String

def keyText (key : Key) : String :=
  match key with
  | [name] => "(" ++ quotedString name ++ ",)"
  | names => "(" ++ joinWith ", " (names.map quotedString) ++ ")"

namespace Value

def kindName : Value → String
  | .text _ => "str"
  | .int _ => "int"
  | .real _ => "float"
  | .bool _ => "bool"
  | .moment .date _ => "datetime.date"
  | .moment .time _ => "datetime.time"
  | .moment .dateTime _ => "datetime.datetime"
  | .list _ => "list"
  | .table _ => "dict"

mutual

def toJson : Value → Json
  | .text value => .text value
  | .int value => .int value
  | .real value => .real value
  | .bool value => .bool value
  | .moment _ written => .text written
  | .list items => .list (itemsToJson items)
  | .table fields => .object (fieldsToJson fields)

def itemsToJson : List Value → List Json
  | [] => []
  | item :: rest => toJson item :: itemsToJson rest

def fieldsToJson : Table → List (String × Json)
  | [] => []
  | (name, value) :: rest => (name, toJson value) :: fieldsToJson rest

end

end Value

/-- Goes to the table behind a key, makes it if there is none, and changes it. Where a list stands on the way, its
last item is meant if lists may be entered. Nothing results if something else than a table stands there. -/
def changeAt (entersLists : Bool) (change : Table → Option Table) : Key → Table → Option Table
  | [], table => change table
  | name :: rest, table =>
    match table.lookup name with
    | none => (changeAt entersLists change rest []).map fun inner => Json.setField name (.table inner) table
    | some (.table inner) =>
      (changeAt entersLists change rest inner).map fun inner => Json.setField name (.table inner) table
    | some (.list items) =>
      match entersLists, items.getLast? with
      | true, some (.table inner) =>
        (changeAt entersLists change rest inner).map fun inner =>
          Json.setField name (.list (items.dropLast ++ [.table inner])) table
      | _, _ => none
    | some _ => none

def addEntry (name : String) (value : Value) (table : Table) : Option Table :=
  if (table.lookup name).isSome then none else some (table ++ [(name, value)])

def appendTable (name : String) (table : Table) : Option Table :=
  match table.lookup name with
  | none => some (table ++ [(name, .list [.table []])])
  | some (.list items) => some (Json.setField name (.list (items ++ [.table []])) table)
  | some _ => none

end EnvAudit.Toml
