/-
Gazetteer.Json.Value — JSON values.

An object keeps its fields in the order of their names, each name once;
`setField` writes a field into its place, over an older one of the same name.
A number is a whole number or a double.
-/

namespace Gazetteer.Json

/-- A JSON number. -/
inductive Number where
  | whole (value : Int)
  | double (value : Float)
  deriving DecidableEq, Repr

/-- A JSON value. -/
inductive Value where
  | null
  | boolean (value : Bool)
  | number (value : Number)
  | text (value : String)
  | array (elements : List Value)
  | object (fields : List (String × Value))
  deriving Repr

/-- Fields in the order of their names. -/
abbrev Fields := List (String × Value)

/-- The fields with one written in its place, over an older one of the same name. -/
def setField (name : String) (value : Value) : Fields → Fields
  | [] => [(name, value)]
  | field :: fields =>
    if name < field.1 then (name, value) :: field :: fields
    else if name = field.1 then (name, value) :: fields
    else field :: setField name value fields

def field? (name : String) (fields : Fields) : Option Value := fields.lookup name

end Gazetteer.Json
