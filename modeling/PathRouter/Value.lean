import PathRouter.Decimal.Numeral
import PathRouter.Decimal.Shortest
import PathRouter.Text.Quoted

/-!
# Values of any kind

Configuration, method names and the details of an error come from outside and may be of any kind. A
`Value` is such a value; `Value.shown` is the form in which messages quote it, provided that it
`isWritable`.
-/

set_option autoImplicit false

namespace PathRouter

open Text

/-- A value of any kind. -/
inductive Value where
  | null
  | bool (b : Bool)
  | int (n : Int)
  | float (x : Float)
  | text (s : String)
  | list (items : List Value)
  | record (fields : List (String × Value))
  deriving Inhabited

namespace Value

/-- The name of the kind of a value. -/
def kindName : Value → String
  | .null => "NoneType"
  | .bool _ => "bool"
  | .int _ => "int"
  | .float _ => "float"
  | .text _ => "str"
  | .list _ => "list"
  | .record _ => "dict"

mutual

/-- A value as messages quote it: texts in quotes, the parts of a list in brackets and those of a
record in braces. -/
def shown : Value → String
  | .null => "None"
  | .bool b => if b then "True" else "False"
  | .int n => toString n
  | .float x => Decimal.text x
  | .text s => quoted s
  | .list items => "[" ++ ", ".intercalate (shownItems items) ++ "]"
  | .record fields => "\x7b" ++ ", ".intercalate (shownFields fields) ++ "\x7d"

/-- The items of a list as messages quote them. -/
def shownItems : List Value → List String
  | [] => []
  | v :: rest => v.shown :: shownItems rest

/-- The fields of a record as messages quote them. -/
def shownFields : List (String × Value) → List String
  | [] => []
  | (name, v) :: rest => (quoted name ++ ": " ++ v.shown) :: shownFields rest

end

/-- A value as it is printed on its own: like `shown`, but a text is left as it is. -/
def printed : Value → String
  | .text s => s
  | v => v.shown

mutual

/-- Whether a value can be written out: no integer in it has more digits than may be written. -/
def isWritable : Value → Bool
  | .int n => n.natAbs < Decimal.leastUnwritable
  | .list items => areItemsWritable items
  | .record fields => areFieldsWritable fields
  | _ => true

/-- Whether all items of a list can be written out. -/
def areItemsWritable : List Value → Bool
  | [] => true
  | v :: rest => v.isWritable && areItemsWritable rest

/-- Whether all fields of a record can be written out. -/
def areFieldsWritable : List (String × Value) → Bool
  | [] => true
  | (_, v) :: rest => v.isWritable && areFieldsWritable rest

end

end Value

end PathRouter
