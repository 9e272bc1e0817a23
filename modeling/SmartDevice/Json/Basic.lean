import SmartDevice.Decimal.Basic
import SmartDevice.WideText

/-! JSON values. Integers and other numbers are told apart; the fields of an object keep their
order, and no name occurs twice in a value that was read. -/

namespace SmartDevice

inductive Json where
  | null
  | bool (value : Bool)
  | integer (value : Int)
  | real (value : Decimal)
  | string (value : WideText)
  | array (items : List Json)
  | object (fields : List (WideText × Json))
  deriving Inhabited

namespace Json

/-- The names of the kinds of values, as messages give them. -/
def kindName : Json → String
  | null => "NoneType"
  | bool _ => "bool"
  | integer _ => "int"
  | real _ => "float"
  | string _ => "str"
  | array _ => "list"
  | object _ => "dict"

def field? (name : String) : Json → Option Json
  | object fields => fields.lookup ↑name
  | _ => none

/-- A later value takes the place of an earlier one of the same name. -/
def insertField (name : WideText) (value : Json) :
    List (WideText × Json) → List (WideText × Json)
  | [] => [(name, value)]
  | (other, old) :: rest =>
    if other = name then (name, value) :: rest else (other, old) :: insertField name value rest

theorem lookup_insertField (name other : WideText) (value : Json)
    (fields : List (WideText × Json)) :
    (insertField name value fields).lookup other =
      if other = name then some value else fields.lookup other := by
  fun_induction insertField name value fields <;> grind

end Json

end SmartDevice
