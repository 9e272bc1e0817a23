import SmartDevice.Json.Basic
import SmartDevice.Key
import SmartDevice.Uuid

/-! Taking records out of JSON values. -/

namespace SmartDevice

/-- Why a value is no record. -/
inductive RecordError where
  | missing (field : String)
  /-- Nothing can be looked up in the value. -/
  | noFields
  | notText (field : String)
  | notTexts (first second : String)
  | uuid (e : UuidError)
  | wrongVersion (version : Option Nat)
  | key (e : KeyError)
  deriving DecidableEq, Repr

def RecordError.message : RecordError → String
  | missing field => s!"missing field '{field}'"
  | noFields => ""
  | notText field => s!"field '{field}' must be a string"
  | notTexts first second => s!"fields '{first}' and '{second}' must be strings"
  | uuid e => e.message
  | wrongVersion version =>
    let number := match version with
      | some n => toString n
      | none => "None"
    s!"field 'uuid' must be a version 7 UUID, got version {number}"
  | key e => e.message

namespace Record

/-- The text occurs in another one. -/
def occursIn (piece : List Char) : List Char → Bool
  | [] => piece.isEmpty
  | c :: rest => piece.isPrefixOf (c :: rest) || occursIn piece rest

/-- The value of a field. A value that has no fields still counts as lacking one if it holds values
or characters among which the name is not found. -/
def require (field : String) : Json → Except RecordError Json
  | .object fields => (fields.lookup ↑field).elim (.error (.missing field)) .ok
  | .array items =>
    let isName := fun
      | .string text => text == ↑field
      | _ => false
    .error (if items.any isName then .noFields else .missing field)
  | .string text =>
    .error (if occursIn field.toList text.toList then .noFields else .missing field)
  | _ => .error .noFields

/-- The key of a record. -/
def requireKey (value : Json) : Except RecordError Key := (Key.ofJson value).mapError .key

end Record

end SmartDevice
