import SmartDevice.Json.Basic
import SmartDevice.Decimal.Shortest
import SmartDevice.Hex

/-! JSON text in ASCII, on one line or with every item on a line of its own. -/

namespace SmartDevice.Json

/-- The letter that stands for a unit after a backslash. -/
def shortEscape? (unit : UInt16) : Option Char :=
  match unit.toNat with
  | 8 => some 'b'
  | 9 => some 't'
  | 10 => some 'n'
  | 12 => some 'f'
  | 13 => some 'r'
  | 34 => some '"'
  | 92 => some '\\'
  | _ => none

def escapeUnit (unit : UInt16) : List Char :=
  match shortEscape? unit with
  | some letter => ['\\', letter]
  | none =>
    if ' '.toNat ≤ unit.toNat ∧ unit.toNat ≤ '~'.toNat then [Char.ofNat unit.toNat]
    else ['\\', 'u'] ++ Hex.ofNat 4 unit.toNat

def printText (text : WideText) : List Char := ['"'] ++ text.units.flatMap escapeUnit ++ ['"']

def printReal : Decimal → List Char
  | .infinite negative => (if negative then "-Infinity" else "Infinity").toList
  | .notANumber => "NaN".toList
  | number =>
    match number.toText with
    | ['i', 'n', 'f'] => "Infinity".toList
    | ['-', 'i', 'n', 'f'] => "-Infinity".toList
    | digits => digits

/-- How the items of a container are set apart: by blanks, or by lines with a margin. -/
inductive Spacing where
  | oneLine
  | lines (margin : Nat)

namespace Spacing

def deeper : Spacing → Spacing
  | oneLine => oneLine
  | lines margin => lines (margin + 2)

/-- What stands before the first item and after the last one. -/
def edge : Spacing → List Char
  | oneLine => []
  | lines margin => '\n' :: List.replicate margin ' '

/-- What stands between two items. -/
def between : Spacing → List Char
  | oneLine => [',', ' ']
  | lines margin => [',', '\n'] ++ List.replicate margin ' '

end Spacing

mutual

def print (spacing : Spacing) : Json → List Char
  | null => "null".toList
  | bool true => "true".toList
  | bool false => "false".toList
  | integer n => (toString n).toList
  | real x => printReal x
  | string s => printText s
  | array [] => ['[', ']']
  | array (item :: items) =>
    ['['] ++ spacing.deeper.edge ++ print spacing.deeper item ++ printItems spacing.deeper items ++
      spacing.edge ++ [']']
  | object [] => ['{', '}']
  | object ((name, value) :: fields) =>
    ['{'] ++ spacing.deeper.edge ++ printText name ++ [':', ' '] ++ print spacing.deeper value ++
      printFields spacing.deeper fields ++ spacing.edge ++ ['}']

def printItems (spacing : Spacing) : List Json → List Char
  | [] => []
  | item :: items => spacing.between ++ print spacing item ++ printItems spacing items

def printFields (spacing : Spacing) : List (WideText × Json) → List Char
  | [] => []
  | (name, value) :: fields =>
    spacing.between ++ printText name ++ [':', ' '] ++ print spacing value ++
      printFields spacing fields

end

/-- The value on one line. -/
def render (value : Json) : String := String.ofList (print .oneLine value)

/-- The value with an indentation of two a level. -/
def renderLines (value : Json) : String := String.ofList (print (.lines 0) value)

end SmartDevice.Json
