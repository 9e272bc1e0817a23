import SmartDevice.Text.Blank
import SmartDevice.Text.Digit
import SmartDevice.Hex

/-! Integers as people type them: blanks around, a sign, single underscores between digits, digits
of any script, and a base prefix for hexadecimal. -/

namespace SmartDevice.Text.Integer

/-- The ASCII information separators count as blanks elsewhere, but not around a number. -/
def isBlankAround (c : Char) : Bool := isBlank c && !(28 ≤ c.toNat && c.toNat ≤ 31)

def digitValue? (base : Nat) (c : Char) : Option Nat :=
  if c.toNat < 128 then (Hex.digitValue? c).filter (· < base) else decimalValue? c

/-- Reads digits to the end; an underscore stands only between two digits. -/
def readDigits (base : Nat) (afterDigit : Bool) : List Char → List Nat → Option (List Nat)
  | [], digits => if afterDigit then some digits.reverse else none
  | c :: rest, digits =>
    if c = '_' then if afterDigit then readDigits base false rest digits else none
    else match digitValue? base c with
      | some d => readDigits base true rest (d :: digits)
      | none => none

/-- The characters after a hexadecimal prefix, which one underscore may follow. The zero may be that
of any script. -/
def dropPrefix (base : Nat) (text : List Char) : List Char :=
  match text with
  | zero :: x :: rest =>
    if base = 16 ∧ decimalValue? zero = some 0 ∧ (x = 'x' ∨ x = 'X') then
      match rest with
      | '_' :: more => more
      | _ => rest
    else text
  | _ => text

/-- Longest decimal numeral that is read. -/
def maxDecimalDigits : Nat := 4300

def read? (base : Nat) (text : List Char) : Option Int := do
  let text := stripWhere isBlankAround text
  let (negative, digits) := match text with
    | '-' :: rest => (true, rest)
    | '+' :: rest => (false, rest)
    | _ => (false, text)
  let digits ← readDigits base false (dropPrefix base digits) []
  if base = 10 ∧ maxDecimalDigits < digits.length then none
  else
    let n := digits.foldl (fun n d => n * base + d) 0
    return if negative then -(n : Int) else n

end SmartDevice.Text.Integer
