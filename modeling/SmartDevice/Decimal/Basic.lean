/-! Decimal numbers as written: digits with a power of ten, and the values that are no number. -/

namespace SmartDevice

inductive Decimal where
  /-- `digits · 10 ^ exponent`, with a sign of its own. -/
  | finite (negative : Bool) (digits : Nat) (exponent : Int)
  | infinite (negative : Bool)
  | notANumber
  deriving DecidableEq, Repr

namespace Decimal

def digitsValue (digits : List Char) : Nat :=
  digits.foldl (fun n c => 10 * n + (c.toNat - 48)) 0

/-- The number written with these digits before the point, after it and in the exponent. -/
def ofParts (negative : Bool) (whole fraction : List Char) (exponent : Int) : Decimal :=
  .finite negative (digitsValue (whole ++ fraction)) (exponent - fraction.length)

/-- An exponent mark and its digits, at the end of a number. -/
def readExponent? : List Char → Option Int
  | [] => some 0
  | mark :: rest =>
    if mark = 'e' ∨ mark = 'E' then
      let (negative, digits) := match rest with
        | '-' :: digits => (true, digits)
        | '+' :: digits => (false, digits)
        | _ => (false, rest)
      if digits.isEmpty ∨ digits.any (!·.isDigit) then none
      else some (if negative then -(digitsValue digits : Int) else digitsValue digits)
    else none

end Decimal

end SmartDevice
