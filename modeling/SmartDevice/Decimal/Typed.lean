import SmartDevice.Decimal.Basic
import SmartDevice.Text.Integer

/-! Decimal numbers as people type them: blanks around, single underscores between digits, digits of
any script, and words for what is no number, in letters of either case. -/

namespace SmartDevice.Decimal

/-- The plain digit for one of any script. -/
def plainDigit (c : Char) : Char := (Text.decimalValue? c).elim c fun d => Char.ofNat (48 + d)

/-- Drops the underscores, each of which has to stand between two digits. -/
def dropUnderscores? (afterDigit : Bool) : List Char → Option (List Char)
  | [] => some []
  | c :: rest =>
    if c = '_' then
      if afterDigit && (rest.head?.map Char.isDigit).getD false then dropUnderscores? false rest
      else none
    else (c :: ·) <$> dropUnderscores? c.isDigit rest

def word? (negative : Bool) (text : List Char) : Option Decimal :=
  match String.ofList (text.map Char.toLower) with
  | "inf" | "infinity" => some (.infinite negative)
  | "nan" => some .notANumber
  | _ => none

/-- Digits, perhaps with a point before, among or after them, and perhaps an exponent. -/
def ofDigits? (negative : Bool) (text : List Char) : Option Decimal :=
  let whole := text.takeWhile Char.isDigit
  let (fraction, rest) := match text.dropWhile Char.isDigit with
    | '.' :: rest => (rest.takeWhile Char.isDigit, rest.dropWhile Char.isDigit)
    | rest => ([], rest)
  if whole.isEmpty && fraction.isEmpty then none
  else (ofParts negative whole fraction) <$> readExponent? rest

/-- Reads a whole text. -/
def ofTyped? (text : List Char) : Option Decimal := do
  let typed := (Text.stripWhere Text.Integer.isBlankAround text).map plainDigit
  let plain ← dropUnderscores? false typed
  let (negative, rest) := match plain with
    | '-' :: rest => (true, rest)
    | '+' :: rest => (false, rest)
    | _ => (false, plain)
  word? negative rest <|> ofDigits? negative rest

end SmartDevice.Decimal
