import SmartDevice.Json.Basic
import SmartDevice.Hex

/-! Reading JSON text. An error names the place where the text stops making sense, counted in
characters. Infinities and the value that is no number are read; numerals that are too long and
containers that are nested too deep are refused. -/

namespace SmartDevice.Json

/-! ## Errors -/

inductive Fault where
  | value
  | name
  | colon
  | comma
  | openText
  | escape
  | unicodeEscape
  | controlCharacter
  | extraData
  | byteOrderMark
  deriving DecidableEq, Repr

def Fault.message : Fault → String
  | value => "Expecting value"
  | name => "Expecting property name enclosed in double quotes"
  | colon => "Expecting ':' delimiter"
  | comma => "Expecting ',' delimiter"
  | openText => "Unterminated string starting at"
  | escape => "Invalid \\escape"
  | unicodeEscape => "Invalid \\uXXXX escape"
  | controlCharacter => "Invalid control character at"
  | extraData => "Extra data"
  | byteOrderMark => "Unexpected UTF-8 BOM (decode using utf-8-sig)"

structure SyntaxError where
  fault : Fault
  line : Nat
  column : Nat
  position : Nat
  deriving DecidableEq, Repr

def SyntaxError.message (e : SyntaxError) : String :=
  s!"{e.fault.message}: line {e.line} column {e.column} (char {e.position})"

/-- Lines and columns count from one. -/
def SyntaxError.at (fault : Fault) (text : List Char) (position : Nat) : SyntaxError :=
  let before := text.take position
  { fault, position
    line := before.count '\n' + 1
    column := (before.reverse.takeWhile (· ≠ '\n')).length + 1 }

/-- The longest numeral that is read as an integer. -/
def maxIntegerDigits : Nat := 4300

/-- How many containers may stand inside one another. A thousand calls at most are under way at a
time, and each container takes one; the rest is left to whoever calls the reader, who may need some
more. -/
def maxNesting : Nat := 990

/-- What is too much for the reader, in a text without a fault so far. -/
inductive Excess where
  | digits (count : Nat)
  /-- A container that stands inside too many others. -/
  | nesting (container : String)
  deriving DecidableEq, Repr

def Excess.message : Excess → String
  | digits count =>
    s!"Exceeds the limit ({maxIntegerDigits} digits) for integer string conversion: value has " ++
      s!"{count} digits; use sys.set_int_max_str_digits() to increase the limit"
  | nesting container =>
    s!"maximum recursion depth exceeded while decoding a JSON {container} from a unicode string"

inductive Error where
  | malformed (e : SyntaxError)
  | excess (excess : Excess)
  deriving DecidableEq, Repr

/-- Why reading stops; a fault comes with the number of characters left at its place. -/
inductive Stop where
  | fault (fault : Fault) (left : Nat)
  | excess (excess : Excess)

/-- A value and what follows it. -/
abbrev Read (α : Type) : Type := Except Stop (α × List Char)

def isBlank (c : Char) : Bool := c = ' ' || c = '\t' || c = '\n' || c = '\r'

def skipBlank (text : List Char) : List Char := text.dropWhile isBlank

def expected (fault : Fault) (rest : List Char) : Read α := .error (.fault fault rest.length)

/-! ## Texts -/

/-- Where the reader stands inside a text: between characters, after a backslash, or inside a code
unit, `left` characters before the end of which its mark stands. -/
inductive Mode where
  | plain
  | escape
  | unit (left : Nat) (missing : Nat) (value : Nat)

def escaped? (c : Char) : Option Char :=
  match c with
  | '"' => some '"'
  | '\\' => some '\\'
  | '/' => some '/'
  | 'b' => some (Char.ofNat 8)
  | 'f' => some (Char.ofNat 12)
  | 'n' => some '\n'
  | 'r' => some '\r'
  | 't' => some '\t'
  | _ => none

def prepend (units : List UInt16) : Read (List UInt16) → Read (List UInt16)
  | .ok (text, rest) => .ok (units ++ text, rest)
  | .error stop => .error stop

/-- Reads to the closing quote; `opening` counts the characters left at the opening one. -/
def readText (opening : Nat) (mode : Mode) : List Char → Read (List UInt16)
  | [] =>
    match mode with
    | .unit left _ _ => .error (.fault .unicodeEscape left)
    | _ => .error (.fault .openText opening)
  | c :: rest =>
    match mode with
    | .plain =>
      if c = '"' then .ok ([], rest)
      else if c = '\\' then readText opening .escape rest
      else if c.toNat < 32 then expected .controlCharacter (c :: rest)
      else prepend (WideText.unitsOf c) (readText opening .plain rest)
    | .escape =>
      if c = 'u' then readText opening (.unit (rest.length + 1) 4 0) rest
      else match escaped? c with
        | some e => prepend (WideText.unitsOf e) (readText opening .plain rest)
        | none => .error (.fault .escape (rest.length + 2))
    | .unit left missing value =>
      match Hex.digitValue? c with
      | none => .error (.fault .unicodeEscape left)
      | some digit =>
        let value := 16 * value + digit
        if missing ≠ 1 then readText opening (.unit left (missing - 1) value) rest
        else if rest.isEmpty then .error (.fault .unicodeEscape left)
        else prepend [UInt16.ofNat value] (readText opening .plain rest)

/-! ## Numbers -/

/-- The digits of the whole part: one zero, or digits that do not start with one. -/
def wholeDigits (text : List Char) : List Char :=
  if text.head? = some '0' then ['0'] else text.takeWhile Char.isDigit

/-- The digits after a point, if a digit follows it. -/
def fractionDigits : List Char → List Char
  | '.' :: rest => rest.takeWhile Char.isDigit
  | _ => []

/-- The sign and the digits after an exponent mark, if a digit follows. -/
def exponentPart : List Char → List Char
  | mark :: rest =>
    if mark = 'e' ∨ mark = 'E' then
      let sign := rest.takeWhile (fun c => c = '+' || c = '-') |>.take 1
      let digits := (rest.drop sign.length).takeWhile Char.isDigit
      if digits.isEmpty then [] else mark :: (sign ++ digits)
    else []
  | [] => []

/-- The parts of a number at the start of a text, and what follows them. -/
structure Numeral where
  negative : Bool
  whole : List Char
  fraction : List Char
  exponent : List Char
  rest : List Char

def Numeral.scan (text : List Char) : Numeral :=
  let negative := text.head? == some '-'
  let text := text.drop negative.toNat
  let whole := wholeDigits text
  let rest := text.drop whole.length
  let fraction := fractionDigits rest
  let rest := if fraction.isEmpty then rest else rest.drop (fraction.length + 1)
  let exponent := exponentPart rest
  { negative, whole, fraction, exponent, rest := rest.drop exponent.length }

/-- A number without a fraction and an exponent is an integer. -/
def readNumber (text : List Char) : Read Json :=
  let { negative, whole, fraction, exponent, rest } := Numeral.scan text
  if whole.isEmpty then expected .value text
  else if fraction.isEmpty && exponent.isEmpty then
    if maxIntegerDigits < whole.length then .error (.excess (.digits whole.length))
    else
      let n : Int := Decimal.digitsValue whole
      .ok (.integer (if negative then -n else n), rest)
  else
    let power := (Decimal.readExponent? exponent).getD 0
    .ok (.real (Decimal.ofParts negative whole fraction power), rest)

/-! ## Values -/

/-- The values that are written as words. -/
def words : List (List Char × Json) :=
  [("null".toList, .null), ("true".toList, .bool true), ("false".toList, .bool false),
    ("NaN".toList, .real .notANumber), ("Infinity".toList, .real (.infinite false)),
    ("-Infinity".toList, .real (.infinite true))]

def readWord? (text : List Char) : Option (Json × List Char) :=
  words.findSome? fun (word, value) =>
    if word.isPrefixOf text then some (value, text.drop word.length) else none

mutual

/-- A value at the start of the text, in which containers may be nested as deep as there are levels.
From a value to one inside it there are two calls and at least one character, so fuel for one call
more than twice the characters is enough. -/
def readValue : Nat → Nat → List Char → Except Stop (Json × List Char)
  | 0, _, text => expected .value text
  | fuel + 1, levels, text =>
    match text with
    | '"' :: rest => do
      let (units, rest) ← readText text.length .plain rest
      return (.string ⟨units⟩, rest)
    | '{' :: rest =>
      match levels with
      | 0 => .error (.excess (.nesting "object"))
      | levels + 1 =>
        match skipBlank rest with
        | '}' :: rest => .ok (.object [], rest)
        | rest => readFields fuel levels [] rest
    | '[' :: rest =>
      match levels with
      | 0 => .error (.excess (.nesting "array"))
      | levels + 1 =>
        match skipBlank rest with
        | ']' :: rest => .ok (.array [], rest)
        | rest => readItems fuel levels [] rest
    | _ =>
      match readWord? text with
      | some found => .ok found
      | none => readNumber text

/-- The items of an array from the next one on, after those in `items`, the last one first. -/
def readItems : Nat → Nat → List Json → List Char → Except Stop (Json × List Char)
  | 0, _, _, text => expected .value text
  | fuel + 1, levels, items, text => do
    let (item, rest) ← readValue fuel levels text
    match skipBlank rest with
    | ']' :: rest => return (.array (item :: items).reverse, rest)
    | ',' :: rest => readItems fuel levels (item :: items) (skipBlank rest)
    | rest => expected .comma rest

/-- The fields of an object from the next name on. -/
def readFields :
    Nat → Nat → List (WideText × Json) → List Char → Except Stop (Json × List Char)
  | 0, _, _, text => expected .value text
  | fuel + 1, levels, fields, text => do
    match text with
    | '"' :: rest =>
      let (name, rest) ← readText text.length .plain rest
      match skipBlank rest with
      | ':' :: rest =>
        let (value, rest) ← readValue fuel levels (skipBlank rest)
        let fields := insertField ⟨name⟩ value fields
        match skipBlank rest with
        | '}' :: rest => return (.object fields, rest)
        | ',' :: rest => readFields fuel levels fields (skipBlank rest)
        | rest => expected .comma rest
      | rest => expected .colon rest
    | _ => expected .name text

end

def readDocument (text : List Char) : Except Stop Json := do
  let (value, rest) ← readValue (2 * text.length + 1) maxNesting (skipBlank text)
  match skipBlank rest with
  | [] => return value
  | rest => .error (.fault .extraData rest.length)

def locate (text : List Char) : Stop → Error
  | .fault fault left => .malformed (SyntaxError.at fault text (text.length - left))
  | .excess excess => .excess excess

/-- The value of a text that decoding has already rid of marks at its start. -/
def readDecoded (text : List Char) : Except Error Json :=
  (readDocument text).mapError (locate text)

def read (text : List Char) : Except Error Json :=
  if text.head? = some (Char.ofNat 0xfeff) then
    .error (.malformed (SyntaxError.at .byteOrderMark text 0))
  else readDecoded text

end SmartDevice.Json
