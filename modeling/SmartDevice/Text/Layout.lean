import SmartDevice.Text.Digit
import SmartDevice.Hex

/-! Laying a text out in a field: a specification such as `*^70.10s` gives a filling character, an
alignment, a width and a longest length. Parts that only numbers have are read and then refused. -/

namespace SmartDevice.Text.Layout

inductive Alignment where
  | left
  | right
  | center
  /-- Between the sign and the digits of a number. -/
  | inside
  deriving DecidableEq, Repr

/-- Why a specification does not lay out a text. -/
inductive Error where
  | tooManyDigits
  | commaAndUnderscore
  | missingPrecision
  | malformed (spec : String)
  | separatorWith (separator code : Char)
  | unknownCode (code : Char)
  | sign
  | space
  | negativeZero
  | alternate
  | insideAlignment
  /-- There is no room for a field of that width. -/
  | noRoom
  deriving DecidableEq, Repr

/-- A character, or its number if it does not show. -/
def showCode (c : Char) : String :=
  if 32 < c.toNat ∧ c.toNat < 128 then s!"'{c}'"
  else s!"'\\x{String.ofList (Nat.toDigits 16 c.toNat)}'"

def Error.message : Error → String
  | tooManyDigits => "Too many decimal digits in format string"
  | commaAndUnderscore => "Cannot specify both ',' and '_'."
  | missingPrecision => "Format specifier missing precision"
  | malformed spec => s!"Invalid format specifier '{spec}' for object of type 'str'"
  | separatorWith separator code => s!"Cannot specify '{separator}' with {showCode code}."
  | unknownCode code => s!"Unknown format code {showCode code} for object of type 'str'"
  | sign => "Sign not allowed in string format specifier"
  | space => "Space not allowed in string format specifier"
  | negativeZero => "Negative zero coercion (z) not allowed in string format specifier"
  | alternate => "Alternate form (#) not allowed in string format specifier"
  | insideAlignment => "'=' alignment not allowed in string format specifier"
  | noRoom => ""

structure Spec where
  fill : Char := ' '
  alignment : Alignment := .left
  sign : Option Char := none
  negativeZero : Bool := false
  alternate : Bool := false
  width : Option Nat := none
  separator : Option Char := none
  precision : Option Nat := none
  code : Char := 's'

/-! ## Reading a specification -/

def alignment? : Char → Option Alignment
  | '<' => some .left
  | '>' => some .right
  | '^' => some .center
  | '=' => some .inside
  | _ => none

/-- Numbers past this one are refused. -/
def largest : Nat := 9223372036854775807

/-- The number at the start of the text, with the rest; `none` if no digit stands there. -/
def readNumber (sofar : Option Nat) : List Char → Except Error (Option Nat × List Char)
  | [] => .ok (sofar, [])
  | c :: rest =>
    match decimalValue? c with
    | none => .ok (sofar, c :: rest)
    | some d =>
      let n := sofar.getD 0
      if (largest - d) / 10 < n then .error .tooManyDigits
      else readNumber (some (n * 10 + d)) rest

/-- Takes one character off the text if it is of the given class. -/
def take? (p : Char → Bool) : List Char → Option Char × List Char
  | [] => (none, [])
  | c :: rest => if p c then (some c, rest) else (none, c :: rest)

def readAlignment (text : List Char) : Spec × Bool × List Char :=
  match text with
  | fill :: mark :: rest =>
    match alignment? mark, alignment? fill with
    | some alignment, _ => ({ fill, alignment }, true, rest)
    | none, some alignment => ({ alignment }, false, mark :: rest)
    | none, none => ({}, false, text)
  | [mark] =>
    match alignment? mark with
    | some alignment => ({ alignment }, false, [])
    | none => ({}, false, text)
  | [] => ({}, false, [])

def readSeparator (text : List Char) : Except Error (Option Char × List Char) :=
  let (comma, rest) := take? (· == ',') text
  match comma, rest with
  | some _, '_' :: _ => .error .commaAndUnderscore
  | some _, _ => .ok (comma, rest)
  | none, _ =>
    let (underscore, rest) := take? (· == '_') rest
    match underscore, rest with
    | some _, ',' :: _ => .error .commaAndUnderscore
    | _, _ => .ok (underscore, rest)

def readPrecision (text : List Char) : Except Error (Option Nat × List Char) :=
  match text with
  | '.' :: rest => do
    let (precision, rest) ← readNumber none rest
    if precision.isNone then throw .missingPrecision
    return (precision, rest)
  | _ => .ok (none, text)

/-- The codes that a separator of thousands goes with. -/
def allowsSeparator (separator code : Char) : Bool :=
  "defgEG%F".toList.contains code || code.toNat == 0 ||
    (separator == '_' && "boxX".toList.contains code)

def Spec.read (text : List Char) : Except Error Spec := do
  let (spec, hasFill, rest) := readAlignment text
  let (sign, rest) := take? (fun c => c == ' ' || c == '+' || c == '-') rest
  let (negativeZero, rest) := take? (· == 'z') rest
  let (alternate, rest) := take? (· == '#') rest
  let (zero, rest) := if hasFill then (none, rest) else take? (· == '0') rest
  let (width, rest) ← readNumber none rest
  let (separator, rest) ← readSeparator rest
  let (precision, rest) ← readPrecision rest
  let code ← match rest with
    | [] => pure 's'
    | [code] => pure code
    | _ => throw (.malformed (String.ofList text))
  match separator with
  | some mark => if !allowsSeparator mark code then throw (.separatorWith mark code)
  | none => pure ()
  return { spec with
    fill := zero.getD spec.fill
    sign, width, separator, precision, code
    negativeZero := negativeZero.isSome
    alternate := alternate.isSome }

/-! ## Laying out -/

/-- From this width on there is no room for a field. -/
def room : Nat := 0x1000000000

def Spec.check (spec : Spec) : Except Error Unit := do
  if spec.code ≠ 's' then throw (.unknownCode spec.code)
  match spec.sign with
  | some ' ' => throw .space
  | some _ => throw .sign
  | none => pure ()
  if spec.negativeZero then throw .negativeZero
  if spec.alternate then throw .alternate
  if spec.alignment = .inside then throw .insideAlignment
  if room ≤ spec.width.getD 0 then throw .noRoom

def Spec.apply (spec : Spec) (text : List Char) : List Char :=
  let text := match spec.precision with
    | some n => text.take n
    | none => text
  let room := spec.width.getD 0 - text.length
  let before := match spec.alignment with
    | .right => room
    | .center => room / 2
    | .left | .inside => 0
  List.replicate before spec.fill ++ text ++ List.replicate (room - before) spec.fill

/-- Lays a text out as a specification says. -/
def layOut (spec text : List Char) : Except Error (List Char) := do
  let spec ← Spec.read spec
  spec.check
  return spec.apply text

end SmartDevice.Text.Layout
