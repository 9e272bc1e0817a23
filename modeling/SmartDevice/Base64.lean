/-! Base64 text with padding. Reading is strict about padding, but ignores the bits of the last
sextet that no byte uses, so some bytes have several spellings. -/

namespace SmartDevice.Base64

/-- Why a text is no base64 text. -/
inductive Error where
  | nonAscii
  | leadingPadding
  | foreignCharacter
  | discontinuousPadding
  | excessData
  /-- One sextet is left over; the count is that of all sextets. -/
  | strayCharacter (count : Nat)
  | incorrectPadding
  deriving DecidableEq, Repr

def Error.message : Error → String
  | nonAscii => "string argument should contain only ASCII characters"
  | leadingPadding => "Leading padding not allowed"
  | foreignCharacter => "Only base64 data is allowed"
  | discontinuousPadding => "Discontinuous padding not allowed"
  | excessData => "Excess data after padding"
  | strayCharacter count =>
    s!"Invalid base64-encoded string: number of data characters ({count}) cannot be 1 more than " ++
      "a multiple of 4"
  | incorrectPadding => "Incorrect padding"

/-! ## Sextets -/

/-- The character of a number below sixty-four. -/
def letter (n : Nat) : Char :=
  if n < 26 then Char.ofNat (65 + n)
  else if n < 52 then Char.ofNat (71 + n)
  else if n < 62 then Char.ofNat (n - 4)
  else if n = 62 then '+'
  else '/'

def sextet? (c : Char) : Option Nat :=
  if 'A' ≤ c ∧ c ≤ 'Z' then some (c.toNat - 65)
  else if 'a' ≤ c ∧ c ≤ 'z' then some (c.toNat - 71)
  else if '0' ≤ c ∧ c ≤ '9' then some (c.toNat + 4)
  else if c = '+' then some 62
  else if c = '/' then some 63
  else none

/-- Four sextets make three bytes; of a shorter group at the end only whole bytes count. -/
def pack : List Nat → List UInt8
  | a :: b :: c :: d :: rest =>
    UInt8.ofNat (a * 4 + b / 16) :: UInt8.ofNat (b % 16 * 16 + c / 4) ::
      UInt8.ofNat (c % 4 * 64 + d) :: pack rest
  | [a, b, c] => [UInt8.ofNat (a * 4 + b / 16), UInt8.ofNat (b % 16 * 16 + c / 4)]
  | [a, b] => [UInt8.ofNat (a * 4 + b / 16)]
  | _ => []

/-! ## Writing -/

def encode : List UInt8 → List Char
  | a :: b :: c :: rest =>
    letter (a.toNat / 4) :: letter (a.toNat % 4 * 16 + b.toNat / 16) ::
      letter (b.toNat % 16 * 4 + c.toNat / 64) :: letter (c.toNat % 64) :: encode rest
  | [a, b] =>
    [letter (a.toNat / 4), letter (a.toNat % 4 * 16 + b.toNat / 16), letter (b.toNat % 16 * 4), '=']
  | [a] => [letter (a.toNat / 4), letter (a.toNat % 4 * 16), '=', '=']
  | [] => []

/-! ## Reading -/

/-- What stands at the end of the text: whole groups only, or a group cut short. -/
def finish (sextets : List Nat) : Except Error (List UInt8) :=
  match sextets.length % 4 with
  | 0 => .ok (pack sextets)
  | 1 => .error (.strayCharacter sextets.length)
  | _ => .error .incorrectPadding

/-- Reads from the first `=` on. A group of two or three sextets is complete once `=` fills it up
to four, and then the text ends; before that, and after whole groups, more `=` may follow. -/
def readPadding (sextets : List Nat) (pads : Nat) : List Char → Except Error (List UInt8)
  | [] => finish sextets
  | c :: rest =>
    if c = '=' then
      let group := sextets.length % 4
      if 2 ≤ group ∧ 4 ≤ group + pads + 1 then
        if rest.isEmpty then .ok (pack sextets) else .error .excessData
      else readPadding sextets (pads + 1) rest
    else match sextet? c with
      | none => .error .foreignCharacter
      | some _ => .error .discontinuousPadding

/-- The longest run of sextets at the start, and then either the end or padding. -/
def decodeSextets (text : List Char) : Except Error (List UInt8) :=
  let isSextet := fun c => (sextet? c).isSome
  let sextets := (text.takeWhile isSextet).filterMap sextet?
  match text.dropWhile isSextet with
  | [] => finish sextets
  | c :: rest =>
    if c ≠ '=' then .error .foreignCharacter
    else if sextets.isEmpty then .error .leadingPadding
    else readPadding sextets 0 (c :: rest)

/-- A character that is not ASCII is found before anything else. -/
def decode (text : List Char) : Except Error (List UInt8) :=
  if text.any fun c => 128 ≤ c.toNat then .error .nonAscii else decodeSextets text

end SmartDevice.Base64
