import SmartDevice.Hex
import SmartDevice.Text.Integer
import SmartDevice.Text.Quoted

/-! Identifiers of 128 bits. Those of version 7 begin with the time at which they were made. -/

namespace SmartDevice

structure Uuid where
  bits : BitVec 128
  deriving DecidableEq

/-- Why a text is no identifier. -/
inductive UuidError where
  | wrongShape
  | invalidDigits (text : List Char)
  deriving DecidableEq, Repr

/-- Of a quoted text at most two hundred characters are shown. -/
def UuidError.message : UuidError → String
  | wrongShape => "badly formed hexadecimal UUID string"
  | invalidDigits text =>
    "invalid literal for int() with base 16: " ++ String.ofList ((Text.quoted text).take 200)

namespace Uuid

/-! ## Text -/

/-- Thirty-two digits in groups of 8, 4, 4, 4 and 12. -/
def toText (id : Uuid) : String :=
  let digits := Hex.ofNat 32 id.bits.toNat
  let group := fun (start size : Nat) => (digits.drop start).take size
  String.ofList <| group 0 8 ++ ['-'] ++ group 8 4 ++ ['-'] ++ group 12 4 ++ ['-'] ++
    group 16 4 ++ ['-'] ++ group 20 12

/-- Takes out every occurrence of a piece, from left to right. -/
def without (piece : List Char) : List Char → List Char
  | [] => []
  | c :: rest =>
    if piece.isPrefixOf (c :: rest) then without piece (rest.drop (piece.length - 1))
    else c :: without piece rest
termination_by text => text.length
decreasing_by all_goals grind

/-- What is left of a text without its marks, braces and dashes. -/
def bareDigits (text : List Char) : List Char :=
  let unmarked := without "uuid:".toList (without "urn:".toList text)
  (Text.stripWhere (fun c => c == '{' || c == '}') unmarked).filter (· != '-')

/-- Reads an identifier with or without its marks, braces and dashes. -/
def ofText (text : List Char) : Except UuidError Uuid :=
  let digits := bareDigits text
  if digits.length ≠ 32 then .error .wrongShape
  else match Text.Integer.read? 16 digits with
    | none => .error (.invalidDigits digits)
    | some n => .ok ⟨BitVec.ofInt 128 n⟩

/-! ## Fields -/

/-- Told only by identifiers of the usual variant. -/
def version? (id : Uuid) : Option Nat :=
  if id.bits.extractLsb' 62 2 = 2#2 then some (id.bits.extractLsb' 76 4).toNat else none

/-- The first 48 bits, in version 7 a time in milliseconds. -/
def timestamp (id : Uuid) : Nat := (id.bits >>> 80).toNat

/-! ## Making identifiers -/

/-- The bits that neither version nor variant takes. -/
def freeBits : BitVec 128 := 0xffffffffffff0fff3fffffffffffffff#128

/-- Version 7 of the usual variant. -/
def version7 : BitVec 128 := 0x00000000000070008000000000000000#128

/-- An identifier from a time in milliseconds, of which 48 bits count, and random bits. -/
def ofTime (milliseconds : Int) (random : BitVec 80) : Uuid :=
  let time := (BitVec.ofInt 48 milliseconds).setWidth 128 <<< 80
  ⟨((time ||| random.setWidth 128) &&& freeBits) ||| version7⟩

end Uuid

end SmartDevice
