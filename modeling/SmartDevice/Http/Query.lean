import SmartDevice.Hex
import SmartDevice.Text.Split
import SmartDevice.Text.Utf8

/-! Query texts and percent signs: `%` and two digits stand for a byte, `+` for a space. -/

namespace SmartDevice.Http

namespace Percent

/-- A percent sign without two digits after it stands for itself. -/
def decodeBytes : List Char → List UInt8
  | [] => []
  | '%' :: high :: low :: rest =>
    match Hex.digitValue? high, Hex.digitValue? low with
    | some h, some l => UInt8.ofNat (16 * h + l) :: decodeBytes rest
    | _, _ => 0x25 :: decodeBytes (high :: low :: rest)
  | c :: rest => Text.Utf8.encodeChar c ++ decodeBytes rest

def decode (text : List Char) : List Char := Text.Utf8.decodeLossy (decodeBytes text)

def encodeByte (b : UInt8) : List Char := '%' :: Hex.encode .upper [b]

/-- Bytes stand for themselves if they are characters of the given class. -/
def encode (keeps : Char → Bool) (text : List Char) : List Char :=
  (Text.Utf8.encode text).flatMap fun b =>
    let c := Char.ofNat b.toNat
    if keeps c then [c] else encodeByte b

/-- What may stand in an address as it is. -/
def inAddress (c : Char) : Bool :=
  c.isAlphanum || "_.-~:/%#?=@[]!$&'()*+,;".toList.contains c

end Percent

namespace Query

def decodePart (text : List Char) : List Char :=
  Percent.decode (text.map fun c => if c = '+' then ' ' else c)

/-- The names and values; a name without a value has an empty one. -/
def parameters (query : List Char) : List (List Char × List Char) :=
  ((Text.split '&' query).filter (!·.isEmpty)).map fun part =>
    let (name, value) := Text.cut '=' part
    (decodePart name, decodePart (value.getD []))

/-- The last value of a name. -/
def last? (name : String) (query : String) : Option String :=
  let values := (parameters query.toList).filter (·.1 = name.toList)
  values.getLast?.map fun (_, value) => String.ofList value

end Query

end SmartDevice.Http
