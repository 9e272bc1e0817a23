import SmartDevice.Base64
import SmartDevice.Hex
import SmartDevice.Json.Basic
import SmartDevice.Text.Layout

/-! Keys of 256 bits: the authorization key of a device and the key its network shares. -/

namespace SmartDevice

structure Key where
  bytes : List UInt8
  length_eq : bytes.length = 32
  deriving DecidableEq

/-- Why a value is no key. -/
inductive KeyError where
  | wrongLength
  | invalidDigit
  | invalidBase64 (e : Base64.Error)
  | notBytes (kind : String)
  | notHexOrBytes (kind : String)
  /-- Neither encoding fits; the cause is that of the encoding that was tried. -/
  | unsuitable (cause : KeyError)
  /-- Something else stands where a text has to be. -/
  | notText
  | immutable
  deriving DecidableEq, Repr

def KeyError.message : KeyError → String
  | wrongLength => "key data length is incorrect"
  | invalidDigit => "invalid digit found in string"
  | invalidBase64 e => s!"invalid base64: {e.message}"
  | notBytes kind => s!"expected 32 bytes, got {kind}"
  | notHexOrBytes kind => s!"expected 64 hex characters or 32 bytes, got {kind}"
  | unsuitable _ => "not a suitable key string"
  | notText => "expected a text"
  | immutable => "SecurityKey is immutable"

/-- How a key text is to be read. -/
inductive KeyEncoding where
  | hex
  | base64
  deriving DecidableEq, Repr

/-- Sixty-four hexadecimal digits are read as such; any other text is taken for base64. -/
def KeyEncoding.detect (text : List Char) : KeyEncoding :=
  if text.length = 64 ∧ text.all Hex.isDigit then .hex else .base64

namespace Key

/-! ## Reading -/

def ofBytes (bytes : List UInt8) : Except KeyError Key :=
  if h : bytes.length = 32 then .ok ⟨bytes, h⟩ else .error .wrongLength

/-- The length is looked at before the digits. -/
def ofHex (text : List Char) : Except KeyError Key :=
  if text.length ≠ 64 then .error .wrongLength
  else match Hex.decode? text with
    | none => .error .invalidDigit
    | some bytes => ofBytes bytes

def ofDecoded : Except Base64.Error (List UInt8) → Except KeyError Key
  | .error e => .error (.invalidBase64 e)
  | .ok bytes => ofBytes bytes

def ofBase64 (text : List Char) : Except KeyError Key := ofDecoded (Base64.decode text)

/-- A key in either encoding. -/
def ofText (text : List Char) : Except KeyError Key :=
  let key := match KeyEncoding.detect text with
    | .hex => ofHex text
    | .base64 => ofBase64 text
  key.mapError .unsuitable

/-! ## Reading other values

A reader of texts that is given something else looks at its length and its items as long as it has
them, and only then finds that it is no text. -/

/-- What is wrong with an item that is not one digit. Of a list or an object this cannot even be
asked. -/
def itemFault? : Json → Option KeyError
  | .string text =>
    match text.toList with
    | [c] => if Hex.isDigit c then none else some .invalidDigit
    | _ => some .invalidDigit
  | .array _ | .object _ => some .notText
  | _ => some .invalidDigit

/-- Hexadecimal digits in a list; even if all of them are digits, they are no text. -/
def ofHexItems (items : List Json) : Except KeyError Key :=
  if items.length ≠ 64 then .error .wrongLength
  else .error ((items.findSome? itemFault?).getD .notText)

/-- The items of an object are its names. -/
def ofHexInJson : Json → Except KeyError Key
  | .string text => ofHex text.toList
  | .array items => ofHexItems items
  | .object fields => ofHexItems (fields.map fun (name, _) => .string name)
  | _ => .error .notText

def ofBase64InJson : Json → Except KeyError Key
  | .string text => ofBase64 text.toList
  | _ => .error .notText

def ofTextInJson : Json → Except KeyError Key
  | .string text => ofText text.toList
  | _ => .error .notText

/-- Bytes are read as numbers, and so are no hexadecimal digits. -/
def ofHexBytes (bytes : List UInt8) : Except KeyError Key :=
  ofHexItems (bytes.map fun byte => .integer byte.toNat)

/-- Bytes that spell a base64 text. -/
def ofBase64Bytes (bytes : List UInt8) : Except KeyError Key :=
  ofDecoded (Base64.decodeSextets (bytes.map fun byte => Char.ofNat byte.toNat))

/-- Bytes are no hexadecimal digits, so they are taken for base64. -/
def ofTextBytes (bytes : List UInt8) : Except KeyError Key :=
  (ofBase64Bytes bytes).mapError .unsuitable

/-- A key in a record is a hexadecimal text. -/
def ofJson : Json → Except KeyError Key
  | .string text => ofHex text.toList
  | value => .error (.notHexOrBytes value.kindName)

/-- No JSON value is a byte string. -/
def ofBytesInJson (value : Json) : Except KeyError Key := .error (.notBytes value.kindName)

/-! ## Writing -/

def hex (key : Key) (letters : Hex.Letters := .lower) : String :=
  String.ofList (Hex.encode letters key.bytes)

def base64 (key : Key) : String := String.ofList (Base64.encode key.bytes)

def toJson (key : Key) : Json := .string key.hex

/-- The digits of the key in a field, or as they are in letters of either case. -/
def layOut (key : Key) (spec : List Char) : Except Text.Layout.Error String :=
  match spec with
  | ['x'] => .ok key.hex
  | ['X'] => .ok (key.hex .upper)
  | _ => String.ofList <$> Text.Layout.layOut spec key.hex.toList

/-- The first eight characters of a written key, all that a log may show of it. -/
def hint (written : String) : String := String.ofList (written.toList.take 8) ++ "..."

/-! ## Values -/

/-- A number from its bytes, the most significant first. -/
def natOfBytes (bytes : List UInt8) : Nat := bytes.foldl (fun n b => 256 * n + b.toNat) 0

/-- The two halves of the key as numbers of 128 bits. -/
def halves (key : Key) : Nat × Nat :=
  (natOfBytes (key.bytes.take 16), natOfBytes (key.bytes.drop 16))

/-- A key never changes: a field that is given a value refuses it. -/
def setField (_key : Key) (_field : String) : Except KeyError Key := .error .immutable

def isNull (key : Key) : Bool := key.bytes.all (· == 0)

/-- Compares every pair of bytes, so that the time tells nothing about a common start. -/
def sameBytes (a b : Key) : Bool :=
  (List.zipWith (· ^^^ ·) a.bytes b.bytes).foldl (· ||| ·) 0 == 0

/-! ## Reading what was written -/

theorem ofBytes_bytes (key : Key) : ofBytes key.bytes = .ok key := by
  simp [ofBytes, key.length_eq]

theorem ofHex_hex (key : Key) (letters : Hex.Letters) :
    ofHex (key.hex letters).toList = .ok key := by
  simp [ofHex, hex, Hex.length_encode, key.length_eq, Hex.decode?_encode, ofBytes_bytes]

theorem ofJson_toJson (key : Key) : ofJson key.toJson = .ok key := by
  rw [toJson, ofJson, WideText.toList_ofString, ofHex_hex]

end Key

end SmartDevice
