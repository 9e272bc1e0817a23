import SmartDevice.Json.Reader
import SmartDevice.Text.Wide

/-! JSON in bytes. A mark at the start tells the encoding, or else the places of the zero bytes
among the first four do, since the first character of JSON text is ASCII. -/

namespace SmartDevice.Json

inductive Encoding where
  | utf8
  | utf16 (order : Text.Wide.ByteOrder)
  | utf32 (order : Text.Wide.ByteOrder)
  deriving DecidableEq, Repr

/-- The encoding of bytes without a mark. -/
def Encoding.guess : List UInt8 → Encoding
  | a :: b :: c :: d :: _ =>
    if a = 0 then if b = 0 then .utf32 .bigEndian else .utf16 .bigEndian
    else if b = 0 then
      if c = 0 ∧ d = 0 then .utf32 .littleEndian else .utf16 .littleEndian
    else .utf8
  | [a, b] =>
    if a = 0 then .utf16 .bigEndian else if b = 0 then .utf16 .littleEndian else .utf8
  | _ => .utf8

/-- The encoding, and the bytes after the mark. -/
def Encoding.detect : List UInt8 → Encoding × List UInt8
  | 0x00 :: 0x00 :: 0xfe :: 0xff :: rest => (.utf32 .bigEndian, rest)
  | 0xff :: 0xfe :: 0x00 :: 0x00 :: rest => (.utf32 .littleEndian, rest)
  | 0xfe :: 0xff :: rest => (.utf16 .bigEndian, rest)
  | 0xff :: 0xfe :: rest => (.utf16 .littleEndian, rest)
  | 0xef :: 0xbb :: 0xbf :: rest => (.utf8, rest)
  | bytes => (guess bytes, bytes)

/-- The text in bytes. Half of a pair that is encoded by itself is read as a replacement, unlike one
that is escaped in the text. -/
def decode? (bytes : List UInt8) : Option (List Char) :=
  match Encoding.detect bytes with
  | (.utf8, bytes) => (Text.Utf8.decodePassingSurrogates bytes).toOption
  | (.utf16 order, bytes) => Text.Wide.decode16? order bytes
  | (.utf32 order, bytes) => Text.Wide.decode32? order bytes

end SmartDevice.Json
