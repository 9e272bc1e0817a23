import SmartDevice.Text.Utf8

/-! UTF-16 and UTF-32. Surrogates without a partner are let through, each as one replacement. -/

namespace SmartDevice.Text.Wide

inductive ByteOrder where
  | bigEndian
  | littleEndian
  deriving DecidableEq, Repr

/-- The number that some bytes stand for. -/
def unit (order : ByteOrder) (bytes : List UInt8) : Nat :=
  let bytes := match order with
    | .bigEndian => bytes
    | .littleEndian => bytes.reverse
  bytes.foldl (fun n b => 256 * n + b.toNat) 0

/-- The code units of two bytes each; an odd byte is refused. -/
def units16? (order : ByteOrder) : List UInt8 → Option (List Nat)
  | [] => some []
  | a :: b :: rest => (unit order [a, b] :: ·) <$> units16? order rest
  | _ => none

/-- Joins the pairs among code units. -/
def joinPairs : List Nat → List Char
  | high :: low :: rest =>
    if 0xd800 ≤ high ∧ high < 0xdc00 ∧ 0xdc00 ≤ low ∧ low < 0xe000 then
      Char.ofNat (0x10000 + (high - 0xd800) * 0x400 + (low - 0xdc00)) :: joinPairs rest
    else Utf8.charOf high :: joinPairs (low :: rest)
  | [n] => [Utf8.charOf n]
  | [] => []

def decode16? (order : ByteOrder) (bytes : List UInt8) : Option (List Char) :=
  joinPairs <$> units16? order bytes

/-- The characters of four bytes each; what is beyond the last code point is refused. -/
def decode32? (order : ByteOrder) : List UInt8 → Option (List Char)
  | [] => some []
  | a :: b :: c :: d :: rest =>
    let n := unit order [a, b, c, d]
    if 0x10ffff < n then none else (Utf8.charOf n :: ·) <$> decode32? order rest
  | _ => none

end SmartDevice.Text.Wide
