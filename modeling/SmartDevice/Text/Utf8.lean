/-! UTF-8, read one byte at a time. The reader refuses a byte as soon as no character can hold it,
so the bytes before it are a longest ill-formed piece, which lossy reading shows as one mark. -/

namespace SmartDevice.Text.Utf8

/-- Why bytes are no character. -/
inductive Fault where
  | startByte
  | continuationByte
  | endOfData
  deriving DecidableEq, Repr

def Fault.message : Fault → String
  | startByte => "invalid start byte"
  | continuationByte => "invalid continuation byte"
  | endOfData => "unexpected end of data"

inductive Piece where
  | char (c : Char) (size : Nat)
  | bad (bytes : List UInt8) (fault : Fault)

/-- A character begun: its bytes so far, their value, how many bytes it still lacks, and the bounds
of the next one. -/
structure Begun where
  bytes : List UInt8
  value : Nat
  missing : Nat
  low : Nat := 0x80
  high : Nat := 0xbf

/-- Stands for what cannot be shown as a character. -/
def replacement : Char := Char.ofNat 0xfffd

/-- The character of a code point; a surrogate is none. -/
def charOf (value : Nat) : Char :=
  if 0xd800 ≤ value ∧ value ≤ 0xdfff then replacement else Char.ofNat value

/-- The first byte of a character; `surrogates` tells whether code points that only pairs of UTF-16
use are let through. -/
def first (surrogates : Bool) (b : UInt8) : List Piece × Option Begun :=
  let n := b.toNat
  if n < 0x80 then ([.char (Char.ofNat n) 1], none)
  else if 0xc2 ≤ n ∧ n ≤ 0xdf then ([], some { bytes := [b], value := n - 0xc0, missing := 1 })
  else if n = 0xe0 then ([], some { bytes := [b], value := 0, missing := 2, low := 0xa0 })
  else if n = 0xed then
    let high := if surrogates then 0xbf else 0x9f
    ([], some { bytes := [b], value := 0xd, missing := 2, high })
  else if 0xe1 ≤ n ∧ n ≤ 0xef then ([], some { bytes := [b], value := n - 0xe0, missing := 2 })
  else if n = 0xf0 then ([], some { bytes := [b], value := 0, missing := 3, low := 0x90 })
  else if 0xf1 ≤ n ∧ n ≤ 0xf3 then ([], some { bytes := [b], value := n - 0xf0, missing := 3 })
  else if n = 0xf4 then ([], some { bytes := [b], value := 4, missing := 3, high := 0x8f })
  else ([.bad [b] .startByte], none)

/-- A byte after those of a character begun. -/
def next (surrogates : Bool) (begun : Begun) (b : UInt8) : List Piece × Option Begun :=
  if begun.low ≤ b.toNat ∧ b.toNat ≤ begun.high then
    let bytes := begun.bytes ++ [b]
    let value := begun.value * 64 + (b.toNat - 0x80)
    if begun.missing = 1 then ([.char (charOf value) bytes.length], none)
    else ([], some { bytes, value, missing := begun.missing - 1 })
  else
    let (pieces, state) := first surrogates b
    (.bad begun.bytes .continuationByte :: pieces, state)

def step (surrogates : Bool) : Option Begun → UInt8 → List Piece × Option Begun
  | none, b => first surrogates b
  | some begun, b => next surrogates begun b

def piecesFrom (surrogates : Bool) (state : Option Begun) : List UInt8 → List Piece
  | [] => match state with
    | none => []
    | some begun => [.bad begun.bytes .endOfData]
  | b :: rest =>
    let (pieces, state) := step surrogates state b
    pieces ++ piecesFrom surrogates state rest

def pieces (surrogates : Bool) (bytes : List UInt8) : List Piece := piecesFrom surrogates none bytes

/-! ## Strict and lossy reading -/

/-- Bytes that are no character, and the position of the first of them. -/
structure Error where
  position : Nat
  bytes : List UInt8
  fault : Fault
  deriving DecidableEq, Repr

def byteText (b : UInt8) : String :=
  let digits := Nat.toDigits 16 b.toNat
  "0x" ++ String.ofList (List.replicate (2 - digits.length) '0' ++ digits)

def Error.message (e : Error) : String :=
  let what := match e.bytes with
    | [b] => s!"byte {byteText b} in position {e.position}"
    | _ => s!"bytes in position {e.position}-{e.position + e.bytes.length - 1}"
  s!"'utf-8' codec can't decode {what}: {e.fault.message}"

def collect (position : Nat) : List Piece → Except Error (List Char)
  | [] => .ok []
  | .char c size :: rest => (c :: ·) <$> collect (position + size) rest
  | .bad bytes fault :: _ => .error { position, bytes, fault }

/-- The characters, or the first fault. -/
def decode (bytes : List UInt8) : Except Error (List Char) := collect 0 (pieces false bytes)

/-- As `decode`, with one replacement for each surrogate. -/
def decodePassingSurrogates (bytes : List UInt8) : Except Error (List Char) :=
  collect 0 (pieces true bytes)

/-- The characters, with one replacement for each ill-formed piece. -/
def decodeLossy (bytes : List UInt8) : List Char :=
  (pieces false bytes).map fun
    | .char c _ => c
    | .bad _ _ => replacement

/-! ## Writing -/

def encodeChar (c : Char) : List UInt8 :=
  let n := c.toNat
  let tail := fun (sextets : Nat) => UInt8.ofNat (0x80 + sextets % 64)
  if n < 0x80 then [UInt8.ofNat n]
  else if n < 0x800 then [UInt8.ofNat (0xc0 + n / 64), tail n]
  else if n < 0x10000 then [UInt8.ofNat (0xe0 + n / 4096), tail (n / 64), tail n]
  else [UInt8.ofNat (0xf0 + n / 262144), tail (n / 4096), tail (n / 64), tail n]

def encode (text : List Char) : List UInt8 := text.flatMap encodeChar

end SmartDevice.Text.Utf8
