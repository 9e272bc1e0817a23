import SmartDevice.Clock
import SmartDevice.Key
import SmartDevice.RandomSource
import SmartDevice.Uuid

/-! Random bytes, keys and identifiers. The clock is read before any random byte is drawn. -/

namespace SmartDevice

structure Generator where
  source : RandomSource
  clock : Clock := .system
  /-- The system time in nanoseconds. -/
  time : Int := 0

inductive GenerationError where
  | random (fault : RandomFault)
  | clock (e : ClockError)
  | negativeCount
  /-- More bytes than a machine word can count. -/
  | countTooLarge
  /-- More bytes than there is room for. -/
  | noRoom
  deriving DecidableEq, Repr

def GenerationError.message : GenerationError → String
  | random (.foreign _ message) => message
  | random fault => s!"random source failed: {fault.message}"
  | clock e => e.message
  | negativeCount => "negative count"
  | noRoom => ""
  | countTooLarge => "cannot fit 'int' into an index-sized integer"

namespace Generator

/-- Makes the next draw of bytes fail. -/
def failNext (fault : RandomFault) (generator : Generator) : Generator :=
  { generator with source := { generator.source with fault := some fault } }

/-- Random bytes, and what is left to draw from. -/
def draw (n : Nat) :
    EStateM GenerationError Generator { bytes : List UInt8 // bytes.length = n } := fun generator =>
  let (bytes, source) := generator.source.draw n
  match bytes with
  | .ok bytes => .ok bytes { generator with source }
  | .error fault => .error (.random fault) { generator with source }

def readClock : EStateM GenerationError Generator Int := fun generator =>
  let (time, clock) := generator.clock.read generator.time
  match time with
  | .ok time => .ok time { generator with clock }
  | .error e => .error (.clock e) { generator with clock }

/-- A place in a buffer of the given length. Negative places count from its end, and those outside
stand for the nearest end. -/
def place (length : Nat) (at_ : Int) : Nat :=
  if at_ < 0 then (at_ + length).toNat else min at_.toNat length

/-- Fills the part of a buffer between two places with random bytes. -/
def fill (buffer : List UInt8) (start stop : Option Int) :
    EStateM GenerationError Generator (List UInt8) := do
  let first := (start.map (place buffer.length)).getD 0
  let last := max first ((stop.map (place buffer.length)).getD buffer.length)
  let bytes ← draw (last - first)
  return buffer.take first ++ bytes.val ++ buffer.drop last

/-- The largest number of bytes that a request can name. -/
def largestCount : Nat := 9223372036854775807

/-- From this number on there is no room for the bytes. -/
def room : Nat := 0x1000000000

/-- Random bytes. Whether the number fits a machine word is asked before its sign is. -/
def randomBytes (size : Int) : EStateM GenerationError Generator (List UInt8) :=
  if size < -(largestCount : Int) - 1 ∨ (largestCount : Int) < size then throw .countTooLarge
  else if size < 0 then throw .negativeCount
  else if (room : Int) ≤ size then throw .noRoom
  else (·.val) <$> draw size.toNat

def key : EStateM GenerationError Generator Key := do
  let bytes ← draw 32
  return ⟨bytes.val, bytes.property⟩

/-- An identifier of version 7. -/
def uuid : EStateM GenerationError Generator Uuid := do
  let time ← readClock
  let bytes ← draw 10
  return Uuid.ofTime time (BitVec.ofNat 80 (Key.natOfBytes bytes.val))

end Generator

end SmartDevice
