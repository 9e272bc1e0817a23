import SmartDevice.SystemError

/-! The source of random bytes. It gives each byte once and in order, and nothing at all when it
fails. -/

namespace SmartDevice

/-- What goes wrong in a random source. -/
inductive RandomFault where
  | exhausted
  | system (e : SystemError)
  | unsupported (message : String)
  /-- A failure that users of random bytes do not expect. -/
  | foreign (kind message : String)
  deriving DecidableEq, Repr

namespace RandomFault

def message : RandomFault → String
  | exhausted => "entropy exhausted"
  | system e => e.message
  | unsupported message | foreign _ message => message

end RandomFault

structure RandomSource where
  bytes : List UInt8
  /-- Strikes at the next draw, and only there. -/
  fault : Option RandomFault := none

namespace RandomSource

/-- Draws bytes. A request for none does not touch the source. -/
def draw (n : Nat) (source : RandomSource) :
    Except RandomFault { bytes : List UInt8 // bytes.length = n } × RandomSource :=
  if h : n = 0 then (.ok ⟨[], h.symm⟩, source)
  else match source.fault with
    | some fault => (.error fault, { source with fault := none })
    | none =>
      if enough : n ≤ source.bytes.length then
        (.ok ⟨source.bytes.take n, List.length_take_of_le enough⟩,
          { source with bytes := source.bytes.drop n })
      else (.error .exhausted, source)

end RandomSource

end SmartDevice
