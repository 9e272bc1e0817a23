/-! Clocks that tell the time in milliseconds since the epoch. -/

namespace SmartDevice

inductive ClockError where
  /-- The system time, in nanoseconds, lies this far before the epoch. -/
  | beforeEpoch (distance : Nat)
  | broken (message : String)
  deriving DecidableEq, Repr

def ClockError.message : ClockError → String
  | beforeEpoch distance => s!"system time is {distance} ns before the Unix epoch"
  | broken message => message

inductive Clock where
  | system
  /-- A time that never changes, for runs that are to be repeated. -/
  | pattern
  /-- Shows each time once, and then goes on with the last one. -/
  | ticks (now : Int) (later : List Int)
  | broken (message : String)

namespace Clock

/-- The system time in milliseconds. -/
def milliseconds (nanoseconds : Int) : Except ClockError Int :=
  if nanoseconds < 0 then .error (.beforeEpoch nanoseconds.natAbs)
  else .ok (nanoseconds / 1000000)

def patternTime : Int := 0x015555555555

/-- Reads the clock, given the system time in nanoseconds. -/
def read (clock : Clock) (nanoseconds : Int) : Except ClockError Int × Clock :=
  match clock with
  | system => (milliseconds nanoseconds, clock)
  | pattern => (.ok patternTime, clock)
  | ticks now [] => (.ok now, clock)
  | ticks now (next :: later) => (.ok now, ticks next later)
  | broken message => (.error (.broken message), clock)

end Clock

end SmartDevice
