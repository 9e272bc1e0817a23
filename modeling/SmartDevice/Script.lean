import SmartDevice.Decimal.Shortest
import SmartDevice.Decimal.Typed
import SmartDevice.Path
import SmartDevice.SystemError
import SmartDevice.Text.Quoted

/-! The scripts that carry out what a device cannot do by itself, and how running one can end. -/

namespace SmartDevice

/-- How long a script may take. -/
inductive Timeout where
  | seconds (n : Int)
  | fraction (x : Decimal)
  | never
  deriving DecidableEq, Repr

/-- Seconds as people type them, or what is wrong with them. -/
def Timeout.ofTyped (text : List Char) : Except String Timeout :=
  match Decimal.ofTyped? text with
  | some x => .ok (.fraction x)
  | none => .error ("could not convert string to float: " ++ String.ofList (Text.quoted text))

def Timeout.toString : Timeout → String
  | seconds n => ToString.toString n
  | fraction x => String.ofList x.toText
  | never => "None"

inductive ScriptOutcome where
  | finished (status : Int) (out err : List UInt8)
  | timedOut
  | notFound
  | notExecutable
  | failed (e : SystemError)

/-- A script that was started, and what the device was busy with at that time. -/
structure ScriptRun where
  path : Path
  timeout : Timeout
  busy : Option String

/-- Why a command fails once its script was to run. -/
inductive CommandError where
  | timedOut (name : String) (timeout : Timeout)
  | notFound (script : Path)
  | notExecutable (script : Path)
  | exited (name : String) (status : Int) (report : String)
  deriving DecidableEq, Repr

def CommandError.message : CommandError → String
  | timedOut name timeout => s!"{name} timed out after {timeout.toString} seconds"
  | notFound script => s!"{script.toString} not found"
  | notExecutable script => s!"{script.toString} is not executable"
  | exited name status report => s!"{name} exited with status {status}: {report}"

end SmartDevice
