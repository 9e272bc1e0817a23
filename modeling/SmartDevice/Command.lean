import SmartDevice.Device
import SmartDevice.Text.Blank

/-! Commands to a device. Each runs alone; those that reach beyond the device run a script. -/

namespace SmartDevice.Command

open World Running Device

/-! ## Scripts -/

/-- The variable that names the directory of the scripts, and the directory if it is not set. -/
def variableName : String := "MOBILE_API_SCRIPTS_PATH"

def defaultPath : String := "/opt/sifis-home/scripts"

def scriptDirectory : Action Path :=
  return Path.ofString ((← setting? variableName).getD defaultPath)

def defaultTimeout : Timeout := .seconds 60

/-- How a run of a script ends; what is not known cannot be found. -/
def outcomeOf (script : Path) : Action ScriptOutcome := do
  let name := (Text.split '/' script.toString.toList).getLast?.getD []
  return ((← get).scripts.lookup (String.ofList name)).getD .notFound

/-- The text that a script wrote, without blanks around it. -/
def outputText (bytes : List UInt8) : String :=
  String.ofList (Text.strip (Text.Utf8.decodeLossy bytes))

/-- Starts a script. -/
def startScript (script : Path) (timeout : Timeout) (busy : Option String) : Action Unit := do
  say (Console.info s!"Running: {script.toString}")
  modify fun world => { world with runs := world.runs ++ [{ path := script, timeout, busy }] }

/-- Waits for a script that was started, and answers with its output. -/
def awaitScript (name : String) (script : Path) (timeout : Timeout) : Action String := do
  match ← outcomeOf script with
  | .timedOut => throw (.command (.timedOut name timeout))
  | .notFound => throw (.command (.notFound script))
  | .notExecutable => throw (.command (.notExecutable script))
  | .failed e => throw (.file (.system e))
  | .finished status out err =>
    if status ≠ 0 then throw (.command (.exited name status (outputText err)))
    let output := outputText out
    if output ≠ "" then say (Console.substep output)
    return output

/-- Runs a script and answers with its output. -/
def runScript (name : String) (timeout : Timeout) (busy : Option String) : Action String := do
  let script := (← scriptDirectory).child name
  startScript script timeout busy
  awaitScript name script timeout

/-- Runs one of the device's own scripts. -/
def runOwnScript (name : String) : Running.Action Unit := do
  let busy ← isBusyWith
  let _ ← around (runScript name defaultTimeout busy)

/-! ## Commands -/

inductive Kind where
  | factoryReset
  | restart
  | shutdown
  | saveConfiguration
  deriving DecidableEq, Repr

/-- What the device is busy with while a command runs. -/
def Kind.reason : Kind → String
  | factoryReset => "A factory reset is performed."
  | restart => "The device is restarting."
  | shutdown => "The device is shutting down."
  | saveConfiguration => "Saving device configuration."

/-- What the device answers once a command is done. -/
def Kind.answer : Kind → String
  | factoryReset => "Factory reset complete."
  | restart => "System will now restart."
  | shutdown => "System will now power off."
  | saveConfiguration => "Configuration saved."

/-- The text that confirms a factory reset. -/
def confirmation : String := "I really want to perform a factory reset"

/-- Forgets the configuration, whatever becomes of the script. -/
def factoryReset (confirm : Option String) : Running.Action String := do
  if confirm ≠ some confirmation then throw .unconfirmed
  exclusively Kind.factoryReset.reason do
    Running.say (Console.warning "Performing factory reset")
    setConfig none
    runOwnScript "factory_reset.sh"
  return Kind.factoryReset.answer

def restart : Running.Action String := do
  exclusively Kind.restart.reason (runOwnScript "restart.sh")
  return Kind.restart.answer

def shutdown : Running.Action String := do
  exclusively Kind.shutdown.reason (runOwnScript "shutdown.sh")
  return Kind.shutdown.answer

def saveConfiguration (config : Config) : Running.Action String := do
  exclusively Kind.saveConfiguration.reason (setConfig (some config))
  return Kind.saveConfiguration.answer

end SmartDevice.Command
