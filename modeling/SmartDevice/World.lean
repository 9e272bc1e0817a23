import SmartDevice.Console
import SmartDevice.Failure

/-! What lies around a device: its files, random source and clock, console, environment, scripts
and locks; and the actions on it, which leave their effects behind also when they fail. -/

namespace SmartDevice

structure World where
  disk : Disk := {}
  generator : Generator := { source := { bytes := [] } }
  console : Console := {}
  environment : List (String × String) := []
  /-- How running a script ends, by its name. -/
  scripts : List (String × ScriptOutcome) := []
  runs : List ScriptRun := []
  locks : Operation.Register := {}

/-- An action that can fail. -/
abbrev Action := EStateM Failure World

namespace World

/-! ## Parts of the world -/

def onDisk (action : Disk.Action α) : Action α := fun world =>
  match action world.disk with
  | .ok a disk => .ok a { world with disk }
  | .error e disk => .error (.file e) { world with disk }

def onGenerator (action : EStateM GenerationError Generator α) : Action α := fun world =>
  match action world.generator with
  | .ok a generator => .ok a { world with generator }
  | .error e generator => .error (.generation e) { world with generator }

/-- Writes to the console. -/
def say (write : Console → Console) : Action Unit :=
  modify fun world => { world with console := write world.console }

/-- Writes a line with a name in it. Where the console shows the line, the name has to be whole. -/
def sayNaming (name : WideText) (write : String → Console → Console) : Action Unit := do
  if (← get).console.enabled ∧ ¬ name.IsWhole then throw .unencodable
  say (write name.toString)

/-- The value of a variable of the environment. -/
def setting? (name : String) : Action (Option String) := do
  return (← get).environment.lookup name

/-- Gives a variable of the environment another value, or none. -/
def setVariable (name : String) (value : Option String) (world : World) : World :=
  let others := world.environment.filter (·.1 ≠ name)
  { world with environment := (value.map fun value => (name, value)).toList ++ others }

/-- Sets the variables that are not set yet. -/
def setDefaults (defaults : List (String × String)) : Action Unit :=
  modify fun world => { world with
    environment := defaults.foldl (fun environment (name, value) =>
      if (environment.lookup name).isSome then environment else (name, value) :: environment)
      world.environment }

/-! ## Locks -/

def newLock : Action Nat :=
  modifyGet fun world =>
    let (lock, locks) := world.locks.newLock
    (lock, { world with locks })

def acquire (lock : Nat) (reason : String) : Action Nat := do
  match (← get).locks.acquire lock reason with
  | .error e => throw (.operation e)
  | .ok (guard, locks) =>
    modify fun world => { world with locks }
    say (Console.debug "BUSY" reason)
    return guard

def release (guard : Nat) : Action Unit := do
  let (freed, locks) := (← get).locks.release guard
  modify fun world => { world with locks }
  if freed then say (Console.debug "BUSY" "released")

end World

end SmartDevice
