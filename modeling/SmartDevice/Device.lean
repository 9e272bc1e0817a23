import SmartDevice.Home

/-! A running device: its identity never changes, and its configuration in memory is the one that is
stored. -/

namespace SmartDevice

structure Device where
  home : Home
  identity : Identity
  config : Option Config
  /-- The lock under which commands run. -/
  lock : Nat

/-- A device and what lies around it. -/
structure Running where
  device : Device
  world : World

abbrev Running.Action := EStateM Failure Running

namespace Running

/-- An action that does not touch the device itself. -/
def around (action : SmartDevice.Action α) : Running.Action α := fun running =>
  match action running.world with
  | .ok a world => .ok a { running with world }
  | .error e world => .error e { running with world }

def say (write : Console → Console) : Running.Action Unit := around (World.say write)

end Running

namespace Device

open Running World

/-! ## Starting -/

/-- A device with the given records, under the given lock or under one of its own. -/
def build (home : Home) (identity : Identity) (config : Option Config) (lock : Option Nat) :
    Action Device := do
  let lock ← match lock with
    | some lock => pure lock
    | none => newLock
  return { home, identity, config, lock }

/-- The device whose records a directory holds. -/
def load (home : Home) : Action Device := do
  let identity ← home.loadIdentity
  sayNaming identity.productName fun name =>
    Console.info s!"Loaded device information for {name} ({identity.uuid.toText})"
  let config ← home.loadConfig
  if config.isNone then say (Console.info "Device is not configured yet")
  build home identity config none

/-! ## Exclusive operations -/

/-- What the device is busy with. -/
def busy? (device : Device) (world : World) : Option String := world.locks.busy? device.lock

def isBusyWith : Running.Action (Option String) := do
  let running ← get
  return running.device.busy? running.world

def acquire (reason : String) : Running.Action Nat := do
  around (World.acquire (← get).device.lock reason)

/-- Runs an operation while the device is busy with it; the device is free again however the
operation ends. -/
def exclusively (reason : String) (operation : Running.Action α) : Running.Action α := do
  let guard ← acquire reason
  try
    let answer ← operation
    around (release guard)
    return answer
  catch e =>
    around (release guard)
    throw e

/-! ## Configuration -/

/-- Whether a credential is that of the device. -/
def check (device : Device) (presented : Option (List Char)) : Except CredentialError Key :=
  Credential.check device.identity.authorizationKey presented

def getConfig : Running.Action (Option Config) := return (← get).device.config

/-- Brings the stored configuration in line with the given one. -/
def store (home : Home) (config : Option Config) : Action Unit := do
  try
    match config with
    | none => home.removeConfig
    | some config => home.saveConfig config
  catch
    | .file (.system e) => throw (.storage (.failed e))
    | e => throw e

/-- Takes a configuration over that was stored. -/
def adopt (config : Option Config) : Running.Action Unit := do
  modify fun running => { running with device := { running.device with config } }
  Running.say (Console.info
    (if config.isNone then "Configuration removed" else "Configuration saved"))

/-- Stores a configuration and then takes it over; if storing fails, nothing changes. -/
def setConfig (config : Option Config) : Running.Action Unit := do
  around (store (← get).device.home config)
  adopt config

end Device

end SmartDevice
