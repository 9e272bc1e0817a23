import SmartDevice.Choice
import SmartDevice.RecordFile

/-! The directory in which a device keeps its records. -/

namespace SmartDevice

structure Home where
  path : Path
  deriving DecidableEq, Repr

namespace Home

open World

/-! ## Places -/

/-- The variable that names the directory, and the directory if it is not set. -/
def variableName : String := "SIFIS_HOME_PATH"

def defaultPath : String := "/opt/sifis-home/"

/-- The given directory, or else the one of the environment. -/
def find (given : Option String) : Action Home := do
  match given with
  | some path => return ⟨Path.ofString path⟩
  | none => return ⟨Path.ofString ((← setting? variableName).getD defaultPath)⟩

/-- The directory that a command line chooses. -/
def choose : Choice String → Action Home
  | .unmade => find none
  | .blank => throw .blankPath
  | .made path => find (some path)

def configFile (home : Home) : Path := home.path.child "config.json"

def identityFile (home : Home) : Path := home.path.child "device.json"

def privateKeyFile (home : Home) : Path := home.path.child "private.pem"

/-! ## Identity -/

/-- A new identity: the key is drawn first, then the identifier. -/
def newIdentity (home : Home) (productName : String) : Action Identity := do
  let authorizationKey ← onGenerator Generator.key
  let uuid ← onGenerator Generator.uuid
  return { productName, authorizationKey, privateKeyFile := home.privateKeyFile, uuid }

def loadIdentity (home : Home) : Action Identity := do
  let file := home.identityFile.toString
  try Identity.load file
  catch
    | .file (.system e) =>
      if e.isNotFound then throw (.identity (.missing file e)) else throw (.file (.system e))
    | .storage e => throw (.identity (.unreadable file e))
    | e => throw e

def saveIdentity (home : Home) (identity : Identity) : Action Unit :=
  identity.save home.identityFile

/-! ## Configuration -/

/-- The stored configuration. One that cannot be read counts as none. -/
def loadConfig (home : Home) : Action (Option Config) := do
  try return some (← Config.load home.configFile.toString)
  catch
    | .file (.system e) => if e.isNotFound then return none else throw (.file (.system e))
    | .storage e =>
      say (Console.warning s!"Ignoring unreadable configuration: {e.message}")
      return none
    | e => throw e

/-- Makes the directory that records are kept in. -/
def makeDirectory (home : Home) : Action Unit := onDisk (Disk.makeDirectories home.path)

def saveConfig (home : Home) (config : Config) : Action Unit := do
  onDisk (Disk.strike .saveConfig)
  try home.makeDirectory
  catch
    | .file (.system e) => throw (.storage (.create home.path.toString e))
    | e => throw e
  config.save home.configFile

/-- Removes the stored configuration, if there is one. -/
def removeConfig (home : Home) : Action Unit := do
  onDisk (Disk.strike .removeConfig)
  try onDisk (Disk.unlink home.configFile)
  catch
    | .file (.system e) =>
      if !e.isNotFound then throw (.storage (.remove home.configFile.toString e))
    | e => throw e

end Home

end SmartDevice
