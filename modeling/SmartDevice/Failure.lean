import SmartDevice.Credential
import SmartDevice.Disk
import SmartDevice.Generator
import SmartDevice.Json.Reader
import SmartDevice.Operation.Register
import SmartDevice.Record
import SmartDevice.Script
import SmartDevice.Text.Utf8

/-! Everything that can go wrong around a device, by cause. -/

namespace SmartDevice

/-- Why a stored record cannot be written, read or removed. -/
inductive StorageError where
  | write (file : String) (cause : SystemError)
  | create (directory : String) (cause : SystemError)
  | remove (file : String) (cause : SystemError)
  /-- The store as a whole failed. -/
  | failed (cause : SystemError)
  | read (file : String) (cause : SystemError)
  | undecodable (file : String) (cause : Text.Utf8.Error)
  | malformed (file : String) (cause : Json.SyntaxError)
  | notAnObject (file : String)
  | badConfig (file : String) (cause : RecordError)
  | badIdentity (file : String) (cause : RecordError)
  deriving DecidableEq, Repr

def StorageError.message : StorageError → String
  | write file cause => s!"could not write {file}: {cause.message}"
  | create directory cause => s!"could not create {directory}: {cause.message}"
  | remove file cause => s!"could not remove {file}: {cause.message}"
  | failed cause => cause.message
  | read file cause => s!"could not read {file}: {cause.message}"
  | undecodable file cause => s!"could not read {file}: {cause.message}"
  | malformed file cause => s!"could not parse {file}: {cause.message}"
  | notAnObject file => s!"could not parse {file}: expected a JSON object"
  | badConfig file cause => s!"invalid configuration in {file}: {cause.message}"
  | badIdentity file cause => s!"invalid device information in {file}: {cause.message}"

/-- Why a device does not know what it is. -/
inductive IdentityError where
  | missing (file : String) (cause : SystemError)
  | unreadable (file : String) (cause : StorageError)
  deriving DecidableEq, Repr

def IdentityError.message : IdentityError → String
  | missing file _ =>
    s!"Device information file {file} not found.\n" ++
      "You can use create_device_info application to create it."
  | unreadable file cause => s!"Could not load device information file: {file}\n{cause.message}"

inductive Failure where
  | file (e : FileError)
  | storage (e : StorageError)
  | identity (e : IdentityError)
  | record (e : RecordError)
  /-- A stored text is too much for its reader. -/
  | excess (e : Json.Excess)
  /-- Half of a pair stands alone in a text that is to be encoded. -/
  | unencodable
  | generation (e : GenerationError)
  | operation (e : OperationError)
  | command (e : CommandError)
  | credential (e : CredentialError)
  | unconfirmed
  /-- Two dashes stand where a path should be. -/
  | blankPath
  deriving DecidableEq, Repr

def Failure.message : Failure → String
  | file e => e.message
  | storage e => e.message
  | identity e => e.message
  | record e => e.message
  | excess e => e.message
  | unencodable => "surrogates not allowed"
  | generation e => e.message
  | operation e => e.message
  | command e => e.message
  | credential e => e.message
  | blankPath => "no path is given"
  | unconfirmed => "The required confirm parameter was not correct or set."

end SmartDevice
