import SmartDevice.Config
import SmartDevice.Identity
import SmartDevice.Text.LineEnds
import SmartDevice.World

/-! Records in files. A file is replaced as a whole: the text goes to a temporary file beside it,
which then takes its place. -/

namespace SmartDevice

namespace RecordFile

open World

/-! ## Writing -/

/-- The file that a new text is first written to. -/
def temporary (file : Path) : Action Path :=
  match file.name? with
  | none => throw (.file (.nameless file))
  | some name => return file.sibling (name ++ ".tmp")

/-- The steps of a replacement, each of which may fail. -/
def writeThrough (temporary file : Path) (text : String) : Disk.Action Unit := do
  let opened ← Disk.openForWriting temporary
  Disk.write opened (Text.Utf8.encode text.toList)
  Disk.sync
  Disk.rename temporary file

/-- Removes a file whose removal may as well fail. -/
def discard (file : Path) : Disk.Action Unit := do
  try Disk.unlink file
  catch
    | .system _ => pure ()
    | e => throw e

/-- Replaces a file. If that fails, the file is as it was, and the temporary one is removed. -/
def replace (file : Path) (text : String) : Action Unit := do
  let temporary ← temporary file
  try onDisk (writeThrough temporary file text)
  catch
    | .file (.system e) =>
      onDisk (discard temporary)
      throw (.storage (.write file.toString e))
    | e => throw e

/-! ## Reading -/

/-- The characters of a file. That the file is missing is left to the caller. -/
def readText (file : String) : Action (List Char) := do
  let bytes ←
    try onDisk (Disk.read (Path.ofString file))
    catch
      | .file (.system e) =>
        if e.isNotFound then throw (.file (.system e)) else throw (.storage (.read file e))
      | e => throw e
  match Text.Utf8.decode bytes with
  | .error e => throw (.storage (.undecodable file e))
  | .ok text => return Text.unifyLineEnds text

/-- The object that a file holds. -/
def readObject (file : String) : Action Json := do
  match Json.read (← readText file) with
  | .error (.malformed e) => throw (.storage (.malformed file e))
  | .error (.excess excess) => throw (.excess excess)
  | .ok (.object fields) => return .object fields
  | .ok _ => throw (.storage (.notAnObject file))

end RecordFile

/-! ## The two records -/

namespace Config

def load (file : String) : Action Config := do
  match ofJson (← RecordFile.readObject file) with
  | .error e => throw (.storage (.badConfig file e))
  | .ok config => return config

def save (config : Config) (file : Path) : Action Unit := RecordFile.replace file config.toText

end Config

namespace Identity

def load (file : String) : Action Identity := do
  match ofJson (← RecordFile.readObject file) with
  | .error e => throw (.storage (.badIdentity file e))
  | .ok identity => return identity

def save (identity : Identity) (file : Path) : Action Unit :=
  RecordFile.replace file identity.toText

end Identity

end SmartDevice
