import SmartDevice.Path
import SmartDevice.SystemError

/-! Files and directories, and the operations on them. Every operation either succeeds or leaves
all files as they were. -/

namespace SmartDevice

/-- The names from a place up to the root. -/
abbrev Location := List String

inductive Node where
  | file (bytes : List UInt8)
  | directory
  deriving DecidableEq, Repr

/-- Where a fault can be made to strike. -/
inductive FaultPoint where
  | openFile
  | write
  | sync
  | rename
  | read
  | unlink
  | look
  | makeDirectories
  | saveConfig
  | removeConfig
  deriving DecidableEq, Repr

/-- Why an operation on a path fails. -/
inductive FileError where
  | system (e : SystemError)
  | embeddedNull
  /-- The path ends in no name that another could take the place of. -/
  | nameless (path : Path)
  deriving DecidableEq, Repr

def FileError.message : FileError → String
  | system e => e.message
  | embeddedNull => "embedded null byte"
  | nameless path =>
    s!"PosixPath({String.ofList (Text.quoted path.toString.toList)}) has an empty name"

structure Disk where
  nodes : List (Location × Node) := []
  workingDirectory : Location := []
  /-- Each strikes once, at the next operation of its kind. -/
  faults : List (FaultPoint × SystemError) := []

namespace Disk

/-- Makes the next operation of a kind fail. -/
def failNext (point : FaultPoint) (e : SystemError) (disk : Disk) : Disk :=
  { disk with faults := disk.faults ++ [(point, e)] }

/-! ## Nodes -/

/-- The root is always a directory. -/
def node? (disk : Disk) : Location → Option Node
  | [] => some .directory
  | location => disk.nodes.lookup location

def erase (location : Location) (disk : Disk) : Disk :=
  { disk with nodes := disk.nodes.filter (·.1 ≠ location) }

def put (location : Location) (node : Node) (disk : Disk) : Disk :=
  { disk with nodes := (location, node) :: (disk.erase location).nodes }

/-- Erases a place and all that lies below it. -/
def eraseTree (location : Location) (disk : Disk) : Disk :=
  { disk with nodes := disk.nodes.filter fun (other, _) => !location.isSuffixOf other }

theorem lookup_filter (location other : Location) (nodes : List (Location × Node)) :
    (nodes.filter (·.1 ≠ location)).lookup other =
      if other = location then none else nodes.lookup other := by
  induction nodes with
  | nil => simp
  | cons entry rest ih => grind

theorem node?_erase {location : Location} (h : location ≠ []) (disk : Disk) (other : Location) :
    (disk.erase location).node? other = if other = location then none else disk.node? other := by
  cases other with
  | nil => simp [node?, h.symm]
  | cons name above => exact lookup_filter location (name :: above) disk.nodes

theorem node?_put {location : Location} (h : location ≠ []) (node : Node) (disk : Disk)
    (other : Location) :
    (disk.put location node).node? other =
      if other = location then some node else disk.node? other := by
  cases other with
  | nil => simp [node?, h.symm]
  | cons name above =>
    have := lookup_filter location (name :: above) disk.nodes
    grind [node?, put, erase]

/-- A place with every directory above it. -/
def putTree (node : Node) : Location → Disk → Disk
  | [], disk => disk
  | name :: above, disk =>
    let disk := if (disk.node? above).isNone then putTree .directory above disk else disk
    disk.put (name :: above) node

/-! ## Paths -/

def longestName : Nat := 255

def longestPath : Nat := 4095

/-- Follows the parts of a path. Each has to be looked up in a directory; the last one need not be
there. -/
def walk (disk : Disk) (at_ : Location) : List String → Except FileCondition Location
  | [] => .ok at_
  | part :: rest =>
    match disk.node? at_ with
    | none => .error .notFound
    | some (.file _) => .error .notDirectory
    | some .directory =>
      if part = ".." then disk.walk at_.tail rest
      else if longestName < part.utf8ByteSize then .error .nameTooLong
      else disk.walk (part :: at_) rest

def startOf (disk : Disk) (path : Path) : Location :=
  if path.root = .relative then disk.workingDirectory else []

/-- The place that a path leads to. -/
def locate (disk : Disk) (path : Path) : Except FileCondition Location :=
  if longestPath < path.toString.utf8ByteSize then .error .nameTooLong
  else disk.walk (disk.startOf path) path.parts

def hasNull (path : Path) : Bool := path.parts.any (·.contains (Char.ofNat 0))

/-! ## Operations -/

abbrev Action := EStateM FileError Disk

def fail (condition : FileCondition) (path : Path) : Action α :=
  throw (.system (.file condition path.toString none))

/-- Strikes if a fault of this kind waits. -/
def strike (point : FaultPoint) : Action Unit := do
  let disk ← get
  match disk.faults.find? (·.1 = point) with
  | none => pure ()
  | some (_, e) =>
    set { disk with faults := disk.faults.eraseP (·.1 = point) }
    throw (.system e)

/-- The place of a path and what stands there. -/
def find (path : Path) : Action (Location × Option Node) := do
  if hasNull path then throw .embeddedNull
  let disk ← get
  match disk.locate path with
  | .error condition => fail condition path
  | .ok location => return (location, disk.node? location)

/-- Opens a file for writing: it is empty then, whether it was there before or not. -/
def openForWriting (path : Path) : Action Location := do
  strike .openFile
  let (location, node) ← find path
  match node with
  | some .directory => fail .isDirectory path
  | _ =>
    modify (put location (.file []))
    return location

/-- Gives an open file its bytes. -/
def write (location : Location) (bytes : List UInt8) : Action Unit := do
  strike .write
  modify (put location (.file bytes))

/-- What was written is safe from now on. -/
def sync : Action Unit := strike .sync

def failRenaming (condition : FileCondition) (path target : Path) : Action α :=
  throw (.system (.file condition path.toString (some target.toString)))

/-- Gives a file another path, in place of the file that has it. -/
def rename (path target : Path) : Action Unit := do
  strike .rename
  if hasNull path || hasNull target then throw .embeddedNull
  let disk ← get
  match disk.locate path, disk.locate target with
  | .error condition, _ | _, .error condition => failRenaming condition path target
  | .ok source, .ok goal =>
    if target.name? = none ∨ target.name? = some ".." then failRenaming .busy path target
    else match disk.node? source, disk.node? goal with
      | none, _ => failRenaming .notFound path target
      | some .directory, _ | _, some .directory => failRenaming .isDirectory path target
      | some (.file bytes), _ => set (put goal (.file bytes) (disk.erase source))

def read (path : Path) : Action (List UInt8) := do
  strike .read
  match (← find path).2 with
  | none => fail .notFound path
  | some .directory => fail .isDirectory path
  | some (.file bytes) => return bytes

def unlink (path : Path) : Action Unit := do
  strike .unlink
  let (location, node) ← find path
  match node with
  | none => fail .notFound path
  | some .directory => fail .isDirectory path
  | some (.file _) => modify (erase location)

/-- What stands at a path, nothing if the path leads nowhere. -/
def look (path : Path) : Action (Option Node) := do
  try return (← find path).2
  catch
    | .system (.file .notFound _ _) | .system (.file .notDirectory _ _) | .embeddedNull =>
      return none
    | e => throw e

/-- Whether something stands at a path. Where looking for it is reported to lead nowhere, the files
themselves tell; any other report is passed on. -/
def isThere (path : Path) : Action Bool := do
  try strike .look
  catch
    | .system e => if !e.isAbsence then throw (.system e)
    | e => throw e
  return (← look path).isSome

def isDirectory (path : Path) : Action Bool := return (← look path) = some .directory

def makeDirectory (path : Path) : Action Unit := do
  let (location, node) ← find path
  if node.isSome then fail .alreadyExists path
  modify (put location .directory)

/-- Makes one directory, if it is not there already. -/
def ensureDirectory (path : Path) : Action Unit := do
  try makeDirectory path
  catch
    | .system e => if e.isNotFound || !(← isDirectory path) then throw (.system e)
    | e => throw e

/-- Makes a directory and those above it that are missing. -/
def ensureDirectories (path : Path) : Action Unit := do
  try makeDirectory path
  catch
    | .system e =>
      if e.isNotFound then
        if _ : path.parts = [] then throw (.system e)
        else
          ensureDirectories path.parent
          ensureDirectory path
      else if !(← isDirectory path) then throw (.system e)
    | e => throw e
termination_by path.parts.length
decreasing_by
  have := List.length_pos_iff.mpr ‹path.parts ≠ []›
  simp [Path.parent]
  omega

def makeDirectories (path : Path) : Action Unit := do
  strike .makeDirectories
  ensureDirectories path

end Disk

end SmartDevice
