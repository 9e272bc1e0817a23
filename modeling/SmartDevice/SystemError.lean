import SmartDevice.Text.Quoted

/-! What the operating system reports when it refuses a service. -/

namespace SmartDevice

/-- The conditions that file operations run into. -/
inductive FileCondition where
  | notFound
  | busy
  | alreadyExists
  | notDirectory
  | isDirectory
  | nameTooLong
  deriving DecidableEq, Repr

namespace FileCondition

def number : FileCondition → Nat
  | notFound => 2
  | busy => 16
  | alreadyExists => 17
  | notDirectory => 20
  | isDirectory => 21
  | nameTooLong => 36

def message : FileCondition → String
  | notFound => "No such file or directory"
  | busy => "Device or resource busy"
  | alreadyExists => "File exists"
  | notDirectory => "Not a directory"
  | isDirectory => "Is a directory"
  | nameTooLong => "File name too long"

end FileCondition

inductive SystemError where
  /-- A file operation on a path, and for a renaming the new path. -/
  | file (condition : FileCondition) (path : String) (target : Option String)
  /-- A report in other words, of a kind that has a name. -/
  | reported (kind : String) (text : String)
  deriving DecidableEq, Repr

namespace SystemError

def message : SystemError → String
  | file condition path target =>
    let quote := fun (path : String) => String.ofList (Text.quoted path.toList)
    let goal := match target with
      | some target => " -> " ++ quote target
      | none => ""
    s!"[Errno {condition.number}] {condition.message}: {quote path}{goal}"
  | reported _ text => text

def isNotFound : SystemError → Bool
  | file condition _ _ => condition = .notFound
  | reported kind _ => kind = "FileNotFoundError"

/-- The numbers of reports that a path leads nowhere, or round in a circle. -/
def absences : List Nat := [2, 9, 20, 40]

/-- Whether looking for a file takes the report for its absence. -/
def isAbsence : SystemError → Bool
  | file condition _ _ => absences.contains condition.number
  | reported _ text => absences.any fun number => s!"[Errno {number}] ".isPrefixOf text

end SystemError

end SmartDevice
