import SmartDevice.Provision.Tool
import SmartDevice.Server.Basic
import Std.Time.DateTime.Timestamp

/-! The two commands. What a command may look at is read before it runs, and what it has changed is
written afterwards. The server takes its requests from standard input, one JSON object a line, and
knows no scripts. -/

namespace SmartDevice.Main

/-! ## Files -/

def nodeAt (path : String) : IO (Option Node) := do
  try
    if ← (← IO.FS.realPath path).isDir then return some .directory
    return some (.file (← IO.FS.readBinFile path).toList)
  catch _ => return none

/-- The path of a place; places count from where the home's path starts. -/
def pathOf (root : PathRoot) (location : Location) : String :=
  (Path.toString { root, parts := location.reverse })

/-- The places of a home: the directories on the way to it, and its files. -/
def placesOf (home : Home) : List Location :=
  let parts := home.path.parts
  let above := (List.range (parts.length + 1)).map fun n => (parts.take n).reverse
  let files := ["device.json", "config.json", "device.json.tmp", "config.json.tmp"]
  above.filter (· ≠ []) ++ files.map (· :: parts.reverse)

def observe (home : Home) : IO Disk := do
  let mut disk : Disk := {}
  for place in placesOf home do
    if let some node ← nodeAt (pathOf home.path.root place) then disk := disk.put place node
  return disk

/-- Makes the files what they are after a command. -/
def writeChanges (home : Home) (before after : Disk) : IO Unit := do
  for place in placesOf home do
    let path := pathOf home.path.root place
    if before.node? place ≠ after.node? place then
      match after.node? place with
      | none => IO.FS.removeFile path
      | some .directory => IO.FS.createDirAll path
      | some (.file bytes) => IO.FS.writeBinFile path (ByteArray.mk bytes.toArray)

/-! ## Worlds -/

def environment : IO (List (String × String)) := do
  let mut found := []
  for name in [Home.variableName, Command.variableName] do
    if let some value ← IO.getEnv name then found := (name, value) :: found
  return found

def homeOf (given : Option String) (environment : List (String × String)) : Home :=
  match Home.find given { environment } with
  | .ok home _ => home
  | .error _ _ => ⟨Path.ofString Home.defaultPath⟩

/-- As many random bytes as any command draws. -/
def newWorld (home : Home) : IO World := do
  let now ← Std.Time.Timestamp.now
  let random ← IO.getRandomBytes 64
  return {
    disk := ← observe home
    environment := ← environment
    generator := {
      source := { bytes := random.toList }
      time := now.toNanosecondsSinceUnixEpoch.val } }

/-- Prints what was written to the console since the last time. -/
def printConsole (console : Console) : IO Console := do
  for (stream, text) in console.joined do
    match stream with
    | .out => IO.print text
    | .err => IO.eprint text
  (← IO.getStdout).flush
  return { console with written := [] }

/-! ## Commands -/

def provision (arguments : List String) : IO UInt32 := do
  let settings := (Provision.Settings.commandLine.read {} arguments).toOption
  let home := homeOf (settings.bind (·.outputPath.made?)) (← environment)
  let before ← newWorld home
  match Provision.run arguments none before with
  | .ok (.ok status) world | .ok (.error status) world =>
    let _ ← printConsole world.console
    writeChanges home before.disk world.disk
    return status.toUInt32
  | .error failure world =>
    let _ ← printConsole world.console
    writeChanges home before.disk world.disk
    IO.eprintln failure.message
    return 1

def requestOfJson (value : Json) : Http.Request :=
  let text := fun (name : String) => match value.field? name with
    | some (.string text) => text.toString
    | _ => ""
  let headers := match value.field? "headers" with
    | some (.object fields) => fields.filterMap fun (name, value) => match value with
      | .string text => some (name.toString, text.toString)
      | _ => none
    | _ => []
  { method := text "method", path := text "path", query := text "query", headers
    body := Text.Utf8.encode (text "body").toList }

def responseText (response : Http.Response) : String :=
  let body := match response.content with
    | .json value => value
    | .text text => .string text
  Json.render (.object [("status", .integer response.status), ("body", body)])

/-- Answers requests until a command stops the server or the input ends. -/
partial def serve (running : Running) : IO UInt32 := do
  let line ← (← IO.getStdin).getLine
  match Json.read line.toList with
  | .error _ => return 0
  | .ok value =>
    let home := running.device.home
    let (response, stopping, answered) := Server.answer (requestOfJson value) false running
    writeChanges home running.world.disk answered.world.disk
    IO.println (responseText response)
    let console ← printConsole answered.world.console
    if stopping then return 0
    else serve { answered with world := { answered.world with console } }

def server (arguments : List String) : IO UInt32 := do
  let settings := (Server.Settings.commandLine.read {} arguments).toOption
  let home := homeOf (settings.bind (·.home.made?)) (← environment)
  let before ← newWorld home
  match Server.start arguments [] before with
  | .ok (.refused status) world | .ok (.failed status) world =>
    let _ ← printConsole world.console
    return status.toUInt32
  | .ok (.serving _ device) world =>
    let console ← printConsole world.console
    serve { device, world := { world with console } }
  | .error failure world =>
    let _ ← printConsole world.console
    IO.eprintln failure.message
    return 1

end SmartDevice.Main

def main (arguments : List String) : IO UInt32 :=
  match arguments with
  | "create_device_info" :: rest => SmartDevice.Main.provision rest
  | "mobile_api_server" :: rest => SmartDevice.Main.server rest
  | _ => do
    IO.eprintln "usage: create_device_info ... | mobile_api_server ..."
    return 2
