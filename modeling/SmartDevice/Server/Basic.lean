import SmartDevice.CommandLine
import SmartDevice.Http.Service
import SmartDevice.Text.Integer

/-! The command that serves a device over HTTP until a command to the device stops it. -/

namespace SmartDevice.Server

open World

/-- Where two dashes stand for the host or the port, there is none. -/
structure Settings where
  host : Option String := some "0.0.0.0"
  port : Option Int := some 8000
  home : Choice String := .unmade
  verbose : Bool := false

namespace Settings

def usage : List String :=
  ["usage: mobile_api_server [-h] [--host HOST] [--port PORT] [--home PATH]",
    "                         [--verbose]"]

def description : List String :=
  ["SIFIS-Home Mobile API Server",
    "",
    "options:",
    "  -h, --help     show this help message and exit",
    "  --host HOST    Bind address (default: 0.0.0.0)",
    "  --port PORT    Bind port (default: 8000)",
    "  --home PATH    SIFIS-Home path (default: $SIFIS_HOME_PATH or /opt/sifis-",
    "                 home/)",
    "  --verbose, -v  Show debug output",
    "",
    "SIFIS-Home Mobile API Server",
    "",
    "HTTP API for the mobile application. Every endpoint except /device/info",
    "requires the device authorization key in the x-api-key header.",
    "",
    "Usage:",
    "  mobile_api_server                         # Serve on 0.0.0.0:8000",
    "  mobile_api_server --port 8080 --verbose",
    "  SIFIS_HOME_PATH=/tmp/home mobile_api_server",
    "",
    "Endpoints (under /api/v1):",
    "  GET /device/info",
    "  GET /device/configuration",
    "  PUT /device/configuration",
    "  GET /command/factory_reset?confirm=...",
    "  GET /command/restart",
    "  GET /command/shutdown"]

def readPort (text : String) : Except String Int :=
  match Text.Integer.read? 10 text.toList with
  | some port => .ok port
  | none => .error ("invalid int value: " ++ String.ofList (Text.quoted text.toList))

def options : List (CommandOption Settings) :=
  [{ names := ["-h", "--help"], effect := .help },
    { names := ["--host"]
      effect := .value fun host settings => .ok { settings with host } },
    { names := ["--port"]
      effect := .value fun text settings => do
        return { settings with port := ← text.mapM readPort } },
    { names := ["--home"]
      effect := .value fun path settings => .ok { settings with home := .ofValue path } },
    { names := ["--verbose", "-v"]
      effect := .flag fun settings => { settings with verbose := true } }]

def commandLine : CommandLine Settings :=
  { program := "mobile_api_server", usage, description, options }

end Settings

/-- How the command ends: refused with a status to exit with, given up before serving, or with a
device that is served. -/
inductive Start where
  | refused (status : Nat)
  | failed (status : Nat)
  | serving (settings : Settings) (device : Device)

/-- Reads the command line and loads the device. -/
def start (arguments : List String) (defaults : List (String × String)) : Action Start := do
  setDefaults defaults
  match Settings.commandLine.read {} arguments with
  | .error (.help text) =>
    say (Console.write .out text)
    return .refused 0
  | .error (.error text) =>
    say (Console.write .err text)
    return .refused 2
  | .ok settings =>
    modify fun world =>
      { world with console := { world.console with verbose := settings.verbose } }
    say (Console.header "SIFIS-Home Mobile API Server")
    try
      let device ← Device.load (← Home.choose settings.home)
      return .serving settings device
    catch
      | .identity e =>
        say (Console.error e.message)
        return .failed 1
      | e => throw e

/-- Answers one request; the second part of the answer tells whether the server is to stop. -/
def answer (request : Http.Request) (stopping : Bool) (running : Running) :
    Http.Response × Bool × Running :=
  let (response, running) := Http.respond request running
  if response.stops then
    let world := { running.world with console := running.world.console.info "Stopping server" }
    (response, true, { running with world })
  else (response, stopping, running)

/-- Answers requests in turn. -/
def serve (stopping : Bool) : List Http.Request → Running →
    List (Http.Response × Bool) × Running
  | [], running => ([], running)
  | request :: requests, running =>
    let (response, stopping, running) := answer request stopping running
    let (responses, running) := serve stopping requests running
    ((response, stopping) :: responses, running)

end SmartDevice.Server
