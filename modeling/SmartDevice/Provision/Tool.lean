import SmartDevice.CommandLine
import SmartDevice.Provision.Basic

/-! The command that provisions a device. -/

namespace SmartDevice.Provision

open World

structure Settings where
  order : Order := { productName := "" }
  outputPath : Choice String := .unmade

namespace Settings

def usage : List String :=
  ["usage: create_device_info [-h] [-o PATH] [-f] [-p FILE] [--show-key]",
    "                          product_name"]

def description : List String :=
  ["Creates 'device.json' for the server",
    "",
    "positional arguments:",
    "  product_name          Product name for the SIFIS-Home Smart Device",
    "",
    "options:",
    "  -h, --help            show this help message and exit",
    "  -o PATH, --output-path PATH",
    "                        Sets a custom output path",
    "  -f, --force           Force writing of a new device.json file",
    "  -p FILE, --private-key FILE",
    "                        Set a custom path for the private key",
    "  --show-key            Print the full authorization key",
    "",
    "Device Information Provisioning Tool",
    "",
    "Creates a new device.json for the server. The file is written to the",
    "/opt/sifis-home/ path by default, but the location can be changed with the",
    "SIFIS_HOME_PATH environment variable or with the -o option.",
    "",
    "Usage:",
    "  create_device_info \"Smart Lamp\"                      # Write device.json",
    "  create_device_info \"Smart Lamp\" -o /tmp/sifis-home   # Custom output path",
    "  create_device_info \"Smart Lamp\" -f                   # Overwrite existing file",
    "  create_device_info \"Smart Lamp\" -p /etc/dht/key.pem  # Custom private key path",
    "  create_device_info \"Smart Lamp\" --show-key           # Print authorization key",
    "",
    "WARNING: Creating new device information generates a new authorization key.",
    "Every credential already handed out for the device stops working."]

def options : List (CommandOption Settings) :=
  [{ names := ["-h", "--help"], effect := .help },
    { names := ["-o", "--output-path"]
      effect := .value fun path settings =>
        .ok { settings with outputPath := .ofValue path } },
    { names := ["-f", "--force"]
      effect := .flag fun settings =>
        { settings with order := { settings.order with force := true } } },
    { names := ["-p", "--private-key"]
      effect := .value fun path settings =>
        .ok { settings with order := { settings.order with privateKeyFile := .ofValue path } } },
    { names := ["--show-key"]
      effect := .flag fun settings =>
        { settings with order := { settings.order with showKey := true } } }]

def productName : Operand Settings where
  name := "product_name"
  set := fun text settings =>
    { settings with order := { settings.order with productName := text } }

def commandLine : CommandLine Settings :=
  { program := "create_device_info", usage, description, options, operands := [productName] }

end Settings

/-- Runs the command with its arguments and the variables of a file of defaults, if there is one. A
command line that is not understood is answered on the console. -/
def run (arguments : List String) (defaults : Option (List (String × String))) :
    Action (Except Nat Nat) := do
  match Settings.commandLine.read {} arguments with
  | .error (.help text) =>
    say (Console.write .out text)
    return .error 0
  | .error (.error text) =>
    say (Console.write .err text)
    return .error 2
  | .ok settings =>
    if let some values := defaults then
      setDefaults values
      say (Console.info "Loaded environment variables from .env file")
    let home ← Home.choose settings.outputPath
    return .ok (← create home settings.order)

end SmartDevice.Provision
