import SmartDevice.Home

/-! Giving a device its identity. An identity that is there stays, unless a new one is forced. -/

namespace SmartDevice.Provision

open World

/-- The product name and the path of an order are whole texts: what a caller would make of halves of
pairs that stand alone is left out. -/
structure Order where
  productName : String
  force : Bool := false
  privateKeyFile : Choice String := .unmade
  showKey : Bool := false

/-- The file that an order names for the private key, or else the one in the home. -/
def Order.keyFile (order : Order) (home : Home) : Path :=
  match order.privateKeyFile with
  | .made file => Path.ofString file
  | _ => home.privateKeyFile

/-- What is told about an identity that has been written. Of the key only its start is shown, unless
all of it is asked for. -/
def announce (home : Home) (order : Order) (identity : Identity) : Action Unit := do
  say (Console.success
    s!"A new device information file was written to: {home.identityFile.toString}")
  say (Console.substep s!"Product name: {order.productName}")
  say (Console.substep s!"UUID: {identity.uuid.toText}")
  say (Console.substep s!"Private key file: {(order.keyFile home).toString}")
  let key := identity.authorizationKey.hex .upper
  if order.showKey then
    say (Console.heading "Authorization Key (Deliver with the Device)")
    say (Console.substep (Console.rule 70))
    say (Console.substep (Console.coloured .success key))
    say (Console.substep (Console.rule 70))
  else say (Console.substep s!"Authorization key: {Key.hint key}")

/-- The identity that an order asks for. -/
def newIdentity (home : Home) (order : Order) : Action Identity := do
  let identity ← home.newIdentity order.productName
  match order.privateKeyFile with
  | .unmade => return identity
  | .blank => throw .blankPath
  | .made file => return { identity with privateKeyFile := Path.ofString file }

/-- Makes a new identity and writes it. -/
def write (home : Home) (order : Order) : Action Nat := do
  let identity ← newIdentity home order
  try home.saveIdentity identity
  catch
    | .storage e =>
      say (Console.error s!"Could not write device information: {e.message}")
      return 1
    | e => throw e
  announce home order identity
  return 0

/-- Carries out an order, and answers with the status to exit with. -/
def create (home : Home) (order : Order) : Action Nat := do
  let file := home.identityFile
  say (Console.header "Create Device Information")
  if (← onDisk (Disk.isThere file)) && !order.force then
    say (Console.info s!"The device information file already exists at: {file.toString}")
    say (Console.info "You can use the -f option to overwrite it with a new one.")
    return 0
  if ← onDisk (Disk.isThere file) then
    say (Console.warning "Overwriting existing device information")
    say (Console.warning
      "The old authorization key will no longer be accepted by the device")
  try home.makeDirectory
  catch
    | .file (.system e) =>
      say (Console.error s!"Could not create output path: {e.message}")
      return 1
    | e => throw e
  write home order

end SmartDevice.Provision
