import SmartDevice.Command
import SmartDevice.Http.Message
import SmartDevice.Http.Query
import SmartDevice.Json.Bytes

/-! The service of a device: which request does what, and how each failure is answered. -/

namespace SmartDevice.Http

/-! ## Endpoints -/

inductive Endpoint where
  | showIdentity
  | showConfiguration
  | storeConfiguration
  | factoryReset
  | restart
  | shutdown
  deriving DecidableEq, Repr

namespace Endpoint

def all : List Endpoint :=
  [showIdentity, showConfiguration, storeConfiguration, factoryReset, restart, shutdown]

def method : Endpoint → String
  | storeConfiguration => "PUT"
  | _ => "GET"

/-- What every path begins with. -/
def basePath : String := "/api/v1"

def path (endpoint : Endpoint) : String :=
  basePath ++ match endpoint with
    | showIdentity => "/device/info"
    | showConfiguration | storeConfiguration => "/device/configuration"
    | factoryReset => "/command/factory_reset"
    | restart => "/command/restart"
    | shutdown => "/command/shutdown"

/-- One line feed may follow the path. -/
def isAt (endpoint : Endpoint) (path : String) : Bool :=
  path == endpoint.path || path == endpoint.path ++ "\n"

def find? (method path : String) : Option Endpoint :=
  all.find? fun endpoint => endpoint.method == method && endpoint.isAt path

/-- Some endpoint has the path, with whatever method. -/
def isKnown (path : String) : Bool := all.any (·.isAt path)

end Endpoint

/-! ## Requests that reach no endpoint -/

/-- The path with its slashes at the end taken off, or with one put on if there is none. -/
def otherPath (path : String) : String :=
  let kept := path.toList.reverse.dropWhile (· = '/')
  if kept.length < path.length then String.ofList kept.reverse else path ++ "/"

def address (path query : String) : String :=
  let text := "http://device.local" ++ path ++ (if query = "" then "" else "?" ++ query)
  String.ofList (Percent.encode Percent.inAddress text.toList)

def unrouted (request : Request) : Response :=
  if Endpoint.isKnown request.path then .detail 405 "Method Not Allowed"
  else
    let other := otherPath request.path
    if Endpoint.isKnown other then .redirect (address other request.query)
    else .detail 404 "Not Found"

/-! ## Bodies of requests -/

inductive Body where
  | absent
  | bytes
  | json (value : Json)

/-- Reads a body that is to be JSON, or answers the request at once. -/
def readBody (request : Request) : Except Response Body :=
  if request.body.isEmpty then .ok .absent
  else if !request.isJson then .ok .bytes
  else match (Json.decode? request.body).map Json.readDecoded with
    | some (.ok value) => .ok (.json value)
    | some (.error (.malformed e)) =>
      .error (.error .badRequest s!"body.{e.position}: JSON decode error")
    | some (.error (.excess _)) | none =>
      .error (.detail 400 "There was an error parsing the body")

/-- The object that a body holds. -/
def Body.object : Body → Except String Json
  | absent => .error "body: Field required"
  | json (.object fields) => .ok (.object fields)
  | bytes | json _ => .error "body: Input should be a valid dictionary"

/-! ## Endpoints at work -/

open Running

/-- The text of the answer while there is no configuration. -/
def notConfigured : String := "This device has not been configured yet."

/-- Lets only requests pass that carry the device's key. -/
def authorize (request : Request) : Running.Action Unit := do
  let presented := (request.header? CredentialError.headerName).map String.toList
  match (← get).device.check presented with
  | .ok _ => pure ()
  | .error e => throw (.credential e)

/-- An answer with a name in its body; only a whole one can be encoded. -/
def naming (name : WideText) (body : Json) : Except Failure Response :=
  if name.IsWhole then .ok (.ok body) else .error .unencodable

def identityAnswer (identity : Identity) : Except Failure Response :=
  naming identity.productName (.object
    [("product_name", .string identity.productName), ("uuid", .string identity.uuid.toText)])

def configurationAnswer : Option Config → Except Failure Response
  | none => .ok (.error .notFound notConfigured)
  | some config => naming config.name config.toJson

def storeAnswer (body : Body) : Running.Action Response := do
  match body.object with
  | .error description => return .error .badRequest description
  | .ok value =>
    match Config.ofJson value with
    | .error e => return .error .badRequest e.message
    | .ok config => return .ok (okBody (← Command.saveConfiguration config))

/-- What an endpoint does once the request has passed. -/
def Endpoint.serve (endpoint : Endpoint) (request : Request) (body : Body) :
    Running.Action Response := do
  match endpoint with
  | showIdentity => MonadExcept.ofExcept (identityAnswer (← get).device.identity)
  | showConfiguration => MonadExcept.ofExcept (configurationAnswer (← Device.getConfig))
  | storeConfiguration => storeAnswer body
  | factoryReset =>
    return .ok (okBody (← Command.factoryReset (Query.last? "confirm" request.query)))
  | restart => return { Response.ok (okBody (← Command.restart)) with stops := true }
  | shutdown => return { Response.ok (okBody (← Command.shutdown)) with stops := true }

/-- Everything but the identity is for those who have the key. -/
def Endpoint.handle (endpoint : Endpoint) (request : Request) (body : Body) :
    Running.Action Response := do
  if endpoint ≠ showIdentity then authorize request
  endpoint.serve request body

/-- The status of the answer to a bad credential. -/
def credentialStatus : CredentialError → Status
  | .missing | .malformed _ => .badRequest
  | .wrongKey => .unauthorized

/-- The answer to a failure, and what the console says about it. -/
def report (endpoint : Endpoint) (failure : Failure) : Response × (Console → Console) :=
  match failure with
  | .credential e =>
    (.error (credentialStatus e) e.message,
      Console.warning s!"Rejected {endpoint.method} {endpoint.path}: {e.message}")
  | .operation (.busy reason) => (.error .unavailable reason, id)
  | .unconfirmed => (.error .badRequest failure.message, id)
  | .storage e =>
    (.error .internalError e.message, Console.error s!"Persistence failed: {e.message}")
  | .command e => (.error .internalError e.message, Console.error s!"Command failed: {e.message}")
  | _ => (.crash failure, id)

/-- Answers a request that has reached an endpoint. Only a body that is stored is read, and it is
read before anything else. -/
def answer (endpoint : Endpoint) (request : Request) (running : Running) : Response × Running :=
  let body := if endpoint = .storeConfiguration then readBody request else .ok .absent
  match body with
  | .error response => (response, running)
  | .ok body =>
    match endpoint.handle request body running with
    | .ok response running => (response, running)
    | .error failure running =>
      let (response, remark) := report endpoint failure
      let world := { running.world with console := remark running.world.console }
      (response, { running with world })

def respond (request : Request) (running : Running) : Response × Running :=
  match Endpoint.find? request.method request.path with
  | some endpoint => answer endpoint request running
  | none => (unrouted request, running)

end SmartDevice.Http
