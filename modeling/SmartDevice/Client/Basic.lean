import SmartDevice.Client.Transport
import SmartDevice.Command
import SmartDevice.Http.Status
import SmartDevice.Json.Display

/-! A client of the service. What only reads is sent again after any failed exchange; what changes
the device is sent again only while the device has not been reached. -/

namespace SmartDevice

structure Client where
  baseUrl : String
  key : Key
  timeout : Option Int := some 10
  /-- How often a request is sent at most. -/
  attempts : Int := 3

namespace Client

/-- A client for the service at an address, which may end in slashes. -/
def «at» (address : String) (key : Key) (timeout : Option Int) (attempts : Int) : Client where
  baseUrl := String.ofList (address.toList.reverse.dropWhile (· = '/')).reverse
  key := key
  timeout := timeout
  attempts := attempts

/-- The headers of every request. -/
def headers (client : Client) : List (String × String) :=
  [(CredentialError.headerName, client.key.hex)]

/-! ## Calls -/

inductive Call where
  | deviceInfo
  | configuration
  | setConfiguration (config : Config)
  | factoryReset (confirm : Option String)
  | restart
  | shutdown

namespace Call

/-- What messages call it. -/
def label : Call → String
  | deviceInfo => "Get device info"
  | configuration => "Get configuration"
  | setConfiguration _ => "Set configuration"
  | factoryReset _ => "Factory reset"
  | restart => "Restart"
  | shutdown => "Shutdown"

def method : Call → String
  | setConfiguration _ => "PUT"
  | _ => "GET"

def path : Call → String
  | deviceInfo => "/api/v1/device/info"
  | configuration | setConfiguration _ => "/api/v1/device/configuration"
  | factoryReset _ => "/api/v1/command/factory_reset"
  | restart => "/api/v1/command/restart"
  | shutdown => "/api/v1/command/shutdown"

def parameters : Call → Option Json
  | factoryReset confirm => some (.object [("confirm", confirm.elim .null fun text => .string text)])
  | _ => none

def body : Call → Option Json
  | setConfiguration config => some config.toJson
  | _ => none

/-- Reading twice does no harm. -/
def isReading : Call → Bool
  | deviceInfo | configuration => true
  | _ => false

/-- Whether the request is sent again after a fault. -/
def repeatsAfter (call : Call) : TransportFault → Bool
  | .unreachable .. => true
  | .broken .. => call.isReading
  | .foreign .. | .noReply => false

end Call

def request (client : Client) (call : Call) : Sent where
  method := call.method
  url := client.baseUrl ++ call.path
  parameters := call.parameters
  body := call.body
  timeout := client.timeout

/-! ## Failures -/

inductive Error where
  | transport (fault : TransportFault)
  /-- The device did not take the text of the key for a key. -/
  | badKey (description : String)
  | wrongKey (description : Json)
  | busy (reason : Json)
  | unconfirmed (description : Json)
  | status (code : Int) (description : Json)
  | malformed (e : Json.SyntaxError)
  | excess (e : Json.Excess)
  | missing (field : String)
  | noFields
  | record (e : RecordError)

def Error.message : Error → WideText
  | transport fault => fault.message
  | badKey description => description
  | wrongKey description | busy description | unconfirmed description => description.display
  | status code description => ↑s!"{code}: " ++ description.display
  | malformed e => e.message
  | excess e => e.message
  | missing field => s!"'{field}'"
  | noFields => ""
  | record e => e.message

/-! ## Sending -/

/-- A conversation: the transport, what was told on the console, and the pauses in seconds. -/
structure Session (σ : Type) where
  transport : σ
  console : Console := {}
  pauses : List Nat := []

abbrev Action (σ : Type) := EStateM Error (Session σ)

/-- One attempt. -/
def trySend (transport : Transport σ) (sent : Sent) :
    Session σ → Except TransportFault Reply × Session σ := fun session =>
  match transport sent session.transport with
  | .ok reply state => (.ok reply, { session with transport := state })
  | .error fault state => (.error fault, { session with transport := state })

def gaveUp (call : Call) (attempt : Nat) (fault : TransportFault) : String :=
  s!"{call.label} gave up after {attempt} attempts: {fault.message}"

def retrying (client : Client) (call : Call) (attempt : Nat) (fault : TransportFault) : String :=
  s!"{call.label}: {fault.message}, retrying ({attempt}/{client.attempts})"

/-- Sends a request for the given time, with as many further attempts as are left. The pauses get
longer. -/
def sendFrom (client : Client) (transport : Transport σ) (call : Call) (attempt : Nat) :
    Nat → Action σ Reply
  | left, session =>
    match trySend transport (client.request call) session with
    | (.ok reply, session) => .ok reply session
    | (.error fault, session) =>
      if !call.repeatsAfter fault then .error (.transport fault) session
      else match left with
        | 0 =>
          .error (.transport fault)
            { session with console := session.console.error (gaveUp call attempt fault) }
        | left + 1 =>
          sendFrom client transport call (attempt + 1) left
            { session with
              console := session.console.warning (client.retrying call attempt fault)
              pauses := session.pauses ++ [attempt] }

def send (client : Client) (transport : Transport σ) (call : Call) : Action σ Reply :=
  client.sendFrom transport call 1 (client.attempts - 1).toNat

/-! ## Reading answers -/

/-- The JSON of an answer. -/
def readJson (reply : Reply) : Except Error Json :=
  match Json.read (Text.Utf8.decodeLossy reply.body) with
  | .ok value => .ok value
  | .error (.malformed e) => .error (.malformed e)
  | .error (.excess e) => .error (.excess e)

/-- What an answer says went wrong; one that says nothing in the usual place is taken as it is. Only
an answer that is nested too deep is not described. -/
def description (reply : Reply) : Except Error Json :=
  let text := Json.string (String.ofList (Text.Utf8.decodeLossy reply.body))
  match readJson reply with
  | .ok body => .ok (((body.field? "error").bind (·.field? "description")).getD text)
  | .error (.excess (.nesting container)) => .error (.excess (.nesting container))
  | .error _ => .ok text

/-- The descriptions that tell of a text that is no key. -/
def badKeyTexts : List String :=
  [CredentialError.message .missing, CredentialError.message (.malformed .wrongLength)]

/-- The failure that an answer with another status than 200 tells of. -/
def refusal (status : Int) (description : Json) : Error :=
  match status, description with
  | 400, .string text =>
    if badKeyTexts.contains text.toString then .badKey text.toString else .status 400 description
  | 401, _ => .wrongKey description
  | 503, _ => .busy description
  | _, _ => .status status description

/-- The body of an answer that tells of success. -/
def check (reply : Reply) : Except Error Json :=
  if reply.status = 200 then readJson reply
  else do throw (refusal reply.status (← description reply))

/-- The message in a body. -/
def messageOf : Json → Except Error Json
  | .object fields => (fields.lookup ↑"message").elim (.error (.missing "message")) .ok
  | _ => .error .noFields

/-- What a call comes to. -/
inductive Answer where
  | body (value : Json)
  | configuration (config : Option Config)
  | message (text : Json)

/-- A refused reset whose status is 400 lacks its confirmation. -/
def asUnconfirmed : Error → Error
  | .status 400 description => .unconfirmed description
  | e => e

def interpret (call : Call) (reply : Reply) : Except Error Answer :=
  match call with
  | .deviceInfo => .body <$> check reply
  | .configuration =>
    if reply.status = 404 then .ok (.configuration none)
    else do
      let body ← check reply
      match Config.ofJson body with
      | .ok config => .ok (.configuration (some config))
      | .error e => .error (.record e)
  | .factoryReset _ => .message <$> ((check reply >>= messageOf).mapError asUnconfirmed)
  | .setConfiguration _ | .restart | .shutdown => .message <$> (check reply >>= messageOf)

/-- Sends a call and reads the answer. -/
def perform (client : Client) (transport : Transport σ) (call : Call) : Action σ Answer := do
  match interpret call (← client.send transport call) with
  | .ok answer => return answer
  | .error e => throw e

end Client

end SmartDevice
