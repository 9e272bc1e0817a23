import SmartDevice.Client.Basic
import SmartDevice.Proofs.Http.Answers
import SmartDevice.Proofs.Http.Query

/-! # A wire between a client and the service

Whatever lies between the two turns what a client sends into a request and the response into a
reply. It is faithful if neither loses what it holds. -/

namespace SmartDevice

open Http Apply

namespace Client

/-- A parameter of what is sent. -/
def Sent.parameter? (sent : Sent) (name : String) : Option Json :=
  sent.parameters.bind (·.field? name)

end Client

structure Wire where
  /-- The request that arrives if this is sent under these headers. -/
  request (headers : List (String × String)) (sent : Client.Sent) : Request
  reply (response : Response) : Client.Reply

namespace Wire

variable {wire : Wire} {client : Client} {call : Client.Call}

/-- The request of a call as it arrives. -/
def arriving (wire : Wire) (client : Client) (call : Client.Call) : Request :=
  wire.request client.headers (client.request call)

/-- The wire delivers each request once. -/
def transport (wire : Wire) (client : Client) : Client.Transport Running := fun sent running =>
  let (response, after) := respond (wire.request client.headers sent) running
  .ok (wire.reply response) after

/-! ## Faithful wires -/

/-- A call arrives as it was sent; the request may have more headers than the client gave it. -/
structure Delivers (wire : Wire) (client : Client) (call : Client.Call) : Prop where
  method : (wire.arriving client call).method = (client.request call).method
  url : (client.request call).url = client.baseUrl ++ (wire.arriving client call).path
  header : ∀ name value, Credential.header? name client.headers = some value →
    (wire.arriving client call).header? name = some value
  /-- A parameter that is null does not arrive. -/
  query : ∀ name text,
    (client.request call).parameter? name = some (text.elim .null fun text => .string text) →
      Query.last? name (wire.arriving client call).query = text
  body : ∀ value, (client.request call).body = some value →
    readBody (wire.arriving client call) = .ok (.json value)

/-- A response comes back as it was given. -/
structure Returns (wire : Wire) (response : Response) : Prop where
  status : (wire.reply response).status = response.status
  json : ∀ value, response.content = .json value → Client.readJson (wire.reply response) = .ok value

/-! ## One exchange -/

/-- A wire never fails, so the first attempt is the last one. -/
theorem perform_of_respond {session : Client.Session Running} {response : Response}
    {after : Running} (h : respond (wire.arriving client call) session.transport =
      (response, after)) :
    client.perform (wire.transport client) call session =
      match Client.interpret call (wire.reply response) with
      | .ok answer => .ok answer { session with transport := after }
      | .error e => .error e { session with transport := after } := by
  have hsend : client.send (wire.transport client) call session =
      .ok (wire.reply response) { session with transport := after } := by
    have htransport : wire.transport client (client.request call) session.transport =
        .ok (wire.reply response) after := by
      have harriving : respond (wire.request client.headers (client.request call))
          session.transport = (response, after) := h
      rw [transport, harriving]
    unfold Client.send
    cases (client.attempts - 1).toNat <;>
      simp only [Client.sendFrom, Client.trySend, htransport]
  simp only [Client.perform, bind_apply, hsend]
  cases Client.interpret call _ <;> rfl

end Wire

/-! ## A wire that loses nothing -/

namespace Client

/-- The parameters that have a value. A client gives whole texts only. -/
def Sent.pairs (sent : Sent) : List (String × String) :=
  match sent.parameters with
  | some (.object fields) => fields.filterMap fun (name, value) =>
    match value with
    | .string text => some (name.toString, text.toString)
    | _ => none
  | _ => []

end Client

namespace Wire

def jsonBytes (value : Json) : List UInt8 := Text.Utf8.encode (value.print .oneLine)

theorem readBody_jsonBytes {request : Request} {value : Json} (h : value.Lossless)
    (htype : request.isJson = true) (hbody : request.body = jsonBytes value) :
    readBody request = .ok (.json value) := by
  have hread : Json.readDecoded (value.print .oneLine) = .ok value := by
    rw [Json.readDecoded, Json.readDocument_print h]
    rfl
  have hsome : (jsonBytes value).isEmpty = false := by
    obtain ⟨c, text, hprint, -⟩ := h.readBack.head .oneLine
    rw [List.isEmpty_eq_false_iff]
    intro hempty
    have hdecoded := Text.Utf8.decodeLossy_encode (value.print .oneLine)
    rw [show Text.Utf8.encode (value.print .oneLine) = [] from hempty, hprint] at hdecoded
    cases hdecoded
  rw [readBody, hbody, hsome, htype, jsonBytes, Json.decode?_print h, Option.map_some, hread]
  rfl

/-- The wire to the service at an address, which writes parameters with percent signs and bodies as
JSON on one line. -/
def plain (address : String) : Wire where
  request headers sent := {
    method := sent.method
    path := String.ofList (sent.url.toList.drop address.toList.length)
    query := Query.ofPairs sent.pairs
    headers := headers ++ [("Content-Type", "application/json")]
    body := sent.body.elim [] jsonBytes }
  reply response := {
    status := response.status
    body := match response.content with
      | .json value => jsonBytes value
      | .text text => Text.Utf8.encode text.toList }

/-- All that a client sends comes through. -/
theorem plain_delivers (client : Client) (call : Client.Call) :
    (plain client.baseUrl).Delivers client call where
  method := rfl
  url := by
    simp only [arriving, plain, Client.request]
    rw [← String.toList_inj]
    simp only [String.toList_append, List.drop_left, String.toList_ofList]
  header name value hvalue := by
    simp only [arriving, plain, Request.header?, Credential.header?, List.find?_append] at hvalue ⊢
    obtain ⟨header, hfound, rfl⟩ := Option.map_eq_some_iff.mp hvalue
    rw [hfound]
    rfl
  query name text htext := by
    cases call with
    | factoryReset confirm =>
        let value (text : Option String) : Json := text.elim .null fun text => .string text
        have hlookup : [((↑"confirm" : WideText), value confirm)].lookup ↑name =
            some (value text) := htext
        by_cases hname : name = "confirm"
        · subst hname
          have hconfirm : value confirm = value text := by simpa using hlookup
          have hsame : confirm = text := by
            cases confirm <;> cases text <;> simp_all [value]
          subst hsame
          rw [arriving, plain, Query.last?_ofPairs]
          cases confirm <;> simp [Client.Sent.pairs, Client.request, Client.Call.parameters]
        · have hother : ((name : WideText) == ↑"confirm") = false := by simpa using hname
          simp only [List.lookup_cons, hother, List.lookup_nil, reduceCtorEq] at hlookup
    | _ => cases htext
  body value hvalue := by
    cases call with
    | setConfiguration config =>
        obtain rfl : config.toJson = value := Option.some.inj hvalue
        exact readBody_jsonBytes config.lossless_toJson rfl rfl
    | _ => cases hvalue

theorem plain_returns {response : Response} (address : String) (h : response.Lossless) :
    (plain address).Returns response where
  status := rfl
  json value hvalue := by
    have hbody : ((plain address).reply response).body = jsonBytes value := by
      simp only [plain, hvalue]
    simp only [Client.readJson, hbody, jsonBytes, Text.Utf8.decodeLossy_encode,
      Json.read_print (h value hvalue)]

end Wire

end SmartDevice
