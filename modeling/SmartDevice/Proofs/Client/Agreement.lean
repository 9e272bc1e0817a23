import SmartDevice.Proofs.Client.Wire
import SmartDevice.Proofs.Command.Effect
import SmartDevice.Proofs.Http.Commands
import SmartDevice.Proofs.RecordFile.Reading

/-! # Client and service agree

Over a faithful wire a call comes to what it comes to at the device itself. The service turns what
happens into a status and a description, the client turns these into an answer or a failure, and
the two undo each other. -/

namespace SmartDevice.Client

open Http Apply Command

variable {wire : Wire} {client : Client} {call : Call} {reply : Reply} {running after : Running}

/-! ## Calls at the device -/

/-- The command that a call is for. -/
def Call.invocation? : Call → Option Invocation
  | setConfiguration config => some (.saveConfiguration config)
  | factoryReset confirm => some (.factoryReset confirm)
  | restart => some .restart
  | shutdown => some .shutdown
  | deviceInfo | configuration => none

/-- What the device tells everyone. -/
def identityBody (identity : Identity) : Json :=
  .object [("product_name", .string identity.productName), ("uuid", .string identity.uuid.toText)]

/-- What a call comes to where the device is at hand. -/
def Call.onDevice : Call → Running.Action Answer
  | deviceInfo => return .body (identityBody (← get).device.identity)
  | configuration => return .configuration (← Device.getConfig)
  | setConfiguration config => return .message (.string (← Command.saveConfiguration config))
  | factoryReset confirm => return .message (.string (← Command.factoryReset confirm))
  | restart => return .message (.string (← Command.restart))
  | shutdown => return .message (.string (← Command.shutdown))

/-- How a failure of the device shows at the client, where the service has an answer for it. -/
def Error.ofFailure? : Failure → Option Error
  | .operation (.busy reason) => some (.busy (.string reason))
  | .unconfirmed => some (.unconfirmed (.string Failure.unconfirmed.message))
  | .storage e => some (.status 500 (.string e.message))
  | .command e => some (.status 500 (.string e.message))
  | _ => none

theorem Call.onDevice_of_invocation {invocation : Invocation}
    (h : call.invocation? = some invocation) :
    call.onDevice = do return .message (.string (← invocation.perform)) := by
  cases call with
  | deviceInfo => cases h
  | configuration => cases h
  | setConfiguration config =>
      cases h
      rfl
  | factoryReset confirm =>
      cases h
      rfl
  | restart =>
      cases h
      rfl
  | shutdown =>
      cases h
      rfl

/-! ## What arrives at the service -/

def Call.endpoint : Call → Endpoint
  | deviceInfo => .showIdentity
  | configuration => .showConfiguration
  | setConfiguration _ => .storeConfiguration
  | factoryReset _ => .factoryReset
  | restart => .restart
  | shutdown => .shutdown

theorem Call.find?_endpoint (call : Call) :
    Endpoint.find? call.method call.path = some call.endpoint := by
  cases call <;> rfl

section Delivered

variable (h : wire.Delivers client call)

include h

theorem find?_arriving :
    Endpoint.find? (wire.arriving client call).method (wire.arriving client call).path =
      some call.endpoint := by
  have hpath : call.path = (wire.arriving client call).path :=
    (String.append_right_inj client.baseUrl).mp h.url
  rw [h.method, ← hpath]
  exact call.find?_endpoint

theorem credential_arriving :
    (wire.arriving client call).credential = some client.key.hex.toList := by
  have hheader : Credential.header? CredentialError.headerName client.headers =
      some client.key.hex := by
    simp only [headers, Credential.header?, List.find?_cons, beq_self_eq_true, Option.map_some]
  rw [Request.credential, h.header _ _ hheader, Option.map_some]

/-- The service decides on the key of the client itself, whichever spelling it was made from. -/
theorem check_arriving (running : Running) :
    running.device.check (wire.arriving client call).credential =
      if running.device.identity.authorizationKey = client.key then .ok client.key
      else .error .wrongKey := by
  have hspelled : client.key.Spelled client.key.hex.toList :=
    .inl ((Key.ofHex_eq_ok_iff _ _).mp (client.key.ofHex_hex .lower))
  rw [credential_arriving h, Device.check, Credential.check_some_of_spelled hspelled]

theorem carries_arriving (hkey : client.key = running.device.identity.authorizationKey) :
    (wire.arriving client call).carries running.device.identity.authorizationKey = true := by
  have hcheck := check_arriving h running
  rw [if_pos hkey.symm, Device.check] at hcheck
  rw [Request.carries, Credential.isAccepted, hcheck]
  rfl

theorem configuration_arriving {config : Config} (hcall : call = .setConfiguration config) :
    (wire.arriving client call).configuration = .ok config := by
  have hbody : readBody (wire.arriving client call) = .ok (.json config.toJson) :=
    h.body _ (by rw [hcall]; rfl)
  unfold Request.configuration
  simp only [hbody, show Body.object (.json config.toJson) = .ok config.toJson from rfl,
    Config.ofJson_toJson]

theorem invocation?_arriving :
    (wire.arriving client call).invocation? = call.invocation? := by
  unfold Request.invocation?
  rw [find?_arriving h]
  cases hcall : call with
  | setConfiguration config =>
      subst hcall
      rw [configuration_arriving h rfl]
      rfl
  | factoryReset confirm =>
      subst hcall
      have hconfirm := h.query "confirm" confirm rfl
      simp only [Call.endpoint, Call.invocation?, hconfirm]
  | _ => rfl

end Delivered

/-! ## What the service does -/

section Answers

variable (h : wire.Delivers client call)

include h

theorem respond_arriving_info (hcall : call = .deviceInfo)
    (hname : running.device.identity.productName.IsWhole) :
    respond (wire.arriving client call) running =
      (.ok (identityBody running.device.identity), running) := by
  have hfind := find?_arriving h
  subst hcall
  unfold respond
  simp only [hfind, Call.endpoint, answer_showIdentity, identityAnswer, naming, if_pos hname]
  rfl

theorem respond_arriving_stranger (hcall : call ≠ .deviceInfo)
    (hkey : client.key ≠ running.device.identity.authorizationKey) :
    respond (wire.arriving client call) running =
      (.error .unauthorized CredentialError.wrongKey.message,
        reported call.endpoint (.credential .wrongKey) running) := by
  have hcheck := check_arriving h running
  rw [if_neg hkey.symm] at hcheck
  have hprotected : call.endpoint ≠ .showIdentity := by
    cases call with
    | deviceInfo => exact absurd rfl hcall
    | _ => exact nofun
  obtain ⟨body, hbody⟩ : ∃ body, (if call.endpoint = .storeConfiguration then
      readBody (wire.arriving client call) else .ok .absent) = .ok body := by
    cases call with
    | setConfiguration config => exact ⟨_, h.body _ rfl⟩
    | _ => exact ⟨_, rfl⟩
  unfold respond
  simp only [find?_arriving h]
  unfold Http.answer
  simp only [hbody, handle_of_refused hprotected hcheck]
  rfl

end Answers

/-! ## What comes back to the client -/

/-- What a call makes of a failure that an answer tells of. -/
def Call.explains : Call → Error → Error
  | factoryReset _, e => asUnconfirmed e
  | _, e => e

theorem description_of_errorBody {status : Status} {text : String}
    (hjson : readJson reply = .ok (errorBody status text)) :
    description reply = .ok (.string text) := by
  unfold description
  rw [hjson]
  rfl

/-- A failure to check an answer is what the call comes to, but for an answer that tells a device
without a configuration. -/
theorem interpret_of_unchecked {e : Error} (hknown : call = .configuration → reply.status ≠ 404)
    (hcheck : check reply = .error e) : interpret call reply = .error (call.explains e) := by
  cases call with
  | configuration =>
      simp only [interpret, if_neg (hknown rfl), hcheck]
      rfl
  | _ =>
      simp only [interpret, hcheck]
      rfl

/-- An answer that tells of no success comes to a failure of its status and description. -/
theorem interpret_of_refused {said : Json} (hfailed : reply.status ≠ 200)
    (hknown : call = .configuration → reply.status ≠ 404) (hsaid : description reply = .ok said) :
    interpret call reply = .error (call.explains (refusal reply.status said)) := by
  refine interpret_of_unchecked hknown ?_
  rw [check, if_neg hfailed, hsaid]
  rfl

/-- The client finds the status and the description that the service has put into an answer. -/
theorem interpret_error {status : Status} {text : String}
    (hfailed : status.code ≠ 200) (hknown : status.code ≠ 404)
    (h : wire.Returns (.error status text)) :
    interpret call (wire.reply (.error status text)) =
      .error (call.explains (refusal status.code (.string text))) := by
  generalize hreply : wire.reply (.error status text) = reply
  have hstatus : reply.status = status.code := hreply ▸ h.status
  have hjson : readJson reply = .ok (errorBody status text) := hreply ▸ h.json _ rfl
  rw [interpret_of_refused (by omega) (fun _ => by omega) (description_of_errorBody hjson), hstatus]

/-- A failure that the service has an answer for is the one that the client reads off it. -/
theorem interpret_report {e : Failure} {error : Error} (he : Error.ofFailure? e = some error)
    (hconfirm : e = .unconfirmed → ∃ confirm, call = .factoryReset confirm) {endpoint : Endpoint}
    (h : wire.Returns (report endpoint e).1) :
    interpret call (wire.reply (report endpoint e).1) = .error error := by
  cases e with
  | storage cause =>
      cases he
      rw [report, interpret_error (by decide) (by decide) h]
      cases call <;> rfl
  | command cause =>
      cases he
      rw [report, interpret_error (by decide) (by decide) h]
      cases call <;> rfl
  | operation cause =>
      cases cause with
      | busy reason =>
          cases he
          rw [report, interpret_error (by decide) (by decide) h]
          cases call <;> rfl
      | _ => cases he
  | unconfirmed =>
      cases he
      obtain ⟨confirm, rfl⟩ := hconfirm rfl
      rw [report, interpret_error (by decide) (by decide) h]
      rfl
  | _ => cases he

theorem check_of_returns {response : Response} {value : Json} (h : wire.Returns response)
    (hstatus : response.status = 200) (hcontent : response.content = .json value) :
    check (wire.reply response) = .ok value := by
  have hreply : (wire.reply response).status = 200 := by
    rw [h.status, hstatus]
    rfl
  rw [check, if_pos hreply, h.json value hcontent]

theorem interpret_done {invocation : Invocation} {message : String}
    (hcall : call.invocation? = some invocation)
    (h : wire.Returns (doneAnswer invocation message)) :
    interpret call (wire.reply (doneAnswer invocation message)) =
      .ok (.message (.string message)) := by
  have hcheck := check_of_returns h rfl rfl
  cases call with
  | deviceInfo => cases hcall
  | configuration => cases hcall
  | _ =>
      simp only [interpret, hcheck]
      rfl

theorem interpret_configuration {config : Option Config}
    (hname : ∀ named, config = some named → named.name.IsWhole)
    (h : wire.Returns (shown (configurationAnswer config))) :
    interpret .configuration (wire.reply (shown (configurationAnswer config))) =
      .ok (.configuration config) := by
  cases config with
  | none =>
      have hstatus : (wire.reply (shown (configurationAnswer none))).status = 404 := h.status
      simp only [interpret, if_pos hstatus]
  | some config =>
      have hshown : shown (configurationAnswer (some config)) = .ok config.toJson := by
        rw [configurationAnswer, naming, if_pos (hname config rfl)]
        rfl
      rw [hshown] at h ⊢
      have hstatus : (wire.reply (.ok config.toJson)).status ≠ 404 := by
        rw [h.status]
        exact (by decide : ((200 : ℕ) : ℤ) ≠ 404)
      have hcheck : check (wire.reply (.ok config.toJson)) = .ok config.toJson :=
        check_of_returns h rfl rfl
      simp only [interpret, if_neg hstatus, hcheck, bind, Except.bind, Config.ofJson_toJson]

/-! ## Agreement -/

/-- How a call comes out at the device itself, and how the client then sees it. -/
inductive Agrees (wire : Wire) (client : Client) (call : Call) (session : Session Running) : Prop
  where
  | answered {answer : Answer} {after : Running}
      (here : call.onDevice session.transport = .ok answer after)
      (there : client.perform (wire.transport client) call session =
        .ok answer { session with transport := after })
  /-- The service reports a failure on the console of the device, too. -/
  | failed {e : Failure} {error : Error} {after final : Running}
      (here : call.onDevice session.transport = .error e after)
      (shown : Error.ofFailure? e = some error) (same : after.SameButConsole final)
      (there : client.perform (wire.transport client) call session =
        .error error { session with transport := final })
  /-- The system has failed in a way that the service has no answer for, so nothing is said about
  what reaches the client. -/
  | crashed {cause : FileError} {after : Running}
      (here : call.onDevice session.transport = .error (.file cause) after)

/-- The name that a call asks for can be encoded. -/
def Call.AsksWhole : Call → Device → Prop
  | deviceInfo, device => device.identity.productName.IsWhole
  | configuration, device => ∀ config, device.config = some config → config.name.IsWhole
  | _, _ => True

variable {session : Session Running}

theorem agrees_of_deviceInfo (h : wire.Delivers client .deviceInfo)
    (hreply : wire.Returns (respond (wire.arriving client .deviceInfo) session.transport).1)
    (hname : Call.AsksWhole .deviceInfo session.transport.device) :
    Agrees wire client .deviceInfo session := by
  have hrespond := respond_arriving_info h rfl hname
  have hthere := wire.perform_of_respond hrespond
  rw [hrespond] at hreply
  simp only [interpret, check_of_returns hreply rfl rfl] at hthere
  exact .answered rfl hthere

theorem agrees_of_configuration (h : wire.Delivers client .configuration)
    (hreply : wire.Returns (respond (wire.arriving client .configuration) session.transport).1)
    (hname : Call.AsksWhole .configuration session.transport.device)
    (hkey : client.key = session.transport.device.identity.authorizationKey) :
    Agrees wire client .configuration session := by
  have hrespond := respond_showConfiguration (carries_arriving h hkey) (find?_arriving h)
  have hthere := wire.perform_of_respond hrespond
  rw [hrespond] at hreply
  rw [interpret_configuration hname hreply] at hthere
  exact .answered rfl hthere

theorem call_of_unconfirmed {invocation : Invocation} (hcall : call.invocation? = some invocation)
    (h : invocation.isConfirmed = false) : ∃ confirm, call = .factoryReset confirm := by
  cases call with
  | factoryReset confirm => exact ⟨confirm, rfl⟩
  | setConfiguration config =>
      cases hcall
      cases h
  | restart =>
      cases hcall
      cases h
  | shutdown =>
      cases hcall
      cases h
  | _ => cases hcall

/-- A command ends at the device in one of few ways, and each of them shows at the client. -/
theorem agrees_of_invocation {invocation : Invocation} (h : wire.Delivers client call)
    (hreply : wire.Returns (respond (wire.arriving client call) session.transport).1)
    (hkey : client.key = session.transport.device.identity.authorizationKey)
    (hcall : call.invocation? = some invocation) : Agrees wire client call session := by
  have hhere := congrFun (call.onDevice_of_invocation hcall) session.transport
  have hrespond := respond_invocation (carries_arriving h hkey)
    ((invocation?_arriving h).trans hcall)
  rw [bind_apply] at hhere
  rw [hrespond] at hreply
  cases hperform : invocation.perform session.transport with
  | ok message after =>
      simp only [hperform] at hhere hreply hrespond
      have hthere := wire.perform_of_respond hrespond
      rw [interpret_done hcall hreply] at hthere
      exact .answered hhere hthere
  | error e after =>
      simp only [hperform] at hhere hreply hrespond
      have hthere := wire.perform_of_respond hrespond
      have hshown {error : Error} (he : Error.ofFailure? e = some error)
          (hconfirm : e = .unconfirmed → ∃ confirm, call = .factoryReset confirm) :
          Agrees wire client call session := by
        rw [interpret_report he hconfirm hreply] at hthere
        exact .failed hhere he (same_reported _ _ after) hthere
      rcases failure_of_perform hperform with ⟨rfl, hunconfirmed⟩ | ⟨holder, rfl⟩ | he | he
      · exact hshown rfl fun _ => call_of_unconfirmed hcall hunconfirmed
      · exact hshown rfl nofun
      · cases e with
        | storage cause => exact hshown rfl nofun
        | file cause => exact .crashed hhere
        | _ => cases he
      · cases e with
        | command cause => exact hshown rfl nofun
        | file cause => exact .crashed hhere
        | _ => cases he

/-- A call over a faithful wire: a client with another key than the device's is told so, and nothing
changes; for a client with the same key, and for everyone who asks for the identity, the call comes
to what it comes to at the device itself. A name that is asked for must be one that can be
encoded. -/
theorem client_agrees_with_device (h : wire.Delivers client call)
    (hreply : wire.Returns (respond (wire.arriving client call) session.transport).1) :
    let key := session.transport.device.identity.authorizationKey
    (client.key ≠ key → call ≠ .deviceInfo →
      ∃ final, session.transport.SameButConsole final ∧
        client.perform (wire.transport client) call session =
          .error (.wrongKey (.string CredentialError.wrongKey.message))
            { session with transport := final }) ∧
    (client.key = key ∨ call = .deviceInfo → call.AsksWhole session.transport.device →
      Agrees wire client call session) := by
  refine ⟨?_, ?_⟩
  · intro hkey hcall
    have hrespond := respond_arriving_stranger h hcall hkey
    have hthere := wire.perform_of_respond hrespond
    rw [hrespond] at hreply
    rw [interpret_error (by decide) (by decide) hreply] at hthere
    have hexplained : call.explains (refusal Status.unauthorized.code
        (.string CredentialError.wrongKey.message)) =
          .wrongKey (.string CredentialError.wrongKey.message) := by
      cases call <;> rfl
    rw [hexplained] at hthere
    exact ⟨_, same_reported _ _ _, hthere⟩
  · intro hkey hname
    cases call with
    | deviceInfo => exact agrees_of_deviceInfo h hreply hname
    | configuration => exact agrees_of_configuration h hreply hname (hkey.resolve_right nofun)
    | setConfiguration config => exact agrees_of_invocation h hreply (hkey.resolve_right nofun) rfl
    | factoryReset confirm => exact agrees_of_invocation h hreply (hkey.resolve_right nofun) rfl
    | restart => exact agrees_of_invocation h hreply (hkey.resolve_right nofun) rfl
    | shutdown => exact agrees_of_invocation h hreply (hkey.resolve_right nofun) rfl

/-- The client of whoever owns the blank device. -/
def owner : Client where
  baseUrl := "http://lamp.local:8000"
  key := blankDevice.device.identity.authorizationKey

/-- A client of the same device with a key that repeats another byte. -/
def stranger : Client where
  baseUrl := owner.baseUrl
  key := ⟨List.replicate 32 6, rfl⟩

theorem owner_agrees_with_blankDevice :
    let wire := Wire.plain owner.baseUrl
    let session : Session Running := { transport := blankDevice }
    wire.Delivers owner .restart ∧
      wire.Returns (respond (wire.arriving owner .restart) blankDevice).1 ∧
      Agrees wire owner .restart session ∧
      wire.Delivers stranger .restart ∧
      wire.Returns (respond (wire.arriving stranger .restart) blankDevice).1 ∧
      ∃ final, blankDevice.SameButConsole final ∧
        stranger.perform (wire.transport stranger) .restart session =
          .error (.wrongKey (.string "The request requires user authentication."))
            { session with transport := final } := by
  intro wire session
  have howner : wire.Delivers owner .restart := Wire.plain_delivers owner .restart
  have hstranger : wire.Delivers stranger .restart := Wire.plain_delivers stranger .restart
  have hreplies (request : Request) : wire.Returns (respond request blankDevice).1 :=
    Wire.plain_returns _ (lossless_respond request blankDevice)
  have hkey : stranger.key ≠ blankDevice.device.identity.authorizationKey := by decide
  obtain ⟨-, hagrees⟩ :=
    @client_agrees_with_device wire owner .restart session howner (hreplies _)
  obtain ⟨hrefused, -⟩ :=
    @client_agrees_with_device wire stranger .restart session hstranger (hreplies _)
  exact ⟨howner, hreplies _, hagrees (.inl rfl) trivial, hstranger, hreplies _, hrefused hkey nofun⟩

end SmartDevice.Client
