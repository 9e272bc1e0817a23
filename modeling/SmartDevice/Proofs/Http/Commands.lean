import SmartDevice.Proofs.Command.Conduct
import SmartDevice.Proofs.Http.Authorization

/-! # What a request asks for

A request with the key either shows something, asks for a command or is turned down. How the command
ends decides about the answer. -/

namespace SmartDevice.Http

open Apply Command

variable {request : Request} {running : Running} {invocation : Invocation} {response : Response}

/-! ## Requests -/

/-- The configuration that a request brings, or the answer to one that brings none. -/
def Request.configuration (request : Request) : Except Response Config :=
  match readBody request with
  | .error response => .error response
  | .ok body =>
    match body.object with
    | .error description => .error (.error .badRequest description)
    | .ok value =>
      match Config.ofJson value with
      | .error e => .error (.error .badRequest e.message)
      | .ok config => .ok config

/-- The command that a request asks for. -/
def Request.invocation? (request : Request) : Option Invocation :=
  match Endpoint.find? request.method request.path with
  | some .storeConfiguration => request.configuration.toOption.map .saveConfiguration
  | some .factoryReset => some (.factoryReset (Query.last? "confirm" request.query))
  | some .restart => some .restart
  | some .shutdown => some .shutdown
  | _ => none

/-- The answer to a command that was carried out. -/
def doneAnswer (invocation : Invocation) (message : String) : Response :=
  { Response.ok (okBody message) with
    stops := match invocation with
      | .restart | .shutdown => true
      | _ => false }

def endpointOf : Invocation → Endpoint
  | .factoryReset _ => .factoryReset
  | .restart => .restart
  | .shutdown => .shutdown
  | .saveConfiguration _ => .storeConfiguration

/-- What a failed command leaves behind, with a remark about it on the console. -/
def reported (endpoint : Endpoint) (e : Failure) (after : Running) : Running :=
  { after with world := after.world.saying (report endpoint e).2 }

theorem same_reported (endpoint : Endpoint) (e : Failure) (after : Running) :
    after.SameButConsole (reported endpoint e after) :=
  ⟨_, rfl⟩

/-! ## Requests with the key -/

theorem handle_of_carries (h : request.carries running.device.identity.authorizationKey = true)
    (endpoint : Endpoint) (body : Body) :
    endpoint.handle request body running = endpoint.serve request body running := by
  unfold Request.carries Credential.isAccepted at h
  cases hcheck : Credential.check running.device.identity.authorizationKey request.credential with
  | ok key => exact handle_of_granted hcheck endpoint body
  | error e => simp [hcheck, Except.isOk, Except.toBool] at h

/-- With the key, the answer is what the endpoint makes of the request. -/
theorem answer_of_carries (h : request.carries running.device.identity.authorizationKey = true)
    {endpoint : Endpoint} (hread : endpoint ≠ .storeConfiguration) :
    answer endpoint request running =
      match endpoint.serve request .absent running with
      | .ok response after => (response, after)
      | .error e after => ((report endpoint e).1, reported endpoint e after) := by
  unfold answer
  simp only [hread, if_false, handle_of_carries h]
  cases endpoint.serve request .absent running <;> rfl

theorem answer_store_of_carries
    (h : request.carries running.device.identity.authorizationKey = true) :
    answer .storeConfiguration request running =
      match request.configuration with
      | .error response => (response, running)
      | .ok config =>
        match Command.saveConfiguration config running with
        | .ok message after => (.ok (okBody message), after)
        | .error e after =>
          ((report .storeConfiguration e).1, reported .storeConfiguration e after) := by
  unfold answer Request.configuration
  simp only [if_true, handle_of_carries h]
  cases readBody request with
  | error response => rfl
  | ok body =>
      simp only [Endpoint.serve, storeAnswer]
      cases body.object with
      | error description => rfl
      | ok value =>
          simp only
          cases Config.ofJson value with
          | error e => rfl
          | ok config =>
              simp only [bind_apply]
              cases Command.saveConfiguration config running <;> rfl

theorem answer_showConfiguration
    (h : request.carries running.device.identity.authorizationKey = true) :
    answer .showConfiguration request running =
      (shown (configurationAnswer running.device.config), running) := by
  have hserve : Endpoint.showConfiguration.serve request .absent running =
      (MonadExcept.ofExcept (configurationAnswer running.device.config) : Running.Action Response)
        running := rfl
  rw [answer_of_carries h (by simp), hserve]
  cases running.device.config with
  | none => rfl
  | some config =>
      rw [configurationAnswer]
      rcases naming_cases config.name config.toJson with ⟨-, hname⟩ | ⟨-, hname⟩
      · rw [hname]
        rfl
      · rw [hname]
        rfl

/-- The answer to a command depends on nothing but how the command ends. -/
theorem respond_invocation (hkey : request.carries running.device.identity.authorizationKey = true)
    (h : request.invocation? = some invocation) :
    respond request running =
      match invocation.perform running with
      | .ok message after => (doneAnswer invocation message, after)
      | .error e after =>
        ((report (endpointOf invocation) e).1, reported (endpointOf invocation) e after) := by
  unfold Request.invocation? at h
  unfold respond
  cases hfind : Endpoint.find? request.method request.path with
  | none =>
      rw [hfind] at h
      cases h
  | some endpoint =>
      rw [hfind] at h
      cases endpoint with
      | showIdentity => cases h
      | showConfiguration => cases h
      | storeConfiguration =>
          simp only [answer_store_of_carries hkey]
          cases hconfig : request.configuration with
          | error response =>
              rw [hconfig] at h
              cases h
          | ok config =>
              rw [hconfig] at h
              cases h
              simp only [Invocation.perform]
              cases Command.saveConfiguration config running <;> rfl
      | factoryReset =>
          cases h
          simp only [answer_of_carries hkey, ne_eq, reduceCtorEq, not_false_eq_true,
            Endpoint.serve, bind_apply, Invocation.perform]
          cases Command.factoryReset (Query.last? "confirm" request.query) running <;> rfl
      | restart =>
          cases h
          simp only [answer_of_carries hkey, ne_eq, reduceCtorEq, not_false_eq_true,
            Endpoint.serve, bind_apply, Invocation.perform]
          cases Command.restart running <;> rfl
      | shutdown =>
          cases h
          simp only [answer_of_carries hkey, ne_eq, reduceCtorEq, not_false_eq_true,
            Endpoint.serve, bind_apply, Invocation.perform]
          cases Command.shutdown running <;> rfl

/-- Answering adds at most a remark on the console to what the command leaves behind. -/
theorem same_left_perform
    (hkey : request.carries running.device.identity.authorizationKey = true)
    (h : request.invocation? = some invocation) :
    (left invocation.perform running).SameButConsole (respond request running).2 := by
  rw [respond_invocation hkey h]
  unfold left
  cases invocation.perform running with
  | ok message after => exact .refl after
  | error e after => exact same_reported _ e after

/-- What could not be stored is answered as a failure of the device. -/
theorem status_of_unstored {e : Failure} {after : Running}
    (hkey : request.carries running.device.identity.authorizationKey = true)
    (h : request.invocation? = some invocation)
    (hfailed : invocation.perform running = .error e after) (he : e.FromStorage) :
    (respond request running).1.status = 500 := by
  rw [respond_invocation hkey h, hfailed]
  cases e with
  | storage cause => rfl
  | file cause => rfl
  | _ => cases he

/-- A request that asks for no command changes nothing. -/
theorem unchanged_of_no_invocation
    (hkey : request.carries running.device.identity.authorizationKey = true)
    (h : request.invocation? = none) : (respond request running).2 = running := by
  unfold Request.invocation? at h
  unfold respond
  cases hfind : Endpoint.find? request.method request.path with
  | none => rfl
  | some endpoint =>
      rw [hfind] at h
      cases endpoint with
      | showIdentity => simp only [answer_showIdentity]
      | showConfiguration => simp only [answer_showConfiguration hkey]
      | storeConfiguration =>
          simp only [answer_store_of_carries hkey]
          cases hconfig : request.configuration with
          | error response => rfl
          | ok config =>
              rw [hconfig] at h
              cases h
      | factoryReset => cases h
      | restart => cases h
      | shutdown => cases h

theorem respond_showConfiguration
    (hkey : request.carries running.device.identity.authorizationKey = true)
    (hfind : Endpoint.find? request.method request.path = some .showConfiguration) :
    respond request running = (shown (configurationAnswer running.device.config), running) := by
  unfold respond
  simp only [hfind, answer_showConfiguration hkey]

/-! ## Rejected configurations -/

/-- A body brings no configuration if it is answered at once or is not what it should be. -/
theorem readBody_or_badRequest (h : request.configuration = .error response) :
    readBody request = .error response ∨
      ∃ description, response = .error .badRequest description := by
  unfold Request.configuration at h
  cases hread : readBody request with
  | error refused =>
      rw [hread] at h
      cases h
      exact .inl rfl
  | ok body =>
      rw [hread] at h
      simp only at h
      cases hobject : body.object with
      | error description =>
          rw [hobject] at h
          cases h
          exact .inr ⟨_, rfl⟩
      | ok value =>
          rw [hobject] at h
          simp only at h
          cases hconfig : Config.ofJson value with
          | error e =>
              rw [hconfig] at h
              cases h
              exact .inr ⟨_, rfl⟩
          | ok config =>
              rw [hconfig] at h
              cases h

theorem status_of_configuration (h : request.configuration = .error response) :
    response.status = 400 := by
  rcases readBody_or_badRequest h with hread | ⟨description, rfl⟩
  · exact (readBody_eq_error hread).1
  · rfl

theorem status_of_rejected
    (hkey : request.carries running.device.identity.authorizationKey = true)
    (hfind : Endpoint.find? request.method request.path = some .storeConfiguration)
    (h : ∀ config, request.configuration ≠ .ok config) :
    (respond request running).1.status = 400 := by
  unfold respond
  simp only [hfind, answer_store_of_carries hkey]
  cases hconfig : request.configuration with
  | ok config => exact absurd hconfig (h config)
  | error response => exact status_of_configuration hconfig

end SmartDevice.Http
