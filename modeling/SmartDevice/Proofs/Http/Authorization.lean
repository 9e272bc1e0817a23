import SmartDevice.Proofs.Console.Indifference
import SmartDevice.Proofs.Device.Frame
import SmartDevice.Proofs.Http.Answers

/-! # Requests without the key

A request that does not carry the key of the device is answered with a refusal and changes nothing
but the console. What a device does in a session is therefore what it does in the part of the
session that carries the key. -/

namespace SmartDevice.Http

open Apply

/-! ## Refusals -/

/-- The request carries a spelling of the key. -/
def Request.carries (request : Request) (key : Key) : Bool :=
  Credential.isAccepted key request.credential

theorem exists_error_of_not_carries {request : Request} {device : Device}
    (h : request.carries device.identity.authorizationKey = false) :
    ∃ e, device.check request.credential = .error e := by
  unfold Request.carries Credential.isAccepted at h
  unfold Device.check
  cases hc : Credential.check device.identity.authorizationKey request.credential with
  | error e => exact ⟨e, rfl⟩
  | ok key => simp [hc, Except.isOk, Except.toBool] at h

/-- An answer that turns the client away. -/
structure Refusal (response : Response) : Prop where
  status : response.status = 400 ∨ response.status = 401
  stops : response.stops = false

theorem readBody_eq_error {request : Request} {response : Response}
    (h : readBody request = .error response) : response.status = 400 ∧ response.stops = false := by
  unfold readBody at h
  split at h
  · simp at h
  · split at h
    · simp at h
    · split at h
      · simp at h
      all_goals
        cases h
        exact ⟨rfl, rfl⟩

theorem refusal_of_readBody {request : Request} {response : Response}
    (h : readBody request = .error response) : Refusal response :=
  ⟨.inl (readBody_eq_error h).1, (readBody_eq_error h).2⟩

theorem refusal_report (endpoint : Endpoint) (e : CredentialError) :
    Refusal (report endpoint (.credential e)).1 := by
  cases e with
  | missing => exact ⟨.inl rfl, rfl⟩
  | malformed cause => exact ⟨.inl rfl, rfl⟩
  | wrongKey => exact ⟨.inr rfl, rfl⟩

theorem handle_of_refused {endpoint : Endpoint} (hprotected : endpoint ≠ .showIdentity)
    {request : Request} {running : Running} {e : CredentialError}
    (h : running.device.check request.credential = .error e) (body : Body) :
    endpoint.handle request body running = .error (.credential e) running := by
  unfold Endpoint.handle
  rw [if_pos hprotected]
  simp only [bind_apply, authorize_apply, h]

/-- A request whose credential is granted comes to its endpoint. -/
theorem handle_of_granted {request : Request} {running : Running} {key : Key}
    (h : running.device.check request.credential = .ok key) (endpoint : Endpoint) (body : Body) :
    endpoint.handle request body running = endpoint.serve request body running := by
  unfold Endpoint.handle
  split
  · simp only [bind_apply, authorize_apply, h]
  · rfl

/-- At every endpoint but one, whoever lacks the key is turned away, whatever the state. -/
theorem answer_of_not_carries {endpoint : Endpoint} (hprotected : endpoint ≠ .showIdentity)
    {request : Request} {running : Running}
    (h : request.carries running.device.identity.authorizationKey = false) :
    Refusal (answer endpoint request running).1 ∧
      running.SameButConsole (answer endpoint request running).2 := by
  obtain ⟨e, he⟩ := exists_error_of_not_carries h
  unfold answer
  generalize hb : (if endpoint = .storeConfiguration then readBody request else .ok .absent) = body
  cases body with
  | error response =>
      refine ⟨?_, .refl running⟩
      split at hb
      · exact refusal_of_readBody hb
      · simp at hb
  | ok body =>
      simp only [handle_of_refused hprotected he]
      exact ⟨refusal_report endpoint e, _, rfl⟩

/-- No other request that lacks the key changes anything at all. -/
theorem respond_of_not_carries {request : Request} {running : Running}
    (h : request.carries running.device.identity.authorizationKey = false) :
    (respond request running).1.stops = false ∧
      running.SameButConsole (respond request running).2 := by
  unfold respond
  cases Endpoint.find? request.method request.path with
  | none =>
      refine ⟨?_, .refl running⟩
      simp only [unrouted]
      split
      · rfl
      · split <;> rfl
  | some endpoint =>
      by_cases hp : endpoint = .showIdentity
      · subst hp
        simp only [answer_showIdentity, identityAnswer]
        refine ⟨?_, .refl running⟩
        rcases naming_cases running.device.identity.productName _ with ⟨-, hname⟩ | ⟨-, hname⟩
        · rw [hname]
          rfl
        · rw [hname]
          rfl
      · obtain ⟨hrefusal, hsame⟩ := answer_of_not_carries hp h
        exact ⟨hrefusal.stops, hsame⟩

/-! ## Answers do not depend on the console -/

theorem indifferent_authorize (request : Request) : Running.Indifferent (authorize request) := by
  rintro r - ⟨c, rfl⟩
  simp only [authorize_apply]
  cases r.device.check request.credential with
  | ok key => exact .ok ⟨c, rfl⟩
  | error e => exact .error ⟨c, rfl⟩

theorem indifferent_handle (endpoint : Endpoint) (request : Request) (body : Body) :
    Running.Indifferent (endpoint.handle request body) := by
  unfold Endpoint.handle
  refine .ite (fun _ => .bind (indifferent_authorize request) fun _ => ?_) fun _ => ?_
  all_goals exact Running.Indifferent.serve endpoint request body

/-- Where every endpoint works alike from related states, so does the whole service. -/
theorem respond_of_alike {R : Running → Running → Prop} {request : Request}
    (hhandle : ∀ (endpoint : Endpoint) (body : Body),
      Alike R (endpoint.handle request body) (endpoint.handle request body))
    (hconsole : ∀ (r s : Running) (write : Console → Console), R r s →
      R { r with world := r.world.saying write } { s with world := s.world.saying write })
    {r s : Running} (h : R r s) :
    (respond request r).1 = (respond request s).1 ∧
      R (respond request r).2 (respond request s).2 := by
  unfold respond
  cases Endpoint.find? request.method request.path with
  | none => exact ⟨rfl, h⟩
  | some endpoint =>
      simp only [answer]
      generalize (if endpoint = .storeConfiguration then readBody request else .ok .absent) = body
      cases body with
      | error response => exact ⟨rfl, h⟩
      | ok body =>
          rcases (hhandle endpoint body r s h).cases with
            ⟨response, r', s', hr, hs, hrelated⟩ | ⟨e, r', s', hr, hs, hrelated⟩
          · simp only [hr, hs]
            exact ⟨trivial, hrelated⟩
          · simp only [hr, hs]
            exact ⟨trivial, hconsole r' s' _ hrelated⟩

theorem respond_same {r s : Running} (h : r.SameButConsole s) (request : Request) :
    (respond request r).1 = (respond request s).1 ∧
      (respond request r).2.SameButConsole (respond request s).2 := by
  refine respond_of_alike (fun endpoint body => indifferent_handle endpoint request body) ?_ h
  rintro r - write ⟨c, rfl⟩
  exact ⟨write c, rfl⟩

/-! ## The key stays the same -/

theorem keeps_fixed_serve (endpoint : Endpoint) (request : Request) (body : Body) :
    Keeps (fun running : Running => running.device.fixed) (endpoint.serve request body) := by
  cases endpoint with
  | showIdentity => exact .bind (fun _ => rfl) fun _ => .ofExcept _
  | showConfiguration => exact .bind (fun _ => rfl) fun _ => .ofExcept _
  | storeConfiguration =>
      unfold Endpoint.serve storeAnswer
      dsimp only
      split
      · exact .pure _
      · split
        · exact .pure _
        · exact .bind (Device.keeps_fixed_saveConfiguration _) fun _ => .pure _
  | factoryReset => exact .bind (Device.keeps_fixed_factoryReset _) fun _ => .pure _
  | restart =>
      exact .bind (Device.keeps_core_restart.comp fun core => core.1.fixed) fun _ => .pure _
  | shutdown =>
      exact .bind (Device.keeps_core_shutdown.comp fun core => core.1.fixed) fun _ => .pure _

theorem keeps_fixed_handle (endpoint : Endpoint) (request : Request) (body : Body) :
    Keeps (fun running : Running => running.device.fixed) (endpoint.handle request body) := by
  have hauthorize : Keeps (fun running : Running => running.device.fixed) (authorize request) := by
    intro running
    unfold left
    rw [authorize_apply]
    cases running.device.check request.credential <;> rfl
  unfold Endpoint.handle
  refine .ite (fun _ => .bind hauthorize fun _ => ?_) fun _ => ?_
  all_goals exact keeps_fixed_serve endpoint request body

theorem fixed_respond (request : Request) (running : Running) :
    (respond request running).2.device.fixed = running.device.fixed := by
  unfold respond
  cases Endpoint.find? request.method request.path with
  | none => rfl
  | some endpoint =>
      simp only [answer]
      generalize (if endpoint = .storeConfiguration then readBody request else .ok .absent) = body
      cases body with
      | error response => rfl
      | ok body =>
          simp only
          cases hh : endpoint.handle request body running with
          | ok response after => exact (keeps_fixed_handle endpoint request body).ok hh
          | error e after =>
              have hkept := (keeps_fixed_handle endpoint request body).error hh
              exact hkept

theorem identity_respond (request : Request) (running : Running) :
    (respond request running).2.device.identity = running.device.identity :=
  congrArg (fun fixed => fixed.2.1) (fixed_respond request running)

/-! ## Sessions -/

/-- Answers requests one after another. -/
def respondAll : List Request → Running → List Response × Running
  | [], running => ([], running)
  | request :: requests, running =>
    let (response, running) := respond request running
    let (responses, running) := respondAll requests running
    (response :: responses, running)

/-- How often the server is told to stop. -/
def stopCalls (responses : List Response) : ℕ := responses.countP (·.stops)

theorem respondAll_same {r s : Running} (h : r.SameButConsole s) (requests : List Request) :
    (respondAll requests r).1 = (respondAll requests s).1 ∧
      (respondAll requests r).2.SameButConsole (respondAll requests s).2 := by
  induction requests generalizing r s with
  | nil => exact ⟨rfl, h⟩
  | cons request requests ih =>
      obtain ⟨hresponse, hnext⟩ := respond_same h request
      obtain ⟨hresponses, hlast⟩ := ih hnext
      simp only [respondAll]
      exact ⟨by rw [hresponse, hresponses], hlast⟩

/-- Requests without the key can be left out of a session: the others get the same answers, the
server is told to stop as often, and all but the console ends the same. -/
theorem respondAll_filter (requests : List Request) (running : Running) :
    let key := running.device.identity.authorizationKey
    let whole := respondAll requests running
    let part := respondAll (requests.filter (·.carries key)) running
    part.1 = ((requests.zip whole.1).filter fun (request, _) => request.carries key).map (·.2) ∧
      stopCalls part.1 = stopCalls whole.1 ∧ part.2.SameButConsole whole.2 := by
  induction requests generalizing running with
  | nil => exact ⟨rfl, rfl, .refl running⟩
  | cons request requests ih =>
      obtain ⟨hanswers, hcalls, hsame⟩ := ih (respond request running).2
      rw [identity_respond] at hanswers hcalls hsame
      by_cases hk : request.carries running.device.identity.authorizationKey = true
      · simp only [List.filter_cons, hk, ↓reduceIte, respondAll, List.zip_cons_cons,
          List.map_cons, hanswers, stopCalls, List.countP_cons] at hcalls ⊢
        exact ⟨trivial, by rw [hcalls], hsame⟩
      · rw [Bool.not_eq_true] at hk
        obtain ⟨hstops, hstep⟩ := respond_of_not_carries hk
        obtain ⟨hfirst, hlast⟩ := respondAll_same hstep
          (requests.filter (·.carries running.device.identity.authorizationKey))
        simp only [List.filter_cons, hk, Bool.false_eq_true, ↓reduceIte, respondAll,
          List.zip_cons_cons, stopCalls, List.countP_cons, hstops, Nat.add_zero] at hcalls ⊢
        rw [hfirst]
        exact ⟨hanswers, hcalls, hlast.trans hsame⟩

/-- Without the key every endpoint but that of the identity refuses and changes nothing, in any
state; so of a whole session only the requests with the key count. -/
theorem without_key_nothing_happens (running : Running) :
    (∀ request endpoint, Endpoint.find? request.method request.path = some endpoint →
      endpoint ≠ .showIdentity →
      request.carries running.device.identity.authorizationKey = false →
      let (response, after) := respond request running
      (response.status = 400 ∨ response.status = 401) ∧ response.stops = false ∧
        after.device.config = running.device.config ∧
        after.device.busy? after.world = running.device.busy? running.world ∧
        after.world.disk = running.world.disk ∧ after.world.runs = running.world.runs) ∧
    ∀ requests,
      let key := running.device.identity.authorizationKey
      let (responses, after) := respondAll requests running
      let (keyResponses, keyAfter) := respondAll (requests.filter (·.carries key)) running
      after.device.config = keyAfter.device.config ∧ after.world.disk = keyAfter.world.disk ∧
        after.world.runs = keyAfter.world.runs ∧ stopCalls responses = stopCalls keyResponses ∧
        keyResponses =
          ((requests.zip responses).filter fun (request, _) => request.carries key).map (·.2) := by
  refine ⟨?_, ?_⟩
  · intro request endpoint hfind hprotected hkey
    obtain ⟨⟨hstatus, hstops⟩, c, hsame⟩ := answer_of_not_carries hprotected hkey
    simp only [respond, hfind]
    rw [hsame]
    exact ⟨hstatus, hstops, rfl, rfl, rfl, rfl⟩
  · intro requests
    obtain ⟨hanswers, hcalls, c, hsame⟩ := respondAll_filter requests running
    simp only
    rw [hsame]
    exact ⟨rfl, rfl, rfl, hcalls.symm, hanswers⟩

/-- A device that no one has configured, whose key repeats one byte. -/
def blankDevice : Running where
  device := {
    home := ⟨Path.ofString "home"⟩
    identity := {
      productName := "Lamp"
      authorizationKey := ⟨List.replicate 32 2, rfl⟩
      privateKeyFile := Path.ofString "private.pem"
      uuid := ⟨0⟩ }
    config := none
    lock := 0 }
  world := {}

/-- A restart that is asked for with another key. -/
def strangersRestart : Request where
  method := "GET"
  path := "/api/v1/command/restart"
  headers := [("X-Api-Key", String.ofList (List.replicate 64 'f'))]

theorem strangersRestart_refused :
    Endpoint.find? strangersRestart.method strangersRestart.path = some .restart ∧
      Endpoint.restart ≠ .showIdentity ∧
      strangersRestart.carries blankDevice.device.identity.authorizationKey = false ∧
      ((respond strangersRestart blankDevice).1.status = 400 ∨
        (respond strangersRestart blankDevice).1.status = 401) ∧
      (respond strangersRestart blankDevice).1.stops = false ∧
      (respond strangersRestart blankDevice).2.device.config = none ∧
      (respond strangersRestart blankDevice).2.world.runs = [] := by
  have hfind : Endpoint.find? strangersRestart.method strangersRestart.path = some .restart := by
    decide +kernel
  have hkey : strangersRestart.carries blankDevice.device.identity.authorizationKey = false := by
    decide +kernel
  obtain ⟨hstatus, hstops, hconfig, -, -, hruns⟩ :=
    (without_key_nothing_happens blankDevice).1 strangersRestart .restart hfind (by decide) hkey
  exact ⟨hfind, by decide, hkey, hstatus, hstops, hconfig, hruns⟩

end SmartDevice.Http
