import SmartDevice.Proofs.Credential.Decision
import SmartDevice.Proofs.RecordFile.Reading

/-! # Every answer can be read

Whatever is asked, the JSON of the answer is the same after it was written and read. -/

namespace SmartDevice.Http

open Apply

/-! ## Answers with a name -/

theorem naming_cases (name : WideText) (body : Json) :
    name.IsWhole ∧ naming name body = .ok (.ok body) ∨
      ¬ name.IsWhole ∧ naming name body = .error .unencodable := by
  unfold naming
  split
  · next h => exact .inl ⟨h, rfl⟩
  · next h => exact .inr ⟨h, rfl⟩

/-- The answer of an endpoint that only looks at the device; there may be none that can be
encoded. -/
def shown : Except Failure Response → Response
  | .ok response => response
  | .error e => .crash e

theorem answer_showIdentity (request : Request) (running : Running) :
    answer .showIdentity request running =
      (shown (identityAnswer running.device.identity), running) := by
  have hserve : Endpoint.showIdentity.handle request .absent running =
      (MonadExcept.ofExcept (identityAnswer running.device.identity) : Running.Action Response)
        running := by
    rw [Endpoint.handle, if_neg (by simp)]
    rfl
  simp only [answer, reduceCtorEq, if_false, hserve, identityAnswer]
  rcases naming_cases running.device.identity.productName _ with ⟨-, h⟩ | ⟨-, h⟩
  · rw [h]
    rfl
  · rw [h]
    rfl

/-! ## Answers that lose nothing -/

/-- A response whose JSON is written without loss. -/
def Response.Lossless (response : Response) : Prop :=
  ∀ value, response.content = .json value → value.Lossless

theorem lossless_code {levels code : ℕ} (h : code < 1000) :
    Json.LosslessIn levels (.integer code) :=
  .integer (Nat.le_trans ((Nat.length_toDigits_le_iff (by decide) (by decide)).mpr h)
    (by decide : 3 ≤ Json.maxIntegerDigits))

theorem lossless_errorBody {status : Status} (h : status.code < 1000) (text : String) :
    (errorBody status text).Lossless := by
  refine .object (by simp) ?_
  rw [List.forall_mem_singleton]
  exact .object (by simp) (by simp [lossless_code h])

theorem lossless_okBody (message : String) : (okBody message).Lossless := by
  have hcode {levels : ℕ} : Json.LosslessIn levels (.integer 200) :=
    lossless_code (by decide : 200 < 1000)
  exact .object (by simp) (by simp [hcode])

theorem lossless_error {status : Status} (h : status.code < 1000) (text : String) :
    (Response.error status text).Lossless := by
  rintro value ⟨⟩
  exact lossless_errorBody h text

theorem lossless_detail (status : Nat) (text : String) :
    (Response.detail status text).Lossless := by
  rintro value ⟨⟩
  exact .object (by simp) (by simp)

theorem lossless_ok {value : Json} (h : value.Lossless) : (Response.ok value).Lossless := by
  rintro other ⟨⟩
  exact h

theorem lossless_unrouted (request : Request) : (unrouted request).Lossless := by
  unfold unrouted
  split
  · exact lossless_detail 405 _
  dsimp only
  split
  · exact nofun
  · exact lossless_detail 404 _

theorem lossless_readBody {request : Request} {response : Response}
    (h : readBody request = .error response) : response.Lossless := by
  unfold readBody at h
  split at h
  · cases h
  split at h
  · cases h
  split at h
  · cases h
  · cases h
    exact lossless_error (by decide) _
  all_goals
    cases h
    exact lossless_detail 400 _

theorem lossless_report (endpoint : Endpoint) (e : Failure) : (report endpoint e).1.Lossless := by
  unfold report
  split
  · next cause =>
      cases cause with
      | malformed _ => exact lossless_error (by decide : 400 < 1000) _
      | missing => exact lossless_error (by decide) _
      | wrongKey => exact lossless_error (by decide) _
  · exact lossless_error (by decide) _
  · exact lossless_error (by decide) _
  · exact lossless_error (by decide) _
  · exact lossless_error (by decide) _
  · exact nofun

theorem lossless_naming {name : WideText} {body : Json} {response : Response}
    (hbody : body.Lossless) (h : naming name body = .ok response) : response.Lossless := by
  rcases naming_cases name body with ⟨-, hnaming⟩ | ⟨-, hnaming⟩
  · cases hnaming.symm.trans h
    exact lossless_ok hbody
  · cases hnaming.symm.trans h

theorem lossless_identityAnswer {identity : Identity} {response : Response}
    (h : identityAnswer identity = .ok response) : response.Lossless :=
  lossless_naming (.object (by simp) (by simp [Json.LosslessIn.string])) h

theorem lossless_configurationAnswer {config : Option Config} {response : Response}
    (h : configurationAnswer config = .ok response) : response.Lossless := by
  cases config with
  | none =>
      cases h
      exact lossless_error (by decide) _
  | some config => exact lossless_naming config.lossless_toJson h

theorem lossless_done {command : Running.Action String} {stops : Bool} {running after : Running}
    {response : Response}
    (h : (do return { Response.ok (okBody (← command)) with stops } : Running.Action Response)
      running = .ok response after) : response.Lossless := by
  rw [bind_apply] at h
  cases hcommand : command running with
  | ok message last =>
      rw [hcommand] at h
      cases h
      rintro value ⟨⟩
      exact lossless_okBody message
  | error e last =>
      rw [hcommand] at h
      cases h

theorem lossless_serve {endpoint : Endpoint} {request : Request} {body : Body}
    {running after : Running} {response : Response}
    (h : endpoint.serve request body running = .ok response after) : response.Lossless := by
  cases endpoint with
  | showIdentity =>
      simp only [Endpoint.serve, bind_apply, get_apply] at h
      exact lossless_identityAnswer (eq_ok_of_ofExcept h)
  | showConfiguration =>
      simp only [Endpoint.serve, bind_apply, Device.getConfig, get_apply, pure_apply] at h
      exact lossless_configurationAnswer (eq_ok_of_ofExcept h)
  | storeConfiguration =>
      simp only [Endpoint.serve, storeAnswer] at h
      cases hobject : body.object with
      | error description =>
          rw [hobject] at h
          cases h
          exact lossless_error (by decide) _
      | ok value =>
          rw [hobject] at h
          dsimp only at h
          cases hconfig : Config.ofJson value with
          | error e =>
              rw [hconfig] at h
              cases h
              exact lossless_error (by decide) _
          | ok config =>
              rw [hconfig] at h
              exact lossless_done h
  | factoryReset => exact lossless_done h
  | restart => exact lossless_done h
  | shutdown => exact lossless_done h

theorem serve_of_handle {endpoint : Endpoint} {request : Request} {body : Body}
    {running after : Running} {response : Response}
    (h : endpoint.handle request body running = .ok response after) :
    endpoint.serve request body running = .ok response after := by
  unfold Endpoint.handle at h
  split at h
  · rw [bind_apply, authorize_apply] at h
    cases hcheck : running.device.check request.credential with
    | ok key =>
        rw [hcheck] at h
        exact h
    | error e =>
        rw [hcheck] at h
        cases h
  · exact h

/-- Whatever is asked, in whatever state, the JSON of the answer can be read as it is meant. -/
theorem lossless_respond (request : Request) (running : Running) :
    (respond request running).1.Lossless := by
  unfold respond
  cases Endpoint.find? request.method request.path with
  | none => exact lossless_unrouted request
  | some endpoint =>
      simp only [answer]
      generalize hbody :
        (if endpoint = .storeConfiguration then readBody request else .ok .absent) = body
      cases body with
      | error response =>
          split at hbody
          · exact lossless_readBody hbody
          · cases hbody
      | ok body =>
          simp only
          cases hh : endpoint.handle request body running with
          | ok response after => exact lossless_serve (serve_of_handle hh)
          | error e after => exact lossless_report endpoint e

end SmartDevice.Http
