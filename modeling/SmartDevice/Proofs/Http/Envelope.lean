import SmartDevice.Proofs.Command.Escapes
import SmartDevice.Proofs.Http.Commands

/-! # Which failures are told in the common form

An answer either has the body that its endpoint promises or tells of a failure in the form that all
endpoints share. Three kinds of failures are told otherwise: a body whose text cannot be read, a
name that cannot be encoded, and a command that fails without a report. -/

namespace SmartDevice.Http

open Apply Command

variable {request : Request} {running : Running} {endpoint : Endpoint} {response : Response}

/-! ## Forms of answers -/

/-- The body that an endpoint promises for a success. -/
def Endpoint.promised? (endpoint : Endpoint) (device : Device) : Option Json :=
  match endpoint with
  | showIdentity => some (.object
      [("product_name", .string device.identity.productName),
        ("uuid", .string device.identity.uuid.toText)])
  | showConfiguration => device.config.map Config.toJson
  | storeConfiguration => some (okBody "Configuration saved.")
  | factoryReset => some (okBody "Factory reset complete.")
  | restart => some (okBody "System will now restart.")
  | shutdown => some (okBody "System will now power off.")

/-- The answer tells of success, as it was promised. -/
def Response.Succeeds (response : Response) (endpoint : Endpoint) (device : Device) : Prop :=
  response.status = 200 ∧ ∃ body, endpoint.promised? device = some body ∧
    response.content = .json body

/-- The answer tells of a failure in the form that all endpoints share: the code of its status, the
phrase that goes with it, and a description. -/
def Response.Enveloped (response : Response) : Prop :=
  ∃ status ∈ Status.all, ∃ description, response.status = status.code ∧
    response.content = .json (errorBody status description)

/-- The answer has one of the two forms. -/
def Response.Conforms (response : Response) (endpoint : Endpoint) (device : Device) : Prop :=
  response.Succeeds endpoint device ∨ response.Enveloped

/-! ## Failures in another form -/

/-- The body is announced as JSON, but is no text, or holds a numeral that is too long or containers
that are nested too deep. -/
def Request.IsUnreadable (request : Request) : Prop :=
  request.body ≠ [] ∧ request.isJson = true ∧
    (Json.decode? request.body = none ∨ ∃ text excess, Json.decode? request.body = some text ∧
      Json.readDecoded text = .error (.excess excess))

/-- A request to an endpoint is going to fail in a way that is told in another form. -/
inductive Uncovered (request : Request) (running : Running) : Endpoint → Prop where
  | body (hbody : request.IsUnreadable) : Uncovered request running .storeConfiguration
  | identity (hname : ¬ running.device.identity.productName.IsWhole) :
      Uncovered request running .showIdentity
  | configuration {config}
      (hkey : request.carries running.device.identity.authorizationKey = true)
      (hconfig : running.device.config = some config) (hname : ¬ config.name.IsWhole) :
      Uncovered request running .showConfiguration
  /-- A command comes to a script that the system cannot run. -/
  | script {endpoint invocation name moment cause}
      (hkey : request.carries running.device.identity.authorizationKey = true)
      (hask : request.invocation? = some invocation)
      (hcomes : Comes invocation running (.awaitScript name) moment)
      (hending : ownEnding name running.world = .failed cause) :
      Uncovered request running endpoint
  /-- A command is to store something in a home whose path no file can have. -/
  | home {endpoint invocation}
      (hkey : request.carries running.device.identity.authorizationKey = true)
      (hask : request.invocation? = some invocation)
      (hnull : Disk.hasNull running.device.home.path = true)
      (hescapes : Escapes invocation running) : Uncovered request running endpoint

theorem enveloped_error {status : Status} (h : status ∈ Status.all) (description : String) :
    (Response.error status description).Enveloped :=
  ⟨status, h, description, rfl, rfl⟩

theorem not_conforms_detail {status : ℕ} (hstatus : status ≠ 200) (text : String)
    (endpoint : Endpoint) (device : Device) :
    ¬ (Response.detail status text).Conforms endpoint device := by
  rintro (⟨hok, -⟩ | ⟨other, -, description, -, hcontent⟩)
  · exact hstatus hok
  · simp [Response.detail, detailBody, errorBody] at hcontent

theorem not_conforms_crash (failure : Failure) (endpoint : Endpoint) (device : Device) :
    ¬ (Response.crash failure).Conforms endpoint device := by
  rintro (⟨-, body, -, hcontent⟩ | ⟨other, -, description, -, hcontent⟩)
  · cases hcontent
  · cases hcontent

/-! ## Bodies -/

theorem readBody_of_json (hempty : request.body ≠ []) (hjson : request.isJson = true) :
    readBody request =
      match (Json.decode? request.body).map Json.readDecoded with
      | some (.ok value) => .ok (.json value)
      | some (.error (.malformed e)) =>
        .error (.error .badRequest s!"body.{e.position}: JSON decode error")
      | some (.error (.excess _)) | none =>
        .error (.detail 400 "There was an error parsing the body") := by
  have hsome : ¬ request.body.isEmpty = true := by simpa using hempty
  have hread : ¬ (!request.isJson) = true := by simp [hjson]
  exact (if_neg hsome).trans (if_neg hread)

/-- A body that cannot be read is answered at once by the server itself. -/
theorem readBody_of_unreadable (h : request.IsUnreadable) :
    readBody request = .error (.detail 400 "There was an error parsing the body") := by
  obtain ⟨hempty, hjson, hdecode | ⟨text, excess, hdecode, hread⟩⟩ := h
  · rw [readBody_of_json hempty hjson, hdecode]
    rfl
  · rw [readBody_of_json hempty hjson, hdecode, Option.map_some, hread]

theorem enveloped_of_readBody (hreadable : ¬ request.IsUnreadable)
    (h : readBody request = .error response) : response.Enveloped := by
  by_cases hempty : request.body = []
  · simp [readBody, hempty] at h
  by_cases hjson : request.isJson = true
  · rw [readBody_of_json hempty hjson] at h
    cases hdecode : Json.decode? request.body with
    | none => exact absurd ⟨hempty, hjson, .inl hdecode⟩ hreadable
    | some text =>
        rw [hdecode, Option.map_some] at h
        cases hread : Json.readDecoded text with
        | ok value =>
            rw [hread] at h
            cases h
        | error e =>
            cases e with
            | malformed e =>
                rw [hread] at h
                cases h
                exact enveloped_error (by decide) _
            | excess excess =>
                exact absurd ⟨hempty, hjson, .inr ⟨text, excess, hdecode, hread⟩⟩ hreadable
  · simp [readBody, hempty, hjson] at h

theorem enveloped_of_configuration (hreadable : ¬ request.IsUnreadable)
    (h : request.configuration = .error response) : response.Enveloped := by
  rcases readBody_or_badRequest h with hread | ⟨description, rfl⟩
  · exact enveloped_of_readBody hreadable hread
  · exact enveloped_error (by decide) description

/-! ## Answers -/

theorem enveloped_credential (endpoint : Endpoint) (cause : CredentialError) :
    (report endpoint (.credential cause)).1.Enveloped := by
  cases cause with
  | missing => exact enveloped_error (by decide) _
  | malformed cause => exact enveloped_error (by decide : Status.badRequest ∈ Status.all) _
  | wrongKey => exact enveloped_error (by decide) _

/-- A command that fails with a report, or is refused, is answered in the common form. -/
theorem enveloped_report {invocation : Invocation} {e : Failure} {after : Running}
    (h : invocation.perform running = .error e after) (hfile : ∀ cause, e ≠ .file cause)
    (endpoint : Endpoint) : (report endpoint e).1.Enveloped := by
  rcases failure_of_perform h with ⟨rfl, -⟩ | ⟨holder, rfl⟩ | hstorage | hscript
  · exact enveloped_error (by decide) _
  · exact enveloped_error (by decide) _
  · cases e with
    | storage cause => exact enveloped_error (by decide) _
    | file cause => exact absurd rfl (hfile cause)
    | _ => cases hstorage
  · cases e with
    | command cause => exact enveloped_error (by decide) _
    | file cause => exact absurd rfl (hfile cause)
    | _ => cases hscript

theorem find?_of_invocation? {invocation : Invocation} (h : request.invocation? = some invocation) :
    Endpoint.find? request.method request.path = some (endpointOf invocation) := by
  unfold Request.invocation? at h
  cases hfind : Endpoint.find? request.method request.path with
  | none =>
      rw [hfind] at h
      cases h
  | some endpoint =>
      rw [hfind] at h
      cases endpoint with
      | showIdentity => cases h
      | showConfiguration => cases h
      | storeConfiguration =>
          obtain ⟨config, -, rfl⟩ := Option.map_eq_some_iff.mp h
          rfl
      | factoryReset =>
          cases h
          rfl
      | restart =>
          cases h
          rfl
      | shutdown =>
          cases h
          rfl

/-- A command that is carried out is answered as its endpoint promises. -/
theorem succeeds_done {invocation : Invocation} {message : String} {after : Running}
    (h : invocation.perform running = .ok message after) (device : Device) :
    (doneAnswer invocation message).Succeeds (endpointOf invocation) device := by
  rw [answer_of_perform h]
  refine ⟨rfl, okBody invocation.kind.answer, ?_, rfl⟩
  cases invocation <;> rfl

/-- An answer with a name is as its endpoint promises exactly if the name can be encoded. -/
theorem conforms_naming_iff {name : WideText} {body : Json} {device : Device}
    (h : endpoint.promised? device = some body) :
    (shown (naming name body)).Conforms endpoint device ↔ name.IsWhole := by
  rcases naming_cases name body with ⟨hname, hnaming⟩ | ⟨hname, hnaming⟩
  · rw [hnaming]
    exact ⟨fun _ => hname, fun _ => .inl ⟨rfl, body, h, rfl⟩⟩
  · rw [hnaming]
    exact ⟨fun h => absurd h (not_conforms_crash _ _ _), fun h => absurd h hname⟩

theorem conforms_showIdentity_iff (request : Request) (running : Running) :
    (answer .showIdentity request running).1.Conforms .showIdentity running.device ↔
      running.device.identity.productName.IsWhole := by
  rw [answer_showIdentity]
  exact conforms_naming_iff rfl

theorem conforms_showConfiguration_iff
    (hkey : request.carries running.device.identity.authorizationKey = true) :
    (answer .showConfiguration request running).1.Conforms .showConfiguration running.device ↔
      ∀ config, running.device.config = some config → config.name.IsWhole := by
  rw [answer_showConfiguration hkey]
  cases hconfig : running.device.config with
  | none => exact ⟨fun _ => nofun, fun _ => .inr (enveloped_error (by decide) _)⟩
  | some config =>
      have hpromised : Endpoint.promised? .showConfiguration running.device =
          some config.toJson := by simp [Endpoint.promised?, hconfig]
      rw [configurationAnswer, conforms_naming_iff hpromised]
      simp

/-- Whoever lacks the key is turned away in the common form, once the body is read. -/
theorem enveloped_of_not_carries
    (hkey : request.carries running.device.identity.authorizationKey = false)
    (hprotected : endpoint ≠ .showIdentity)
    (hreadable : endpoint = .storeConfiguration → ¬ request.IsUnreadable) :
    (answer endpoint request running).1.Enveloped := by
  obtain ⟨e, he⟩ := exists_error_of_not_carries hkey
  unfold answer
  generalize hbody : (if endpoint = .storeConfiguration then readBody request else .ok .absent) =
    body
  cases body with
  | ok body =>
      simp only [handle_of_refused hprotected he]
      exact enveloped_credential endpoint e
  | error response =>
      split at hbody
      next hstore => exact enveloped_of_readBody (hreadable hstore) hbody
      next => cases hbody

theorem answer_of_unreadable (h : request.IsUnreadable) :
    answer .storeConfiguration request running =
      (.detail 400 "There was an error parsing the body", running) := by
  unfold answer
  simp only [if_true, readBody_of_unreadable h]

theorem conforms_store_iff
    (h : request.configuration = .error response)
    (hkey : request.carries running.device.identity.authorizationKey = true) :
    (answer .storeConfiguration request running).1.Conforms .storeConfiguration running.device ↔
      ¬ request.IsUnreadable := by
  refine ⟨fun hconforms hunread => ?_, fun hreadable => ?_⟩
  · rw [answer_of_unreadable hunread] at hconforms
    exact not_conforms_detail (by simp) _ _ _ hconforms
  · rw [answer_store_of_carries hkey, h]
    exact .inr (enveloped_of_configuration hreadable h)

/-! ## Every answer -/

/-- An answer to a command has one of the forms exactly if the command does not escape. -/
theorem conforms_invocation_iff {invocation : Invocation}
    (hkey : request.carries running.device.identity.authorizationKey = true)
    (hask : request.invocation? = some invocation) :
    (respond request running).1.Conforms (endpointOf invocation) running.device ↔
      ¬ Escapes invocation running := by
  rw [respond_invocation hkey hask, escapes_iff]
  cases hperform : invocation.perform running with
  | ok message after =>
      refine ⟨fun _ => ?_, fun _ => .inl (succeeds_done hperform _)⟩
      rintro ⟨e, last, h⟩
      cases h
  | error e after =>
      by_cases hfile : ∃ cause, e = .file cause
      · obtain ⟨cause, rfl⟩ := hfile
        refine ⟨fun h => absurd h (not_conforms_crash _ _ _), fun h => absurd ⟨cause, after, rfl⟩ h⟩
      · have hother (cause : FileError) : e ≠ .file cause := fun h => hfile ⟨cause, h⟩
        refine ⟨fun _ => ?_, fun _ => .inr (enveloped_report hperform hother _)⟩
        rintro ⟨cause, last, h⟩
        cases h
        exact hfile ⟨cause, rfl⟩

/-- For a request that asks for a command it is the command that decides. -/
theorem uncovered_iff_escapes {invocation : Invocation}
    (hfind : Endpoint.find? request.method request.path = some endpoint)
    (hkey : request.carries running.device.identity.authorizationKey = true)
    (hask : request.invocation? = some invocation) :
    Uncovered request running endpoint ↔ Escapes invocation running := by
  have hendpoint : endpoint = endpointOf invocation :=
    Option.some.inj (hfind.symm.trans (find?_of_invocation? hask))
  constructor
  · intro h
    cases h with
    | body hunread =>
        simp only [Request.invocation?, hfind, Request.configuration,
          readBody_of_unreadable hunread] at hask
        cases hask
    | identity => cases invocation <;> cases hendpoint
    | configuration => cases invocation <;> cases hendpoint
    | script _ hask' hcomes hending =>
        cases hask.symm.trans hask'
        exact .script hcomes hending
    | home _ hask' _ hescapes =>
        cases hask.symm.trans hask'
        exact hescapes
  · intro hescapes
    cases hnull : Disk.hasNull running.device.home.path with
    | true => exact .home hkey hask hnull hescapes
    | false =>
        obtain ⟨name, moment, cause, hcomes, hending⟩ := (escapes_iff_of_home hnull).mp hescapes
        exact .script hkey hask hcomes hending

/-- For the identity it is its name, whoever asks. -/
theorem uncovered_showIdentity_iff
    (hfind : Endpoint.find? request.method request.path = some .showIdentity) :
    Uncovered request running .showIdentity ↔
      ¬ running.device.identity.productName.IsWhole := by
  have hnone {invocation : Invocation} (h : request.invocation? = some invocation) : False := by
    simp [Request.invocation?, hfind] at h
  refine ⟨fun h => ?_, .identity⟩
  cases h with
  | identity hname => exact hname
  | script _ hask => exact (hnone hask).elim
  | home _ hask => exact (hnone hask).elim

/-- For any other request with the key it is its body, or the name that it asks for. -/
theorem conforms_of_no_invocation_iff
    (hfind : Endpoint.find? request.method request.path = some endpoint)
    (hprotected : endpoint ≠ .showIdentity)
    (hkey : request.carries running.device.identity.authorizationKey = true)
    (hask : request.invocation? = none) :
    (answer endpoint request running).1.Conforms endpoint running.device ↔
      ¬ Uncovered request running endpoint := by
  have hnone {invocation : Invocation} (h : request.invocation? = some invocation) : False := by
    cases hask.symm.trans h
  unfold Request.invocation? at hask
  rw [hfind] at hask
  cases endpoint with
  | showIdentity => exact absurd rfl hprotected
  | showConfiguration =>
      rw [conforms_showConfiguration_iff hkey]
      refine ⟨fun hname h => ?_, fun h config hconfig =>
        by_contra fun hname => h (.configuration hkey hconfig hname)⟩
      cases h with
      | configuration _ hconfig hragged => exact hragged (hname _ hconfig)
      | script _ hask => exact hnone hask
      | home _ hask => exact hnone hask
  | storeConfiguration =>
      cases hconfig : request.configuration with
      | ok config =>
          rw [hconfig] at hask
          cases hask
      | error response =>
          rw [conforms_store_iff hconfig hkey]
          refine not_congr ⟨.body, fun h => ?_⟩
          cases h with
          | body hunread => exact hunread
          | script _ hask => exact (hnone hask).elim
          | home _ hask => exact (hnone hask).elim
  | factoryReset => cases hask
  | restart => cases hask
  | shutdown => cases hask

/-- The answer of every endpoint either has the body that the endpoint promises or tells of a
failure in the common form, except for a body that cannot be read, a name that cannot be encoded and
a command that escapes its reports. -/
theorem answers_conform_iff
    (hfind : Endpoint.find? request.method request.path = some endpoint) :
    (respond request running).1.Conforms endpoint running.device ↔
      ¬ Uncovered request running endpoint := by
  have hrespond : respond request running = answer endpoint request running := by
    unfold respond
    rw [hfind]
  by_cases hpublic : endpoint = .showIdentity
  · subst hpublic
    rw [hrespond, conforms_showIdentity_iff, uncovered_showIdentity_iff hfind, not_not]
  cases hkey : request.carries running.device.identity.authorizationKey with
  | true =>
      cases hask : request.invocation? with
      | none =>
          rw [hrespond]
          exact conforms_of_no_invocation_iff hfind hpublic hkey hask
      | some invocation =>
          obtain rfl : endpoint = endpointOf invocation :=
            Option.some.inj (hfind.symm.trans (find?_of_invocation? hask))
          rw [conforms_invocation_iff hkey hask, uncovered_iff_escapes hfind hkey hask]
  | false =>
      have hstranger : ¬ request.carries running.device.identity.authorizationKey = true := by
        simp [hkey]
      rw [hrespond]
      -- a body is read before the credential, so that an unreadable one decides alone
      by_cases hunread : endpoint = .storeConfiguration ∧ request.IsUnreadable
      · obtain ⟨rfl, hunread⟩ := hunread
        rw [answer_of_unreadable hunread]
        exact ⟨fun h => absurd h (not_conforms_detail (by simp) _ _ _),
          fun h => absurd (.body hunread) h⟩
      refine ⟨fun _ h => ?_, fun _ => .inr (enveloped_of_not_carries hkey hpublic
        fun hstore h => hunread ⟨hstore, h⟩)⟩
      cases h with
      | body hbody => exact hunread ⟨rfl, hbody⟩
      | identity => exact hpublic rfl
      | configuration hcarries => exact hstranger hcarries
      | script hcarries => exact hstranger hcarries
      | home hcarries => exact hstranger hcarries

theorem strangersRestart_conforms :
    Endpoint.find? strangersRestart.method strangersRestart.path = some .restart ∧
      (respond strangersRestart blankDevice).1.Conforms .restart blankDevice.device := by
  have hfind : Endpoint.find? strangersRestart.method strangersRestart.path = some .restart := by
    decide +kernel
  have hkey : strangersRestart.carries blankDevice.device.identity.authorizationKey = false := by
    decide +kernel
  refine ⟨hfind, (answers_conform_iff hfind).mpr fun h => ?_⟩
  cases h with
  | script hcarries => cases hkey.symm.trans hcarries
  | home hcarries => cases hkey.symm.trans hcarries

/-! ## A script that the system cannot run -/

/-- A lamp whose script for a restart is there, but no program that the system can run. -/
def brokenLamp : Running :=
  { blankDevice with
    world := { scripts := [("restart.sh", .failed (.reported "OSError" "Exec format error"))] } }

/-- A restart that is asked for with the key. -/
def ownersRestart : Request where
  method := "GET"
  path := "/api/v1/command/restart"
  headers := [("X-Api-Key", String.ofList (List.flatten (List.replicate 32 ['0', '2'])))]

theorem brokenLamp_crashes :
    Endpoint.find? ownersRestart.method ownersRestart.path = some .restart ∧
      ¬ (respond ownersRestart brokenLamp).1.Conforms .restart brokenLamp.device := by
  have hfind : Endpoint.find? ownersRestart.method ownersRestart.path = some .restart := by
    decide +kernel
  have hkey : ownersRestart.carries brokenLamp.device.identity.authorizationKey = true := by
    decide +kernel
  have hask : ownersRestart.invocation? = some .restart := by
    rw [Request.invocation?, hfind]
  have hcomes : Comes .restart brokenLamp (.awaitScript "restart.sh") _ :=
    ⟨rfl, rfl, .later rfl .here⟩
  refine ⟨hfind, fun h => ?_⟩
  exact (conforms_invocation_iff hkey hask).mp h (.script hcomes rfl)

end SmartDevice.Http
