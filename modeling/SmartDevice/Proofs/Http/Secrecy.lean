import SmartDevice.Proofs.Device.Secrecy
import SmartDevice.Proofs.Http.Register

/-! # The key of a device does not show

Take two devices that differ in their keys, and two sessions that differ in their credentials, each
of which its device decides on as the other does on the other. Nobody who sees the answers, the
console, the scripts that are run, or the stored configuration can tell the devices apart. -/

namespace SmartDevice

open Apply Disk Running

/-! ## Decisions -/

namespace Credential

/-- What kind of end the check of a credential comes to. -/
inductive Decision where
  | granted
  | missing
  | malformed
  | wrongKey
  deriving DecidableEq

def decision : Except CredentialError Key → Decision
  | .ok _ => .granted
  | .error .missing => .missing
  | .error (.malformed _) => .malformed
  | .error .wrongKey => .wrongKey

theorem decision_cases {x y : Except CredentialError Key} (h : decision x = decision y) :
    (∃ key key', x = .ok key ∧ y = .ok key') ∨
      ∃ e e', x = .error e ∧ y = .error e' ∧
        ∀ endpoint, Http.report endpoint (.credential e) = Http.report endpoint (.credential e') := by
  cases x with
  | ok key =>
      cases y with
      | ok key' => exact .inl ⟨key, key', rfl, rfl⟩
      | error e => cases e <;> cases h
  | error e =>
      cases y with
      | ok key => cases e <;> cases h
      | error e' =>
          refine .inr ⟨e, e', rfl, rfl, fun endpoint => ?_⟩
          cases e <;> cases e' <;> first | rfl | cases h

end Credential

namespace Http

/-! ## Requests -/

/-- The headers that have nothing to do with credentials. -/
def Request.otherHeaders (request : Request) : List (String × String) :=
  request.headers.filter fun header =>
    Text.lower header.1.toList ≠ Text.lower CredentialError.headerName.toList

/-- The same request with perhaps another credential. -/
structure Request.SameButCredential (p q : Request) : Prop where
  method : p.method = q.method
  path : p.path = q.path
  query : p.query = q.query
  otherHeaders : p.otherHeaders = q.otherHeaders
  body : p.body = q.body

theorem Request.header?_eq (request : Request) {name : String}
    (h : Text.lower name.toList ≠ Text.lower CredentialError.headerName.toList) :
    request.header? name = Credential.header? name request.otherHeaders := by
  unfold Request.header? Credential.header? otherHeaders
  simp only [List.find?_filter]
  congr 2
  funext header
  by_cases hname : Text.lower header.1.toList = Text.lower name.toList
  · simp [hname, h]
  · simp [hname]

namespace Request.SameButCredential

variable {p q : Request} (h : p.SameButCredential q)

include h

theorem readBody_eq : readBody p = readBody q := by
  have hname : Text.lower "content-type".toList ≠ Text.lower CredentialError.headerName.toList := by
    decide +kernel
  unfold readBody isJson
  rw [p.header?_eq hname, q.header?_eq hname, h.otherHeaders, h.body]

theorem unrouted_eq : unrouted p = unrouted q := by
  unfold unrouted
  rw [h.path, h.query]

theorem serve_eq (endpoint : Endpoint) (body : Body) :
    endpoint.serve p body = endpoint.serve q body := by
  cases endpoint with
  | factoryReset => simp only [Endpoint.serve, h.query]
  | _ => rfl

end Request.SameButCredential

/-! ## Answers -/

section

variable {p q : Request} {r s : Running}

theorem answer_secret (endpoint : Endpoint) (hrequest : p.SameButCredential q)
    (hdecision : Credential.decision (r.device.check p.credential) =
      Credential.decision (s.device.check q.credential))
    (h : r.SameButKey s) :
    (answer endpoint p r).1 = (answer endpoint q s).1 ∧
      (answer endpoint p r).2.SameButKey (answer endpoint q s).2 := by
  have hserve (body : Body) : Alike SameButKey (endpoint.serve p body) (endpoint.serve q body) := by
    rw [hrequest.serve_eq]
    exact SameButKey.uniform.serve endpoint q body
  simp only [answer, hrequest.readBody_eq]
  generalize (if endpoint = .storeConfiguration then readBody q else .ok .absent) = body
  cases body with
  | error response => exact ⟨rfl, h⟩
  | ok body =>
      simp only
      have hends : (∃ e e', endpoint.handle p body r = .error (.credential e) r ∧
            endpoint.handle q body s = .error (.credential e') s ∧
            report endpoint (.credential e) = report endpoint (.credential e')) ∨
          EndsAlike SameButKey (endpoint.handle p body r) (endpoint.handle q body s) := by
        by_cases hpublic : endpoint = .showIdentity
        · subst hpublic
          exact .inr (hserve body r s h)
        · rcases Credential.decision_cases hdecision with
            ⟨key, key', hr, hs⟩ | ⟨e, e', hr, hs, hreport⟩
          · rw [handle_of_granted hr, handle_of_granted hs]
            exact .inr (hserve body r s h)
          · exact .inl ⟨e, e', handle_of_refused hpublic hr body,
              handle_of_refused hpublic hs body, hreport endpoint⟩
      rcases hends with ⟨e, e', hr, hs, hreport⟩ | hends
      · rw [hr, hs]
        simp only [hreport]
        exact ⟨trivial, h.withConsole _⟩
      · rcases hends.cases with ⟨response, r', s', hr, hs, hsame⟩ | ⟨e, r', s', hr, hs, hsame⟩
        · rw [hr, hs]
          exact ⟨rfl, hsame⟩
        · rw [hr, hs]
          exact ⟨rfl, hsame.withConsole _⟩

theorem respond_secret (hrequest : p.SameButCredential q)
    (hdecision : Credential.decision (r.device.check p.credential) =
      Credential.decision (s.device.check q.credential))
    (h : r.SameButKey s) :
    (respond p r).1 = (respond q s).1 ∧ (respond p r).2.SameButKey (respond q s).2 := by
  unfold respond
  rw [hrequest.method, hrequest.path]
  cases Endpoint.find? q.method q.path with
  | none => exact ⟨hrequest.unrouted_eq, h⟩
  | some endpoint => exact answer_secret endpoint hrequest hdecision h

end

/-! ## Sessions -/

/-- What can be seen of a device from outside, but for its answers. -/
structure Sight where
  console : Console
  runs : List ScriptRun
  busy : Option String
  configuration : Except FileError (List UInt8)

/-- What can be seen of a running device. -/
def sight (running : Running) : Sight where
  console := running.world.console
  runs := running.world.runs
  busy := running.device.busy? running.world
  configuration := running.world.disk.content running.device.home.configFile

theorem sight_eq {r s : Running} (h : r.SameButKey s) : sight r = sight s := by
  obtain ⟨key, disk, hdisk, rfl⟩ := h
  have hfile := content_configFile_eq hdisk r.device.home
  simp only [sight, Device.withKey, hfile]
  rfl

/-- The answers to visits in a row, each with what can be seen after it. -/
def Visit.record : List Visit → Running → List (Response × Sight)
  | [], _ => []
  | visit :: visits, running =>
    let (response, after) := visit.serve running
    (response, sight after) :: Visit.record visits after

/-- A visit to one device and a visit to the other, in the same circumstances, with credentials on
which the devices decide alike. -/
structure Visit.Paired (key key' : Key) (visit visit' : Visit) : Prop where
  request : visit.request.SameButCredential visit'.request
  faults : visit.faults = visit'.faults
  scripts : visit.scripts = visit'.scripts
  decision : Credential.decision (Credential.check key visit.request.credential) =
    Credential.decision (Credential.check key' visit'.request.credential)

theorem Visit.prepare_secret {visit visit' : Visit} (hfaults : visit.faults = visit'.faults)
    (hscripts : visit.scripts = visit'.scripts) {r s : Running} (h : r.SameButKey s) :
    (visit.prepare r).SameButKey (visit'.prepare s) := by
  obtain ⟨key, disk, hdisk, rfl⟩ := h
  refine ⟨key, { disk with faults := visit'.faults }, ⟨hdisk.node, hdisk.working, hfaults.symm⟩, ?_⟩
  simp only [prepare, hscripts]

theorem Visit.key_serve (visit : Visit) (running : Running) :
    (visit.serve running).2.device.identity.authorizationKey =
      running.device.identity.authorizationKey :=
  congrArg (·.2.1.authorizationKey) (fixed_respond visit.request (visit.prepare running))

/-- Sessions that differ only in credentials, on which two devices with different keys decide alike,
show the same on both: the answers, the console, the scripts that are run, what the devices are busy
with and the configuration that is stored. -/
theorem key_does_not_show {r s : Running} (hsame : r.SameButKey s) {visits visits' : List Visit}
    (hpaired : List.Forall₂ (Visit.Paired r.device.identity.authorizationKey
      s.device.identity.authorizationKey) visits visits') :
    Visit.record visits r = Visit.record visits' s := by
  generalize hkey : r.device.identity.authorizationKey = key at hpaired
  generalize hkey' : s.device.identity.authorizationKey = key' at hpaired
  induction hpaired generalizing r s with
  | nil => rfl
  | @cons visit visit' visits visits' hpair _ ih =>
    have hdecision : Credential.decision ((visit.prepare r).device.check visit.request.credential) =
        Credential.decision ((visit'.prepare s).device.check visit'.request.credential) := by
      have hdecision := hpair.decision
      rw [← hkey, ← hkey'] at hdecision
      exact hdecision
    obtain ⟨hresponse, hafter⟩ := respond_secret hpair.request hdecision
      (Visit.prepare_secret hpair.faults hpair.scripts hsame)
    have hlater := ih hafter ((visit.key_serve r).trans hkey) ((visit'.key_serve s).trans hkey')
    exact congrArg₂ List.cons (Prod.ext hresponse (sight_eq hafter)) hlater

/-! ## Two lamps -/

/-- A running lamp with a key of equal bytes. -/
def lampWithKey (byte : UInt8) : Running :=
  let identity := { Device.lamp with authorizationKey := ⟨List.replicate 32 byte, rfl⟩ }
  let file := Node.file (Text.Utf8.encode identity.toText.toList)
  { device := { home := ⟨Path.ofString "home"⟩, identity, config := none, lock := 0 }
    world := { disk := Device.lampWorld.disk.put ["device.json", "home"] file } }

/-- A credential of thirty-two equal bytes. -/
def credentialOf (digit : Char) : List (String × String) :=
  [("X-Api-Key", String.ofList (List.flatten (List.replicate 32 ['0', digit])))]

/-- A configuration is stored with the right key, then a restart is tried with a wrong one and one
without. -/
def lampSession (right wrong : Char) : List Visit :=
  [{ request := {
      method := "PUT"
      path := "/api/v1/device/configuration"
      headers := ("content-type", "application/json") :: credentialOf right
      body := Text.Utf8.encode Device.lampConfig.toText.toList } },
    { request := {
      method := "GET", path := "/api/v1/command/restart", headers := credentialOf wrong } },
    { request := { method := "GET", path := "/api/v1/command/restart" }
      scripts := [("restart.sh", .finished 0 [] [])] }]

theorem lamps_show_the_same :
    (lampWithKey 7).SameButKey (lampWithKey 9) ∧
      Visit.record (lampSession '7' '9') (lampWithKey 7) =
        Visit.record (lampSession '9' '7') (lampWithKey 9) := by
  have hplace : IsIdentityFile ["device.json", "home"] := rfl
  have hsame : (lampWithKey 7).SameButKey (lampWithKey 9) :=
    ⟨⟨List.replicate 32 9, rfl⟩, _, (AgreeBut.refl _).putFiles hplace (by simp) _ _, rfl⟩
  refine ⟨hsame, key_does_not_show hsame ?_⟩
  refine .cons ⟨⟨rfl, rfl, rfl, by decide +kernel, rfl⟩, rfl, rfl, by decide +kernel⟩ ?_
  refine .cons ⟨⟨rfl, rfl, rfl, by decide +kernel, rfl⟩, rfl, rfl, by decide +kernel⟩ ?_
  exact .cons ⟨⟨rfl, rfl, rfl, rfl, rfl⟩, rfl, rfl, rfl⟩ .nil

end Http

end SmartDevice
