import SmartDevice.Proofs.Command.Effect
import SmartDevice.Proofs.Device.Startup
import SmartDevice.Proofs.Http.Commands
import SmartDevice.Proofs.Http.Twins

/-! # The service as a register

Seen from outside, a device is a register that holds a configuration or none. Only what was stored
changes it, and a device that is started again from its files goes on with the same register. There
is one thing that a register can hold without being able to show it: a name with half of a pair. -/

namespace SmartDevice.Http

open Apply Command Device Disk Running

/-! ## Visits -/

/-- A request, the faults that wait for its file operations and the ways in which scripts end. -/
structure Visit where
  request : Request
  faults : List (FaultPoint × SystemError) := []
  scripts : List (String × ScriptOutcome) := []

variable {visit : Visit} {running r s : Running} {config : Option Config} {home : Home}
  {place : Location}

namespace Visit

/-- What the request meets with. -/
def prepare (visit : Visit) (running : Running) : Running :=
  { running with
    world := { running.world with
      disk := { running.world.disk with faults := visit.faults }
      scripts := visit.scripts } }

def serve (visit : Visit) (running : Running) : Response × Running :=
  respond visit.request (visit.prepare running)

/-- What the request is to store. -/
def stores? (visit : Visit) : Option (Option Config) :=
  visit.request.invocation?.bind Invocation.stores?

/-- The answers to visits in a row. -/
def answers : List Visit → Running → List Response
  | [], _ => []
  | visit :: visits, running =>
    (visit.serve running).1 :: answers visits (visit.serve running).2

end Visit

/-- The request carries the key of the device. -/
def Request.HasKeyOf (request : Request) (running : Running) : Prop :=
  request.carries running.device.identity.authorizationKey = true

theorem Request.HasKeyOf.of_fixed {request : Request} (h : request.HasKeyOf r)
    (hfixed : s.device.fixed = r.device.fixed) : request.HasKeyOf s := by
  have hidentity : s.device.identity = r.device.identity :=
    congrArg (fun fixed => fixed.2.1) hfixed
  unfold HasKeyOf
  rw [hidentity]
  exact h

/-! ## What a visit does -/

section Effect

variable {invocation : Invocation} (hkey : visit.request.HasKeyOf running)

include hkey

theorem same_serve (h : visit.request.invocation? = some invocation) :
    (left invocation.perform (visit.prepare running)).SameButConsole (visit.serve running).2 :=
  same_left_perform hkey h

/-- A visit that is to store nothing leaves the device and its files alone. -/
theorem core_serve (h : visit.stores? = none) :
    (visit.serve running).2.core = (visit.prepare running).core := by
  cases hinvocation : visit.request.invocation? with
  | none => exact congrArg core (unchanged_of_no_invocation hkey hinvocation)
  | some invocation =>
      have hstores : invocation.stores? = none := by
        simpa [Visit.stores?, hinvocation] using h
      obtain ⟨c, hsame⟩ := same_serve hkey hinvocation
      rw [hsame]
      exact keeps_core_of_stores? hstores (visit.prepare running)

/-- Any other visit does what storing does; if that fails, the answer says so. -/
theorem core_serve_stores (hfree : running.device.busy? running.world = none)
    (h : visit.stores? = some config) :
    match store running.device.home config (visit.prepare running).world with
    | .ok _ stored =>
      (visit.serve running).2.core = ({ running.device with config }, stored.disk)
    | .error _ stored => (visit.serve running).2.core = (running.device, stored.disk) ∧
        (visit.serve running).1.status = 500 := by
  obtain ⟨invocation, hinvocation, hstores⟩ := Option.bind_eq_some_iff.mp h
  obtain ⟨c, hsame⟩ := same_serve hkey hinvocation
  have hprepared : (visit.prepare running).device.busy? (visit.prepare running).world = none :=
    hfree
  have hcore := core_left_perform hprepared hstores
  rw [hsame]
  cases hstore : store running.device.home config (visit.prepare running).world with
  | ok answer stored =>
      rw [show store (visit.prepare running).device.home config _ = _ from hstore] at hcore
      exact hcore
  | error e stored =>
      rw [show store (visit.prepare running).device.home config _ = _ from hstore] at hcore
      obtain ⟨after, hfailed, hafter⟩ := hcore
      rw [left_of_error hfailed]
      exact ⟨hafter, status_of_unstored hkey hinvocation hfailed (raises_store _ _ _ _ _ hstore)⟩

/-- Locks are as they were after any visit to a free device. -/
theorem locks_serve (hfree : running.device.busy? running.world = none) :
    (visit.serve running).2.world.locks.nextLock = running.world.locks.nextLock ∧
      ∀ lock, (visit.serve running).2.world.locks.busy? lock =
        running.world.locks.busy? lock := by
  cases hinvocation : visit.request.invocation? with
  | none =>
      have hsame : (visit.serve running).2 = visit.prepare running :=
        unchanged_of_no_invocation hkey hinvocation
      rw [hsame]
      exact ⟨rfl, fun _ => rfl⟩
  | some invocation =>
      obtain ⟨c, hsame⟩ := same_serve hkey hinvocation
      have hprepared : (visit.prepare running).device.busy? (visit.prepare running).world = none :=
        hfree
      have hlocks := locks_left_perform invocation hprepared
      rw [hsame]
      exact hlocks

end Effect

theorem fixed_serve (visit : Visit) (running : Running) :
    (visit.serve running).2.device.fixed = running.device.fixed :=
  fixed_respond visit.request (visit.prepare running)

/-! ## The register -/

/-- A device and the register that it is compared with. -/
structure Served where
  running : Running
  register : Option Config

namespace Served

/-- The register changes where something is stored, and only there. -/
def next (served : Served) (visit : Visit) : Served where
  running := (visit.serve served.running).2
  register :=
    match visit.stores? with
    | none => served.register
    | some config =>
      match store served.running.device.home config (visit.prepare served.running).world with
      | .ok _ _ => config
      | .error _ _ => served.register

def after (start : Served) (visits : List Visit) : Served := visits.foldl next start

theorem after_concat (start : Served) (visits : List Visit) (visit : Visit) :
    start.after (visits ++ [visit]) = (start.after visits).next visit := by
  rw [after, List.foldl_append]
  rfl

end Served

/-- No lock from the next number on is busy. -/
def NoneInUse (register : Operation.Register) : Prop :=
  ∀ lock, register.nextLock ≤ lock → register.busy? lock = none

/-- The device has the configuration of the register, and no command is left over. -/
structure Follows (served : Served) : Prop where
  memory : served.running.device.config = served.register
  free : served.running.device.busy? served.running.world = none
  unused : NoneInUse served.running.world.locks

theorem Follows.next {served : Served} (h : Follows served)
    (hkey : visit.request.HasKeyOf served.running) : Follows (served.next visit) := by
  obtain ⟨hnext, hbusy⟩ := locks_serve hkey h.free
  have hlock : (visit.serve served.running).2.device.lock = served.running.device.lock :=
    congrArg (fun fixed => fixed.2.2) (fixed_serve visit served.running)
  refine ⟨?_, ?_, ?_⟩
  · simp only [Served.next]
    cases hstores : visit.stores? with
    | none =>
        have hconfig := congrArg (fun core => core.1.config) (core_serve hkey hstores)
        exact hconfig.trans h.memory
    | some config =>
        have hcore := core_serve_stores hkey h.free hstores
        simp only
        cases hstore : store served.running.device.home config
            (visit.prepare served.running).world with
        | ok answer stored =>
            rw [hstore] at hcore
            exact congrArg (fun core => core.1.config) hcore
        | error e stored =>
            rw [hstore] at hcore
            exact (congrArg (fun core => core.1.config) hcore.1).trans h.memory
  · have hfree := hbusy served.running.device.lock
    rw [← hlock] at hfree
    exact hfree.trans (hlock ▸ h.free)
  · intro lock hle
    have hle' : served.running.world.locks.nextLock ≤ lock := hnext ▸ hle
    exact (hbusy lock).trans (h.unused lock hle')

theorem Follows.after {start : Served} (h : Follows start) (visits : List Visit)
    (hkey : ∀ visit ∈ visits, visit.request.HasKeyOf start.running) :
    Follows (start.after visits) ∧
      (start.after visits).running.device.fixed = start.running.device.fixed := by
  induction visits using List.reverseRecOn with
  | nil => exact ⟨h, rfl⟩
  | append_singleton visits visit ih =>
      obtain ⟨hfollows, hfixed⟩ := ih fun other hother => hkey other (List.mem_append_left _ hother)
      have hvisit := (hkey visit (by simp)).of_fixed hfixed
      rw [Served.after_concat]
      exact ⟨hfollows.next hvisit, (fixed_serve visit _).trans hfixed⟩

/-! ## The files -/

/-- The files hold the records that the device has in memory. -/
structure Recorded (home : Home) (place : Location) (running : Running) : Prop where
  agrees : Agrees home place running
  identity : Identity.stored home.identityFile.toString running.world.disk =
    .ok running.device.identity

theorem Recorded.disturbed (hnormal : home.path.Normal) (h : Recorded home place r)
    (hdisturbed : Disturbed r s) : Recorded home place s := by
  have hidentity : s.device.identity = r.device.identity := by rw [hdisturbed.device]
  refine ⟨(hdisturbed.sound hnormal h.agrees).agrees, ?_⟩
  rw [hidentity]
  exact Identity.stored_of_touches hnormal h.agrees.resides hdisturbed.same id h.identity

theorem not_isConfigPlace_identity (place : Location) :
    ¬ IsConfigPlace place ("device.json" :: place) := by
  simp [IsConfigPlace]

/-- Commands are sound, and those that remove nothing do not depend on the truth about removals. -/
theorem isSound_invocation (hnormal : home.path.Normal) (invocation : Invocation) :
    IsSound home place (invocation.stores? = some none) invocation.perform := by
  cases hstores : invocation.stores? with
  | none => exact isSound_of_keeps (keeps_core_of_stores? hstores)
  | some config =>
      cases invocation with
      | factoryReset confirm =>
          have hnone : config = none := by
            unfold Invocation.stores? at hstores
            split at hstores <;> simp_all
          exact (isSound_factoryReset hnormal confirm).mono fun _ => by rw [hnone]
      | restart => cases hstores
      | shutdown => cases hstores
      | saveConfiguration config => exact (isSound_saveConfiguration hnormal config).mono nofun

theorem Recorded.serve (hnormal : home.path.Normal) (h : Recorded home place running)
    (hkey : visit.request.HasKeyOf running)
    (ht : visit.stores? = some none → home.Truthful (visit.prepare running).world.disk) :
    Recorded home place (visit.serve running).2 := by
  have hprepared : Recorded home place (visit.prepare running) :=
    h.disturbed hnormal ⟨rfl, rfl, rfl⟩
  cases hinvocation : visit.request.invocation? with
  | none =>
      have hsame : (visit.serve running).2 = visit.prepare running :=
        unchanged_of_no_invocation hkey hinvocation
      rw [hsame]
      exact hprepared
  | some invocation =>
      have hstores : visit.stores? = invocation.stores? := by simp [Visit.stores?, hinvocation]
      obtain ⟨c, hsame⟩ := same_serve hkey hinvocation
      have hsound := (isSound_invocation hnormal invocation _ hprepared.agrees
        fun hremoves => ht (hstores.trans hremoves)).sound
      have hidentity : (visit.serve running).2.device.identity = running.device.identity :=
        congrArg (fun fixed => fixed.2.1) (fixed_serve visit running)
      refine ⟨?_, ?_⟩
      · rw [hsame]
        exact hsound.agrees.of_core rfl
      · rw [hidentity, hsame]
        exact Identity.stored_of_touches hnormal hprepared.agrees.resides hsound.touches
          (not_isConfigPlace_identity place) hprepared.identity

/-- Whenever a removal is to fail in one of the visits, missing files are reported truthfully. -/
def Honest (start : Served) (visits : List Visit) : Prop :=
  ∀ before visit later, visits = before ++ visit :: later → visit.stores? = some none →
    (start.after before).running.device.home.Truthful
      (visit.prepare (start.after before).running).world.disk

theorem Recorded.after (hnormal : home.path.Normal) {start : Served}
    (h : Recorded home place start.running) (hfollows : Follows start) (visits : List Visit)
    (hkey : ∀ visit ∈ visits, visit.request.HasKeyOf start.running)
    (hhonest : Honest start visits) : Recorded home place (start.after visits).running := by
  induction visits using List.reverseRecOn with
  | nil => exact h
  | append_singleton visits visit ih =>
      have hkeys : ∀ visit ∈ visits, visit.request.HasKeyOf start.running :=
        fun other hother => hkey other (List.mem_append_left _ hother)
      have hrecorded := ih hkeys fun before other later hsplit =>
        hhonest before other (later ++ [visit]) (by simp [hsplit])
      have hvisit := (hkey visit (by simp)).of_fixed (hfollows.after visits hkeys).2
      rw [Served.after_concat]
      refine hrecorded.serve hnormal hvisit fun hremoves => ?_
      exact hrecorded.agrees.home_eq ▸ hhonest visits visit [] rfl hremoves

/-! ## Starting again -/

theorem answers_twins (h : FreeTwins r s) (visits : List Visit) :
    Visit.answers visits r = Visit.answers visits s := by
  induction visits generalizing r s with
  | nil => rfl
  | cons visit visits ih =>
      have hdisk : (visit.prepare r).world.disk = (visit.prepare s).world.disk :=
        congrArg (fun disk => { disk with faults := visit.faults }) h.twins.world.disk
      have hprepared : FreeTwins (visit.prepare r) (visit.prepare s) :=
        ⟨⟨h.twins.home, h.twins.identity, h.twins.config, hdisk, h.twins.world.environment, rfl⟩,
          h.left, h.right⟩
      obtain ⟨hresponse, hnext⟩ := respond_twins hprepared visit.request
      simp only [Visit.answers, Visit.serve, hresponse, ih hnext]

/-- A device that is started again from the files, with a console that can show its name, has the
configuration of the register, and gives the same answers from then on. -/
def Restartable (served : Served) : Prop :=
  ∀ faults console, Calm .read (served.running.withFaults faults).world.disk →
    (console.enabled = true → served.running.device.identity.productName.IsWhole) →
    ∃ device loaded,
      Device.load served.running.device.home
        { (served.running.withFaults faults).world with console } = .ok device loaded ∧
      device.identity = served.running.device.identity ∧ device.config = served.register ∧
      ∀ visits, Visit.answers visits ⟨device, loaded⟩ = Visit.answers visits served.running

theorem restartable (hnormal : home.path.Normal) {served : Served} (hfollows : Follows served)
    (hrecorded : Recorded home place served.running) : Restartable served := by
  intro faults console hcalm hname
  have hlater := hrecorded.disturbed hnormal (disturbed_withFaults faults served.running)
  let again : World := { (served.running.withFaults faults).world with console }
  have hcalm' : Calm .read again.disk := hcalm
  obtain ⟨device, loaded, hload⟩ :=
    exists_load hcalm' hlater.identity hname hlater.agrees.recalled
  obtain ⟨hidentity, hconfig, hhome, hdisk⟩ := load_eq_ok hcalm' hload
  obtain ⟨-, hlock, hlocks, henvironment, hscripts⟩ := load_new hload
  have hsameIdentity : device.identity = served.running.device.identity :=
    Except.ok.inj (hidentity.symm.trans hlater.identity)
  have hsameConfig : device.config = served.running.device.config :=
    Except.ok.inj (hconfig.symm.trans hlater.agrees.recalled)
  have hfree : device.busy? loaded = none := by
    rw [Device.busy?, hlock, hlocks]
    exact hfollows.unused _ (Nat.le_refl _)
  have htwins : FreeTwins ⟨device, loaded⟩ (served.running.withFaults faults) :=
    ⟨⟨hhome.trans hlater.agrees.home_eq.symm, hsameIdentity, hsameConfig, hdisk, henvironment,
      hscripts⟩, hfree, hfollows.free⟩
  refine ⟨device, loaded, ?_, hsameIdentity, hsameConfig.trans hfollows.memory, fun visits => ?_⟩
  · rw [hrecorded.agrees.home_eq]
    exact hload
  · rw [answers_twins htwins visits]
    cases visits <;> rfl

/-! ## Refinement -/

/-- What the register says about the answer to the next visit with the key. -/
structure Refines (served : Served) : Prop where
  shows : ∀ visit : Visit, visit.request.HasKeyOf served.running →
    Endpoint.find? visit.request.method visit.request.path = some .showConfiguration →
      (visit.serve served.running).1 = match served.register with
        | none => .error .notFound "This device has not been configured yet."
        | some config =>
          if config.name.IsWhole then .ok (.object [("name", .string config.name),
            ("dht_shared_key", .string (config.sharedKey.hex .lower))])
          else .crash .unencodable
  rejects : ∀ visit : Visit, visit.request.HasKeyOf served.running →
    Endpoint.find? visit.request.method visit.request.path = some .storeConfiguration →
    (∀ config, visit.request.configuration ≠ .ok config) →
      (visit.serve served.running).1.status = 400
  saves : ∀ (visit : Visit) config stored, visit.request.HasKeyOf served.running →
    Endpoint.find? visit.request.method visit.request.path = some .storeConfiguration →
    visit.stores? = some config →
    store served.running.device.home config (visit.prepare served.running).world =
      .ok ⟨⟩ stored →
      (visit.serve served.running).1 = .ok (okBody "Configuration saved.")
  /-- Also a removal can fail. -/
  fails : ∀ (visit : Visit) config e stored, visit.request.HasKeyOf served.running →
    visit.stores? = some config →
    store served.running.device.home config (visit.prepare served.running).world =
      .error e stored →
      (visit.serve served.running).1.status = 500

theorem Follows.refines {served : Served} (h : Follows served) : Refines served where
  shows visit hkey hfind := by
    have hanswer : visit.serve served.running =
        (shown (configurationAnswer served.running.device.config),
          visit.prepare served.running) :=
      respond_showConfiguration hkey hfind
    rw [hanswer, ← h.memory]
    cases served.running.device.config with
    | none => rfl
    | some config =>
        simp only [configurationAnswer]
        rcases naming_cases config.name config.toJson with ⟨hname, h⟩ | ⟨hname, h⟩
        · rw [h, if_pos hname]
          rfl
        · rw [h, if_neg hname]
          rfl
  rejects visit hkey hfind hrejected := status_of_rejected hkey hfind hrejected
  saves visit config stored hkey hfind hstores hstore := by
    obtain ⟨invocation, hinvocation, hinvoked⟩ := Option.bind_eq_some_iff.mp hstores
    obtain ⟨new, rfl⟩ : ∃ new, invocation = .saveConfiguration new := by
      simp only [Request.invocation?, hfind, Option.map_eq_some_iff] at hinvocation
      obtain ⟨new, -, hnew⟩ := hinvocation
      exact ⟨new, hnew.symm⟩
    cases hinvoked
    have hprepared : (visit.prepare served.running).device.busy?
        (visit.prepare served.running).world = none := h.free
    obtain ⟨after, hperform⟩ := saveConfiguration_of_store hprepared hstore
    have hprepare : visit.request.HasKeyOf (visit.prepare served.running) := hkey
    rw [Visit.serve, respond_invocation hprepare hinvocation, Invocation.perform, hperform]
    rfl
  fails visit config e stored hkey hstores hstore := by
    have hcore := core_serve_stores hkey h.free hstores
    rw [hstore] at hcore
    exact hcore.2

/-- After any visits with the key, whatever fails in them, the device shows the register unless its
name cannot be encoded; and if its files were read without a fault when it started, it can be
started again from them. -/
theorem service_refines_register (path : String) {world loaded : World} {device : Device}
    (hunused : NoneInUse world.locks)
    (hload : Device.load ⟨Path.ofString path⟩ world = .ok device loaded) (visits : List Visit)
    (hkey : ∀ visit ∈ visits, visit.request.HasKeyOf ⟨device, loaded⟩) :
    let start : Served := ⟨⟨device, loaded⟩, device.config⟩
    Refines (start.after visits) ∧
      (Calm .read world.disk → Honest start visits → Restartable (start.after visits)) := by
  have hnormal : (Home.mk (Path.ofString path)).path.Normal := Path.normal_ofString path
  obtain ⟨-, hlock, hlocks, -, -⟩ := load_new hload
  have hfollows : Follows ⟨⟨device, loaded⟩, device.config⟩ := by
    refine ⟨rfl, ?_, ?_⟩
    · rw [Device.busy?, hlock, hlocks]
      exact hunused _ (Nat.le_refl _)
    · rw [hlocks]
      exact fun lock hle => hunused lock (Nat.le_of_succ_le hle)
  have hlast := (hfollows.after visits hkey).1
  refine ⟨hlast.refines, fun hcalm hhonest => ?_⟩
  obtain ⟨hidentity, hrecalled, hhome, hdisk⟩ := load_eq_ok hcalm hload
  obtain ⟨place, hresides⟩ := Home.resides_of_stored hnormal hidentity
  have hrecorded : Recorded ⟨Path.ofString path⟩ place ⟨device, loaded⟩ :=
    ⟨⟨hhome, hdisk ▸ hresides, hdisk ▸ hrecalled⟩, hdisk ▸ hidentity⟩
  exact restartable hnormal hlast (hrecorded.after hnormal hfollows visits hkey hhonest)

/-- The lamp is configured, then reset while its script for that is missing. -/
def lampVisits : List Visit :=
  let headers := [("x-api-key", String.ofList (List.flatten (List.replicate 32 ['0', '7'])))]
  [{ request := {
      method := "PUT"
      path := "/api/v1/device/configuration"
      headers := ("content-type", "application/json") :: headers
      body := Text.Utf8.encode lampConfig.toText.toList } },
    { request := {
      method := "GET"
      path := "/api/v1/command/factory_reset"
      query := "confirm=I+really+want+to+perform+a+factory+reset"
      headers } }]

theorem lamp_refines_register :
    ∃ device loaded, Device.load ⟨Path.ofString "home"⟩ lampWorld = .ok device loaded ∧
      NoneInUse lampWorld.locks ∧
      (∀ visit ∈ lampVisits, visit.request.HasKeyOf ⟨device, loaded⟩) ∧
      Refines (Served.after ⟨⟨device, loaded⟩, device.config⟩ lampVisits) ∧
      Restartable (Served.after ⟨⟨device, loaded⟩, device.config⟩ lampVisits) := by
  obtain ⟨device, loaded, hload⟩ := lampWorld_loads
  have hunused : NoneInUse lampWorld.locks := fun _ _ => rfl
  have hidentity : device.identity = lamp :=
    Except.ok.inj ((load_eq_ok lampWorld_calm hload).1.symm.trans lampWorld_identity)
  have hkey : ∀ visit ∈ lampVisits, visit.request.HasKeyOf ⟨device, loaded⟩ := by
    have hcarries : ∀ visit ∈ lampVisits,
        visit.request.carries lamp.authorizationKey = true := by decide +kernel
    intro visit hmem
    rw [Request.HasKeyOf, show Device.identity _ = lamp from hidentity]
    exact hcarries visit hmem
  have hhonest : Honest ⟨⟨device, loaded⟩, device.config⟩ lampVisits := by
    have hfaults : ∀ visit ∈ lampVisits, visit.faults = [] := by simp [lampVisits]
    intro before visit later hsplit _ e hmem
    have hnone := hfaults visit (by rw [hsplit]; simp)
    simp [Visit.prepare, hnone] at hmem
  obtain ⟨hrefines, hrestartable⟩ := service_refines_register "home" hunused hload lampVisits hkey
  exact ⟨device, loaded, hload, hunused, hkey, hrefines, hrestartable lampWorld_calm hhonest⟩

/-- A configuration whose name is the first half of a pair. -/
def raggedConfig : Config where
  name := ⟨[0xd800]⟩
  sharedKey := lampConfig.sharedKey

/-- A visit that asks for the configuration of the lamp. -/
def lampShow : Visit where
  request := {
    method := "GET"
    path := "/api/v1/device/configuration"
    headers := [("x-api-key", String.ofList (List.flatten (List.replicate 32 ['0', '7'])))] }

/-- The lamp starts with that configuration but fails to show it. -/
theorem ragged_lamp_crashes :
    ∃ device loaded,
      Device.load ⟨Path.ofString "home"⟩
        (lampHolding (Text.Utf8.encode raggedConfig.toText.toList)) = .ok device loaded ∧
      device.config = some raggedConfig ∧
      lampShow.request.HasKeyOf ⟨device, loaded⟩ ∧
      Endpoint.find? lampShow.request.method lampShow.request.path = some .showConfiguration ∧
      (lampShow.serve ⟨device, loaded⟩).1 = .crash .unencodable := by
  let bytes := Text.Utf8.encode raggedConfig.toText.toList
  have hcalm := lampHolding_calm bytes
  have hresides := lampWorld_resides.sameDirectories (touches_lampHolding bytes).directories
  have hrecalled : Home.recalled ⟨Path.ofString "home"⟩ (lampHolding bytes).disk =
      .ok (some raggedConfig) :=
    Home.recalled_some (Path.normal_ofString _) hresides raggedConfig rfl
  obtain ⟨device, loaded, hload⟩ := exists_load hcalm (stored_lampHolding bytes)
    (fun _ => WideText.isWhole_ofString _) hrecalled
  obtain ⟨hidentity, hconfig, -, -⟩ := load_eq_ok hcalm hload
  have hlamp : device.identity = lamp :=
    Except.ok.inj (hidentity.symm.trans (stored_lampHolding bytes))
  have hragged : device.config = some raggedConfig :=
    Except.ok.inj (hconfig.symm.trans hrecalled)
  have hkey : lampShow.request.HasKeyOf ⟨device, loaded⟩ := by
    rw [Request.HasKeyOf, show Device.identity _ = lamp from hlamp]
    decide +kernel
  have hfind : Endpoint.find? lampShow.request.method lampShow.request.path =
      some .showConfiguration := by decide +kernel
  refine ⟨device, loaded, hload, hragged, hkey, hfind, ?_⟩
  have hanswer : lampShow.serve ⟨device, loaded⟩ =
      (shown (configurationAnswer device.config), lampShow.prepare ⟨device, loaded⟩) :=
    respond_showConfiguration hkey hfind
  rw [hanswer, hragged]
  rfl

end SmartDevice.Http
