import SmartDevice.Proofs.Command.Passage

/-! # What a command has done, however it ends

A command may be refused, fail to store something or fail with its script. In each case the lock,
the configuration, the files and the noted scripts tell how far it came. -/

namespace SmartDevice.Command

open Apply World Running Device

variable {invocation : Invocation} {running moment after : Running} {config : Option Config}
  {name : String}

/-! ## How scripts end -/

/-- How a run of a script is going to end. -/
def endingOf (script : Path) (world : World) : ScriptOutcome :=
  let name := (Text.split '/' script.toString.toList).getLast?.getD []
  (world.scripts.lookup (String.ofList name)).getD .notFound

theorem outcomeOf_apply (script : Path) (world : World) :
    outcomeOf script world = .ok (endingOf script world) world :=
  rfl

/-- The same of one of the device's own scripts. -/
def ownEnding (name : String) (world : World) : ScriptOutcome :=
  endingOf ((directoryOf world).child name) world

/-- Only a script that exits with status zero is one that succeeds. -/
theorem endingOf_of_awaitScript {script : Path} {timeout : Timeout} {world left : World}
    {output : String} (h : awaitScript name script timeout world = .ok output left) :
    ∃ out err, endingOf script world = .finished 0 out err := by
  unfold awaitScript at h
  simp only [bind_apply, outcomeOf_apply] at h
  cases hending : endingOf script world with
  | finished status out err =>
      rw [hending] at h
      by_cases hstatus : status = 0
      · exact ⟨out, err, by rw [hstatus]⟩
      · simp only [ne_eq, hstatus, not_false_eq_true, if_true, bind_apply, throw_apply] at h
        cases h
  | _ =>
      rw [hending] at h
      cases h

theorem ownEnding_of_perform (h : (Phase.awaitScript name).perform moment = .ok ⟨⟩ after) :
    ∃ out err, ownEnding name moment.world = .finished 0 out err := by
  simp only [Phase.perform, bind_apply, around_apply, scriptDirectory_apply] at h
  cases hawait : awaitScript name ((directoryOf moment.world).child name) defaultTimeout
      moment.world with
  | ok output left => exact endingOf_of_awaitScript hawait
  | error e left =>
      rw [hawait] at h
      cases h

/-- What decides about the scripts of the device. -/
def settings (running : Running) : List (String × String) × List (String × ScriptOutcome) :=
  (running.world.environment, running.world.scripts)

theorem keeps_settings_perform (phase : Phase) : Keeps settings phase.perform :=
  keeps_perform (fun _ _ _ _ => rfl) (fun _ _ => rfl) phase

theorem ownEnding_of_settings (h : settings moment = settings running) :
    ownEnding name moment.world = ownEnding name running.world := by
  obtain ⟨henvironment, hscripts⟩ := Prod.mk.inj h
  simp only [ownEnding, endingOf, directoryOf, henvironment, hscripts]

/-! ## Phases around a change of the configuration -/

/-- The phase may change the configuration in memory or in its file. -/
def Phase.reachesConfig : Phase → Bool
  | store _ | adopt _ => true
  | _ => false

theorem keeps_core_perform {phase : Phase} (h : phase.reachesConfig = false) :
    Keeps core phase.perform := by
  cases phase with
  | announceReset => exact fun _ => rfl
  | store config => cases h
  | adopt config => cases h
  | startScript name => exact fun _ => rfl
  | awaitScript name =>
      refine .bind (keeps_core_around ?_) fun _ => .pure _
      exact .bind (fun _ => rfl) fun directory => keeps_awaitScript (fun _ _ => rfl) _ _ _

theorem keeps_core_performAll {phases : List Phase}
    (h : ∀ phase ∈ phases, phase.reachesConfig = false) : Keeps core (performAll phases) := by
  induction phases with
  | nil => exact .pure _
  | cons phase phases ih =>
      exact .bind (keeps_core_perform (h phase List.mem_cons_self)) fun _ =>
        ih fun other hother => h other (List.mem_cons_of_mem _ hother)

/-- A configuration that was stored and adopted is the one in memory and in its file. -/
theorem settled_of_performAll {first rest : List Phase}
    (hfirst : ∀ phase ∈ first, phase.reachesConfig = false)
    (hrest : ∀ phase ∈ rest, phase.reachesConfig = false)
    (h : performAll (first ++ [.store config, .adopt config] ++ rest) running = .ok ⟨⟩ after) :
    after.device.config = config ∧
      ((config = none → running.device.home.Truthful running.world.disk) →
        running.device.home.InLine after.world.disk config) := by
  rw [performAll_append, performAll_append, performAll_setConfig, bind_apply, bind_apply] at h
  cases hbegun : performAll first running with
  | error e begun =>
      rw [hbegun] at h
      cases h
  | ok answer begun =>
      simp only [hbegun, setConfig_apply] at h
      obtain ⟨hdevice, hdisk⟩ := Prod.mk.inj ((keeps_core_performAll hfirst).ok hbegun)
      rw [← hdevice, ← hdisk]
      cases hstore : store begun.device.home config begun.world with
      | error e world =>
          rw [hstore] at h
          cases h
      | ok answer world =>
          rw [hstore] at h
          obtain ⟨hdevice, hdisk⟩ := Prod.mk.inj ((keeps_core_performAll hrest).ok h)
          rw [hdevice, hdisk]
          refine ⟨rfl, fun ht => ?_⟩
          have hline : begun.device.home.InLine world.disk config := inLine_of_store ht hstore
          exact hline

/-! ## Moments of a command -/

/-- A command that has acquired the lock comes to the moment at which it starts a script. -/
def Starts (invocation : Invocation) (running : Running) (name : String) (moment : Running) :
    Prop :=
  ∃ guard held, acquire invocation.kind.reason running = .ok guard held ∧
    Passes invocation.phases held (.startScript name) moment

/-- The script of a reset is started with the configuration gone. -/
theorem settled_of_reset {held : Running}
    (h : Passes invocation.phases held (.startScript "factory_reset.sh") moment) :
    moment.device.config = none ∧
      (held.device.home.Truthful held.world.disk →
        moment.world.disk.Absent held.device.home.configFile) := by
  cases invocation with
  | factoryReset confirm =>
      simp only [Invocation.phases, Passes.cons_iff, reduceCtorEq, false_and, false_or, true_and,
        Passes.not_nil, and_false, exists_false, or_false] at h
      obtain ⟨announced, hannounce, stored, hstore, adopted, hadopt, rfl⟩ := h
      have hall : performAll ([.announceReset] ++ [.store none, .adopt none] ++ []) held =
          .ok ⟨⟩ moment := by
        simp only [List.cons_append, List.nil_append, performAll, bind_apply, hannounce, hstore,
          hadopt, pure_apply]
      obtain ⟨hconfig, habsent⟩ :=
        settled_of_performAll (by simp [Phase.reachesConfig]) (by simp) hall
      exact ⟨hconfig, fun ht => habsent fun _ => ht⟩
  | _ => simp [Invocation.phases, Passes.cons_iff, Passes.not_nil] at h

/-- Until something is stored no script is started and nothing changes about the device. -/
theorem untouched_before_store {held : Running}
    (h : Passes invocation.phases held (.store config) moment) :
    moment.device = held.device ∧ moment.world.runs = held.world.runs := by
  cases invocation with
  | factoryReset confirm =>
      simp only [Invocation.phases, Passes.cons_iff, reduceCtorEq, false_and, false_or,
        Passes.not_nil, and_false, exists_false, or_false] at h
      obtain ⟨announced, hannounce, ⟨-, rfl⟩⟩ := h
      cases hannounce
      exact ⟨rfl, rfl⟩
  | saveConfiguration new =>
      simp only [Invocation.phases, Passes.cons_iff, reduceCtorEq, false_and, Passes.not_nil,
        and_false, exists_false, or_false] at h
      obtain ⟨-, rfl⟩ := h
      exact ⟨rfl, rfl⟩
  | _ => simp [Invocation.phases, Passes.cons_iff, Passes.not_nil] at h

theorem keeps_device_store (config : Option Config) :
    Keeps (fun running : Running => (running.device, running.world.runs))
      (Phase.store config).perform :=
  .bind .get fun _ => keeps_around fun running =>
    congrArg (running.device, ·) (keeps_store (fun _ _ => rfl) _ config running.world)

/-- Only storing fails as storing does. -/
theorem eq_store_of_storage {phase : Phase} {cause : StorageError}
    (h : phase.perform moment = .error (.storage cause) after) :
    ∃ config, phase = .store config := by
  cases phase with
  | announceReset => cases h
  | store config => exact ⟨config, rfl⟩
  | adopt config => cases h
  | startScript name => cases h
  | awaitScript name =>
      have hraises : Raises Failure.FromScript (Phase.awaitScript name).perform :=
        .bind (raises_around (.bind (fun _ _ _ h => by cases h) fun _ =>
          raises_awaitScript _ _ _)) fun _ => .pure _
      exact absurd (hraises _ _ _ h) id

/-! ## Commands to a free device -/

section Free

variable (hconfirmed : invocation.isConfirmed = true)
  (hfree : running.device.busy? running.world = none)

include hconfirmed hfree

/-- The command goes through its phases and gives the lock back. -/
theorem perform_free :
    invocation.perform running =
      match performAll invocation.phases (taken invocation.kind.reason running) with
      | .ok _ after =>
        .ok invocation.kind.answer (after.giveBack running.world.locks.guards.length)
      | .error e after => .error e (after.giveBack running.world.locks.guards.length) := by
  have hacquire := acquire_free invocation.kind.reason_ne_empty hfree
  refine (Invocation.perform_apply hconfirmed running).trans ?_
  cases hall : performAll invocation.phases (taken invocation.kind.reason running) with
  | ok _ after => simp only [hacquire, hall]
  | error e after => simp only [hacquire, hall]

theorem left_perform_free :
    left invocation.perform running =
      (left (performAll invocation.phases) (taken invocation.kind.reason running)).giveBack
        running.world.locks.guards.length := by
  unfold left
  rw [perform_free hconfirmed hfree]
  cases performAll invocation.phases (taken invocation.kind.reason running) <;> rfl

theorem performAll_of_ok {answer : String} (h : invocation.perform running = .ok answer after) :
    answer = invocation.kind.answer ∧ ∃ last,
      performAll invocation.phases (taken invocation.kind.reason running) = .ok ⟨⟩ last ∧
        after = last.giveBack running.world.locks.guards.length := by
  rw [perform_free hconfirmed hfree] at h
  cases hall : performAll invocation.phases (taken invocation.kind.reason running) with
  | ok _ last =>
      rw [hall] at h
      cases h
      exact ⟨rfl, last, rfl, rfl⟩
  | error e last =>
      rw [hall] at h
      cases h

theorem performAll_of_error {e : Failure} (h : invocation.perform running = .error e after) :
    ∃ last, performAll invocation.phases (taken invocation.kind.reason running) = .error e last ∧
      after = last.giveBack running.world.locks.guards.length := by
  rw [perform_free hconfirmed hfree] at h
  cases hall : performAll invocation.phases (taken invocation.kind.reason running) with
  | ok _ last =>
      rw [hall] at h
      cases h
  | error e last =>
      rw [hall] at h
      cases h
      exact ⟨last, rfl, rfl⟩

end Free

/-! ## Conduct -/

/-- What a command is to store, if it is confirmed. -/
def Invocation.stores? : Invocation → Option (Option Config)
  | factoryReset confirm => if confirm = some confirmation then some none else none
  | saveConfiguration config => some (some config)
  | restart | shutdown => none

/-- What a confirmed command has done to a free device once it is over. -/
structure Conducted (invocation : Invocation) (running : Running) : Prop where
  /-- The device is free again. -/
  free : (left invocation.perform running).device.busy? (left invocation.perform running).world =
    none
  /-- At most one script was started, while the device was busy with this command. -/
  scripts : ∃ moments : List (String × Running), moments.length ≤ 1 ∧
    (left invocation.perform running).world.runs =
      running.world.runs ++ moments.map (fun (name, moment) => noted name moment) ∧
    ∀ name moment, (name, moment) ∈ moments → Starts invocation running name moment ∧
      moment.device.busy? moment.world = some invocation.kind.reason
  /-- The device was reset while no configuration was left. -/
  reset : ∀ moment, Starts invocation running "factory_reset.sh" moment →
    moment.device.config = none ∧
      (running.device.home.Truthful running.world.disk →
        moment.world.disk.Absent running.device.home.configFile)
  /-- If something could not be stored, no script was started and the configuration is the same. -/
  unstored : ∀ cause after, invocation.perform running = .error (.storage cause) after →
    after.world.runs = running.world.runs ∧ after.device = running.device
  /-- If all went well, the script has succeeded and the configuration is the new one. -/
  done : ∀ answer after, invocation.perform running = .ok answer after →
    answer = invocation.kind.answer ∧
      (∀ name, .startScript name ∈ invocation.phases →
        ∃ out err, ownEnding name running.world = .finished 0 out err) ∧
      ∀ config, invocation.stores? = some config → after.device.config = config ∧
        ((config = none → running.device.home.Truthful running.world.disk) →
          running.device.home.InLine after.world.disk config)

/-- The guard of the command keeps the device busy with it as long as the phases last. -/
theorem keeping_of_locks {kind : Kind} (h : locksOf moment = locksOf (taken kind.reason running)) :
    Keeping moment running.world.locks.guards.length kind.reason :=
  (keeping_taken _ running).of_locks h

theorem countP_script (invocation : Invocation) :
    invocation.phases.countP (·.script?.isSome) ≤ 1 := by
  cases invocation <;> simp [Invocation.phases, Phase.script?]

/-- Each script that is started is awaited. -/
theorem mem_awaitScript (h : .startScript name ∈ invocation.phases) :
    .awaitScript name ∈ invocation.phases := by
  cases invocation with
  | saveConfiguration config => simp [Invocation.phases] at h
  | _ =>
      simp only [Invocation.phases, List.mem_cons, Phase.startScript.injEq, reduceCtorEq,
        List.not_mem_nil, or_false, false_or] at h
      simp [Invocation.phases, h]

theorem isConfirmed_of_stores? (h : invocation.stores? = some config) :
    invocation.isConfirmed = true := by
  cases invocation with
  | factoryReset confirm =>
      by_cases hconfirm : confirm = some confirmation
      · simp [Invocation.isConfirmed, hconfirm]
      · simp [Invocation.stores?, hconfirm] at h
  | _ => rfl

/-- Before a command stores something, it has at most announced itself. -/
theorem split_of_stores? (h : invocation.stores? = some config) :
    ∃ first rest, invocation.phases = first ++ [.store config, .adopt config] ++ rest ∧
      (first = [] ∨ first = [.announceReset]) ∧ ∀ phase ∈ rest, phase.reachesConfig = false := by
  cases invocation with
  | factoryReset confirm =>
      by_cases hconfirm : confirm = some confirmation
      · obtain rfl : none = config := by simpa [Invocation.stores?, hconfirm] using h
        refine ⟨[.announceReset],
          [.startScript "factory_reset.sh", .awaitScript "factory_reset.sh"], rfl, .inr rfl, ?_⟩
        simp [Phase.reachesConfig]
      · simp [Invocation.stores?, hconfirm] at h
  | saveConfiguration new =>
      obtain rfl : some new = config := by simpa [Invocation.stores?] using h
      exact ⟨[], [], rfl, .inl rfl, by simp⟩
  | _ => cases h

theorem reachesConfig_of_first {first : List Phase} (h : first = [] ∨ first = [.announceReset]) :
    ∀ phase ∈ first, phase.reachesConfig = false := by
  rcases h with rfl | rfl
  · simp
  · simp [Phase.reachesConfig]

/-- The lock is what carries the argument: whatever the phases do, they leave it alone. -/
theorem conducted (hconfirmed : invocation.isConfirmed = true)
    (hfree : running.device.busy? running.world = none) : Conducted invocation running := by
  have hleft := left_perform_free hconfirmed hfree
  refine ⟨?_, ?_, ?_, ?_, ?_⟩
  · rw [hleft]
    exact (keeping_of_locks (keeps_performAll keeps_locks_perform invocation.phases _)).free
  · obtain ⟨moments, hruns, hpasses, hlength⟩ :=
      runs_performAll invocation.phases (taken invocation.kind.reason running)
    refine ⟨moments, Nat.le_trans hlength (countP_script invocation), ?_, ?_⟩
    · rw [hleft]
      exact hruns
    · intro name moment hmem
      have hpassed := hpasses name moment hmem
      refine ⟨⟨_, _, acquire_free invocation.kind.reason_ne_empty hfree, hpassed⟩, ?_⟩
      exact (keeping_of_locks (hpassed.keeps keeps_locks_perform)).busy_eq
  · rintro moment ⟨guard, held, hacquire, hpassed⟩
    rw [acquire_free invocation.kind.reason_ne_empty hfree] at hacquire
    cases hacquire
    have hsettled := settled_of_reset hpassed
    exact hsettled
  · intro cause after hfailed
    obtain ⟨last, hall, rfl⟩ := performAll_of_error hconfirmed hfree hfailed
    obtain ⟨phase, moment, hpassed, hphase⟩ := exists_failing_phase hall
    obtain ⟨config, rfl⟩ := eq_store_of_storage hphase
    obtain ⟨hdevice, hruns⟩ := untouched_before_store hpassed
    obtain ⟨hlastDevice, hlastRuns⟩ := Prod.mk.inj ((keeps_device_store config).error hphase)
    exact ⟨hlastRuns.trans hruns, hlastDevice.trans hdevice⟩
  · intro answer after hdone
    obtain ⟨rfl, last, hall, rfl⟩ := performAll_of_ok hconfirmed hfree hdone
    refine ⟨rfl, fun name hmem => ?_, fun config hstores => ?_⟩
    · obtain ⟨moment, hpassed⟩ := exists_passes hall (mem_awaitScript hmem)
      obtain ⟨next, hnext⟩ := hpassed.perform_eq_ok hall
      have hsettings := hpassed.keeps keeps_settings_perform
      have hending : ownEnding name moment.world = ownEnding name running.world :=
        ownEnding_of_settings hsettings
      rw [← hending]
      exact ownEnding_of_perform hnext
    · obtain ⟨first, rest, hphases, hfirst, hrest⟩ := split_of_stores? hstores
      rw [hphases] at hall
      have hsettled := settled_of_performAll (reachesConfig_of_first hfirst) hrest hall
      exact hsettled

/-! ## All commands -/

/-- Whatever is asked of a device in whatever state: a reset without its confirmation and a command
to a busy device have no effect, any other command is conducted to its end, and those that only run
a script leave the device and its files alone. -/
theorem commands_are_conducted (running : Running) :
    (∀ confirm, confirm ≠ some confirmation →
      factoryReset confirm running = .error .unconfirmed running) ∧
    (∀ invocation : Invocation, invocation.isConfirmed = true →
      (∀ reason, running.device.busy? running.world = some reason →
        invocation.perform running = .error (.operation (.busy reason)) running) ∧
      (running.device.busy? running.world = none → Conducted invocation running)) ∧
    (left restart running).core = running.core ∧ (left shutdown running).core = running.core := by
  refine ⟨?_, fun invocation hconfirmed => ⟨?_, conducted hconfirmed⟩,
    keeps_core_restart running, keeps_core_shutdown running⟩
  · intro confirm hconfirm
    have hunconfirmed : (Invocation.factoryReset confirm).isConfirmed = false := by
      simpa [Invocation.isConfirmed] using hconfirm
    exact Invocation.perform_unconfirmed hunconfirmed running
  · intro reason hbusy
    rw [Invocation.perform_apply hconfirmed,
      acquire_busy invocation.kind.reason_ne_empty hbusy]

/-- A lamp with a configuration, whose script for a reset does not come to an end. -/
def configuredLamp : Running where
  device := {
    home := ⟨Path.ofString "home"⟩
    identity := {
      productName := "Lamp"
      authorizationKey := ⟨List.replicate 32 4, rfl⟩
      privateKeyFile := Path.ofString "private.pem"
      uuid := ⟨0⟩ }
    config := some { name := "Porch", sharedKey := ⟨List.replicate 32 5, rfl⟩ }
    lock := 0 }
  world := {
    disk := {
      nodes := [(["config.json", "home"], .file []), (["home"], .directory)] }
    scripts := [("factory_reset.sh", .timedOut)] }

theorem store_configuredLamp (world : World) (hdisk : world.disk = configuredLamp.world.disk) :
    store configuredLamp.device.home none world =
      .ok ⟨⟩ { world with disk := world.disk.erase ["config.json", "home"] } := by
  have hnull : Disk.hasNull configuredLamp.device.home.configFile = false := by
    simp [Disk.hasNull, show configuredLamp.device.home.configFile =
      { parts := ["home", "config.json"] } by decide]
  have hplace : configuredLamp.world.disk.locate configuredLamp.device.home.configFile =
      .ok ["config.json", "home"] := by decide +kernel
  have hfound := (Disk.found_eq_ok_iff _).mpr ⟨hnull, hplace⟩
  have hcalm (point : FaultPoint) : Disk.Calm point configuredLamp.world.disk := by
    simp [Disk.Calm, configuredLamp]
  have hnode : configuredLamp.world.disk.node? ["config.json", "home"] = some (.file []) := rfl
  rw [← hdisk] at hfound hcalm hnode
  rw [store_apply, Option.elim_none, Home.removeConfig_of_file hcalm hfound hnode]

/-- Where the configuration can be removed, a reset comes to its script. -/
theorem exists_starts_reset {guard : ℕ} {held : Running} {stored : World} (confirm : Option String)
    (hacquire : acquire Kind.factoryReset.reason running = .ok guard held)
    (hstore : store held.device.home none
      (held.world.saying (.warning "Performing factory reset")) = .ok ⟨⟩ stored) :
    ∃ moment, Starts (.factoryReset confirm) running "factory_reset.sh" moment := by
  have hphase : (Phase.store none).perform { held with
      world := held.world.saying (.warning "Performing factory reset") } =
        .ok ⟨⟩ { held with world := stored } := by
    simp only [Phase.perform, bind_apply, get_apply, around_apply, hstore]
  exact ⟨_, guard, held, hacquire, .later rfl (.later hphase (.later rfl .here))⟩

/-- The reset fails late: the configuration is gone, and the device is free again. -/
theorem reset_of_configuredLamp :
    configuredLamp.device.busy? configuredLamp.world = none ∧
      Conducted (.factoryReset (some confirmation)) configuredLamp ∧
      ∃ moment,
        Starts (.factoryReset (some confirmation)) configuredLamp "factory_reset.sh" moment ∧
        moment.device.config = none ∧
        moment.world.disk.Absent configuredLamp.device.home.configFile := by
  have hconducted := ((commands_are_conducted configuredLamp).2.1
    (.factoryReset (some confirmation)) (by decide)).2 rfl
  have htruthful : configuredLamp.device.home.Truthful configuredLamp.world.disk := by
    simp [Home.Truthful, configuredLamp]
  have hacquire : acquire Kind.factoryReset.reason configuredLamp =
      .ok 0 (taken Kind.factoryReset.reason configuredLamp) :=
    acquire_free (Kind.reason_ne_empty _) rfl
  have hstore := store_configuredLamp ((taken Kind.factoryReset.reason
    configuredLamp).world.saying (.warning "Performing factory reset")) rfl
  obtain ⟨moment, hstarts⟩ := exists_starts_reset (some confirmation) hacquire hstore
  obtain ⟨hconfig, habsent⟩ := hconducted.reset moment hstarts
  exact ⟨rfl, hconducted, moment, hstarts, hconfig, habsent htruthful⟩

end SmartDevice.Command
