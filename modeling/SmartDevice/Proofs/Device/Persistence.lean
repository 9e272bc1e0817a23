import SmartDevice.Proofs.Device.Frame
import SmartDevice.Proofs.Device.Loading

/-! # The configuration in memory is the one that is stored

Whatever is done to a running device, and whichever of its file operations fail, reading its records
again gives the configuration that it has in memory. -/

namespace SmartDevice

open Apply Disk

variable {α : Type} {home : Home} {place : Location} {removes : Prop}
  {now before after later start : Running}

/-- The same device and world, with the given faults waiting. -/
def Running.withFaults (faults : List (FaultPoint × SystemError)) (now : Running) : Running :=
  { now with world := { now.world with disk := { now.world.disk with faults } } }

namespace Device

/-! ## Memory and files in agreement -/

/-- The device has the configuration that is stored in its home. -/
structure Agrees (home : Home) (place : Location) (now : Running) : Prop where
  home_eq : now.device.home = home
  resides : home.Resides place now.world.disk
  recalled : home.recalled now.world.disk = .ok now.device.config

/-- The places of the configuration and of the temporary file beside it. -/
def IsConfigPlace (place location : Location) : Prop :=
  location = "config.json" :: place ∨ location = "config.json.tmp" :: place

/-- The configuration is neither changed in memory nor on the disk. -/
def SameConfig (place : Location) (before after : Running) : Prop :=
  after.device.config = before.device.config ∧
    after.world.disk.node? ("config.json" :: place) =
      before.world.disk.node? ("config.json" :: place)

/-- What holds after an operation, however it ended. -/
structure Sound (home : Home) (place : Location) (before after : Running) : Prop where
  agrees : Agrees home place after
  touches : Touches (IsConfigPlace place) before.world.disk after.world.disk

/-- What holds after an operation that may have failed: if it failed to store something, it has not
changed the configuration. -/
def EndsSound (home : Home) (place : Location) (before : Running) :
    EStateM.Result Failure Running α → Prop
  | .ok _ after => Sound home place before after
  | .error e after =>
    Sound home place before after ∧ ∀ cause, e = .storage cause → SameConfig place before after

/-- An operation is sound wherever the home is truthful, which matters if the operation removes the
stored configuration. -/
def IsSound (home : Home) (place : Location) (removes : Prop) (operation : Running.Action α) :
    Prop :=
  ∀ before, Agrees home place before → (removes → home.Truthful before.world.disk) →
    EndsSound home place before (operation before)

theorem IsSound.mono {p q : Prop} {operation : Running.Action α}
    (h : IsSound home place p operation) (hpq : p → q) : IsSound home place q operation :=
  fun before hagrees ht => h before hagrees fun hp => ht (hpq hp)

/-! ## Operations that do not reach the configuration -/

theorem Agrees.of_core (h : Agrees home place before) (hcore : after.core = before.core) :
    Agrees home place after := by
  obtain ⟨hdevice, hdisk⟩ := Prod.mk.inj hcore
  exact ⟨hdevice ▸ h.home_eq, hdisk ▸ h.resides, hdevice ▸ hdisk ▸ h.recalled⟩

theorem Sound.of_core (h : Agrees home place before) (hcore : after.core = before.core) :
    Sound home place before after :=
  ⟨h.of_core hcore, (Prod.mk.inj hcore).2 ▸ Touches.refl _⟩

theorem SameConfig.of_core (hcore : after.core = before.core) : SameConfig place before after := by
  obtain ⟨hdevice, hdisk⟩ := Prod.mk.inj hcore
  exact ⟨by rw [hdevice], by rw [hdisk]⟩

theorem isSound_of_keeps {operation : Running.Action α} (h : Keeps Running.core operation) :
    IsSound home place removes operation := by
  intro before hagrees _
  cases hresult : operation before with
  | ok answer after => exact .of_core hagrees (h.ok hresult)
  | error e after =>
      exact ⟨.of_core hagrees (h.error hresult), fun _ _ => .of_core (h.error hresult)⟩

/-! ## Storing -/

theorem isSound_setConfig (hnormal : home.path.Normal) (config : Option Config) :
    IsSound home place (config = none) (setConfig config) := by
  intro before h ht
  rw [Device.setConfig_apply, h.home_eq]
  rcases Device.store_cases hnormal h.resides config ht with
    ⟨disk, hstore, htouches, hrecalled⟩ | ⟨e, disk, hstore, htouches⟩
  · rw [hstore]
    exact ⟨⟨h.home_eq, h.resides.sameDirectories htouches.directories, hrecalled⟩, htouches⟩
  · have hfile : disk.node? ("config.json" :: place) =
        before.world.disk.node? ("config.json" :: place) :=
      htouches.elsewhere _ (by simp)
    have hrecalled := Home.recalled_of_same_file hnormal h.resides htouches.directories hfile
    rw [hstore]
    refine ⟨⟨⟨h.home_eq, h.resides.sameDirectories htouches.directories, ?_⟩, ?_⟩, ?_⟩
    · exact hrecalled.trans h.recalled
    · exact htouches.mono fun _ => .inr
    · exact fun _ _ => ⟨rfl, hfile⟩

/-! ## Operations in a row -/

/-- After an operation come others that do not reach the configuration, such as scripts. -/
theorem IsSound.bind {β : Type} {operation : Running.Action α} {rest : α → Running.Action β}
    (h : IsSound home place removes operation) (hrest : ∀ a, Keeps Running.core (rest a))
    (hraises : ∀ a, Raises Failure.FromScript (rest a)) :
    IsSound home place removes (operation >>= rest) := by
  intro before hagrees ht
  have hends := h before hagrees ht
  rw [bind_apply]
  cases hoperation : operation before with
  | error e after =>
      rw [hoperation] at hends
      exact hends
  | ok answer between =>
      rw [hoperation] at hends
      have hsound (after : Running) (hcore : after.core = between.core) :
          Sound home place before after :=
        ⟨hends.agrees.of_core hcore,
          hends.touches.trans (Sound.of_core hends.agrees hcore).touches⟩
      simp only
      cases hresult : rest answer between with
      | ok b after => exact hsound after ((hrest answer).ok hresult)
      | error e after =>
          refine ⟨hsound after ((hrest answer).error hresult), fun cause he => ?_⟩
          subst he
          exact absurd (hraises answer _ _ _ hresult) id

/-- An operation ends as soundly from a state with the same device and files. -/
theorem EndsSound.of_core {result : EStateM.Result Failure Running α}
    (h : EndsSound home place now result) (hcore : now.core = before.core) :
    EndsSound home place before result := by
  obtain ⟨hdevice, hdisk⟩ := Prod.mk.inj hcore
  cases result with
  | ok answer after => exact ⟨h.agrees, hdisk ▸ h.touches⟩
  | error e after =>
      obtain ⟨hsound, hsame⟩ := h
      refine ⟨⟨hsound.agrees, hdisk ▸ hsound.touches⟩, fun cause he => ?_⟩
      obtain ⟨hmemory, hfile⟩ := hsame cause he
      exact ⟨hdevice ▸ hmemory, hdisk ▸ hfile⟩

/-- Before the operation comes another that does not reach the configuration. -/
theorem IsSound.prefixed {β : Type} {first : Running.Action β} {operation : β → Running.Action α}
    (hfirst : Keeps Running.core first) (h : ∀ b, IsSound home place removes (operation b)) :
    IsSound home place removes (first >>= operation) := by
  intro before hagrees ht
  rw [bind_apply]
  cases hresult : first before with
  | ok b between =>
      have hcore := hfirst.ok hresult
      exact (h b between (hagrees.of_core hcore) ((Prod.mk.inj hcore).2 ▸ ht)).of_core hcore
  | error e after =>
      exact ⟨.of_core hagrees (hfirst.error hresult), fun _ _ => .of_core (hfirst.error hresult)⟩

theorem IsSound.exclusively {operation : Running.Action α}
    (h : IsSound home place removes operation) (reason : String) :
    IsSound home place removes (Device.exclusively reason operation) := by
  intro before hagrees ht
  rw [Device.exclusively_apply]
  cases hacquire : Device.acquire reason before with
  | error e after =>
      have hcore := (Device.keeps_core_acquire reason).error hacquire
      exact ⟨.of_core hagrees hcore, fun _ _ => .of_core hcore⟩
  | ok guard held =>
      have hcore := (Device.keeps_core_acquire reason).ok hacquire
      have hends := (h held (hagrees.of_core hcore) ((Prod.mk.inj hcore).2 ▸ ht)).of_core hcore
      simp only
      cases hoperation : operation held with
      | ok answer after =>
          rw [hoperation] at hends
          exact ⟨hends.agrees.of_core rfl, hends.touches⟩
      | error e after =>
          rw [hoperation] at hends
          exact ⟨⟨hends.1.agrees.of_core rfl, hends.1.touches⟩, hends.2⟩

/-! ## Commands -/

theorem isSound_factoryReset (hnormal : home.path.Normal) (confirm : Option String) :
    IsSound home place True (Command.factoryReset confirm) := by
  have hreset : IsSound home place True (do
      Running.say (Console.warning "Performing factory reset")
      Device.setConfig none
      Command.runOwnScript "factory_reset.sh") :=
    .prefixed (fun _ => rfl) fun _ => ((isSound_setConfig hnormal none).mono fun _ => trivial).bind
      (fun _ => Device.keeps_core_runOwnScript _) fun _ => Command.raises_runOwnScript _
  have hdone : IsSound home place True (do
      Device.exclusively Command.Kind.factoryReset.reason do
        Running.say (Console.warning "Performing factory reset")
        Device.setConfig none
        Command.runOwnScript "factory_reset.sh"
      return Command.Kind.factoryReset.answer) :=
    (hreset.exclusively _).bind (fun _ => .pure _) fun _ => .pure _
  unfold Command.factoryReset
  split
  · exact isSound_of_keeps fun _ => rfl
  · exact hdone

theorem isSound_saveConfiguration (hnormal : home.path.Normal) (config : Config) :
    IsSound home place False (Command.saveConfiguration config) :=
  (((isSound_setConfig hnormal _).mono nofun).exclusively _).bind (fun _ => .pure _) fun _ =>
    .pure _

/-! ## Steps -/

/-- What can be done to a running device. -/
inductive Step where
  | setConfig (config : Option Config)
  | saveConfiguration (config : Config)
  | factoryReset (confirm : Option String)
  | restart
  | shutdown
  | runScript (name : String) (timeout : Timeout)
  | getConfig
  | check (presented : Option (List Char))
  | acquire (reason : String)
  | release (guard : ℕ)

def Step.perform : Step → Running.Action Unit
  | setConfig config => Device.setConfig config
  | saveConfiguration config => do let _ ← Command.saveConfiguration config
  | factoryReset confirm => do let _ ← Command.factoryReset confirm
  | restart => do let _ ← Command.restart
  | shutdown => do let _ ← Command.shutdown
  | runScript name timeout => do
    let busy ← Device.isBusyWith
    let _ ← Running.around (Command.runScript name timeout busy)
  | getConfig => do let _ ← Device.getConfig
  | check presented => do
    match (← get).device.check presented with
    | .error e => throw (.credential e)
    | .ok _ => pure ()
  | acquire reason => do let _ ← Device.acquire reason
  | release guard => Running.around (World.release guard)

/-- The step is to remove the stored configuration. -/
def Step.Removes : Step → Prop
  | setConfig config => config = none
  | factoryReset _ => True
  | _ => False

/-- Each step keeps memory and files in agreement. -/
theorem isSound_perform (hnormal : home.path.Normal) (step : Step) :
    IsSound home place step.Removes step.perform := by
  cases step with
  | setConfig config => exact isSound_setConfig hnormal config
  | saveConfiguration config =>
      exact (isSound_saveConfiguration hnormal config).bind (fun _ => .pure _) fun _ => .pure _
  | factoryReset confirm =>
      exact (isSound_factoryReset hnormal confirm).bind (fun _ => .pure _) fun _ => .pure _
  | restart => exact isSound_of_keeps (.bind Device.keeps_core_restart fun _ => .pure _)
  | shutdown => exact isSound_of_keeps (.bind Device.keeps_core_shutdown fun _ => .pure _)
  | runScript name timeout =>
      exact isSound_of_keeps (.bind (fun _ => rfl) fun busy =>
        .bind (Device.keeps_core_runScript name timeout busy) fun _ => .pure _)
  | getConfig => exact isSound_of_keeps (fun _ => rfl)
  | check presented =>
      refine isSound_of_keeps (.bind .get fun running => ?_)
      cases running.device.check presented with
      | error e => exact .throw _
      | ok key => exact .pure _
  | acquire reason =>
      exact isSound_of_keeps (.bind (Device.keeps_core_acquire reason) fun _ => .pure _)
  | release guard =>
      refine isSound_of_keeps (Running.keeps_core_around ?_)
      intro world
      rw [left_of_ok (World.release_apply guard world)]
      rfl

/-! ## Runs -/

/-- Between two steps anything may become different around the device but not its files. -/
structure Disturbed (before after : Running) : Prop where
  device : after.device = before.device
  nodes : after.world.disk.nodes = before.world.disk.nodes
  workingDirectory : after.world.disk.workingDirectory = before.world.disk.workingDirectory

/-- The states that any steps lead to, whichever file operations are made to fail in them. -/
inductive Reaches (start : Running) : Running → Prop where
  | start : Reaches start start
  | disturbed {now later : Running} : Reaches start now → Disturbed now later → Reaches start later
  | step {now : Running} (step : Step) : Reaches start now →
    (step.Removes → now.device.home.Truthful now.world.disk) →
    Reaches start (left step.perform now)

theorem Disturbed.same (h : Disturbed before after) : Same before.world.disk after.world.disk := by
  have hnode (location : Location) :
      after.world.disk.node? location = before.world.disk.node? location := by
    cases location with
    | nil => rfl
    | cons name above => simp only [node?, h.nodes]
  exact ⟨fun location _ => hnode location, fun location => by rw [hnode], h.workingDirectory⟩

theorem Disturbed.sound (hnormal : home.path.Normal) (h : Disturbed before after)
    (hagrees : Agrees home place before) : Sound home place before after := by
  have hsame := h.same
  refine ⟨⟨?_, hagrees.resides.sameDirectories hsame.directories, ?_⟩, hsame.touches⟩
  · rw [h.device, hagrees.home_eq]
  · rw [h.device, ← hagrees.recalled]
    exact Home.recalled_of_same_file hnormal hagrees.resides hsame.directories (hsame.node? _)

theorem EndsSound.sound {operation : Running.Action α}
    (h : EndsSound home place before (operation before)) :
    Sound home place before (left operation before) := by
  unfold left
  cases hresult : operation before with
  | ok answer after =>
      rw [hresult] at h
      exact h
  | error e after =>
      rw [hresult] at h
      exact h.1

theorem Reaches.sound (hnormal : home.path.Normal) (hstart : Agrees home place start)
    (h : Reaches start now) : Sound home place start now := by
  induction h with
  | start => exact ⟨hstart, .refl _⟩
  | disturbed _ hdisturbed ih =>
      have hsound := hdisturbed.sound hnormal ih.agrees
      exact ⟨hsound.agrees, ih.touches.trans hsound.touches⟩
  | step step _ ht ih =>
      have hsound := (isSound_perform hnormal step _ ih.agrees (ih.agrees.home_eq ▸ ht)).sound
      exact ⟨hsound.agrees, ih.touches.trans hsound.touches⟩

/-- A lamp that was never configured, in a directory of its own. -/
def lamp : Identity where
  productName := "Lamp"
  authorizationKey := ⟨List.replicate 32 7, rfl⟩
  privateKeyFile := Path.ofString "private.pem"
  uuid := ⟨0x0190b6a2c3d47e5f8a9b0c1d2e3f4a5b⟩

def lampWorld : World where
  disk := {
    nodes := [(["device.json", "home"], .file (Text.Utf8.encode lamp.toText.toList)),
      (["home"], .directory)] }

def lampConfig : Config where
  name := "Porch"
  sharedKey := ⟨List.replicate 32 3, rfl⟩

theorem lampWorld_calm : Calm .read lampWorld.disk := by
  simp [Calm, lampWorld]

theorem lampWorld_resides : Home.Resides ⟨Path.ofString "home"⟩ ["home"] lampWorld.disk where
  holds := ⟨by decide +kernel, rfl, by decide +kernel⟩
  noNull := hasNull_ofString (by simp)
  config := by decide +kernel

theorem lampWorld_identity :
    Identity.stored (Home.mk (Path.ofString "home")).identityFile.toString lampWorld.disk =
      .ok lamp := by
  have hnull : hasNull (Path.ofString "home/device.json") = false :=
    hasNull_ofString (by simp)
  have hplace : lampWorld.disk.locate (Path.ofString "home/device.json") =
      .ok ["device.json", "home"] := by decide +kernel
  have hcontent := content_eq_ok_iff.mpr ⟨_, (found_eq_ok_iff _).mpr ⟨hnull, hplace⟩, rfl⟩
  exact Identity.stored_of_content (by decide) (WidePath.normal_ofPath (Path.normal_ofString _))
    hcontent

theorem lampWorld_loads :
    ∃ device loaded, Device.load ⟨Path.ofString "home"⟩ lampWorld = .ok device loaded :=
  exists_load lampWorld_calm lampWorld_identity (fun _ => WideText.isWhole_ofString _)
    (Home.recalled_none (Path.normal_ofString "home") lampWorld_resides rfl)

theorem disturbed_withFaults (faults : List (FaultPoint × SystemError)) (now : Running) :
    Disturbed now (now.withFaults faults) :=
  ⟨rfl, rfl, rfl⟩

/-- Configuring the lamp fails at the very end, then succeeds; removing the configuration fails. -/
def attempts (start : Running) : Running :=
  let failed := left (Step.saveConfiguration lampConfig).perform
    (start.withFaults [(.rename, .reported "OSError" "no space left")])
  let configured := left (Step.setConfig (some lampConfig)).perform (failed.withFaults [])
  left (Step.setConfig none).perform
    (configured.withFaults [(.unlink, .reported "PermissionError" "not permitted")])

end Device

end SmartDevice
