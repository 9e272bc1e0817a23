import SmartDevice.Proofs.Action.Unseen
import SmartDevice.Proofs.Device.Uniform

/-! # Nothing that a device does depends on the console

Whatever was written to the console, and whatever its settings, every operation of a device and
every endpoint of its service ends in the same way and leaves the same behind, but for the console
itself. -/

namespace SmartDevice

/-- The same surroundings with perhaps another console. -/
def World.SameButConsole (v w : World) : Prop :=
  ∃ console, w = { v with console }

/-- The same device in the same surroundings, with perhaps another console. -/
def Running.SameButConsole (r s : Running) : Prop :=
  ∃ console, s = { r with world := { r.world with console } }

theorem Running.SameButConsole.refl (r : Running) : r.SameButConsole r :=
  ⟨r.world.console, rfl⟩

theorem Running.SameButConsole.trans {r s t : Running} (h : r.SameButConsole s)
    (h' : s.SameButConsole t) : r.SameButConsole t := by
  obtain ⟨c, rfl⟩ := h
  obtain ⟨c', rfl⟩ := h'
  exact ⟨c', rfl⟩

/-- An action that runs alike whatever the console. -/
abbrev Indifferent {α : Type} (x : Action α) : Prop :=
  Alike World.SameButConsole x x

abbrev Running.Indifferent {α : Type} (x : Running.Action α) : Prop :=
  Alike Running.SameButConsole x x

/-- The console is nothing that operations look at. -/
theorem unseen_console : Unseen World.SameButConsole where
  disk_eq := by
    rintro v - ⟨c, rfl⟩
    rfl
  environment_eq := by
    rintro v - ⟨c, rfl⟩
    rfl
  scripts_eq := by
    rintro v - ⟨c, rfl⟩
    rfl
  withDisk := by
    rintro v - disk ⟨c, rfl⟩
    exact ⟨c, rfl⟩
  withConsole := by
    rintro v - write ⟨c, rfl⟩
    exact ⟨write c, rfl⟩
  withRun := by
    rintro v - run ⟨c, rfl⟩
    exact ⟨c, rfl⟩

namespace Indifferent

theorem acquire (lock : ℕ) (reason : String) : Indifferent (World.acquire lock reason) := by
  rintro v - ⟨c, rfl⟩
  simp only [World.acquire_apply]
  cases v.locks.acquire lock reason with
  | error e => exact .error ⟨c, rfl⟩
  | ok found => exact .ok ⟨c.debug "BUSY" reason, rfl⟩

theorem release (guard : ℕ) : Indifferent (World.release guard) := by
  rintro v - ⟨c, rfl⟩
  simp only [World.release_apply]
  exact .ok ⟨_, rfl⟩

end Indifferent

namespace Running.Indifferent

/-! ## The device itself -/

theorem around {α : Type} {x : SmartDevice.Action α} (h : SmartDevice.Indifferent x) :
    Indifferent (around x) := by
  rintro r - ⟨c, rfl⟩
  rcases (h r.world { r.world with console := c } ⟨c, rfl⟩).cases with
    ⟨a, w, -, hx, hy, c', rfl⟩ | ⟨e, w, -, hx, hy, c', rfl⟩
  · simpa only [Running.around_apply, hx, hy] using EndsAlike.ok ⟨c', rfl⟩
  · simpa only [Running.around_apply, hx, hy] using EndsAlike.error ⟨c', rfl⟩

theorem say (write : Console → Console) : Indifferent (Running.say write) :=
  around (unseen_console.say write)

theorem isBusyWith : Indifferent Device.isBusyWith := by
  rintro r - ⟨c, rfl⟩
  exact .ok ⟨c, rfl⟩

theorem getConfig : Indifferent Device.getConfig := by
  rintro r - ⟨c, rfl⟩
  exact .ok ⟨c, rfl⟩

/-- An action that is chosen by looking at the device alone. -/
theorem get_bind {α : Type} {f : Device → Running.Action α} (h : ∀ device, Indifferent (f device)) :
    Indifferent (get >>= fun running => f running.device) := by
  rintro r - ⟨c, rfl⟩
  exact h r.device _ _ ⟨c, rfl⟩

theorem acquire (reason : String) : Indifferent (Device.acquire reason) :=
  get_bind fun device => around (.acquire device.lock reason)

theorem giveBack {r s : Running} (h : r.SameButConsole s) (guard : ℕ) :
    (r.giveBack guard).SameButConsole (s.giveBack guard) := by
  obtain ⟨c, rfl⟩ := h
  exact ⟨_, rfl⟩

theorem setConfig (config : Option Config) : Indifferent (Device.setConfig config) := by
  rintro r - ⟨c, rfl⟩
  rcases (unseen_console.store r.device.home config r.world
      { r.world with console := c } ⟨c, rfl⟩).cases with
    ⟨a, w, -, hx, hy, c', rfl⟩ | ⟨e, w, -, hx, hy, c', rfl⟩
  · simp only [Device.setConfig_apply, hx, hy]
    exact .ok ⟨_, rfl⟩
  · simp only [Device.setConfig_apply, hx, hy]
    exact .error ⟨c', rfl⟩

theorem runScript (name : String) (timeout : Timeout) (busy : Option String) :
    Indifferent (Running.around (Command.runScript name timeout busy)) :=
  around (unseen_console.runScript name timeout busy)

/-! ## Endpoints -/

theorem uniform : Uniform Running.SameButConsole where
  say := say
  isBusyWith := isBusyWith
  getConfig := getConfig
  acquire := acquire
  giveBack _ _ guard h := giveBack h guard
  setConfig := setConfig
  runScript := runScript
  identityAnswer := by
    rintro r - ⟨c, rfl⟩
    rfl

theorem serve (endpoint : Http.Endpoint) (request : Http.Request) (body : Http.Body) :
    Indifferent (endpoint.serve request body) :=
  uniform.serve endpoint request body

end Running.Indifferent

end SmartDevice
