import SmartDevice.Device
import Mathlib.Data.Nat.Notation

/-! # Actions applied to a state -/

namespace SmartDevice

/-! ## Any action -/

namespace Apply

variable {ε σ α β : Type}

@[simp] theorem pure_apply (a : α) (s : σ) : (pure a : EStateM ε σ α) s = .ok a s := rfl

@[simp] theorem throw_apply (e : ε) (s : σ) : (throw e : EStateM ε σ α) s = .error e s := rfl

@[simp] theorem get_apply (s : σ) : (get : EStateM ε σ σ) s = .ok s s := rfl

@[simp] theorem set_apply (s t : σ) : (set t : EStateM ε σ PUnit) s = .ok ⟨⟩ t := rfl

@[simp] theorem modify_apply (f : σ → σ) (s : σ) :
    (modify f : EStateM ε σ PUnit) s = .ok ⟨⟩ (f s) :=
  rfl

@[simp] theorem bind_apply (x : EStateM ε σ α) (f : α → EStateM ε σ β) (s : σ) :
    (x >>= f) s =
      match x s with
      | .ok a t => f a t
      | .error e t => .error e t :=
  rfl

theorem map_apply (f : α → β) (x : EStateM ε σ α) (s : σ) :
    (f <$> x) s =
      match x s with
      | .ok a t => .ok (f a) t
      | .error e t => .error e t :=
  rfl

@[simp] theorem tryCatch_apply (x : EStateM ε σ α) (f : ε → EStateM ε σ α) (s : σ) :
    (tryCatch x f) s =
      match x s with
      | .ok a t => .ok a t
      | .error e t => f e t := by
  change EStateM.tryCatch x f s = _
  delta EStateM.tryCatch
  cases x s <;> rfl

theorem eq_ok_of_ofExcept {result : Except ε α} {a : α} {s t : σ}
    (h : (MonadExcept.ofExcept result : EStateM ε σ α) s = .ok a t) : result = .ok a := by
  cases result with
  | ok b =>
      cases h
      rfl
  | error e => cases h

end Apply

open Apply

/-! ## Around a device -/

namespace World

theorem onDisk_apply (x : Disk.Action α) (world : World) :
    onDisk x world =
      match x world.disk with
      | .ok a disk => .ok a { world with disk }
      | .error e disk => .error (.file e) { world with disk } :=
  rfl

/-- What a remark on the console leaves behind. -/
def saying (write : Console → Console) (world : World) : World :=
  { world with console := write world.console }

@[simp] theorem say_apply (write : Console → Console) (world : World) :
    say write world = .ok ⟨⟩ (world.saying write) :=
  rfl

theorem sayNaming_apply (name : WideText) (write : String → Console → Console) (world : World) :
    sayNaming name write world =
      if world.console.enabled ∧ ¬ name.IsWhole then .error .unencodable world
      else .ok ⟨⟩ (world.saying (write name.toString)) := by
  unfold sayNaming
  simp only [bind_apply, get_apply]
  split <;> rfl

theorem acquire_apply (lock : ℕ) (reason : String) (world : World) :
    acquire lock reason world =
      match world.locks.acquire lock reason with
      | .error e => .error (.operation e) world
      | .ok (guard, locks) =>
        .ok guard { world with locks, console := world.console.debug "BUSY" reason } := by
  unfold acquire
  simp only [bind_apply, get_apply]
  cases world.locks.acquire lock reason <;> rfl

/-- What a guard that was given back leaves behind. -/
def giveBack (guard : ℕ) (world : World) : World :=
  { world with
    locks := (world.locks.release guard).2
    console := if (world.locks.release guard).1 then world.console.debug "BUSY" "released"
      else world.console }

theorem release_apply (guard : ℕ) (world : World) :
    release guard world = .ok ⟨⟩ (world.giveBack guard) := by
  unfold release giveBack
  simp only [bind_apply, get_apply, modify_apply]
  cases (world.locks.release guard).1 <;> rfl

end World

namespace Running

theorem around_apply (x : SmartDevice.Action α) (running : Running) :
    around x running =
      match x running.world with
      | .ok a world => .ok a { running with world }
      | .error e world => .error e { running with world } :=
  rfl

@[simp] theorem say_apply (write : Console → Console) (running : Running) :
    Running.say write running =
      .ok ⟨⟩ { running with world := running.world.saying write } :=
  rfl

/-- What a guard that was given back leaves behind. -/
def giveBack (guard : ℕ) (running : Running) : Running :=
  { running with world := running.world.giveBack guard }

end Running

/-! ## The device itself -/

namespace Device

open Running

theorem isBusyWith_apply (running : Running) :
    isBusyWith running = .ok (running.device.busy? running.world) running :=
  rfl

theorem acquire_apply (reason : String) (running : Running) :
    acquire reason running = around (World.acquire running.device.lock reason) running :=
  rfl

/-- The guard is given back however the operation ends. -/
theorem exclusively_apply {α : Type} (reason : String) (operation : Running.Action α)
    (running : Running) :
    exclusively reason operation running =
      match acquire reason running with
      | .error e after => .error e after
      | .ok guard held =>
        match operation held with
        | .ok a after => .ok a (after.giveBack guard)
        | .error e after => .error e (after.giveBack guard) := by
  unfold exclusively
  rw [bind_apply]
  cases acquire reason running with
  | error e after => rfl
  | ok guard held =>
      simp only [tryCatch_apply, bind_apply, around_apply, World.release_apply]
      cases operation held <;> rfl

theorem setConfig_apply (config : Option Config) (running : Running) :
    setConfig config running =
      match store running.device.home config running.world with
      | .error e world => .error e { running with world }
      | .ok _ world =>
        .ok ⟨⟩ {
          device := { running.device with config }
          world := world.saying (.info
            (if config.isNone then "Configuration removed" else "Configuration saved")) } := by
  unfold setConfig
  simp only [bind_apply, get_apply, around_apply]
  cases store running.device.home config running.world <;> rfl

end Device

end SmartDevice
