import SmartDevice.Proofs.Action.Unseen
import SmartDevice.Proofs.Device.Uniform
import SmartDevice.Proofs.Disk.Agreement
import SmartDevice.Proofs.Home.Recall

/-! # No operation of a device looks at its key

Two devices that differ in their keys do everything alike, also where their identities are kept in
files that differ. -/

namespace SmartDevice

open Apply Disk World

/-! ## Surroundings -/

/-- A place where identities are kept. -/
def IsIdentityFile (location : Location) : Prop := location.head? = some "device.json"

/-- The same surroundings, but for what is kept where identities are. -/
def World.SameButIdentity (v w : World) : Prop :=
  ∃ disk, AgreeBut IsIdentityFile v.disk disk ∧ w = { v with disk }

theorem veiled_identity : Veiled (AgreeBut IsIdentityFile) World.SameButIdentity :=
  veiled_files IsIdentityFile

theorem storesAlike_identity (home : Home) : StoresAlike (AgreeBut IsIdentityFile) home where
  strike := alike_strike
  makeDirectories := alike_makeDirectories home.path
  writeThrough := by
    intro name text hname
    obtain rfl := Option.some.inj (home.name?_configFile.symm.trans hname)
    refine .bind (alike_openForWriting _) fun _ => .bind (alike_write _ _) fun _ =>
      .bind alike_sync fun _ => alike_rename fun disk source goal hsource _ hplace => ?_
    rw [home.sibling_configFile] at hsource
    obtain ⟨place, rfl, -⟩ := exists_parent_of_found Home.isName_temporary (by decide) hsource
    exact absurd hplace (by simp [IsIdentityFile])
  discard := RecordFile.alike_discard
  unlink := alike_unlink

/-- The stored configuration is the same. -/
theorem content_configFile_eq {a b : Disk} (h : AgreeBut IsIdentityFile a b) (home : Home) :
    b.content home.configFile = a.content home.configFile := by
  refine h.content_eq fun location hfound hplace => ?_
  obtain ⟨place, rfl, -⟩ := exists_parent_of_found Home.isName_config (by decide) hfound
  exact absurd hplace (by simp [IsIdentityFile])

/-! ## Devices -/

/-- The device with another key. -/
def Device.withKey (key : Key) (device : Device) : Device :=
  { device with identity := { device.identity with authorizationKey := key } }

/-- The same device with perhaps another key, in the same surroundings but for what is kept where
identities are. -/
def Running.SameButKey (r s : Running) : Prop :=
  ∃ key disk, AgreeBut IsIdentityFile r.world.disk disk ∧
    s = { device := r.device.withKey key, world := { r.world with disk } }

namespace Running.SameButKey

theorem withConsole {r s : Running} (h : r.SameButKey s) (write : Console → Console) :
    SameButKey { r with world := r.world.saying write }
      { s with world := s.world.saying write } := by
  obtain ⟨key, disk, hdisk, rfl⟩ := h
  exact ⟨key, disk, hdisk, rfl⟩

theorem around {α : Type} {x : SmartDevice.Action α} (h : Alike World.SameButIdentity x x) :
    Alike SameButKey (around x) (around x) := by
  rintro r - ⟨key, disk, hdisk, rfl⟩
  rcases (h r.world _ ⟨disk, hdisk, rfl⟩).cases with
    ⟨a, v, -, hx, hy, disk', hdisk', rfl⟩ | ⟨e, v, -, hx, hy, disk', hdisk', rfl⟩
  · simpa only [around_apply, hx, hy] using EndsAlike.ok ⟨key, disk', hdisk', rfl⟩
  · simpa only [around_apply, hx, hy] using EndsAlike.error ⟨key, disk', hdisk', rfl⟩

theorem alike_acquire (lock : ℕ) (reason : String) :
    Alike World.SameButIdentity (World.acquire lock reason) (World.acquire lock reason) := by
  rintro v - ⟨disk, hdisk, rfl⟩
  simp only [World.acquire_apply]
  cases v.locks.acquire lock reason with
  | error e => exact .error ⟨disk, hdisk, rfl⟩
  | ok found => exact .ok ⟨disk, hdisk, rfl⟩

theorem alike_setConfig (config : Option Config) :
    Alike SameButKey (Device.setConfig config) (Device.setConfig config) := by
  rintro r - ⟨key, disk, hdisk, rfl⟩
  rcases (veiled_identity.store (storesAlike_identity r.device.home) config r.world _
      ⟨disk, hdisk, rfl⟩).cases with
    ⟨a, v, -, hx, hy, disk', hdisk', rfl⟩ | ⟨e, v, -, hx, hy, disk', hdisk', rfl⟩
  · simp only [Device.setConfig_apply, Device.withKey, hx, hy]
    exact .ok ⟨key, disk', hdisk', rfl⟩
  · simp only [Device.setConfig_apply, Device.withKey, hx, hy]
    exact .error ⟨key, disk', hdisk', rfl⟩

theorem uniform : Uniform SameButKey where
  say write := around (veiled_identity.say write)
  isBusyWith := by
    rintro r - ⟨key, disk, hdisk, rfl⟩
    exact .ok ⟨key, disk, hdisk, rfl⟩
  getConfig := by
    rintro r - ⟨key, disk, hdisk, rfl⟩
    exact .ok ⟨key, disk, hdisk, rfl⟩
  acquire reason := by
    rintro r - ⟨key, disk, hdisk, rfl⟩
    exact around (alike_acquire r.device.lock reason) r _ ⟨key, disk, hdisk, rfl⟩
  giveBack := by
    rintro r - guard ⟨key, disk, hdisk, rfl⟩
    exact ⟨key, disk, hdisk, rfl⟩
  setConfig := alike_setConfig
  runScript name timeout busy := around (veiled_identity.runScript name timeout busy)
  identityAnswer := by
    rintro r - ⟨key, disk, hdisk, rfl⟩
    rfl

end Running.SameButKey

end SmartDevice
