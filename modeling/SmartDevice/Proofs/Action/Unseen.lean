import SmartDevice.Command
import SmartDevice.Proofs.Action.Alike
import SmartDevice.Proofs.Disk.Agreement

/-! # What operations see of their surroundings

Storing a configuration and running a script look at the files, the environment and the scripts, and
at nothing else. Surroundings that agree in these may differ in everything else, unseen. So may
files that are not looked into. -/

namespace SmartDevice

open Apply World

variable {α : Type} {D : Disk → Disk → Prop} {R : World → World → Prop}

/-! ## Surroundings with related disks -/

/-- Surroundings that agree in what operations look at, but for their files, and that are related
again after what operations do to them. -/
structure Veiled (D : Disk → Disk → Prop) (R : World → World → Prop) : Prop where
  disk : ∀ v w, R v w → D v.disk w.disk
  environment_eq : ∀ v w, R v w → v.environment = w.environment
  scripts_eq : ∀ v w, R v w → v.scripts = w.scripts
  withDisk : ∀ v w a b, R v w → D a b → R { v with disk := a } { w with disk := b }
  withConsole : ∀ v w (write : Console → Console), R v w → R (v.saying write) (w.saying write)
  withRun : ∀ v w run, R v w →
    R { v with runs := v.runs ++ [run] } { w with runs := w.runs ++ [run] }

/-- On related disks a home stores its configuration alike. -/
structure StoresAlike (D : Disk → Disk → Prop) (home : Home) : Prop where
  strike : ∀ point, Alike D (Disk.strike point) (Disk.strike point)
  makeDirectories : Alike D (Disk.makeDirectories home.path) (Disk.makeDirectories home.path)
  writeThrough : ∀ name text, home.configFile.name? = some name →
    let temporary := home.configFile.sibling (name ++ ".tmp")
    Alike D (RecordFile.writeThrough temporary home.configFile text)
      (RecordFile.writeThrough temporary home.configFile text)
  discard : ∀ path, Alike D (RecordFile.discard path) (RecordFile.discard path)
  unlink : ∀ path, Alike D (Disk.unlink path) (Disk.unlink path)

namespace Veiled

variable (hR : Veiled D R)

include hR

theorem onDisk {x y : Disk.Action α} (h : Alike D x y) :
    Alike R (World.onDisk x) (World.onDisk y) := by
  intro v w hvw
  rw [World.onDisk_apply, World.onDisk_apply]
  rcases (h v.disk w.disk (hR.disk v w hvw)).cases with
    ⟨a, disk, disk', hx, hy, hdisk⟩ | ⟨e, disk, disk', hx, hy, hdisk⟩
  · rw [hx, hy]
    exact .ok (hR.withDisk v w disk disk' hvw hdisk)
  · rw [hx, hy]
    exact .error (hR.withDisk v w disk disk' hvw hdisk)

theorem say (write : Console → Console) : Alike R (World.say write) (World.say write) :=
  fun v w h => .ok (hR.withConsole v w write h)

theorem setting? (name : String) : Alike R (World.setting? name) (World.setting? name) := by
  intro v w h
  unfold World.setting?
  simp only [bind_apply, get_apply, pure_apply, hR.environment_eq v w h]
  exact .ok h

/-! ## Records -/

theorem replace {file : Path} {text text' : String}
    (hwrite : ∀ name, file.name? = some name →
      let temporary := file.sibling (name ++ ".tmp")
      Alike D (RecordFile.writeThrough temporary file text)
        (RecordFile.writeThrough temporary file text'))
    (hdiscard : ∀ path, Alike D (RecordFile.discard path) (RecordFile.discard path)) :
    Alike R (RecordFile.replace file text) (RecordFile.replace file text') := by
  unfold RecordFile.replace RecordFile.temporary
  cases hname : file.name? with
  | none => exact fun v w h => .error h
  | some name =>
      simp only [pure_bind]
      refine .tryCatch (hR.onDisk (hwrite name hname)) fun e => ?_
      split
      · exact .bind (hR.onDisk (hdiscard _)) fun _ => .throw _
      · exact .throw _

theorem saveConfig {home : Home} (h : StoresAlike D home) (config : Config) :
    Alike R (home.saveConfig config) (home.saveConfig config) := by
  unfold Home.saveConfig
  refine .bind (hR.onDisk (h.strike _)) fun _ =>
    .bind (.tryCatch (hR.onDisk h.makeDirectories) fun e => ?_) fun _ =>
      hR.replace (fun name => h.writeThrough name _) h.discard
  split <;> exact .throw _

theorem removeConfig {home : Home} (h : StoresAlike D home) :
    Alike R home.removeConfig home.removeConfig := by
  unfold Home.removeConfig
  refine .bind (hR.onDisk (h.strike _)) fun _ => .tryCatch (hR.onDisk (h.unlink _)) fun e => ?_
  split
  · exact .ite (fun _ => .throw _) fun _ => .pure _
  · exact .throw _

theorem store {home : Home} (h : StoresAlike D home) (config : Option Config) :
    Alike R (Device.store home config) (Device.store home config) := by
  unfold Device.store
  refine .tryCatch ?_ fun e => ?_
  · cases config with
    | none => exact hR.removeConfig h
    | some config => exact hR.saveConfig h config
  · split <;> exact .throw _

/-! ## Scripts -/

theorem scriptDirectory : Alike R Command.scriptDirectory Command.scriptDirectory :=
  .bind (hR.setting? _) fun _ => .pure _

theorem outcomeOf (script : Path) :
    Alike R (Command.outcomeOf script) (Command.outcomeOf script) := by
  intro v w h
  unfold Command.outcomeOf
  simp only [bind_apply, get_apply, pure_apply, hR.scripts_eq v w h]
  exact .ok h

theorem startScript (script : Path) (timeout : Timeout) (busy : Option String) :
    Alike R (Command.startScript script timeout busy) (Command.startScript script timeout busy) :=
  .bind (hR.say _) fun _ => .modify fun v w h => hR.withRun v w _ h

theorem awaitScript (name : String) (script : Path) (timeout : Timeout) :
    Alike R (Command.awaitScript name script timeout)
      (Command.awaitScript name script timeout) := by
  refine .bind (hR.outcomeOf _) fun outcome => ?_
  cases outcome with
  | timedOut => exact .throw _
  | notFound => exact .throw _
  | notExecutable => exact .throw _
  | failed e => exact .throw _
  | finished status out err =>
      refine .ite (fun _ => .throw _) fun _ => .ite (fun _ => ?_) fun _ => .pure _
      exact .bind (hR.say _) fun _ => .pure _

theorem runScript (name : String) (timeout : Timeout) (busy : Option String) :
    Alike R (Command.runScript name timeout busy) (Command.runScript name timeout busy) :=
  .bind hR.scriptDirectory fun _ => .bind (hR.startScript _ _ _) fun _ => hR.awaitScript _ _ _

end Veiled

/-! ## Surroundings that differ in what files hold -/

/-- The same surroundings, but for what the files at some places hold. -/
def World.SameButFiles (P : Location → Prop) (v w : World) : Prop :=
  ∃ disk, Disk.AgreeBut P v.disk disk ∧ w = { v with disk }

theorem veiled_files (P : Location → Prop) :
    Veiled (Disk.AgreeBut P) (World.SameButFiles P) where
  disk := by
    rintro v - ⟨disk, h, rfl⟩
    exact h
  environment_eq := by
    rintro v - ⟨disk, h, rfl⟩
    rfl
  scripts_eq := by
    rintro v - ⟨disk, h, rfl⟩
    rfl
  withDisk := by
    rintro v - a b ⟨disk, h, rfl⟩ hab
    exact ⟨b, hab, rfl⟩
  withConsole := by
    rintro v - write ⟨disk, h, rfl⟩
    exact ⟨disk, h, rfl⟩
  withRun := by
    rintro v - run ⟨disk, h, rfl⟩
    exact ⟨disk, h, rfl⟩

theorem RecordFile.alike_discard {P : Location → Prop} (path : Path) :
    Alike (Disk.AgreeBut P) (discard path) (discard path) := by
  refine .tryCatch (Disk.alike_unlink path) fun e => ?_
  split
  · exact .pure _
  · exact .throw _

/-! ## Surroundings with the same disk -/

/-- Related surroundings agree in what operations look at, and are related again after what
operations do to them. -/
structure Unseen (R : World → World → Prop) : Prop where
  disk_eq : ∀ v w, R v w → v.disk = w.disk
  environment_eq : ∀ v w, R v w → v.environment = w.environment
  scripts_eq : ∀ v w, R v w → v.scripts = w.scripts
  withDisk : ∀ v w disk, R v w → R { v with disk } { w with disk }
  withConsole : ∀ v w (write : Console → Console), R v w → R (v.saying write) (w.saying write)
  withRun : ∀ v w run, R v w →
    R { v with runs := v.runs ++ [run] } { w with runs := w.runs ++ [run] }

theorem storesAlike_eq (home : Home) : StoresAlike Eq home where
  strike _ := Alike.eq _
  makeDirectories := Alike.eq _
  writeThrough _ _ _ := Alike.eq _
  discard _ := Alike.eq _
  unlink _ := Alike.eq _

namespace Unseen

variable (hR : Unseen R)

include hR

theorem veiled : Veiled Eq R where
  disk := hR.disk_eq
  environment_eq := hR.environment_eq
  scripts_eq := hR.scripts_eq
  withDisk := by
    rintro v w a - h rfl
    exact hR.withDisk v w a h
  withConsole := hR.withConsole
  withRun := hR.withRun

theorem say (write : Console → Console) : Alike R (World.say write) (World.say write) :=
  hR.veiled.say write

theorem store (home : Home) (config : Option Config) :
    Alike R (Device.store home config) (Device.store home config) :=
  hR.veiled.store (storesAlike_eq home) config

theorem scriptDirectory : Alike R Command.scriptDirectory Command.scriptDirectory :=
  hR.veiled.scriptDirectory

theorem awaitScript (name : String) (script : Path) (timeout : Timeout) :
    Alike R (Command.awaitScript name script timeout)
      (Command.awaitScript name script timeout) :=
  hR.veiled.awaitScript name script timeout

theorem runScript (name : String) (timeout : Timeout) (busy : Option String) :
    Alike R (Command.runScript name timeout busy) (Command.runScript name timeout busy) :=
  hR.veiled.runScript name timeout busy

end Unseen

end SmartDevice
