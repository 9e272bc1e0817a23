import SmartDevice.Http.Service
import SmartDevice.Proofs.Action.Keeps
import SmartDevice.Proofs.Action.Raises

/-! # What the operations of a device leave alone

No operation changes where a device keeps its records, who it is or which lock it uses. Only setting
the configuration reaches the configuration in memory and the files. -/

namespace SmartDevice

variable {α γ : Type}

open Keeps

namespace Running

/-- The device and the files. -/
def core (running : Running) : Device × Disk := (running.device, running.world.disk)

theorem keeps_core_around {x : SmartDevice.Action α} (h : Keeps World.disk x) :
    Keeps core (around x) :=
  keeps_around fun running => congrArg (running.device, ·) (h running.world)

end Running

/-! ## The files -/

theorem World.keeps_disk_acquire (lock : ℕ) (reason : String) :
    Keeps World.disk (World.acquire lock reason) := by
  intro world
  unfold left
  rw [World.acquire_apply]
  cases world.locks.acquire lock reason <;> rfl

namespace Command

/-- Scripts leave their traces on the console and among the runs only. -/
theorem keeps_startScript {view : World → γ}
    (h : ∀ (world : World) (console : Console) (runs : List ScriptRun),
      view { world with console, runs } = view world)
    (script : Path) (timeout : Timeout) (busy : Option String) :
    Keeps view (startScript script timeout busy) :=
  bind (fun _ => h _ _ _) fun _ => modify fun _ => h _ _ _

theorem keeps_awaitScript {view : World → γ}
    (h : ∀ (world : World) (console : Console), view { world with console } = view world)
    (name : String) (script : Path) (timeout : Timeout) :
    Keeps view (awaitScript name script timeout) := by
  refine bind (fun _ => rfl) fun outcome => ?_
  cases outcome with
  | timedOut => exact throw _
  | notFound => exact throw _
  | notExecutable => exact throw _
  | failed e => exact throw _
  | finished status out err =>
      refine ite (fun _ => throw _) fun _ => ite (fun _ => ?_) fun _ => pure _
      exact bind (World.keeps_say _ h) fun _ => pure _

theorem keeps_runScript {view : World → γ}
    (h : ∀ (world : World) (console : Console) (runs : List ScriptRun),
      view { world with console, runs } = view world)
    (name : String) (timeout : Timeout) (busy : Option String) :
    Keeps view (runScript name timeout busy) :=
  bind (bind (fun _ => rfl) fun _ => pure _) fun _ => bind (keeps_startScript h _ _ _) fun _ =>
    keeps_awaitScript (fun _ _ => h _ _ _) _ _ _

end Command

/-! ## Storing -/

section Storing

variable {view : World → γ}

theorem RecordFile.keeps_replace
    (h : ∀ (world : World) (disk : Disk), view { world with disk } = view world)
    (file : Path) (text : String) : Keeps view (replace file text) := by
  unfold replace temporary
  refine bind ?_ fun _ => tryCatch (World.keeps_onDisk _ h) fun e => ?_
  · split
    · exact throw _
    · exact pure _
  · split
    · exact bind (World.keeps_onDisk _ h) fun _ => throw _
    · exact throw _

/-- Storing a configuration reaches the files only. -/
theorem Device.keeps_store
    (h : ∀ (world : World) (disk : Disk), view { world with disk } = view world)
    (home : Home) (config : Option Config) : Keeps view (store home config) := by
  have hdisk {α : Type} (x : Disk.Action α) : Keeps view (World.onDisk x) :=
    World.keeps_onDisk x h
  refine tryCatch ?_ fun e => ?_
  · cases config with
    | none =>
        refine bind (hdisk _) fun _ => tryCatch (hdisk _) fun e => ?_
        split
        · exact ite (fun _ => throw _) fun _ => pure _
        · exact throw _
    | some config =>
        refine bind (hdisk _) fun _ => bind (tryCatch (hdisk _) fun e => ?_) fun _ =>
          RecordFile.keeps_replace h _ _
        split <;> exact throw _
  · split <;> exact throw _

end Storing

namespace Device

open Running

/-- What never changes about a device. -/
def fixed (device : Device) : Home × Identity × ℕ := (device.home, device.identity, device.lock)

theorem keeps_core_acquire (reason : String) : Keeps core (acquire reason) :=
  fun running => keeps_core_around (World.keeps_disk_acquire _ reason) running

theorem keeps_exclusively (view : Device × Disk → γ) {reason : String}
    {operation : Running.Action α} (h : Keeps (fun running => view running.core) operation) :
    Keeps (fun running => view running.core) (exclusively reason operation) := by
  have hacquire := (keeps_core_acquire reason).comp view
  intro running
  unfold left
  rw [exclusively_apply]
  cases ha : acquire reason running with
  | error e after => exact hacquire.error ha
  | ok guard held =>
      simp only
      cases ho : operation held with
      | ok a after => exact (h.ok ho).trans (hacquire.ok ha)
      | error e after => exact (h.error ho).trans (hacquire.ok ha)

theorem keeps_core_runScript (name : String) (timeout : Timeout) (busy : Option String) :
    Keeps core (around (Command.runScript name timeout busy)) :=
  keeps_core_around (Command.keeps_runScript (fun _ _ _ => rfl) name timeout busy)

theorem keeps_core_runOwnScript (name : String) : Keeps core (Command.runOwnScript name) :=
  bind (fun _ => rfl) fun busy => bind (keeps_core_runScript _ _ busy) fun _ => pure _

theorem keeps_core_restart : Keeps core Command.restart :=
  bind (keeps_exclusively id (keeps_core_runOwnScript _)) fun _ => pure _

theorem keeps_core_shutdown : Keeps core Command.shutdown :=
  bind (keeps_exclusively id (keeps_core_runOwnScript _)) fun _ => pure _

/-! ## What never changes -/

theorem keeps_fixed_setConfig (config : Option Config) :
    Keeps (fun running : Running => running.device.fixed) (setConfig config) := by
  intro running
  unfold left
  rw [setConfig_apply]
  cases store running.device.home config running.world <;> rfl

theorem keeps_fixed_factoryReset (confirm : Option String) :
    Keeps (fun running : Running => running.device.fixed) (Command.factoryReset confirm) := by
  unfold Command.factoryReset
  refine ite (fun _ => bind (throw _) fun _ => ?_) fun _ => ?_
  all_goals
    refine bind (keeps_exclusively (fun core => core.1.fixed) ?_) fun _ => pure _
    exact bind (fun _ => rfl) fun _ => bind (keeps_fixed_setConfig none) fun _ =>
      (keeps_core_runOwnScript _).comp fun core => core.1.fixed

theorem keeps_fixed_saveConfiguration (config : Config) :
    Keeps (fun running : Running => running.device.fixed) (Command.saveConfiguration config) :=
  bind (keeps_exclusively (fun core => core.1.fixed) (keeps_fixed_setConfig _)) fun _ =>
    pure _

end Device

/-! ## Failures -/

/-- What a script can fail with. -/
def Failure.FromScript : Failure → Prop
  | .command _ | .file _ => True
  | _ => False

/-- What storing a record can fail with. -/
def Failure.FromStorage : Failure → Prop
  | .storage _ | .file _ => True
  | _ => False

namespace Command

theorem raises_awaitScript (name : String) (script : Path) (timeout : Timeout) :
    Raises Failure.FromScript (awaitScript name script timeout) := by
  refine .bind (fun _ _ _ h => by cases h) fun outcome => ?_
  cases outcome with
  | timedOut => exact .throw trivial
  | notFound => exact .throw trivial
  | notExecutable => exact .throw trivial
  | failed e => exact .throw trivial
  | finished status out err =>
      refine .ite (.bind (.throw trivial) fun _ => ?_) ?_
      all_goals
        refine .ite (.bind (World.raises_say _) fun _ => .pure _) (.pure _)

theorem raises_runScript (name : String) (timeout : Timeout) (busy : Option String) :
    Raises Failure.FromScript (runScript name timeout busy) :=
  .bind (fun _ _ _ h => by cases h) fun _ => .bind (fun _ _ _ h => by cases h) fun _ =>
    raises_awaitScript _ _ _

theorem raises_runOwnScript (name : String) :
    Raises Failure.FromScript (runOwnScript name) :=
  .bind (fun _ _ _ h => by cases h) fun _ =>
    .bind (Running.raises_around (raises_runScript _ _ _)) fun _ => .pure _

end Command

theorem RecordFile.raises_replace (file : Path) (text : String) :
    Raises Failure.FromStorage (replace file text) := by
  have hdisk {α : Type} (x : Disk.Action α) : Raises Failure.FromStorage (World.onDisk x) :=
    World.raises_onDisk (fun _ => trivial) x
  unfold replace temporary
  refine .bind ?_ fun _ => .tryCatch (hdisk _) fun e he => ?_
  · split
    · exact .throw trivial
    · exact .pure _
  · split
    · exact .bind (hdisk _) fun _ => .throw trivial
    · exact .throw he

namespace Home

theorem raises_saveConfig (home : Home) (config : Config) :
    Raises Failure.FromStorage (home.saveConfig config) := by
  refine .bind (World.raises_onDisk (fun _ => trivial) _) fun _ =>
    .bind (.tryCatch (World.raises_onDisk (fun _ => trivial) _) fun e he => ?_) fun _ =>
      RecordFile.raises_replace _ _
  split
  · exact .throw trivial
  · exact .throw he

theorem raises_removeConfig (home : Home) : Raises Failure.FromStorage home.removeConfig := by
  refine .bind (World.raises_onDisk (fun _ => trivial) _) fun _ =>
    .tryCatch (World.raises_onDisk (fun _ => trivial) _) fun e he => ?_
  split
  · exact .ite (.throw trivial) (.pure _)
  · exact .throw he

end Home

theorem Device.raises_store (home : Home) (config : Option Config) :
    Raises Failure.FromStorage (store home config) := by
  refine .tryCatch ?_ fun e he => ?_
  · cases config with
    | none => exact home.raises_removeConfig
    | some config => exact home.raises_saveConfig config
  · split
    · exact .throw trivial
    · exact .throw he

end SmartDevice
