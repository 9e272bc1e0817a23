import SmartDevice.Proofs.Device.Frame

/-! # Commands as phases in a row

Between its acquiring of the lock and its release a command goes through phases, each of which is
one step for an observer. Going through them in a row is what the command does. -/

namespace SmartDevice.Command

open Apply World Running Device

/-! ## Phases -/

inductive Phase where
  | announceReset
  /-- Brings the file in line with a configuration. -/
  | store (config : Option Config)
  /-- Takes the configuration over in memory. -/
  | adopt (config : Option Config)
  | startScript (name : String)
  | awaitScript (name : String)

def Phase.perform : Phase → Running.Action Unit
  | announceReset => Running.say (Console.warning "Performing factory reset")
  | store config => do around (Device.store (← get).device.home config)
  | adopt config => Device.adopt config
  | startScript name => do
    let busy ← isBusyWith
    around do Command.startScript ((← scriptDirectory).child name) defaultTimeout busy
  | awaitScript name => do
    let _ ← around do Command.awaitScript name ((← scriptDirectory).child name) defaultTimeout

/-- What the console, the noted runs, the files and the configuration in memory do not show, no
phase changes. -/
theorem keeps_perform {γ : Type} {view : Running → γ}
    (hworld : ∀ (running : Running) (disk : Disk) (console : Console) (runs : List ScriptRun),
      view { running with world := { running.world with disk, console, runs } } = view running)
    (hconfig : ∀ (running : Running) (config : Option Config),
      view { running with device := { running.device with config } } = view running)
    (phase : Phase) : Keeps view phase.perform := by
  have haround {α : Type} {x : SmartDevice.Action α}
      (h : ∀ running : Running, Keeps (fun world => view { running with world }) x) :
      Keeps view (around x) :=
    keeps_around fun running => h running running.world
  have hsay (write : Console → Console) : Keeps view (Running.say write) :=
    haround fun running => keeps_say _ fun world console =>
      hworld { running with world } world.disk console world.runs
  cases phase with
  | announceReset => exact hsay _
  | store config =>
      exact .bind .get fun state => haround fun running => keeps_store (fun world disk =>
        hworld { running with world } disk world.console world.runs) _ config
  | adopt config => exact .bind (.modify fun running => hconfig running config) fun _ => hsay _
  | startScript name =>
      exact .bind (fun _ => rfl) fun busy => haround fun running =>
        .bind (.bind (fun _ => rfl) fun _ => .pure _) fun directory => keeps_startScript
          (fun world console runs => hworld { running with world } world.disk console runs) _ _ _
  | awaitScript name =>
      refine .bind (haround fun running => ?_) fun _ => .pure _
      exact .bind (.bind (fun _ => rfl) fun _ => .pure _) fun directory => keeps_awaitScript
        (fun world console => hworld { running with world } world.disk console world.runs) _ _ _

/-- Goes through phases until one fails. -/
def performAll : List Phase → Running.Action Unit
  | [] => pure ()
  | phase :: phases => do
    phase.perform
    performAll phases

/-! ## Commands -/

/-- A command with what it is given. -/
inductive Invocation where
  | factoryReset (confirm : Option String)
  | restart
  | shutdown
  | saveConfiguration (config : Config)

namespace Invocation

def kind : Invocation → Kind
  | factoryReset _ => .factoryReset
  | restart => .restart
  | shutdown => .shutdown
  | saveConfiguration _ => .saveConfiguration

def perform : Invocation → Running.Action String
  | factoryReset confirm => Command.factoryReset confirm
  | restart => Command.restart
  | shutdown => Command.shutdown
  | saveConfiguration config => Command.saveConfiguration config

/-- The test that comes before everything else. -/
def isConfirmed : Invocation → Bool
  | factoryReset confirm => confirm = some confirmation
  | _ => true

/-- What is done while the device is busy with the command. -/
def phases : Invocation → List Phase
  | factoryReset _ => [.announceReset, .store none, .adopt none, .startScript "factory_reset.sh",
      .awaitScript "factory_reset.sh"]
  | restart => [.startScript "restart.sh", .awaitScript "restart.sh"]
  | shutdown => [.startScript "shutdown.sh", .awaitScript "shutdown.sh"]
  | saveConfiguration config => [.store (some config), .adopt (some config)]

end Invocation

/-! ## The phases of a command -/

theorem performAll_append (phases more : List Phase) :
    performAll (phases ++ more) = performAll phases >>= fun _ => performAll more := by
  induction phases with
  | nil => rfl
  | cons phase phases ih => simp only [List.cons_append, performAll, ih, bind_assoc]

theorem performAll_setConfig (config : Option Config) :
    performAll [.store config, .adopt config] = setConfig config := by
  simp only [performAll, Phase.perform, setConfig, bind_assoc, bind_pure_unit]

/-- What the start of a script leaves behind. -/
def started (script : Path) (timeout : Timeout) (busy : Option String) (world : World) : World :=
  { world with
    console := world.console.info s!"Running: {script.toString}"
    runs := world.runs ++ [{ path := script, timeout, busy }] }

theorem startScript_apply (script : Path) (timeout : Timeout) (busy : Option String)
    (world : World) :
    startScript script timeout busy world = .ok ⟨⟩ (started script timeout busy world) :=
  rfl

/-- The directory of the scripts. -/
def directoryOf (world : World) : Path :=
  Path.ofString ((world.environment.lookup variableName).getD defaultPath)

theorem scriptDirectory_apply (world : World) :
    scriptDirectory world = .ok (directoryOf world) world :=
  rfl

/-- A script that has started is awaited in the directory that it was started from. -/
theorem performAll_runOwnScript (name : String) :
    performAll [.startScript name, .awaitScript name] = runOwnScript name := by
  funext running
  simp only [performAll, Phase.perform, runOwnScript, runScript, bind_apply, isBusyWith_apply,
    around_apply, scriptDirectory_apply, startScript_apply, pure_apply]
  have hdirectory (script : Path) (timeout : Timeout) (busy : Option String) :
      directoryOf (started script timeout busy running.world) = directoryOf running.world := rfl
  rw [hdirectory]
  cases awaitScript name ((directoryOf running.world).child name) defaultTimeout
    (started ((directoryOf running.world).child name) defaultTimeout
      (running.device.busy? running.world) running.world) <;> rfl

namespace Invocation

theorem perform_unconfirmed {invocation : Invocation} (h : invocation.isConfirmed = false)
    (running : Running) : invocation.perform running = .error .unconfirmed running := by
  cases invocation with
  | factoryReset confirm =>
      have hconfirm : confirm ≠ some confirmation := by simpa [isConfirmed] using h
      simp only [perform, Command.factoryReset, ne_eq, hconfirm, not_false_eq_true, if_true]
      rfl
  | _ => cases h

/-- A confirmed command goes through its phases while the device is busy with it. -/
theorem perform_confirmed {invocation : Invocation} (h : invocation.isConfirmed = true) :
    invocation.perform = do
      exclusively invocation.kind.reason (performAll invocation.phases)
      return invocation.kind.answer := by
  cases invocation with
  | factoryReset confirm =>
      have hconfirm : confirm = some confirmation := by simpa [isConfirmed] using h
      have hphases : performAll (phases (factoryReset confirm)) = (do
          Running.say (Console.warning "Performing factory reset")
          setConfig none
          runOwnScript "factory_reset.sh") := by
        rw [← performAll_setConfig, ← performAll_runOwnScript, ← performAll_append]
        rfl
      rw [hphases]
      simp only [perform, Command.factoryReset, hconfirm, ne_eq, not_true_eq_false, if_false]
      rfl
  | restart =>
      rw [phases, performAll_runOwnScript]
      rfl
  | shutdown =>
      rw [phases, performAll_runOwnScript]
      rfl
  | saveConfiguration config =>
      rw [phases, performAll_setConfig]
      rfl

/-- The same, from the state before to the state after. -/
theorem perform_apply {invocation : Invocation} (h : invocation.isConfirmed = true)
    (running : Running) :
    invocation.perform running =
      match acquire invocation.kind.reason running with
      | .error e after => .error e after
      | .ok guard held =>
        match performAll invocation.phases held with
        | .ok _ after => .ok invocation.kind.answer (after.giveBack guard)
        | .error e after => .error e (after.giveBack guard) := by
  rw [perform_confirmed h, bind_apply, exclusively_apply]
  cases acquire invocation.kind.reason running with
  | error e after => rfl
  | ok guard held =>
      simp only
      cases performAll invocation.phases held <;> rfl

end Invocation

end SmartDevice.Command
