import SmartDevice.Proofs.Device.Coherence

/-! # Reading and setting in one order

However the steps of threads that read and set the configuration mix, there is one order of their
calls in which each reads what the last one before it has written, and what is read is always stored
already. -/

namespace SmartDevice.Device

open Apply Disk ReadWriteLock

variable {ι : Type} [DecidableEq ι] {home : Home} {start : Running} {traffic next : Traffic ι}
  {i : ι}

/-! ## Whole runs -/

theorem Standing.onFile_eq {running : Running} (h : Standing home running.world.disk)
    (hhome : running.device.home = home) :
    running.onFile = home.recalled running.world.disk := by
  subst hhome
  exact running.onFile_eq h.normal h.noNull

theorem Traffic.Step.history_grows {act : Act} (hstep : traffic.Step i act next) :
    traffic.history <+: next.history := by
  cases hstep with
  | reads => exact List.prefix_append ..
  | fails => exact List.prefix_append ..
  | adopts => exact List.prefix_append ..
  | _ => exact List.prefix_rfl

/-- What is read or fails is settled by the first step of the work. -/
theorem Traffic.Step.eq_settle {act : Act} {outcome : Outcome} (hstep : traffic.Step i act next)
    (hhistory : next.history = traffic.history ++ [(i, outcome)])
    (hunwritten : ∀ config, outcome ≠ .written config) :
    ∃ side shared, next = traffic.settle i outcome shared ∧
      traffic.crowd.place i = .inside side ∧ (traffic.caller i).progress = .ahead ∧
      shared.device = traffic.shared.device ∧
      ∀ config, outcome = .read config → config = traffic.shared.device.config := by
  have hlonger : next.history ≠ traffic.history := by
    rw [hhistory]
    simp
  have hlast {other : Outcome} (h : next.history = traffic.history ++ [(i, other)]) :
      other = outcome :=
    (Prod.mk.inj (List.singleton_inj.mp (List.append_cancel_left (h.symm.trans hhistory)))).2
  cases hstep with
  | reads faults side hplace hprogress haccess =>
      obtain rfl := hlast rfl
      exact ⟨side, _, rfl, hplace, hprogress, rfl, by rintro _ ⟨⟩; rfl⟩
  | fails faults side config e world hplace hprogress haccess hstore =>
      obtain rfl := hlast rfl
      exact ⟨side, _, rfl, hplace, hprogress, rfl, nofun⟩
  | adopts faults side config =>
      obtain rfl := hlast rfl
      exact absurd rfl (hunwritten config)
  | _ => exact absurd rfl hlonger

/-- What holds at every point of every run. -/
structure Linear (start : Running) (traffic : Traffic ι) : Prop where
  /-- While no thread is in the section for writing, the file holds what is in memory. -/
  atRest : (∀ i, traffic.crowd.place i ≠ .inside .writer) →
    traffic.shared.onFile = .ok traffic.shared.device.config
  /-- Whoever reads the configuration gets what the file holds at that moment. -/
  reads : ∀ i act config,
    (traffic.advance i act).history = traffic.history ++ [(i, .read config)] →
      traffic.shared.onFile = .ok config
  /-- Setting the configuration changes nothing if it fails. -/
  failures : ∀ i act e, act.Honest →
    (traffic.advance i act).history = traffic.history ++ [(i, .failed e)] →
      (traffic.advance i act).shared.device = traffic.shared.device ∧
        (traffic.advance i act).shared.onFile = traffic.shared.onFile
  /-- Calls read what the last call before them that succeeded has written, -/
  sequential : IsSequential start.device.config traffic.history
  /-- in an order that is for each thread the one of its own calls -/
  ownOrder : ∀ i, outcomesOf i traffic.history =
    (traffic.caller i).answers ++ (traffic.caller i).progress.outcomes
  /-- and in which later calls come later. -/
  lasting : ∀ later, traffic.history <+: (traffic.run later).history

variable [Fintype ι]

namespace Coherent

theorem atRest (h : Coherent start traffic)
    (hnobody : ∀ i, traffic.crowd.place i ≠ .inside .writer) :
    traffic.shared.onFile = .ok traffic.shared.device.config := by
  rw [h.standing.onFile_eq h.home_eq]
  exact h.memory fun i hi => hnobody i ((h.callers i).writes hi)

theorem onFile_of_ahead (h : Coherent start traffic) {side : Side}
    (hplace : traffic.crowd.place i = .inside side)
    (hprogress : (traffic.caller i).progress = .ahead) :
    traffic.shared.onFile = .ok traffic.shared.device.config := by
  rw [h.standing.onFile_eq h.home_eq]
  exact h.memory (h.nobody_halfway hplace hprogress)

theorem linear (h : Coherent start traffic) : Linear start traffic where
  atRest := h.atRest
  reads i act config hhistory := by
    obtain ⟨side, shared, -, hplace, hprogress, -, hread⟩ :=
      (traffic.step_advance i act).eq_settle hhistory nofun
    rw [hread config rfl]
    exact h.onFile_of_ahead hplace hprogress
  failures i act e hact hhistory := by
    have hstep := traffic.step_advance i act
    have hnext := h.step hact hstep
    obtain ⟨side, shared, hsettle, hplace, hprogress, hdevice, -⟩ := hstep.eq_settle hhistory nofun
    rw [hsettle] at hnext ⊢
    refine ⟨hdevice, ?_⟩
    rw [h.onFile_of_ahead hplace hprogress, ← hdevice, hnext.standing.onFile_eq hnext.home_eq]
    refine hnext.memory fun j hj => ?_
    obtain rfl := hnext.eq_of_halfway hplace hj
    rw [show (traffic.settle i (.failed e) shared).caller i = _ from traffic.caller_put i _] at hj
    cases hj
  sequential := h.sequential
  ownOrder := h.ownOrder
  lasting later :=
    Traffic.run_induction (P := fun now => traffic.history <+: now.history) (Q := fun _ => True)
      List.prefix_rfl (fun _ _ _ _ hbefore _ hstep => hbefore.trans hstep.history_grows) later
      fun _ _ => trivial

/-- At first no thread has come. -/
theorem init (hstanding : Standing start.device.home start.world.disk)
    (hagree : start.onFile = .ok start.device.config) :
    Coherent start ({ shared := start } : Traffic ι) where
  home_eq := rfl
  standing := hstanding
  accounted := .after []
  callers _ := ⟨nofun, fun h => absurd rfl h, nofun⟩
  memory _ := (hstanding.onFile_eq rfl).symm.trans hagree
  latest_eq := rfl
  sequential := trivial
  ownOrder _ := rfl

end Coherent

theorem linear_of_standing (hstanding : Standing start.device.home start.world.disk)
    (hagree : start.onFile = .ok start.device.config) (schedule : List (ι × Act))
    (hhonest : ∀ step ∈ schedule, step.2.Honest) : Linear start (Traffic.after start schedule) :=
  (Traffic.run_induction (Coherent.init hstanding hagree)
    (fun _ _ _ _ h hact hstep => h.step hact hstep) schedule hhonest).linear

/-- A device that has started from its files has found its home, by whatever way. -/
theorem linear_of_load (path : String) {world loaded : World} {device : Device}
    (htree : world.disk.IsTree) (hcalm : Calm .read world.disk)
    (hload : load ⟨Path.ofString path⟩ world = .ok device loaded) (schedule : List (ι × Act))
    (hhonest : ∀ step ∈ schedule, step.2.Honest) :
    Linear ⟨device, loaded⟩ (Traffic.after ⟨device, loaded⟩ schedule) := by
  have hnormal : (Home.mk (Path.ofString path)).path.Normal := Path.normal_ofString path
  obtain ⟨hidentity, hrecalled, hhome, hdisk⟩ := load_eq_ok hcalm hload
  obtain ⟨place, hresides⟩ := Home.resides_of_stored hnormal hidentity
  have hstanding : Standing device.home loaded.disk := by
    rw [hhome, hdisk]
    exact ⟨hnormal, hresides.noNull, htree, .of_walk hresides.holds.walked⟩
  refine linear_of_standing hstanding ?_ schedule hhonest
  rw [hstanding.onFile_eq rfl, hhome, hdisk, hrecalled]

/-! ## Contention -/

theorem lampWorld_isTree : lampWorld.disk.IsTree := by decide

/-- A device without a configuration, in a directory that is reached through one that is missing.
There is a configuration in that directory, and a directory in place of the temporary file. -/
def detour : Running where
  device := { home := ⟨Path.ofString "a/.."⟩, identity := lamp, config := none, lock := 0 }
  world := { disk := {
    nodes := [(["config.json"], .file (Text.Utf8.encode lampConfig.toText.toList)),
      (["config.json.tmp"], .directory)] } }

/-- One thread tries to set a configuration. -/
def attempt : List (Unit × Act) :=
  [((), .call (.set (some lampConfig))), ((), .look), ((), .work []), ((), .work []), ((), .leave)]

end SmartDevice.Device
