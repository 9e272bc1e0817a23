import SmartDevice.Proofs.Command.Phases
import SmartDevice.Proofs.Device.Persistence
import SmartDevice.Proofs.ReadWriteLock.Exclusion

/-! # Threads that read and set the configuration

Any number of threads read and set the configuration of one device, each as often as it likes. A
thread waits for the lock, does its work inside step by step, and leaves; between any two steps the
others may take theirs. -/

namespace SmartDevice.Device

open Apply ReadWriteLock

/-! ## Calls -/

inductive Access where
  | get
  | set (config : Option Config)

/-- What a call ends with. -/
inductive Outcome where
  | read (config : Option Config)
  | written (config : Option Config)
  | failed (e : Failure)

def Outcome.isFailed : Outcome → Bool
  | failed _ => true
  | _ => false

namespace Access

/-- The section of the lock in which the work is done. -/
def side : Access → Side
  | get => .reader
  | set _ => .writer

/-- The call by itself. -/
def perform : Access → Running.Action Outcome
  | get => return .read (← getConfig)
  | set config => do
    setConfig config
    return .written config

/-- What the call comes to by itself. -/
def outcome (access : Access) (shared : Running) : Outcome :=
  match access.perform shared with
  | .ok outcome _ => outcome
  | .error e _ => .failed e

end Access

/-- How far the work of a call has come. -/
inductive Progress where
  | ahead
  /-- The file is in line already, the configuration in memory is not. -/
  | halfway
  | done (outcome : Outcome)

/-- What the call will end with, as soon as that is settled. -/
def Progress.outcomes : Progress → List Outcome
  | done outcome => [outcome]
  | _ => []

/-- What a thread is doing, and what its calls have ended with so far. -/
structure Caller where
  access : Access := .get
  progress : Progress := .ahead
  answers : List Outcome := []

/-! ## Steps -/

inductive Act where
  | call (access : Access)
  | look
  /-- Wakes up without having been notified. -/
  | stir
  /-- One step of the work, with the faults that its file operations meet. -/
  | work (faults : List (FaultPoint × SystemError))
  | leave

structure Traffic (ι : Type) where
  shared : Running
  crowd : Crowd ι := {}
  caller : ι → Caller := fun _ => {}
  /-- What calls have come to, in the order in which it was settled. -/
  history : List (ι × Outcome) := []

namespace Traffic

variable {ι : Type} [DecidableEq ι] (traffic : Traffic ι) (i : ι)

def put (caller : Caller) : Traffic ι :=
  { traffic with caller := Function.update traffic.caller i caller }

/-- The file is stored. -/
def halve (shared : Running) : Traffic ι :=
  { traffic.put i { traffic.caller i with progress := .halfway } with shared }

/-- The work of a call comes to its end. -/
def settle (outcome : Outcome) (shared : Running) : Traffic ι :=
  { traffic.put i { traffic.caller i with progress := .done outcome } with
    shared
    history := traffic.history ++ [(i, outcome)] }

/-- One step of what is done in a section: reading is one step, setting is two. -/
def work (faults : List (FaultPoint × SystemError)) : Traffic ι :=
  match (traffic.caller i).progress, (traffic.caller i).access with
  | .ahead, .get =>
    match getConfig (traffic.shared.withFaults faults) with
    | .ok config after => traffic.settle i (.read config) after
    | .error e after => traffic.settle i (.failed e) after
  | .ahead, .set config =>
    match (Command.Phase.store config).perform (traffic.shared.withFaults faults) with
    | .ok _ after => traffic.halve i after
    | .error e after => traffic.settle i (.failed e) after
  | .halfway, .set config =>
    match (Command.Phase.adopt config).perform traffic.shared with
    | .ok _ after => traffic.settle i (.written config) after
    | .error e after => traffic.settle i (.failed e) after
  | _, _ => traffic

/-- A step of one thread; one that it cannot take where it is changes nothing. -/
def advance (act : Act) : Traffic ι :=
  match act, traffic.crowd.place i with
  | .call access, .outside =>
    { traffic.put i { traffic.caller i with access } with
      crowd := traffic.crowd.advance i (.call access.side) }
  | .look, _ => { traffic with crowd := traffic.crowd.advance i .look }
  | .stir, _ => { traffic with crowd := traffic.crowd.advance i .stir }
  | .work faults, .inside _ => traffic.work i faults
  | .leave, .inside _ =>
    match (traffic.caller i).progress with
    | .done outcome =>
      { traffic.put i { traffic.caller i with
          progress := .ahead, answers := (traffic.caller i).answers ++ [outcome] } with
        crowd := traffic.crowd.advance i (.leave outcome.isFailed) }
    | _ => traffic
  | _, _ => traffic

/-- The steps of the threads in some order. -/
def run (traffic : Traffic ι) (schedule : List (ι × Act)) : Traffic ι :=
  schedule.foldl (fun traffic (i, act) => traffic.advance i act) traffic

/-- The steps of the threads in some order, at a device that no thread has come to yet. -/
def after (start : Running) (schedule : List (ι × Act)) : Traffic ι :=
  run { shared := start } schedule

variable {traffic i}

theorem caller_put (traffic : Traffic ι) (i : ι) (caller : Caller) :
    (traffic.put i caller).caller i = caller :=
  Function.update_self ..

theorem caller_put_of_ne (traffic : Traffic ι) (caller : Caller) {i j : ι} (h : j ≠ i) :
    (traffic.put i caller).caller j = traffic.caller j :=
  Function.update_of_ne h ..

/-- What holds of the thread that moves and of the others holds of all. -/
theorem forall_put {P : ι → Caller → Prop} {caller : Caller} (hself : P i caller)
    (hothers : ∀ j, j ≠ i → P j (traffic.caller j)) (j : ι) :
    P j ((traffic.put i caller).caller j) := by
  by_cases hj : j = i
  · subst hj
    rwa [caller_put]
  · rw [caller_put_of_ne traffic caller hj]
    exact hothers j hj

/-! ## What a step can do -/

/-- The steps of one thread, with what each of them needs and does. -/
inductive Step (traffic : Traffic ι) (i : ι) : Act → Traffic ι → Prop where
  | nothing (act : Act) : Step traffic i act traffic
  | calls (access : Access) : traffic.crowd.place i = .outside →
    Step traffic i (.call access) { traffic.put i { traffic.caller i with access } with
      crowd := traffic.crowd.advance i (.call access.side) }
  | looks : Step traffic i .look { traffic with crowd := traffic.crowd.advance i .look }
  | stirs : Step traffic i .stir { traffic with crowd := traffic.crowd.advance i .stir }
  | reads (faults : List (FaultPoint × SystemError)) (side : Side) :
    traffic.crowd.place i = .inside side → (traffic.caller i).progress = .ahead →
    (traffic.caller i).access = .get →
    Step traffic i (.work faults)
      (traffic.settle i (.read traffic.shared.device.config) (traffic.shared.withFaults faults))
  | stores (faults : List (FaultPoint × SystemError)) (side : Side) (config : Option Config)
      (world : World) :
    traffic.crowd.place i = .inside side → (traffic.caller i).progress = .ahead →
    (traffic.caller i).access = .set config →
    store traffic.shared.device.home config (traffic.shared.withFaults faults).world =
      .ok ⟨⟩ world →
    Step traffic i (.work faults) (traffic.halve i { traffic.shared with world })
  | fails (faults : List (FaultPoint × SystemError)) (side : Side) (config : Option Config)
      (e : Failure) (world : World) :
    traffic.crowd.place i = .inside side → (traffic.caller i).progress = .ahead →
    (traffic.caller i).access = .set config →
    store traffic.shared.device.home config (traffic.shared.withFaults faults).world =
      .error e world →
    Step traffic i (.work faults) (traffic.settle i (.failed e) { traffic.shared with world })
  | adopts (faults : List (FaultPoint × SystemError)) (side : Side) (config : Option Config)
      (world : World) :
    traffic.crowd.place i = .inside side → (traffic.caller i).progress = .halfway →
    (traffic.caller i).access = .set config → world.disk = traffic.shared.world.disk →
    Step traffic i (.work faults)
      (traffic.settle i (.written config)
        { device := { traffic.shared.device with config }, world })
  | leaves (side : Side) (outcome : Outcome) :
    traffic.crowd.place i = .inside side → (traffic.caller i).progress = .done outcome →
    Step traffic i .leave
      { traffic.put i { traffic.caller i with
          progress := .ahead, answers := (traffic.caller i).answers ++ [outcome] } with
        crowd := traffic.crowd.advance i (.leave outcome.isFailed) }

theorem work_get (faults : List (FaultPoint × SystemError))
    (hprogress : (traffic.caller i).progress = .ahead)
    (haccess : (traffic.caller i).access = .get) :
    traffic.work i faults =
      traffic.settle i (.read traffic.shared.device.config) (traffic.shared.withFaults faults) := by
  rw [work, hprogress, haccess]
  rfl

theorem work_set (faults : List (FaultPoint × SystemError)) {config : Option Config}
    (hprogress : (traffic.caller i).progress = .ahead)
    (haccess : (traffic.caller i).access = .set config) :
    traffic.work i faults =
      match store traffic.shared.device.home config (traffic.shared.withFaults faults).world with
      | .ok _ world => traffic.halve i { traffic.shared with world }
      | .error e world => traffic.settle i (.failed e) { traffic.shared with world } := by
  rw [work, hprogress, haccess]
  have hperform : (Command.Phase.store config).perform (traffic.shared.withFaults faults) =
      match store traffic.shared.device.home config (traffic.shared.withFaults faults).world with
      | .ok answer world => .ok answer { traffic.shared with world }
      | .error e world => .error e { traffic.shared with world } := by
    have hdevice : (traffic.shared.withFaults faults).device = traffic.shared.device := rfl
    simp only [Command.Phase.perform, bind_apply, get_apply, Running.around_apply, hdevice]
    cases store traffic.shared.device.home config (traffic.shared.withFaults faults).world <;> rfl
  simp only [hperform]
  cases store traffic.shared.device.home config (traffic.shared.withFaults faults).world <;> rfl

theorem step_work (faults : List (FaultPoint × SystemError)) {side : Side}
    (hplace : traffic.crowd.place i = .inside side) :
    traffic.Step i (.work faults) (traffic.work i faults) := by
  cases hprogress : (traffic.caller i).progress with
  | ahead =>
      cases haccess : (traffic.caller i).access with
      | get =>
          rw [work_get faults hprogress haccess]
          exact .reads faults side hplace hprogress haccess
      | set config =>
          rw [work_set faults hprogress haccess]
          cases h : store traffic.shared.device.home config
            (traffic.shared.withFaults faults).world with
          | ok answer world => exact .stores faults side config world hplace hprogress haccess h
          | error e world => exact .fails faults side config e world hplace hprogress haccess h
  | halfway =>
      rw [work, hprogress]
      cases haccess : (traffic.caller i).access with
      | get => exact .nothing _
      | set config => exact .adopts faults side config _ hplace hprogress haccess rfl
  | done outcome =>
      rw [work, hprogress]
      exact .nothing _

theorem step_advance (traffic : Traffic ι) (i : ι) (act : Act) :
    traffic.Step i act (traffic.advance i act) := by
  unfold advance
  split
  · next access hplace => exact .calls access hplace
  · exact .looks
  · exact .stirs
  · next faults side hplace => exact step_work faults hplace
  · next side hplace =>
      split
      · next outcome hprogress => exact .leaves side outcome hplace hprogress
      · exact .nothing _
  · exact .nothing _

/-- What every step of a kind keeps, a run of such steps keeps. -/
theorem run_induction {P : Traffic ι → Prop} {Q : Act → Prop} (hstart : P traffic)
    (hstep : ∀ traffic i act next, P traffic → Q act → traffic.Step i act next → P next)
    (schedule : List (ι × Act)) (hschedule : ∀ step ∈ schedule, Q step.2) :
    P (traffic.run schedule) := by
  induction schedule generalizing traffic with
  | nil => exact hstart
  | cons step schedule ih =>
      refine ih ?_ fun other hother => hschedule other (List.mem_cons_of_mem _ hother)
      exact hstep _ _ _ _ hstart (hschedule step List.mem_cons_self)
        (traffic.step_advance step.1 step.2)

/-! ## One thread alone -/

end Traffic

end SmartDevice.Device
