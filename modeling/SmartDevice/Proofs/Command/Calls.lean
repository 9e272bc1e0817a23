import SmartDevice.Proofs.Command.Phases
import Mathlib.Logic.Function.Basic

/-! # Commands that are called at the same time

Any number of calls go through their steps in any order. A call that acquires the lock goes on as it
would have gone alone from the start. -/

namespace SmartDevice.Command

open Apply World Running Device

/-! ## Calls -/

/-- A command that is called, the faults that wait for its file operations and the ways in which its
scripts end. -/
structure Call where
  invocation : Invocation
  faults : List (FaultPoint × SystemError) := []
  scripts : List (String × ScriptOutcome) := []

/-- How far a call has come. -/
inductive Stage where
  | fresh
  | confirmed
  /-- It holds a guard, has phases to go through, and knows how it ends if none of them fails. -/
  | inside (guard : ℕ) (todo : List Phase) (result : Except Failure String)
  | ended (result : Except Failure String)

namespace Stage

def isInside : Stage → Bool
  | inside .. => true
  | _ => false

/-- It has not tried to acquire the lock. -/
def isWaiting : Stage → Bool
  | fresh | confirmed => true
  | _ => false

theorem isInside_of_isWaiting {stage : Stage} (h : stage.isWaiting) : stage.isInside = false := by
  cases stage with
  | fresh => rfl
  | confirmed => rfl
  | _ => cases h

/-- A script has been started and has not ended. -/
def inScript : Stage → Bool
  | inside _ (.awaitScript _ :: _) _ => true
  | _ => false

end Stage

namespace Call

def reason (call : Call) : String := call.invocation.kind.reason

/-- What the call meets with once it is alone with the device. -/
def prepare (call : Call) (running : Running) : Running :=
  { running with
    world := { running.world with
      disk := { running.world.disk with faults := call.faults }
      scripts := call.scripts } }

/-- The next step of a call. -/
def advance (call : Call) (stage : Stage) (shared : Running) : Stage × Running :=
  match stage with
  | .fresh =>
    if call.invocation.isConfirmed then (.confirmed, shared)
    else (.ended (.error .unconfirmed), shared)
  | .confirmed =>
    match acquire call.reason shared with
    | .error e after => (.ended (.error e), after)
    | .ok guard after =>
      (.inside guard call.invocation.phases (.ok call.invocation.kind.answer), call.prepare after)
  | .inside guard [] result => (.ended result, shared.giveBack guard)
  | .inside guard (phase :: todo) result =>
    match phase.perform shared with
    | .ok _ after => (.inside guard todo result, after)
    | .error e after => (.inside guard [] (.error e), after)
  | .ended result => (.ended result, shared)

/-- The call by itself, from its first step to its last. -/
def run (call : Call) (shared : Running) : Except Failure String × Running :=
  (answer call.invocation.perform (call.prepare shared),
    left call.invocation.perform (call.prepare shared))

end Call

/-! ## Runs -/

variable {α ι : Type} {plan : ι → Call} {start : Running} {i j : ι}

/-- Some calls on one device, and those of them that have acquired its lock, in order. -/
structure Flight (ι : Type) where
  stage : ι → Stage
  shared : Running
  acquired : List ι

namespace Flight

/-- The next step of one of the calls. -/
def advance [DecidableEq ι] (plan : ι → Call) (flight : Flight ι) (i : ι) : Flight ι :=
  let (stage, shared) := (plan i).advance (flight.stage i) flight.shared
  { shared
    stage := Function.update flight.stage i stage
    acquired :=
      if stage.isInside && !(flight.stage i).isInside then flight.acquired ++ [i]
      else flight.acquired }

/-- The steps of the calls in some order, from a device that no call has reached yet. -/
def after [DecidableEq ι] (plan : ι → Call) (start : Running) (schedule : List ι) : Flight ι :=
  schedule.foldl (advance plan) { stage := fun _ => .fresh, shared := start, acquired := [] }

end Flight

/-- Calls that run one after another. -/
def inOrder (plan : ι → Call) (start : Running) (order : List ι) : Running :=
  order.foldl (fun shared i => ((plan i).run shared).2) start

/-! ## The lock -/

/-- A guard that was not given back, of the lock that it keeps busy. -/
structure Keeping (running : Running) (guard : ℕ) (reason : String) : Prop where
  guard_eq : running.world.locks.guards[guard]? =
    some { lock := running.device.lock, reason, released := false }
  busy_eq : running.device.busy? running.world = some reason

theorem acquire_busy {reason holder : String} {running : Running} (hreason : reason ≠ "")
    (h : running.device.busy? running.world = some holder) :
    acquire reason running = .error (.operation (.busy holder)) running := by
  have hlock : running.world.locks.acquire running.device.lock reason = .error (.busy holder) := by
    rw [Operation.Register.acquire, if_neg hreason, show running.world.locks.busy? _ = _ from h]
  rw [Device.acquire_apply, around_apply, World.acquire_apply, hlock]

/-- What the acquiring of a free lock leaves behind. -/
def taken (reason : String) (running : Running) : Running :=
  { running with
    world := { running.world with
      locks := { running.world.locks with
        busyLocks := (running.device.lock, reason) :: running.world.locks.busyLocks
        guards := running.world.locks.guards ++ [{ lock := running.device.lock, reason }] }
      console := running.world.console.debug "BUSY" reason } }

theorem acquire_free {reason : String} {running : Running} (hreason : reason ≠ "")
    (h : running.device.busy? running.world = none) :
    acquire reason running =
      .ok running.world.locks.guards.length (taken reason running) := by
  have hlock : running.world.locks.acquire running.device.lock reason =
      .ok (running.world.locks.guards.length, (taken reason running).world.locks) := by
    rw [Operation.Register.acquire, if_neg hreason, show running.world.locks.busy? _ = _ from h]
    rfl
  rw [Device.acquire_apply, around_apply, World.acquire_apply, hlock]
  rfl

theorem keeping_taken (reason : String) (running : Running) :
    Keeping (taken reason running) running.world.locks.guards.length reason where
  guard_eq := by simp [taken]
  busy_eq := by simp [taken, busy?, Operation.Register.busy?]

/-- Giving the guard back frees the lock. -/
theorem Keeping.free {running : Running} {guard : ℕ} {reason : String}
    (h : Keeping running guard reason) :
    (running.giveBack guard).device.busy? (running.giveBack guard).world = none := by
  have hrelease : (running.world.locks.release guard).2 =
      Operation.Register.free running.device.lock { running.world.locks with
        guards := running.world.locks.guards.set guard
          { lock := running.device.lock, reason, released := true } } := by
    rw [Operation.Register.release, h.guard_eq]
    rfl
  change (running.world.locks.release guard).2.busy? running.device.lock = none
  rw [hrelease, Operation.Register.busy?_free, if_pos rfl]

theorem Kind.reason_ne_empty (kind : Kind) : kind.reason ≠ "" := by
  cases kind <;> decide

theorem reason_ne_empty (call : Call) : call.reason ≠ "" :=
  call.invocation.kind.reason_ne_empty

/-! ## Phases -/

/-- The lock of the device and everything about locks. -/
def locksOf (running : Running) : ℕ × Operation.Register :=
  (running.device.lock, running.world.locks)

theorem keeps_locks_perform (phase : Phase) : Keeps locksOf phase.perform :=
  keeps_perform (fun _ _ _ _ => rfl) (fun _ _ => rfl) phase

/-- A phase fails with what storing or a script fails with. -/
theorem raises_phase (phase : Phase) :
    Raises (fun e => e.FromStorage ∨ e.FromScript) phase.perform := by
  cases phase with
  | announceReset => exact fun _ _ _ h => by cases h
  | store config =>
      exact .bind .get fun running => (raises_around (raises_store _ _)).mono fun _ => .inl
  | adopt config => exact fun _ _ _ h => by cases h
  | startScript name => exact fun _ _ _ h => by cases h
  | awaitScript name =>
      refine .bind (.mono (raises_around ?_) fun _ => .inr) fun _ => .pure _
      exact .bind (fun _ _ _ h => by cases h) fun _ => raises_awaitScript _ _ _

/-- No phase finds the device busy. -/
theorem raises_perform (phase : Phase) : Raises (∀ cause, · ≠ .operation cause) phase.perform := by
  refine (raises_phase phase).mono ?_
  rintro e he cause rfl
  exact he.elim id id

theorem Keeping.of_locks {before after : Running} {guard : ℕ} {reason : String}
    (h : Keeping before guard reason) (hlocks : locksOf after = locksOf before) :
    Keeping after guard reason := by
  obtain ⟨hlock, hregister⟩ := Prod.mk.inj hlocks
  refine ⟨?_, ?_⟩
  · rw [hlock, hregister, h.guard_eq]
  · rw [busy?, hlock, hregister]
    exact h.busy_eq

/-! ## What is left of a call -/

/-- How a call ends, and what it leaves behind, if it goes on alone. -/
def finish (guard : ℕ) (todo : List Phase) (result : Except Failure String) (shared : Running) :
    Except Failure String × Running :=
  match performAll todo shared with
  | .ok _ after => (result, after.giveBack guard)
  | .error e after => (.error e, after.giveBack guard)

theorem finish_ok {phase : Phase} {shared after : Running}
    (h : phase.perform shared = .ok ⟨⟩ after) (guard : ℕ) (todo : List Phase)
    (result : Except Failure String) :
    finish guard (phase :: todo) result shared = finish guard todo result after := by
  simp only [finish, performAll, bind_apply, h]

theorem finish_error {phase : Phase} {shared after : Running} {e : Failure}
    (h : phase.perform shared = .error e after) (guard : ℕ) (todo : List Phase)
    (result : Except Failure String) :
    finish guard (phase :: todo) result shared = finish guard [] (.error e) after := by
  simp only [finish, performAll, bind_apply, h, pure_apply]

/-- A call that acquires the lock goes on as it would have gone alone from the start. -/
theorem run_eq_finish {call : Call} (hconfirmed : call.invocation.isConfirmed = true)
    {shared : Running} (hfree : shared.device.busy? shared.world = none) :
    call.run shared =
      finish shared.world.locks.guards.length call.invocation.phases
        (.ok call.invocation.kind.answer) (call.prepare (taken call.reason shared)) := by
  have hprepared : (call.prepare shared).device.busy? (call.prepare shared).world = none := hfree
  have hacquire : acquire call.invocation.kind.reason (call.prepare shared) =
      .ok shared.world.locks.guards.length (call.prepare (taken call.reason shared)) :=
    acquire_free (reason_ne_empty call) hprepared
  unfold Call.run answer left finish
  rw [Invocation.perform_apply hconfirmed, hacquire]
  simp only
  cases performAll call.invocation.phases (call.prepare (taken call.reason shared)) <;> rfl

end SmartDevice.Command
