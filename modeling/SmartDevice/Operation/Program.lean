import SmartDevice.Json.Basic
import SmartDevice.World

/-! Sequential programs over named locks and guards, with blocks that hold a lock while their steps
run. A step that fails does not end the program. -/

namespace SmartDevice.Operation

inductive Step where
  | acquire (lock guard reason : String)
  | release (lock guard : String)
  | inspect (lock guard : String)
  | busy (lock : String)
  /-- Holds a lock during the body, perhaps under a named guard, and perhaps fails at its end. -/
  | hold (lock reason : String) (guard : Option String) (body : List Step) (fails : Option String)
  /-- Gives an existing guard back after the body. -/
  | reenter (lock guard : String) (body : List Step)
  /-- An operation with a value, run while holding a lock. -/
  | run (lock reason : String) (body : List Step) (value : Json) (fails : Option String)
  deriving Inhabited

/-- The lock that a step names. -/
def Step.lock : Step → String
  | acquire lock .. | release lock .. | inspect lock .. | busy lock | hold lock .. |
    reenter lock .. | run lock .. => lock

/-- How a step ends. -/
inductive Outcome where
  | acquired (reason : String)
  | released
  | guard (guard : Guard)
  | state (busy : Option String)
  | left
  | reentered (released : Bool)
  | value (value : Json)
  | refused (e : Failure)
  | unknownGuard (name : String)
  | raised (message : String)

/-- The outcome of a step, the state of every lock named so far, and what the steps of its body
answered. -/
inductive Answer where
  | mk (outcome : Outcome) (locks : List (String × Option String)) (body : List Answer)

/-- Where a program runs. -/
structure Room where
  world : World
  /-- Each named lock with its number. -/
  locks : List (String × Nat) := []
  guards : List (String × Nat) := []

namespace Room

/-- A lock exists from the first time it is named. -/
def name (lock : String) (room : Room) : Room :=
  if (room.locks.lookup lock).isSome then room
  else
    let (number, locks) := room.world.locks.newLock
    { room with
      world := { room.world with locks }
      locks := room.locks ++ [(lock, number)] }

def number (room : Room) (lock : String) : Nat := (room.locks.lookup lock).getD 0

def states (room : Room) : List (String × Option String) :=
  room.locks.map fun (lock, number) => (lock, room.world.locks.busy? number)

def guard? (room : Room) (name : String) : Option (Nat × Guard) := do
  let number ← room.guards.lookup name
  return (number, ← room.world.locks.guards[number]?)

/-- Acquires a lock, and keeps the guard under a name. -/
def acquire (lock reason : String) (guard : Option String) (room : Room) :
    Except Failure (Nat × Room) :=
  match World.acquire (room.number lock) reason room.world with
  | .error e _ => .error e
  | .ok number world =>
    let guards := match guard with
      | some guard => (guard, number) :: room.guards
      | none => room.guards
    .ok (number, { room with world, guards })

def release (number : Nat) (room : Room) : Room :=
  match World.release number room.world with
  | .ok _ world | .error _ world => { room with world }

def isReleased (room : Room) (number : Nat) : Bool :=
  room.world.locks.guards[number]?.all (·.released)

end Room

/-- A body ends well unless it was to fail. -/
def ending (well : Outcome) (fails : Option String) : Outcome :=
  match fails with
  | some message => .raised message
  | none => well

mutual

/-- The outcome of a step whose lock has been named, and what its body answered. -/
def Step.perform (step : Step) (room : Room) : Outcome × List Answer × Room :=
  match step with
  | .acquire lock guard reason =>
    match room.acquire lock reason (some guard) with
    | .error e => (.refused e, [], room)
    | .ok (_, room) => (.acquired reason, [], room)
  | .release _ guard =>
    match room.guard? guard with
    | none => (.unknownGuard guard, [], room)
    | some (number, _) => (.released, [], room.release number)
  | .inspect _ guard =>
    match room.guard? guard with
    | none => (.unknownGuard guard, [], room)
    | some (_, held) => (.guard held, [], room)
  | .busy lock => (.state (room.world.locks.busy? (room.number lock)), [], room)
  | .hold lock reason guard body fails =>
    match room.acquire lock reason guard with
    | .error e => (.refused e, [], room)
    | .ok (number, room) =>
      let (answers, room) := execAll body room
      (ending .left fails, answers, room.release number)
  | .reenter _ guard body =>
    match room.guard? guard with
    | none => (.unknownGuard guard, [], room)
    | some (number, _) =>
      let (answers, room) := execAll body room
      let room := room.release number
      (.reentered (room.isReleased number), answers, room)
  | .run lock reason body value fails =>
    match room.acquire lock reason none with
    | .error e => (.refused e, [], room)
    | .ok (number, room) =>
      let (answers, room) := execAll body room
      (ending (.value value) fails, answers, room.release number)

def execAll : List Step → Room → List Answer × Room
  | [], room => ([], room)
  | step :: steps, room =>
    let (outcome, body, room) := step.perform (room.name step.lock)
    let answer := Answer.mk outcome room.states body
    let (answers, room) := execAll steps room
    (answer :: answers, room)

end

end SmartDevice.Operation
