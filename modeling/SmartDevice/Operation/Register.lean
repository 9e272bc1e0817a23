/-! Exclusive operations. A lock is free or busy with one operation, whose reason it tells; whoever
makes it busy gets a guard, and giving the guard back frees the lock. -/

namespace SmartDevice

/-- Why an operation does not start. -/
inductive OperationError where
  | emptyReason
  | busy (reason : String)
  deriving DecidableEq, Repr

def OperationError.message : OperationError → String
  | emptyReason => "Busy reason must not be empty"
  | busy reason => reason

namespace Operation

structure Guard where
  lock : Nat
  reason : String
  released : Bool := false
  deriving DecidableEq, Repr

/-- The busy locks with their reasons, and every guard that was ever handed out. -/
structure Register where
  busyLocks : List (Nat × String) := []
  guards : List Guard := []
  /-- No lock from this number on is in use. -/
  nextLock : Nat := 0

namespace Register

def newLock (register : Register) : Nat × Register :=
  (register.nextLock, { register with nextLock := register.nextLock + 1 })

def busy? (register : Register) (lock : Nat) : Option String := register.busyLocks.lookup lock

def free (lock : Nat) (register : Register) : Register :=
  { register with busyLocks := register.busyLocks.filter (·.1 ≠ lock) }

/-- Makes a free lock busy and hands out its guard, which is known by its number. Nothing waits. -/
def acquire (lock : Nat) (reason : String) (register : Register) :
    Except OperationError (Nat × Register) :=
  if reason = "" then .error .emptyReason
  else match register.busy? lock with
    | some holder => .error (.busy holder)
    | none =>
      .ok (register.guards.length,
        { register with
          busyLocks := (lock, reason) :: register.busyLocks
          guards := register.guards ++ [{ lock, reason }] })

/-- Takes a guard back. Only the first time frees the lock; the answer tells whether it did. -/
def release (guard : Nat) (register : Register) : Bool × Register :=
  match register.guards[guard]? with
  | none => (false, register)
  | some held =>
    if held.released then (false, register)
    else
      (true, free held.lock
        { register with guards := register.guards.set guard { held with released := true } })

theorem busy?_free (lock other : Nat) (register : Register) :
    (register.free lock).busy? other = if other = lock then none else register.busy? other := by
  unfold free busy?
  induction register.busyLocks with
  | nil => simp
  | cons entry rest ih => grind

theorem busy?_of_acquire {lock guard : Nat} {reason : String} {before after : Register}
    (h : before.acquire lock reason = .ok (guard, after)) (other : Nat) :
    after.busy? other = if other = lock then some reason else before.busy? other := by
  unfold acquire at h
  split at h
  · simp at h
  · split at h
    · simp at h
    · cases h
      simp only [busy?, List.lookup_cons]
      grind

end Register

end Operation

end SmartDevice
