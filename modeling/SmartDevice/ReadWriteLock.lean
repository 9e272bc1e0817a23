/-! A lock for any number of readers or one writer. A waiting writer keeps new readers out. -/

namespace SmartDevice

/-- Who is inside and who waits. -/
structure ReadWriteLock where
  readers : Nat := 0
  writer : Bool := false
  readersWaiting : Nat := 0
  writersWaiting : Nat := 0
  deriving DecidableEq, Repr

namespace ReadWriteLock

/-- What a reader waits for. -/
def admitsReader (lock : ReadWriteLock) : Bool := !lock.writer && lock.writersWaiting == 0

/-- What a writer waits for. -/
def admitsWriter (lock : ReadWriteLock) : Bool := !lock.writer && lock.readers == 0

def readerArrives (lock : ReadWriteLock) : ReadWriteLock :=
  if lock.admitsReader then { lock with readers := lock.readers + 1 }
  else { lock with readersWaiting := lock.readersWaiting + 1 }

def writerArrives (lock : ReadWriteLock) : ReadWriteLock :=
  if lock.admitsWriter then { lock with writer := true }
  else { lock with writersWaiting := lock.writersWaiting + 1 }

/-- Lets in whoever waits at a lock that has become free: one writer before all readers. -/
def wake (lock : ReadWriteLock) : ReadWriteLock :=
  if 0 < lock.writersWaiting then
    { lock with writer := true, writersWaiting := lock.writersWaiting - 1 }
  else { lock with readers := lock.readers + lock.readersWaiting, readersWaiting := 0 }

/-- A reader goes, if one is inside; the last one wakes those who wait. -/
def readerLeaves (lock : ReadWriteLock) : ReadWriteLock :=
  match lock.readers with
  | 0 => lock
  | 1 => wake { lock with readers := 0 }
  | n + 2 => { lock with readers := n + 1 }

def writerLeaves (lock : ReadWriteLock) : ReadWriteLock :=
  if lock.writer then wake { lock with writer := false } else lock

end ReadWriteLock

end SmartDevice
