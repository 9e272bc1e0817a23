import SmartDevice.ReadWriteLock
import Mathlib.Data.Nat.Notation

/-! # The sections of the lock

A thread goes through a section alone: it looks at the lock when it comes, looks again after it has
waited, and leaves. -/

namespace SmartDevice.ReadWriteLock

inductive Side where
  | reader
  | writer
  deriving DecidableEq, Repr

/-- What a thread waits for. -/
def admits (lock : ReadWriteLock) : Side → Bool
  | .reader => lock.admitsReader
  | .writer => lock.admitsWriter

/-- What a thread leaves behind that comes for the first time: it enters or has to wait. -/
def arrives (lock : ReadWriteLock) : Side → ReadWriteLock
  | .reader => lock.readerArrives
  | .writer => lock.writerArrives

/-- What becomes of the lock once a thread has gone and those it makes room for have come in. -/
def leaves (lock : ReadWriteLock) : Side → ReadWriteLock
  | .reader => lock.readerLeaves
  | .writer => lock.writerLeaves

/-- A thread that has waited enters. -/
def letsIn (lock : ReadWriteLock) : Side → ReadWriteLock
  | .reader =>
    { lock with readers := lock.readers + 1, readersWaiting := lock.readersWaiting - 1 }
  | .writer => { lock with writer := true, writersWaiting := lock.writersWaiting - 1 }

/-- A thread goes. -/
def letsOut (lock : ReadWriteLock) : Side → ReadWriteLock
  | .reader => { lock with readers := lock.readers - 1 }
  | .writer => { lock with writer := false }

/-- Whether a thread that leaves the lock like this notifies those who wait. -/
def notifies (lock : ReadWriteLock) : Side → Bool
  | .reader => lock.readers == 0
  | .writer => true

variable {lock : ReadWriteLock} {side other : Side}

/-! ## What the lock counts -/

/-- How many the lock has inside. -/
def held (lock : ReadWriteLock) : Side → ℕ
  | .reader => lock.readers
  | .writer => lock.writer.toNat

/-- How many wait at the lock. -/
def queued (lock : ReadWriteLock) : Side → ℕ
  | .reader => lock.readersWaiting
  | .writer => lock.writersWaiting

theorem held_arrives (h : lock.admits side = true) :
    (lock.arrives side).held other = lock.held other + (decide (side = other)).toNat := by
  cases side <;> cases other <;>
    simp_all [admits, arrives, held, readerArrives, writerArrives, admitsWriter]

theorem queued_arrives (h : lock.admits side = true) :
    (lock.arrives side).queued other = lock.queued other := by
  cases side <;> cases other <;>
    simp_all [admits, arrives, queued, readerArrives, writerArrives]

theorem held_arrives_of_not_admits (h : lock.admits side = false) :
    (lock.arrives side).held other = lock.held other := by
  cases side <;> cases other <;>
    simp_all [admits, arrives, held, readerArrives, writerArrives]

theorem queued_arrives_of_not_admits (h : lock.admits side = false) :
    (lock.arrives side).queued other = lock.queued other + (decide (side = other)).toNat := by
  cases side <;> cases other <;>
    simp_all [admits, arrives, queued, readerArrives, writerArrives]

theorem held_letsIn (h : lock.admits side = true) :
    (lock.letsIn side).held other = lock.held other + (decide (side = other)).toNat := by
  cases side <;> cases other <;> simp_all [admits, letsIn, held, admitsWriter]

theorem queued_letsIn :
    (lock.letsIn side).queued other = lock.queued other - (decide (side = other)).toNat := by
  cases side <;> cases other <;> simp [letsIn, queued]

theorem held_letsOut :
    (lock.letsOut side).held other = lock.held other - (decide (side = other)).toNat := by
  cases side <;> cases other <;> simp [letsOut, held]
  cases lock.writer <;> rfl

theorem queued_letsOut : (lock.letsOut side).queued other = lock.queued other := by
  cases side <;> cases other <;> rfl

/-- Whoever leaves a lock that it is inside of goes, and then those come in whom it notifies. -/
theorem leaves_eq (h : 0 < lock.held side) :
    lock.leaves side =
      if (lock.letsOut side).notifies side then (lock.letsOut side).wake
      else lock.letsOut side := by
  cases side with
  | reader =>
      obtain ⟨readers, writer, readersWaiting, writersWaiting⟩ := lock
      match readers with
      | 0 => cases h
      | 1 => rfl
      | n + 2 => rfl
  | writer =>
      obtain ⟨readers, writer, readersWaiting, writersWaiting⟩ := lock
      cases writer with
      | false => cases h
      | true => rfl

/-! ## Whoever writes is alone -/

def IsExclusive (lock : ReadWriteLock) : Prop := lock.writer = true → lock.readers = 0

theorem IsExclusive.arrives (h : lock.IsExclusive) (side : Side) :
    (lock.arrives side).IsExclusive := by
  cases side
  · simp only [ReadWriteLock.arrives, readerArrives]
    split
    · next hadmits => simp_all [IsExclusive, admitsReader]
    · exact h
  · simp only [ReadWriteLock.arrives, writerArrives]
    split
    · next hadmits => simp_all [IsExclusive, admitsWriter]
    · exact h

theorem IsExclusive.letsIn (hadmits : lock.admits side = true) :
    (lock.letsIn side).IsExclusive := by
  cases side <;> simp_all [ReadWriteLock.letsIn, IsExclusive, admits, admitsReader, admitsWriter]

theorem IsExclusive.letsOut (h : lock.IsExclusive) (side : Side) :
    (lock.letsOut side).IsExclusive := by
  cases side
  · exact fun hwriter => by simp [ReadWriteLock.letsOut, h hwriter]
  · exact fun hwriter => by simp [ReadWriteLock.letsOut] at hwriter

/-! ## Who is admitted -/

theorem admits_arrives (h : lock.admits other = false) :
    (lock.arrives side).admits other = false := by
  cases side
  · simp only [arrives, readerArrives]
    split <;> cases other <;> simp_all [admits, admitsReader, admitsWriter]
  · simp only [arrives, writerArrives]
    split <;> cases other <;> simp_all [admits, admitsReader, admitsWriter]

theorem admits_letsIn (h : lock.admits other = false) (hadmits : lock.admits side = true) :
    (lock.letsIn side).admits other = false := by
  cases side <;> cases other <;> simp_all [letsIn, admits, admitsReader, admitsWriter]

/-- A thread whose leaving goes unnoticed leaves others inside, and these keep out the same. -/
theorem admits_letsOut (h : lock.admits other = false)
    (hunnoticed : (lock.letsOut side).notifies side = false) :
    (lock.letsOut side).admits other = false := by
  cases side <;> cases other <;>
    simp_all [letsOut, notifies, admits, admitsReader, admitsWriter]

/-- A writer is kept out by someone inside. -/
theorem held_pos_of_closed (h : lock.admits .writer = false) : ∃ side, 0 < lock.held side := by
  rw [admits, admitsWriter, Bool.and_eq_false_iff] at h
  rcases h with hwriter | hreaders
  · exact ⟨.writer, by simp_all [held]⟩
  · exact ⟨.reader, Nat.pos_of_ne_zero (beq_eq_false_iff_ne.mp hreaders)⟩

/-- A reader is kept out by someone who writes or waits to write. -/
theorem writer_of_closed (h : lock.admits .reader = false) :
    0 < lock.held .writer ∨ 0 < lock.queued .writer := by
  rw [admits, admitsReader, Bool.and_eq_false_iff] at h
  rcases h with hwriter | hqueued
  · exact .inl (by simp_all [held])
  · exact .inr (Nat.pos_of_ne_zero (beq_eq_false_iff_ne.mp hqueued))

end SmartDevice.ReadWriteLock
