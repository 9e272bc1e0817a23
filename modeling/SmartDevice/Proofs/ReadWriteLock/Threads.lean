import SmartDevice.Proofs.ReadWriteLock.Sections
import Mathlib.Algebra.BigOperators.Group.Finset.Basic
import Mathlib.Algebra.BigOperators.Group.Finset.Piecewise
import Mathlib.Data.Fintype.Basic
import Mathlib.Logic.Function.Basic

/-! # Threads at a lock

Any number of threads enter and leave in any order. Going through a section of the lock is one step
of a thread; between two of its steps anything may happen. A thread that waits ends its wait only by
looking at the lock again. -/

namespace SmartDevice.ReadWriteLock

/-! ## Threads -/

/-- Where a thread is. -/
inductive Place where
  | outside
  /-- It has not looked at the lock yet. -/
  | calling (side : Side)
  /-- It was not admitted; once it is notified it looks again. -/
  | waiting (side : Side) (notified : Bool)
  | inside (side : Side)
  deriving DecidableEq, Repr

namespace Place

def isInside (side : Side) : Place → Bool
  | inside other => other = side
  | _ => false

def isWaiting (side : Side) : Place → Bool
  | waiting other _ => other = side
  | _ => false

def notify : Place → Place
  | waiting side _ => waiting side true
  | place => place

/-- The section that a thread has come to. -/
def side? : Place → Option Side
  | outside => none
  | calling side | waiting side _ | inside side => some side

/-- A thread that has come as far, on the same side. -/
structure Onward (a b : Place) : Prop where
  side?_eq : b.side? = a.side?
  inside : ∀ side, a = .inside side → b = .inside side

theorem Onward.refl (place : Place) : place.Onward place := ⟨rfl, fun _ => id⟩

theorem onward_notify (place : Place) : place.Onward place.notify := by
  cases place <;> exact ⟨rfl, by simp [notify]⟩

end Place

inductive Move where
  | call (side : Side)
  | look
  /-- Wakes up without having been notified. -/
  | stir
  /-- What was to be done inside has come to its end, or has raised an error. -/
  | leave (raised : Bool)
  deriving DecidableEq, Repr

/-- A lock and the threads at it. -/
structure Crowd (ι : Type) where
  lock : ReadWriteLock := {}
  place : ι → Place := fun _ => .outside

namespace Crowd

variable {ι : Type} [DecidableEq ι]

def put (crowd : Crowd ι) (i : ι) (lock : ReadWriteLock) (place : Place) : Crowd ι where
  lock := lock
  place := Function.update crowd.place i place

def notifyAll (crowd : Crowd ι) : Crowd ι :=
  { crowd with place := fun j => (crowd.place j).notify }

/-- A step of one thread; one that it cannot take where it is changes nothing. -/
def advance (crowd : Crowd ι) (i : ι) (move : Move) : Crowd ι :=
  match crowd.place i, move with
  | .outside, .call side => crowd.put i crowd.lock (.calling side)
  | .calling side, .look =>
    crowd.put i (crowd.lock.arrives side)
      (if crowd.lock.admits side then .inside side else .waiting side false)
  | .waiting side true, .look =>
    if crowd.lock.admits side then crowd.put i (crowd.lock.letsIn side) (.inside side)
    else crowd.put i crowd.lock (.waiting side false)
  | .waiting side false, .stir => crowd.put i crowd.lock (.waiting side true)
  | .inside side, .leave _ =>
    let gone := crowd.put i (crowd.lock.letsOut side) .outside
    if gone.lock.notifies side then gone.notifyAll else gone
  | _, _ => crowd

/-- The steps of the threads in some order, at a lock that nobody has come to yet. -/
def after (schedule : List (ι × Move)) : Crowd ι :=
  schedule.foldl (fun crowd (i, move) => crowd.advance i move) {}

/-! ## What a step can do -/

/-- The steps of one thread, with what each of them needs and does. -/
inductive Step (crowd : Crowd ι) (i : ι) : Crowd ι → Prop where
  | nothing : Step crowd i crowd
  | calls (side : Side) : crowd.place i = .outside →
    Step crowd i (crowd.put i crowd.lock (.calling side))
  | enters (side : Side) : crowd.place i = .calling side → crowd.lock.admits side = true →
    Step crowd i (crowd.put i (crowd.lock.arrives side) (.inside side))
  | waits (side : Side) : crowd.place i = .calling side → crowd.lock.admits side = false →
    Step crowd i (crowd.put i (crowd.lock.arrives side) (.waiting side false))
  | entersLate (side : Side) : crowd.place i = .waiting side true →
    crowd.lock.admits side = true →
    Step crowd i (crowd.put i (crowd.lock.letsIn side) (.inside side))
  | waitsOn (side : Side) : crowd.place i = .waiting side true → crowd.lock.admits side = false →
    Step crowd i (crowd.put i crowd.lock (.waiting side false))
  | stirs (side : Side) : crowd.place i = .waiting side false →
    Step crowd i (crowd.put i crowd.lock (.waiting side true))
  | leaves (side : Side) : crowd.place i = .inside side →
    (crowd.lock.letsOut side).notifies side = false →
    Step crowd i (crowd.put i (crowd.lock.letsOut side) .outside)
  | notifies (side : Side) : crowd.place i = .inside side →
    (crowd.lock.letsOut side).notifies side = true →
    Step crowd i (crowd.put i (crowd.lock.letsOut side) .outside).notifyAll

theorem step_advance (crowd : Crowd ι) (i : ι) (move : Move) :
    Step crowd i (crowd.advance i move) := by
  unfold advance
  split
  · next hplace => exact .calls _ hplace
  · next side hplace =>
      cases hadmits : crowd.lock.admits side with
      | false => exact .waits side hplace hadmits
      | true => exact .enters side hplace hadmits
  · next side hplace =>
      cases hadmits : crowd.lock.admits side with
      | false => exact .waitsOn side hplace hadmits
      | true => exact .entersLate side hplace hadmits
  · next hplace => exact .stirs _ hplace
  · next side raised hplace =>
      cases hnotifies : (crowd.lock.letsOut side).notifies side with
      | false =>
          simpa only [put, hnotifies, Bool.false_eq_true, if_false] using
            Step.leaves side hplace hnotifies
      | true =>
          simpa only [put, hnotifies, if_true] using Step.notifies side hplace hnotifies
  · exact .nothing

/-! ## What becomes of a thread -/

section Places

variable {crowd : Crowd ι} {i j : ι} {side : Side}

theorem place_call (h : crowd.place i = .outside) :
    (crowd.advance i (.call side)).place i = .calling side := by
  simp only [advance, h, put, Function.update_self]

theorem place_leave (h : crowd.place i = .inside side) (raised : Bool) :
    (crowd.advance i (.leave raised)).place i = .outside := by
  simp only [advance, h]
  split <;> simp [put, notifyAll, Place.notify]

/-- A step of one thread takes no other thread back. -/
theorem Step.onward {next : Crowd ι} (hstep : crowd.Step i next) (h : j ≠ i) :
    (crowd.place j).Onward (next.place j) := by
  have hput (lock : ReadWriteLock) (place : Place) :
      (crowd.put i lock place).place j = crowd.place j :=
    Function.update_of_ne h ..
  cases hstep with
  | nothing => exact .refl _
  | notifies side =>
      simp only [notifyAll, hput]
      exact Place.onward_notify _
  | _ => exact hput _ _ ▸ .refl _

/-- A thread that looks or stirs goes on waiting or enters, or is inside already. -/
theorem onward_wait (crowd : Crowd ι) (i : ι) {move : Move} (h : move = .look ∨ move = .stir) :
    (crowd.place i).Onward ((crowd.advance i move).place i) := by
  unfold advance
  split
  · exact absurd h (by simp)
  · next side hplace =>
      rw [hplace]
      simp only [put, Function.update_self]
      split <;> exact ⟨rfl, nofun⟩
  · next side hplace =>
      rw [hplace]
      split <;> simp only [put, Function.update_self] <;> exact ⟨rfl, nofun⟩
  · next side hplace =>
      rw [hplace]
      simp only [put, Function.update_self]
      exact ⟨rfl, nofun⟩
  · exact absurd h (by simp)
  · exact .refl _

end Places

/-- What holds at first and is kept by every step holds after any steps. -/
theorem after_induction {P : Crowd ι → Prop} (hstart : P {})
    (hstep : ∀ crowd i next, P crowd → crowd.Step i next → P next)
    (schedule : List (ι × Move)) : P (after schedule) := by
  have hrun (crowd : Crowd ι) (hcrowd : P crowd) :
      P (schedule.foldl (fun crowd (i, move) => crowd.advance i move) crowd) := by
    induction schedule generalizing crowd with
    | nil => exact hcrowd
    | cons step schedule ih => exact ih _ (hstep _ _ _ hcrowd (crowd.step_advance step.1 step.2))
  exact hrun _ hstart

end Crowd

/-! ## Numbers of threads -/

section Population

variable {ι : Type} [Fintype ι] (place : ι → Place) (p : Place → Bool)

/-- How many threads are at such a place. -/
def population : ℕ := (Finset.univ.filter fun i => p (place i)).card

theorem population_eq_sum : population place p = ∑ i, (p (place i)).toNat := by
  rw [population, Finset.card_filter]
  exact Finset.sum_congr rfl fun i _ => by cases p (place i) <;> rfl

/-- One thread comes from one place to another. -/
theorem population_update [DecidableEq ι] (i : ι) (q : Place) :
    population (Function.update place i q) p + (p (place i)).toNat =
      population place p + (p q).toNat := by
  have hother : ∑ j ∈ Finset.univ.erase i, (p (Function.update place i q j)).toNat =
      ∑ j ∈ Finset.univ.erase i, (p (place j)).toNat :=
    Finset.sum_congr rfl fun j hj => by rw [Function.update_of_ne (Finset.ne_of_mem_erase hj)]
  rw [population_eq_sum, population_eq_sum, ← Finset.add_sum_erase _ _ (Finset.mem_univ i),
    ← Finset.add_sum_erase _ (fun j => (p (place j)).toNat) (Finset.mem_univ i), hother,
    Function.update_self]
  omega

theorem population_pos_iff : 0 < population place p ↔ ∃ i, p (place i) := by
  simp [population, Finset.card_pos, Finset.filter_nonempty_iff]

theorem eq_of_population_le_one (h : population place p ≤ 1) {i j : ι} (hi : p (place i))
    (hj : p (place j)) : i = j :=
  Finset.card_le_one.mp h i (by simp [hi]) j (by simp [hj])

end Population

@[simp] theorem Place.isInside_notify (side : Side) (place : Place) :
    place.notify.isInside side = place.isInside side := by
  cases place <;> rfl

@[simp] theorem Place.isWaiting_notify (side : Side) (place : Place) :
    place.notify.isWaiting side = place.isWaiting side := by
  cases place <;> rfl

end SmartDevice.ReadWriteLock
