import SmartDevice.Proofs.ReadWriteLock.Exclusion

/-! # Nobody waits in vain

A thread that waits and has not been notified would not be admitted: a step after which the lock
admits someone it did not admit before notifies all who wait. -/

namespace SmartDevice.ReadWriteLock

variable {ι : Type} [DecidableEq ι] {lock : ReadWriteLock} {crowd : Crowd ι} {side other : Side}

/-! ## The invariant -/

/-- The lock does not admit anyone who waits without having been notified. -/
def Heedful (crowd : Crowd ι) : Prop :=
  ∀ i side, crowd.place i = .waiting side false → crowd.lock.admits side = false

namespace Heedful

theorem put (h : Heedful crowd) {i : ι} {place : Place}
    (hothers : ∀ side, crowd.lock.admits side = false → lock.admits side = false)
    (hself : ∀ side, place = .waiting side false → lock.admits side = false) :
    Heedful (crowd.put i lock place) := by
  intro j side hj
  by_cases hji : j = i
  · subst hji
    simp only [Crowd.put, Function.update_self] at hj
    exact hself side hj
  · simp only [Crowd.put, Function.update_of_ne hji] at hj
    exact hothers side (h j side hj)

omit [DecidableEq ι] in
theorem notifyAll (crowd : Crowd ι) : Heedful crowd.notifyAll := by
  intro i side hi
  simp only [Crowd.notifyAll] at hi
  cases hplace : crowd.place i <;> simp [hplace, Place.notify] at hi

/-- Every step keeps the invariant. -/
theorem step (h : Heedful crowd) {i : ι} {next : Crowd ι} (hstep : crowd.Step i next) :
    Heedful next := by
  cases hstep with
  | nothing => exact h
  | calls side hplace => exact h.put (fun _ => id) nofun
  | enters side hplace hadmits => exact h.put (fun _ => admits_arrives) nofun
  | waits side hplace hadmits =>
      refine h.put (fun _ => admits_arrives) fun other hother => ?_
      cases hother
      exact admits_arrives hadmits
  | entersLate side hplace hadmits =>
      exact h.put (fun _ hclosed => admits_letsIn hclosed hadmits) nofun
  | waitsOn side hplace hadmits =>
      refine h.put (fun _ => id) fun other hother => ?_
      cases hother
      exact hadmits
  | stirs side hplace => exact h.put (fun _ => id) nofun
  | leaves side hplace hunnoticed =>
      exact h.put (fun _ hclosed => admits_letsOut hclosed hunnoticed) nofun
  | notifies side hplace => exact notifyAll _

theorem after (schedule : List (ι × Move)) : Heedful (Crowd.after schedule) :=
  Crowd.after_induction nofun (fun _ _ _ h => h.step) schedule

end Heedful

/-! ## Lost wakeups -/

/-- The thread is about to look at the lock. -/
def Place.isDue : Place → Bool
  | calling _ | waiting _ true => true
  | _ => false

omit [DecidableEq ι] in
theorem Heedful.closed (h : Heedful crowd) (hquiet : ∀ i, (crowd.place i).isDue = false)
    (hwaits : ∃ i, (crowd.place i).isWaiting side) : crowd.lock.admits side = false := by
  obtain ⟨i, hi⟩ := hwaits
  have hidle := hquiet i
  cases hplace : crowd.place i with
  | waiting other notified =>
      rw [hplace] at hi hidle
      obtain rfl : other = side := by simpa [Place.isWaiting] using hi
      cases notified with
      | false => exact h i other hplace
      | true => cases hidle
  | _ =>
      rw [hplace] at hi
      cases hi

/-- If no thread is about to look at the lock, then whoever waits waits for someone: a writer for a
thread inside, a reader for one that writes or waits to write. So with nobody inside nobody
waits. -/
theorem no_wakeup_is_lost [Fintype ι] (schedule : List (ι × Move))
    (hquiet : ∀ i, ((Crowd.after schedule).place i).isDue = false) :
    let crowd := Crowd.after schedule
    ((∃ i, (crowd.place i).isWaiting .writer) → ∃ i side, crowd.place i = .inside side) ∧
      ((∃ i, (crowd.place i).isWaiting .reader) →
        (∃ i, crowd.place i = .inside .writer) ∨ ∃ i, (crowd.place i).isWaiting .writer) ∧
      ((∀ i side, crowd.place i ≠ .inside side) →
        ∀ i side, (crowd.place i).isWaiting side = false) := by
  intro crowd
  have hcount : Accounted crowd := .after schedule
  have hheeds : Heedful crowd := .after schedule
  have hinside (side : Side) (hpos : 0 < crowd.lock.held side) :
      ∃ i, crowd.place i = .inside side := by
    rw [hcount.held_eq, population_pos_iff] at hpos
    simpa only [isInside_iff] using hpos
  have hwriter (hwaits : ∃ i, (crowd.place i).isWaiting .writer) :
      ∃ i side, crowd.place i = .inside side := by
    obtain ⟨side, hpos⟩ := held_pos_of_closed (hheeds.closed hquiet hwaits)
    obtain ⟨i, hi⟩ := hinside side hpos
    exact ⟨i, side, hi⟩
  have hreader (hwaits : ∃ i, (crowd.place i).isWaiting .reader) :
      (∃ i, crowd.place i = .inside .writer) ∨ ∃ i, (crowd.place i).isWaiting .writer := by
    rcases writer_of_closed (hheeds.closed hquiet hwaits) with hheld | hqueued
    · exact .inl (hinside .writer hheld)
    · rw [hcount.queued_eq, population_pos_iff] at hqueued
      exact .inr hqueued
  refine ⟨hwriter, hreader, fun hnobody i side => ?_⟩
  have hnoWriter (hwaits : ∃ i, (crowd.place i).isWaiting .writer) : False := by
    obtain ⟨j, other, hj⟩ := hwriter hwaits
    exact hnobody j other hj
  rw [Bool.eq_false_iff]
  intro hwaits
  cases side with
  | writer => exact hnoWriter ⟨i, hwaits⟩
  | reader =>
      rcases hreader ⟨i, hwaits⟩ with ⟨j, hj⟩ | hwaiting
      · exact hnobody j .writer hj
      · exact hnoWriter hwaiting

/-- One thread reads, a second waits to write, and so a third waits to read. -/
def queueing : List (Fin 3 × Move) :=
  [(0, .call .reader), (0, .look), (1, .call .writer), (1, .look), (2, .call .reader), (2, .look)]

theorem queueing_waits_for_reader :
    let crowd := Crowd.after queueing
    (∀ i, (crowd.place i).isDue = false) ∧
      (crowd.place 1).isWaiting .writer ∧ (crowd.place 2).isWaiting .reader ∧
      (∃ i side, crowd.place i = .inside side) ∧
      ((∃ i, crowd.place i = .inside .writer) ∨ ∃ i, (crowd.place i).isWaiting .writer) := by
  have hquiet : ∀ i, ((Crowd.after queueing).place i).isDue = false := by decide
  obtain ⟨hwriter, hreader, -⟩ := no_wakeup_is_lost queueing hquiet
  exact ⟨hquiet, rfl, rfl, hwriter ⟨1, rfl⟩, hreader ⟨2, rfl⟩⟩

end SmartDevice.ReadWriteLock
