import SmartDevice.Proofs.ReadWriteLock.Threads

/-! # A writer is alone, and the lock counts its threads

At every point of every run the lock knows how many threads are inside and how many wait. -/

namespace SmartDevice.ReadWriteLock

variable {ι : Type} [DecidableEq ι] {lock : ReadWriteLock} {crowd : Crowd ι} {side other : Side}

/-! ## The invariant -/

variable [Fintype ι]

/-- The lock has the right numbers. -/
structure Accounted (crowd : Crowd ι) : Prop where
  held_eq : ∀ side, crowd.lock.held side = population crowd.place (·.isInside side)
  queued_eq : ∀ side, crowd.lock.queued side = population crowd.place (·.isWaiting side)
  exclusive : crowd.lock.IsExclusive

namespace Accounted

/-- The numbers stay right if the lock counts one thread where it goes and not where it was. -/
theorem put (h : Accounted crowd) {i : ι} {place : Place}
    (hheld : ∀ side, lock.held side + ((crowd.place i).isInside side).toNat =
      crowd.lock.held side + (place.isInside side).toNat)
    (hqueued : ∀ side, lock.queued side + ((crowd.place i).isWaiting side).toNat =
      crowd.lock.queued side + (place.isWaiting side).toNat)
    (hexclusive : lock.IsExclusive) : Accounted (crowd.put i lock place) where
  held_eq side := by
    have hmoved := population_update crowd.place (·.isInside side) i place
    have hbefore := h.held_eq side
    have hstep := hheld side
    simp only [Crowd.put]
    omega
  queued_eq side := by
    have hmoved := population_update crowd.place (·.isWaiting side) i place
    have hbefore := h.queued_eq side
    have hstep := hqueued side
    simp only [Crowd.put]
    omega
  exclusive := hexclusive

omit [DecidableEq ι] in
theorem notifyAll (h : Accounted crowd) : Accounted crowd.notifyAll where
  held_eq side := by
    simpa only [Crowd.notifyAll, population, Place.isInside_notify] using h.held_eq side
  queued_eq side := by
    simpa only [Crowd.notifyAll, population, Place.isWaiting_notify] using h.queued_eq side
  exclusive := h.exclusive

omit [DecidableEq ι] in
theorem held_pos (h : Accounted crowd) {i : ι} (hplace : crowd.place i = .inside side) :
    0 < crowd.lock.held side := by
  rw [h.held_eq, population_pos_iff]
  exact ⟨i, by simp [hplace, Place.isInside]⟩

omit [DecidableEq ι] in
theorem queued_pos (h : Accounted crowd) {i : ι} {notified : Bool}
    (hplace : crowd.place i = .waiting side notified) : 0 < crowd.lock.queued side := by
  rw [h.queued_eq, population_pos_iff]
  exact ⟨i, by simp [hplace, Place.isWaiting]⟩

omit [DecidableEq ι] in
/-- Whoever writes is the only thread inside. -/
theorem alone (h : Accounted crowd) {i j : ι} (hi : crowd.place i = .inside .writer)
    (hj : crowd.place j = .inside side) : side = .writer ∧ j = i := by
  cases side with
  | reader =>
      have hwriter : crowd.lock.writer = true := by
        cases hwriter : crowd.lock.writer with
        | true => rfl
        | false => exact absurd (h.held_pos hi) (by simp [held, hwriter])
      exact absurd (h.exclusive hwriter) (h.held_pos hj).ne'
  | writer =>
      refine ⟨rfl, eq_of_population_le_one crowd.place (·.isInside .writer) ?_ ?_ ?_⟩
      · rw [← h.held_eq]
        exact Bool.toNat_le _
      · simp [hj, Place.isInside]
      · simp [hi, Place.isInside]

theorem letsOut (h : Accounted crowd) {i : ι} (hplace : crowd.place i = .inside side) :
    Accounted (crowd.put i (crowd.lock.letsOut side) .outside) := by
  have hpos := h.held_pos hplace
  refine h.put (fun other => ?_) (fun other => ?_) (h.exclusive.letsOut side)
  · rw [held_letsOut, hplace]
    by_cases hother : side = other
    · subst hother
      simp [Place.isInside]
      omega
    · simp [Place.isInside, hother]
  · rw [queued_letsOut, hplace]
    rfl

/-- Every step keeps the numbers right. -/
theorem step (h : Accounted crowd) {i : ι} {next : Crowd ι} (hstep : crowd.Step i next) :
    Accounted next := by
  cases hstep with
  | nothing => exact h
  | calls side hplace =>
      refine h.put (fun other => ?_) (fun other => ?_) h.exclusive <;> rw [hplace] <;> rfl
  | enters side hplace hadmits =>
      refine h.put (fun other => ?_) (fun other => ?_) (h.exclusive.arrives side)
      · rw [held_arrives hadmits, hplace]
        rfl
      · rw [queued_arrives hadmits, hplace]
        rfl
  | waits side hplace hadmits =>
      refine h.put (fun other => ?_) (fun other => ?_) (h.exclusive.arrives side)
      · rw [held_arrives_of_not_admits hadmits, hplace]
        rfl
      · rw [queued_arrives_of_not_admits hadmits, hplace]
        rfl
  | entersLate side hplace hadmits =>
      have hpos := h.queued_pos hplace
      refine h.put (fun other => ?_) (fun other => ?_) (.letsIn hadmits)
      · rw [held_letsIn hadmits, hplace]
        rfl
      · rw [queued_letsIn, hplace]
        by_cases hother : side = other
        · subst hother
          simp [Place.isWaiting]
          omega
        · simp [Place.isWaiting, hother]
  | waitsOn side hplace =>
      refine h.put (fun other => ?_) (fun other => ?_) h.exclusive <;> rw [hplace] <;> rfl
  | stirs side hplace =>
      refine h.put (fun other => ?_) (fun other => ?_) h.exclusive <;> rw [hplace] <;> rfl
  | leaves side hplace => exact h.letsOut hplace
  | notifies side hplace => exact (h.letsOut hplace).notifyAll

theorem after (schedule : List (ι × Move)) : Accounted (Crowd.after schedule) := by
  refine Crowd.after_induction ?_ (fun _ _ _ h => h.step) schedule
  refine ⟨fun side => ?_, fun side => ?_, nofun⟩
  · cases side <;> simp [held, population, Place.isInside]
  · cases side <;> simp [queued, population, Place.isWaiting]

end Accounted

/-! ## Exclusion -/

omit [Fintype ι] in
/-- A step lets a reader in only where the lock admits one. -/
theorem Crowd.Step.readers_le {i : ι} {next : Crowd ι} (hstep : crowd.Step i next)
    (hclosed : crowd.lock.admits .reader = false) :
    next.lock.held .reader ≤ crowd.lock.held .reader := by
  have hwriter {side : Side} (hadmits : crowd.lock.admits side = true) : side = .writer := by
    cases side with
    | reader => exact absurd (hclosed.symm.trans hadmits) nofun
    | writer => rfl
  cases hstep with
  | enters side _ hadmits =>
      obtain rfl := hwriter hadmits
      exact (held_arrives hadmits).le
  | waits side _ hadmits => exact (held_arrives_of_not_admits hadmits).le
  | entersLate side _ hadmits =>
      obtain rfl := hwriter hadmits
      exact (held_letsIn hadmits).le
  | leaves => exact held_letsOut.le.trans (Nat.sub_le ..)
  | notifies => exact held_letsOut.le.trans (Nat.sub_le ..)
  | _ => exact le_rfl

/-- What holds at every point of every run. -/
structure Exclusive (crowd : Crowd ι) : Prop where
  /-- At most one thread is inside to write, -/
  oneWriter : ∀ i j, crowd.place i = .inside .writer → crowd.place j = .inside .writer → i = j
  /-- and then none is inside to read. -/
  noReader : ∀ i j, crowd.place i = .inside .writer → crowd.place j ≠ .inside .reader
  readers_eq : crowd.lock.readers = population crowd.place (·.isInside .reader)
  writer_iff : crowd.lock.writer = true ↔ ∃ i, crowd.place i = .inside .writer
  writersWaiting_eq : crowd.lock.writersWaiting = population crowd.place (·.isWaiting .writer)
  readersWaiting_eq : crowd.lock.readersWaiting = population crowd.place (·.isWaiting .reader)
  /-- While a writer waits, no step lets a reader in. -/
  patient : 0 < crowd.lock.writersWaiting → ∀ i move,
    population (crowd.advance i move).place (·.isInside .reader) ≤
      population crowd.place (·.isInside .reader)

theorem isInside_iff {place : Place} : place.isInside side ↔ place = .inside side := by
  cases place <;> simp [Place.isInside]

theorem writer_excludes_readers (schedule : List (ι × Move)) :
    Exclusive (Crowd.after schedule) := by
  have h : Accounted (Crowd.after schedule) := .after schedule
  generalize Crowd.after schedule = crowd at h
  have hwriter : crowd.lock.writer = true ↔ ∃ i, crowd.place i = .inside .writer := by
    simp only [← isInside_iff, ← population_pos_iff, ← h.held_eq, held]
    cases crowd.lock.writer <;> simp
  refine ⟨?_, ?_, h.held_eq .reader, hwriter, h.queued_eq .writer, h.queued_eq .reader, ?_⟩
  · exact fun i j hi hj => (h.alone hj hi).2
  · exact fun i j hi hj => absurd (h.alone hi hj).1 (by simp)
  · intro hwaiting i move
    have hstep := crowd.step_advance i move
    have hclosed : crowd.lock.admits .reader = false := by
      simp only [admits, admitsReader, Bool.and_eq_false_iff, beq_eq_false_iff_ne]
      exact .inr hwaiting.ne'
    rw [← (h.step hstep).held_eq, ← h.held_eq]
    exact hstep.readers_le hclosed

end SmartDevice.ReadWriteLock
