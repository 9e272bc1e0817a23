import SmartDevice.Proofs.ReadWriteLock.Wakeup

/-! # The order in which threads look makes no difference

One thread comes or goes while all others are inside or wait. Each thread that has to look at the
lock then looks once, and in whatever order they do, the lock ends with the same numbers. -/

namespace SmartDevice.ReadWriteLock

variable {ι : Type} [DecidableEq ι] {crowd last : Crowd ι} {i : ι} {looks : List ι} {side : Side}

namespace Place

theorem isDue_iff (place : Place) :
    place.isDue = true ↔ ∃ side, place = .calling side ∨ place = .waiting side true := by
  cases place with
  | waiting side notified => cases notified <;> simp [isDue]
  | _ => simp [isDue]

/-- The thread waits and has been notified. -/
def isWoken (side : Side) : Place → Bool
  | waiting other true => other = side
  | _ => false

theorem isWoken_notify (side : Side) (place : Place) :
    place.notify.isWoken side = place.isWaiting side := by
  cases place <;> rfl

theorem isWaiting_of_isWoken {place : Place} (h : place.isWoken side = true) :
    place.isWaiting side = true := by
  cases place with
  | waiting other notified =>
      cases notified with
      | false => simp [isWoken] at h
      | true => exact h
  | _ => simp [isWoken] at h

theorem isWoken_of_not_isDue {place : Place} (h : place.isDue = false) (side : Side) :
    place.isWoken side = false := by
  cases place with
  | waiting other notified =>
      cases notified with
      | false => rfl
      | true => simp [isDue] at h
  | _ => rfl

end Place

/-! ## What is to come -/

/-- What the lock becomes once so many readers and writers have looked: one of the writers gets in
if the lock admits writers, and all of the readers do if it admits readers. -/
def settled (lock : ReadWriteLock) (readers writers : ℕ) : ReadWriteLock :=
  if lock.admits .writer ∧ 0 < writers then lock.letsIn .writer
  else if lock.admits .reader then
    { lock with
      readers := lock.readers + readers
      readersWaiting := lock.readersWaiting - readers }
  else lock

section Settled

variable {lock : ReadWriteLock} {readers writers : ℕ}

theorem settled_zero : lock.settled 0 0 = lock := by
  simp [settled]

/-- A writer that gets in leaves a lock that admits nobody else. -/
theorem settled_letsIn_writer (h : lock.admits .writer = true) :
    (lock.letsIn .writer).settled readers writers = lock.settled readers (writers + 1) := by
  have hclosed (side : Side) : (lock.letsIn .writer).admits side = false := by
    cases side <;> rfl
  simp [settled, hclosed, h]

theorem settled_writer_of_not_admits (h : lock.admits .writer = false) :
    lock.settled readers (writers + 1) = lock.settled readers writers := by
  simp [settled, h]

/-- No writer waits where a reader gets in, so the other readers get in as well. -/
theorem settled_letsIn_reader (h : lock.admits .reader = true) :
    (lock.letsIn .reader).settled readers 0 = lock.settled (readers + 1) 0 := by
  have hopen : (lock.letsIn .reader).admits .reader = true := by
    simpa [admits, admitsReader, letsIn] using h
  have hcount : lock.readersWaiting - 1 - readers = lock.readersWaiting - (readers + 1) := by
    omega
  simp only [settled, Nat.lt_irrefl, and_false, if_false, if_pos hopen, if_pos h]
  simp only [letsIn, hcount, Nat.add_assoc, Nat.add_comm 1]

theorem settled_reader_of_not_admits (h : lock.admits .reader = false) :
    lock.settled (readers + 1) writers = lock.settled readers writers := by
  simp [settled, h]

/-- Once the lock has become free and all who wait have looked, it is as if they had been woken at
one stroke. -/
theorem settled_of_free (hwriter : lock.writer = false) (hreaders : lock.readers = 0) :
    lock.settled lock.readersWaiting lock.writersWaiting = lock.wake := by
  by_cases hqueued : 0 < lock.writersWaiting
  · simp [settled, wake, admits, admitsWriter, letsIn, hwriter, hreaders, hqueued]
  · simp [settled, wake, admits, admitsReader, hwriter, hreaders, hqueued]
    omega

/-- A lock at which those who wait are notified is free. -/
theorem free_of_notifies (hexclusive : lock.IsExclusive) (hheld : 0 < lock.held side)
    (hnotifies : (lock.letsOut side).notifies side = true) :
    (lock.letsOut side).writer = false ∧ (lock.letsOut side).readers = 0 := by
  cases side with
  | reader =>
      refine ⟨?_, by simpa [notifies] using hnotifies⟩
      apply Bool.eq_false_of_not_eq_true
      intro hwriter
      exact hheld.ne' (hexclusive hwriter)
  | writer =>
      have hwriter : lock.writer = true := by
        cases hwriter : lock.writer with
        | true => rfl
        | false => simp [held, hwriter] at hheld
      exact ⟨rfl, hexclusive hwriter⟩

end Settled

namespace Crowd

/-! ## Looking in turn -/

/-- Nobody is about to look at the lock. -/
def IsQuiet (crowd : Crowd ι) : Prop := ∀ i, (crowd.place i).isDue = false

/-- Threads look at the lock one after another, each of them when it is about to. -/
inductive Looks : Crowd ι → List ι → Crowd ι → Prop where
  | done (crowd : Crowd ι) : Looks crowd [] crowd
  | look {crowd last : Crowd ι} {i : ι} {looks : List ι} : (crowd.place i).isDue = true →
    Looks (crowd.advance i .look) looks last → Looks crowd (i :: looks) last

theorem look_calling (h : crowd.place i = .calling side) :
    crowd.advance i .look = crowd.put i (crowd.lock.arrives side)
      (if crowd.lock.admits side then .inside side else .waiting side false) := by
  simp only [advance, h]

theorem look_waiting (h : crowd.place i = .waiting side true) :
    crowd.advance i .look =
      if crowd.lock.admits side then crowd.put i (crowd.lock.letsIn side) (.inside side)
      else crowd.put i crowd.lock (.waiting side false) := by
  simp only [advance, h]

theorem place_put_self (crowd : Crowd ι) (i : ι) (lock : ReadWriteLock) (place : Place) :
    (crowd.put i lock place).place i = place :=
  Function.update_self ..

theorem place_put_of_ne (crowd : Crowd ι) {i j : ι} (h : j ≠ i) (lock : ReadWriteLock)
    (place : Place) : (crowd.put i lock place).place j = crowd.place j :=
  Function.update_of_ne h ..

theorem put_put (crowd : Crowd ι) (i : ι) (lock other : ReadWriteLock) (place next : Place) :
    (crowd.put i lock place).put i other next = crowd.put i other next := by
  simp only [put, Function.update_idem]

theorem isQuiet_put (h : crowd.IsQuiet) (lock : ReadWriteLock) {place : Place}
    (hidle : place.isDue = false) : (crowd.put i lock place).IsQuiet := by
  intro j
  by_cases hj : j = i
  · rw [hj, place_put_self]
    exact hidle
  · rw [place_put_of_ne _ hj]
    exact h j

/-- Having looked, a thread is inside or waits to be notified. -/
theorem exists_put_of_look (h : (crowd.place i).isDue = true) :
    ∃ lock place, crowd.advance i .look = crowd.put i lock place ∧ place.isDue = false := by
  obtain ⟨side, hplace | hplace⟩ := (Place.isDue_iff _).mp h
  · refine ⟨_, _, look_calling hplace, ?_⟩
    split <;> rfl
  · rw [look_waiting hplace]
    split
    · exact ⟨_, _, rfl, rfl⟩
    · exact ⟨_, _, rfl, rfl⟩

theorem Looks.eq_of_isQuiet (h : crowd.Looks looks last) (hquiet : crowd.IsQuiet) :
    last = crowd := by
  cases h with
  | done => rfl
  | look hdue => exact absurd ((hquiet _).symm.trans hdue) Bool.false_ne_true

section Numbers

variable [Fintype ι]

/-- A thread that has looked is no longer about to, and about the others nothing changes. So the
looks come to an end. -/
theorem Looks.length_add (h : crowd.Looks looks last) :
    looks.length + population last.place Place.isDue = population crowd.place Place.isDue := by
  induction h with
  | done => simp
  | @look crowd last i looks hdue _ ih =>
      obtain ⟨lock, place, hlook, hidle⟩ := exists_put_of_look hdue
      have hmoved := population_update crowd.place Place.isDue i place
      rw [hlook] at ih
      simp only [put] at ih
      rw [hdue, hidle, ← ih] at hmoved
      simp only [Bool.toNat_true, Bool.toNat_false] at hmoved
      rw [List.length_cons]
      omega

theorem Looks.accounted (h : crowd.Looks looks last) (hcrowd : Accounted crowd) :
    Accounted last := by
  induction h with
  | done => exact hcrowd
  | look _ _ ih => exact ih (hcrowd.step (step_advance _ _ .look))

/-- The numbers of those who are inside and of those who wait. -/
def census (crowd : Crowd ι) : ReadWriteLock where
  readers := population crowd.place (·.isInside .reader)
  writer := 0 < population crowd.place (·.isInside .writer)
  readersWaiting := population crowd.place (·.isWaiting .reader)
  writersWaiting := population crowd.place (·.isWaiting .writer)

omit [DecidableEq ι] in
theorem lock_eq_census (h : Accounted crowd) : crowd.lock = crowd.census := by
  have hwriter : crowd.lock.writer = decide (0 < crowd.lock.held .writer) := by
    rw [held]
    cases crowd.lock.writer <;> rfl
  rw [census, ← h.held_eq, ← h.held_eq, ← h.queued_eq, ← h.queued_eq, ← hwriter]
  rfl

/-! ## Who is to look -/

/-- How many wait and have been notified. -/
def awaited (crowd : Crowd ι) (side : Side) : ℕ := population crowd.place (·.isWoken side)

omit [DecidableEq ι] in
theorem awaited_eq_zero (h : crowd.IsQuiet) (side : Side) : crowd.awaited side = 0 := by
  simp [awaited, population, Place.isWoken_of_not_isDue (h _)]

omit [DecidableEq ι] in
theorem awaited_le_queued (h : Accounted crowd) (side : Side) :
    crowd.awaited side ≤ crowd.lock.queued side := by
  rw [h.queued_eq]
  apply Finset.card_le_card
  apply Finset.monotone_filter_right
  intro i _ hi
  exact Place.isWaiting_of_isWoken hi

omit [DecidableEq ι] in
theorem awaited_notifyAll (h : Accounted crowd) (side : Side) :
    crowd.notifyAll.awaited side = crowd.lock.queued side := by
  simp only [h.queued_eq, awaited, population, notifyAll, Place.isWoken_notify]

theorem awaited_put (h : crowd.place i = .waiting side true) (lock : ReadWriteLock) {place : Place}
    (hidle : place.isDue = false) (other : Side) :
    crowd.awaited other =
      (crowd.put i lock place).awaited other + (decide (side = other)).toNat := by
  have hmoved := population_update crowd.place (·.isWoken other) i place
  rw [h, Place.isWoken_of_not_isDue hidle] at hmoved
  exact hmoved.symm

/-- What the lock becomes once everyone who was notified has looked. -/
def foreseen (crowd : Crowd ι) : ReadWriteLock :=
  crowd.lock.settled (crowd.awaited .reader) (crowd.awaited .writer)

omit [DecidableEq ι] in
theorem foreseen_of_isQuiet (h : crowd.IsQuiet) : crowd.foreseen = crowd.lock := by
  rw [foreseen, awaited_eq_zero h, awaited_eq_zero h, settled_zero]

/-- A writer that has looked is one of those that were awaited. -/
theorem foreseen_put_writer (h : crowd.place i = .waiting .writer true) (lock : ReadWriteLock)
    (place : Place) (hidle : place.isDue = false) :
    ∃ readers writers, (crowd.put i lock place).foreseen = lock.settled readers writers ∧
      crowd.foreseen = crowd.lock.settled readers (writers + 1) := by
  refine ⟨_, _, rfl, ?_⟩
  rw [foreseen, awaited_put h lock hidle, awaited_put h lock hidle]
  rfl

theorem foreseen_put_reader (h : crowd.place i = .waiting .reader true) (lock : ReadWriteLock)
    (place : Place) (hidle : place.isDue = false) :
    ∃ readers, (crowd.put i lock place).foreseen = lock.settled readers (crowd.awaited .writer) ∧
      crowd.foreseen = crowd.lock.settled (readers + 1) (crowd.awaited .writer) := by
  have hwriters := awaited_put h lock hidle .writer
  refine ⟨_, by rw [hwriters]; rfl, ?_⟩
  rw [foreseen, awaited_put h lock hidle .reader]
  rfl

/-- Whoever looks next, what the lock becomes in the end stays the same. -/
theorem foreseen_look (hcrowd : Accounted crowd) (h : crowd.place i = .waiting side true) :
    (crowd.advance i .look).foreseen = crowd.foreseen := by
  rw [look_waiting h]
  cases side with
  | writer =>
      cases hadmits : crowd.lock.admits .writer with
      | true =>
          obtain ⟨readers, writers, hafter, hbefore⟩ :=
            foreseen_put_writer h (crowd.lock.letsIn .writer) (.inside .writer) rfl
          rw [if_pos rfl, hafter, hbefore]
          exact settled_letsIn_writer hadmits
      | false =>
          obtain ⟨readers, writers, hafter, hbefore⟩ :=
            foreseen_put_writer h crowd.lock (.waiting .writer false) rfl
          rw [if_neg Bool.false_ne_true, hafter, hbefore]
          exact (settled_writer_of_not_admits hadmits).symm
  | reader =>
      cases hadmits : crowd.lock.admits .reader with
      | true =>
          -- Where a reader gets in, no writer waits.
          have hnone : crowd.awaited .writer = 0 := by
            have hle := awaited_le_queued hcrowd .writer
            rw [admits, admitsReader, Bool.and_eq_true, beq_iff_eq] at hadmits
            rwa [queued, hadmits.2, Nat.le_zero] at hle
          obtain ⟨readers, hafter, hbefore⟩ :=
            foreseen_put_reader h (crowd.lock.letsIn .reader) (.inside .reader) rfl
          rw [if_pos rfl, hafter, hbefore, hnone]
          exact settled_letsIn_reader hadmits
      | false =>
          obtain ⟨readers, hafter, hbefore⟩ :=
            foreseen_put_reader h crowd.lock (.waiting .reader false) rfl
          rw [if_neg Bool.false_ne_true, hafter, hbefore]
          exact (settled_reader_of_not_admits hadmits).symm

/-- No look of a thread that was notified changes what is to come. -/
theorem Looks.foreseen_eq (h : crowd.Looks looks last) (hcrowd : Accounted crowd)
    (hcalls : ∀ i side, crowd.place i ≠ .calling side) : last.foreseen = crowd.foreseen := by
  induction h with
  | done => rfl
  | @look crowd last i looks hdue _ ih =>
      obtain ⟨side, hplace | hplace⟩ := (Place.isDue_iff _).mp hdue
      · exact absurd hplace (hcalls i side)
      · rw [ih (hcrowd.step (step_advance crowd i .look)), foreseen_look hcrowd hplace]
        obtain ⟨lock, place, hlook, hidle⟩ := exists_put_of_look hdue
        rw [hlook]
        intro j other hj
        by_cases hji : j = i
        · rw [hji, place_put_self] at hj
          rw [hj] at hidle
          exact Bool.false_ne_true hidle.symm
        · rw [place_put_of_ne _ hji] at hj
          exact hcalls j other hj

/-! ## One thread comes or goes -/

omit [Fintype ι] in
/-- Whoever comes is the only thread that has to look. -/
theorem eq_of_comes (hquiet : crowd.IsQuiet) (hplace : crowd.place i = .outside)
    (h : (crowd.advance i (.call side)).Looks looks last) (hlast : last.IsQuiet) :
    last = crowd.put i (crowd.lock.arrives side)
      (if crowd.lock.admits side then .inside side else .waiting side false) := by
  have hcall : crowd.advance i (.call side) = crowd.put i crowd.lock (.calling side) := by
    simp only [advance, hplace]
  have hidle : (if crowd.lock.admits side then Place.inside side
      else .waiting side false).isDue = false := by
    split <;> rfl
  rw [hcall] at h
  generalize hcame : crowd.put i crowd.lock (.calling side) = came at h
  have hcalling : came.place i = .calling side := by rw [← hcame, place_put_self]
  cases h with
  | done => exact absurd ((hlast i).symm.trans (hcalling ▸ rfl)) Bool.false_ne_true
  | @look _ _ j _ hdue hrest =>
      obtain rfl : j = i := by
        by_contra hj
        rw [← hcame, place_put_of_ne _ hj, hquiet j] at hdue
        exact Bool.false_ne_true hdue
      rw [look_calling hcalling, ← hcame, put_put] at hrest
      exact hrest.eq_of_isQuiet (isQuiet_put hquiet _ hidle)

omit [DecidableEq ι] in
theorem foreseen_notifyAll (h : Accounted crowd) (hwriter : crowd.lock.writer = false)
    (hreaders : crowd.lock.readers = 0) : crowd.notifyAll.foreseen = crowd.lock.wake := by
  rw [foreseen, awaited_notifyAll h, awaited_notifyAll h]
  exact settled_of_free hwriter hreaders

/-- Once all who were notified have looked, it is as if they had been woken at one stroke. -/
theorem lock_of_goes (hcrowd : Accounted crowd) (hquiet : crowd.IsQuiet) {raised : Bool}
    (hplace : crowd.place i = .inside side)
    (h : (crowd.advance i (.leave raised)).Looks looks last) (hlast : last.IsQuiet) :
    last.lock = crowd.lock.leaves side := by
  have hgone := hcrowd.letsOut hplace
  have hidle : (crowd.put i (crowd.lock.letsOut side) .outside).IsQuiet :=
    isQuiet_put hquiet _ rfl
  have hlock : (crowd.put i (crowd.lock.letsOut side) .outside).lock = crowd.lock.letsOut side :=
    rfl
  have hadvance : crowd.advance i (.leave raised) =
      if (crowd.lock.letsOut side).notifies side then
        (crowd.put i (crowd.lock.letsOut side) .outside).notifyAll
      else crowd.put i (crowd.lock.letsOut side) .outside := by
    simp only [advance, hplace, hlock]
  generalize crowd.put i (crowd.lock.letsOut side) .outside = gone at hgone hidle hlock hadvance
  rw [leaves_eq (hcrowd.held_pos hplace)]
  cases hnotifies : (crowd.lock.letsOut side).notifies side with
  | true =>
      rw [hadvance, if_pos hnotifies] at h
      obtain ⟨hwriter, hreaders⟩ :=
        free_of_notifies hcrowd.exclusive (hcrowd.held_pos hplace) hnotifies
      rw [← hlock] at hwriter hreaders
      have hcalls (j : ι) (other : Side) : gone.notifyAll.place j ≠ .calling other := by
        intro hj
        have hstay := hidle j
        cases hbefore : gone.place j <;> simp [notifyAll, hbefore, Place.notify] at hj
        simp [hbefore, Place.isDue] at hstay
      rw [← foreseen_of_isQuiet hlast, h.foreseen_eq hgone.notifyAll hcalls,
        foreseen_notifyAll hgone hwriter hreaders, hlock, if_pos rfl]
  | false =>
      rw [hadvance, hnotifies, if_neg Bool.false_ne_true] at h
      rw [h.eq_of_isQuiet hidle, hlock, if_neg Bool.false_ne_true]

/-- The threads that are about to look can do so until there is none left. -/
theorem exists_looks (crowd : Crowd ι) : ∃ looks last, crowd.Looks looks last ∧ last.IsQuiet := by
  generalize hcount : population crowd.place Place.isDue = n
  induction n generalizing crowd with
  | zero =>
      refine ⟨[], crowd, .done crowd, fun i => ?_⟩
      apply Bool.eq_false_of_not_eq_true
      intro hdue
      have hpos := (population_pos_iff crowd.place Place.isDue).mpr ⟨i, hdue⟩
      omega
  | succ n ih =>
      obtain ⟨i, hdue⟩ := (population_pos_iff crowd.place Place.isDue).mp (by omega)
      have hone := (Looks.look hdue (.done _)).length_add
      obtain ⟨looks, last, hlooks, hlast⟩ := ih (crowd.advance i .look) (by simp at hone; omega)
      exact ⟨i :: looks, last, .look hdue hlooks, hlast⟩

/-- One thread comes, or it goes, be it with an error. The numbers are those that are to be in the
end. -/
inductive Visits (crowd : Crowd ι) (i : ι) : Move → ReadWriteLock → Prop where
  | comes (side : Side) : crowd.place i = .outside →
    Visits crowd i (.call side) (crowd.census.arrives side)
  | goes (side : Side) (raised : Bool) : crowd.place i = .inside side →
    Visits crowd i (.leave raised) (crowd.census.leaves side)

end Numbers

end Crowd

open Crowd

/-- While all threads are inside or wait, one comes or goes. Then only so many looks can follow as
there are threads that have to look. In whatever order they look, once none has to any more the
numbers are what the lock foresees for its old numbers, and whoever came is inside just if the lock
admitted it. -/
theorem order_makes_no_difference [Fintype ι] (schedule : List (ι × Move))
    (hquiet : (after schedule).IsQuiet) {move : Move} {numbers : ReadWriteLock}
    (h : (after schedule).Visits i move numbers) :
    let start := (after schedule).advance i move
    (∀ looks last, start.Looks looks last →
      looks.length + population last.place Place.isDue = population start.place Place.isDue) ∧
    (∃ looks last, start.Looks looks last ∧ last.IsQuiet) ∧
    ∀ looks last, start.Looks looks last → last.IsQuiet → last.census = numbers ∧
      ∀ side, move = .call side →
        (last.place i = .inside side ↔ (after schedule).census.admits side = true) := by
  have hcrowd : Accounted (after schedule) := .after schedule
  generalize after schedule = crowd at hquiet h hcrowd
  refine ⟨fun looks last hlooks => hlooks.length_add, exists_looks _,
    fun looks last hlooks hlast => ?_⟩
  rw [← lock_eq_census (hlooks.accounted (hcrowd.step (step_advance crowd i move)))]
  cases h with
  | comes side hplace =>
      obtain rfl := eq_of_comes hquiet hplace hlooks hlast
      rw [← lock_eq_census hcrowd]
      refine ⟨rfl, fun other hother => ?_⟩
      cases hother
      rw [place_put_self]
      cases crowd.lock.admits side <;> simp
  | goes side raised hplace =>
      rw [← lock_eq_census hcrowd]
      exact ⟨lock_of_goes hcrowd hquiet hplace hlooks hlast, nofun⟩

/-- Whether the writer or the second reader looks first after the first reader has left with an
error, the writer gets in. -/
theorem queueing_makes_room_for_writer :
    (after queueing).IsQuiet ∧
      (after queueing).Visits 0 (.leave true) { writer := true, readersWaiting := 1 } ∧
      ∀ looks last, ((after queueing).advance 0 (.leave true)).Looks looks last →
        last.IsQuiet → last.census = { writer := true, readersWaiting := 1 } := by
  have hquiet : (after queueing).IsQuiet := by
    unfold IsQuiet
    decide
  have hnumbers : (after queueing).census.leaves .reader =
      { writer := true, readersWaiting := 1 } := by
    decide
  have hvisits : (after queueing).Visits 0 (.leave true) { writer := true, readersWaiting := 1 } :=
    hnumbers ▸ .goes .reader true rfl
  obtain ⟨-, -, hend⟩ := order_makes_no_difference queueing hquiet hvisits
  exact ⟨hquiet, hvisits, fun looks last hlooks hlast => (hend looks last hlooks hlast).1⟩

end SmartDevice.ReadWriteLock
