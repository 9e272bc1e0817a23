import SmartDevice.Proofs.Operation.Routine

/-! # A lock has one holder

Wherever a routine comes to, each lock is busy with the reason of its one live guard, whatever the
routine did with older guards, other locks and raised failures before. -/

namespace SmartDevice.Operation

variable {room held now : Room} {lock reason : String} {guard : Option String} {number : ℕ}

/-! ## Programs of steps -/

mutual

/-- The routine that takes a step and goes on in any case. -/
def Step.routine (step : Step) (rest : Routine) : Routine :=
  match step with
  | .acquire lock guard reason => .single (.acquire lock guard reason) rfl fun _ => rest
  | .release lock guard => .single (.release lock guard) rfl fun _ => rest
  | .inspect lock guard => .single (.inspect lock guard) rfl fun _ => rest
  | .busy lock => .single (.busy lock) rfl fun _ => rest
  | .hold lock reason guard body fails =>
    .hold lock reason guard (routineOf body (ending .left fails)) fun _ => rest
  | .reenter lock guard body =>
    -- the lock is named first, as every step does
    .single (.busy lock) rfl fun _ =>
      .reenter guard (routineOf body .left) fun _ => rest
  | .run lock reason body value fails =>
    .hold lock reason none (routineOf body (ending (.value value) fails)) fun _ => rest

/-- The routine that takes steps in order and ends with an outcome. -/
def routineOf : List Step → Outcome → Routine
  | [], outcome => .ends outcome
  | step :: steps, outcome => step.routine (routineOf steps outcome)

end

mutual

theorem Step.exec_routine (step : Step) (rest : Routine) (room : Room) :
    (step.routine rest).exec room = rest.exec (step.perform (room.name step.lock)).2.2 :=
  match step with
  | .acquire .. | .release .. | .inspect .. | .busy _ => rfl
  | .hold lock reason guard body fails => by
      rw [Step.routine, Routine.exec, Step.lock, Step.perform]
      cases hacquire : (room.name lock).acquire lock reason guard with
      | error e => rfl
      | ok found => simp only [exec_routineOf body (ending .left fails)]
  | .reenter lock guard body => by
      simp only [Step.routine, Routine.exec, Step.lock, Step.perform]
      cases hguard : (room.name lock).guard? guard with
      | none => rfl
      | some found => simp only [exec_routineOf body .left]
  | .run lock reason body value fails => by
      rw [Step.routine, Routine.exec, Step.lock, Step.perform]
      cases hacquire : (room.name lock).acquire lock reason none with
      | error e => rfl
      | ok found => simp only [exec_routineOf body (ending (.value value) fails)]

/-- A program leaves behind what its routine leaves behind. -/
theorem exec_routineOf (steps : List Step) (outcome : Outcome) (room : Room) :
    (routineOf steps outcome).exec room = (outcome, (execAll steps room).2) :=
  match steps with
  | [] => rfl
  | step :: steps => by
      rw [routineOf, Step.exec_routine step, exec_routineOf steps, execAll]

end

namespace Routine

/-! ## Every point of a run -/

/-- What holds at a point of a run. -/
structure Orderly (routine : Routine) (now : Room) : Prop where
  /-- Of the guards ever handed out at most one of each lock is live, -/
  alone : ∀ i j lock reason other, now.world.locks.Live i lock reason →
    now.world.locks.Live j lock other → i = j
  /-- and the lock is busy with its reason, or with nothing if there is none. -/
  busy : ∀ lock reason, now.world.locks.busy? lock = some reason ↔
    ∃ guard, now.world.locks.Live guard lock reason
  /-- Locks with two names are two locks. -/
  apart : ∀ a b number, now.locks.lookup a = some number → now.locks.lookup b = some number → a = b
  /-- Who is refused has named no reason or is told that of the live guard, -/
  refused : ∀ lock reason guard e, now.acquire lock reason guard = .error e →
    (reason = "" ∧ e = .operation .emptyReason) ∨
      (reason ≠ "" ∧ ∃ holder text, now.world.locks.Live holder (now.number lock) text ∧
        e = .operation (.busy text))
  /-- and has changed nothing. -/
  unchanged : ∀ lock guard reason e answers after,
    (Step.acquire lock guard reason).perform now = (.refused e, answers, after) → after = now
  /-- Whoever gives a guard back again changes no lock, -/
  again : ∀ guard lock reason,
    now.world.locks.guards[guard]? = some { lock, reason, released := true } →
      (now.release guard).world.locks = now.world.locks
  /-- and whoever gives one back reaches no other lock. -/
  elsewhere : ∀ guard lock reason other, now.world.locks.Issued guard lock reason →
    other ≠ lock → (now.release guard).world.locks.busy? other = now.world.locks.busy? other
  /-- However its body ends, a block that holds a lock has given its guard back afterwards, -/
  left : ∀ lock reason guard body next number held, routine = .hold lock reason guard body next →
    (now.name lock).acquire lock reason guard = .ok (number, held) →
      ((body.exec held).2.release number).world.locks.guards[number]? =
        some { lock := (now.name lock).number lock, reason, released := true }
  /-- as has one that took a guard over. -/
  givenBack : ∀ guard body next number lock reason released, routine = .reenter guard body next →
    now.guard? guard = some (number, { lock, reason, released }) →
      ((body.exec now).2.release number).world.locks.guards[number]? =
        some { lock, reason, released := true }
  /-- A block whose guard has no name keeps its lock busy all the time. -/
  inside : ∀ lock reason body next number held inner later,
    routine = .hold lock reason none body next →
      (now.name lock).acquire lock reason none = .ok (number, held) →
      ComesTo (body, held) (inner, later) →
        later.world.locks.busy? ((now.name lock).number lock) = some reason

/-- A guard that was handed out is given back by whoever gives it back, whatever came before. -/
theorem guards_of_release {lock : ℕ} (h : room.world.locks.Issued number lock reason) :
    (room.release number).world.locks.guards[number]? =
      some { lock, reason, released := true } := by
  obtain ⟨released, h⟩ := h
  rw [Room.release_apply]
  change (room.world.locks.release number).2.guards[number]? = _
  rw [Register.guards_release, if_pos rfl, h]
  rfl

/-- The guard of a block without a name is hidden from its body. -/
theorem hidden_of_acquire (hknown : Known room)
    (hacquire : room.acquire lock reason none = .ok (number, held)) :
    Hidden number (room.number lock) reason held := by
  obtain ⟨hlocks, hguards, -⟩ := Room.acquire_eq_ok hacquire
  refine ⟨(Register.live_acquire hlocks).mpr (.inl ⟨rfl, rfl, rfl⟩), fun name hname => ?_⟩
  rw [hguards] at hname
  have hlength := hknown name number hname
  rw [(Register.acquire_eq_ok hlocks).2.1] at hlength
  exact Nat.lt_irrefl _ hlength

theorem orderly (routine : Routine) (hconsistent : now.world.locks.Consistent) (hapart : Apart now)
    (hknown : Known now) : Orderly routine now where
  alone _ _ _ _ _ := hconsistent.alone
  busy _ _ := hconsistent.busy?_eq_some_iff
  apart _ _ _ := hapart.injective
  refused lock reason guard e herror := by
    obtain ⟨cause, rfl, hcause⟩ := Room.acquire_eq_error herror
    rcases hconsistent.of_acquire_eq_error hcause with
      ⟨hreason, rfl⟩ | ⟨hreason, holder, text, hlive, rfl⟩
    · exact .inl ⟨hreason, rfl⟩
    · exact .inr ⟨hreason, holder, text, hlive, rfl⟩
  unchanged lock guard reason e answers after hrefused := by
    rw [Step.perform] at hrefused
    cases hacquire : now.acquire lock reason (some guard) with
    | error e =>
        rw [hacquire] at hrefused
        cases hrefused
        rfl
    | ok found =>
        rw [hacquire] at hrefused
        cases hrefused
  again guard lock reason hreleased := by
    rw [Room.release_apply]
    change (now.world.locks.release guard).2 = _
    rcases Register.release_cases guard now.world.locks with ⟨hsame, -⟩ | ⟨_, _, hlive, -⟩
    · exact hsame
    · have hboth := hreleased.symm.trans hlive
      simp at hboth
  elsewhere guard lock reason other hissued hother := by
    rw [Room.release_apply]
    exact Register.busy?_release_of_ne hissued hother
  left lock reason guard body next number held _ hacquire := by
    have hissued := Register.issued_acquire (Room.acquire_eq_ok hacquire).1
    exact guards_of_release ((lasts_issued _ _ _).exec body hissued)
  givenBack guard body next number lock reason released _ hguard := by
    have hissued : now.world.locks.Issued number lock reason :=
      ⟨released, (Room.guard?_eq_some hguard).2⟩
    exact guards_of_release ((lasts_issued _ _ _).exec body hissued)
  inside lock reason body next number held inner later _ hacquire hto := by
    have hidden := hidden_of_acquire (lasts_known.name lock hknown) hacquire
    have hlive := ((lasts_hidden _ _ _).comesTo hto hidden).1
    have hheld := (lasts_consistent.acquire (lasts_consistent.name lock hconsistent) hacquire).1
    exact (lasts_consistent.comesTo hto hheld).busy?_eq_some_iff.mpr ⟨number, hlive⟩

/-- From a room without locks, every routine is orderly at every point that it comes to, its end
among them; and every program of steps runs as a routine. -/
theorem locks_have_one_holder (world : World) :
    (∀ routine inner now, ComesTo (routine, Room.fresh world) (inner, now) → Orderly inner now) ∧
    (∀ routine, ComesTo (routine, Room.fresh world)
      (ends (routine.exec (Room.fresh world)).1, (routine.exec (Room.fresh world)).2)) ∧
    ∀ steps outcome, (routineOf steps outcome).exec (Room.fresh world) =
      (outcome, (execAll steps (Room.fresh world)).2) := by
  refine ⟨fun routine inner now hto => ?_, fun routine => comesTo_ends routine _,
    fun steps outcome => exec_routineOf steps outcome _⟩
  have hapart : Apart (Room.fresh world) := ⟨by simp [Room.fresh], by simp [Room.fresh]⟩
  have hknown : Known (Room.fresh world) := by simp [Known, Room.fresh]
  exact orderly inner (lasts_consistent.comesTo hto Register.consistent_empty)
    (lasts_apart.comesTo hto hapart) (lasts_known.comesTo hto hknown)

/-- Gives the guard of its own block back, lets another guard in, and raises. -/
def overtaken : Routine :=
  .hold "a" "first" (some "own")
    (.single (.release "a" "own") rfl fun _ =>
      .single (.acquire "a" "late" "second") rfl fun _ => .ends (.raised "Boom"))
    .ends

theorem overtaken_keeps_later_guard :
    ∃ later, ComesTo (overtaken, Room.fresh {}) (.ends (.raised "Boom"), later) ∧
      Orderly (.ends (.raised "Boom")) later ∧ later.world.locks.busy? 0 = some "second" := by
  obtain ⟨horderly, hends, -⟩ := locks_have_one_holder {}
  have hend := hends overtaken
  exact ⟨_, hend, horderly _ _ _ hend, by decide +kernel⟩

end Routine

end SmartDevice.Operation
