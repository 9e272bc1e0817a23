import SmartDevice.Operation.Program
import SmartDevice.Proofs.Action.Apply
import SmartDevice.Proofs.Operation.Ownership
import Mathlib.Logic.Relation

/-! # Routines over locks

A routine is told how each of its steps ends and goes on in any way from there, or stops by raising.
Its blocks hold a lock or take a guard over, whatever becomes of their bodies. Programs of steps are
routines that never stop early. -/

namespace SmartDevice.Operation

variable {room held now : Room} {lock reason : String} {guard : Option String} {number : ℕ}

/-! ## Rooms -/

namespace Room

/-- A room in which no lock was made and no guard handed out. -/
def fresh (world : World) : Room := { world := { world with locks := {} } }

theorem name_cases (lock : String) (room : Room) :
    room.name lock = room ∨
      (room.locks.lookup lock = none ∧
        (room.name lock).world.locks = (room.world.locks.newLock).2 ∧
        (room.name lock).locks = room.locks ++ [(lock, room.world.locks.nextLock)] ∧
        (room.name lock).guards = room.guards) := by
  unfold name
  split
  · exact .inl rfl
  · next hnone =>
      exact .inr ⟨Option.not_isSome_iff_eq_none.mp hnone, rfl, rfl, rfl⟩

/-- The guards that are known by name once another was handed out. -/
def remember (guard : Option String) (number : ℕ) (room : Room) : List (String × ℕ) :=
  (guard.map fun name => (name, number)).toList ++ room.guards

theorem acquire_apply (lock reason : String) (guard : Option String) (room : Room) :
    room.acquire lock reason guard =
      match room.world.locks.acquire (room.number lock) reason with
      | .error e => .error (.operation e)
      | .ok (number, locks) =>
        .ok (number, { room with
          world := { room.world with locks, console := room.world.console.debug "BUSY" reason }
          guards := room.remember guard number }) := by
  unfold acquire remember
  rw [World.acquire_apply]
  cases room.world.locks.acquire (room.number lock) reason with
  | error e => rfl
  | ok found => cases guard <;> rfl

theorem acquire_eq_ok (h : room.acquire lock reason guard = .ok (number, held)) :
    room.world.locks.acquire (room.number lock) reason = .ok (number, held.world.locks) ∧
      held.guards = room.remember guard number ∧ held.locks = room.locks := by
  rw [acquire_apply] at h
  cases hacquire : room.world.locks.acquire (room.number lock) reason with
  | error e =>
      rw [hacquire] at h
      cases h
  | ok found =>
      rw [hacquire] at h
      cases h
      exact ⟨rfl, rfl, rfl⟩

theorem acquire_eq_error {e : Failure} (h : room.acquire lock reason guard = .error e) :
    ∃ cause, e = .operation cause ∧
      room.world.locks.acquire (room.number lock) reason = .error cause := by
  rw [acquire_apply] at h
  cases hacquire : room.world.locks.acquire (room.number lock) reason with
  | error cause =>
      rw [hacquire] at h
      cases h
      exact ⟨cause, rfl, rfl⟩
  | ok found =>
      rw [hacquire] at h
      cases h

theorem release_apply (number : ℕ) (room : Room) :
    room.release number = { room with world := room.world.giveBack number } := by
  rw [release, World.release_apply]

theorem guard?_eq_some {name : String} {found : Guard}
    (h : room.guard? name = some (number, found)) :
    room.guards.lookup name = some number ∧ room.world.locks.guards[number]? = some found := by
  unfold guard? at h
  cases hnumber : room.guards.lookup name with
  | none => simp [hnumber] at h
  | some k =>
      rw [hnumber] at h
      cases hfound : room.world.locks.guards[k]? with
      | none => simp [hfound] at h
      | some other =>
          simp only [hfound, Option.bind_eq_bind, Option.bind_some, Option.pure_def,
            Option.some.injEq, Prod.mk.injEq] at h
          obtain ⟨rfl, rfl⟩ := h
          exact ⟨rfl, hfound⟩

end Room

/-! ## Routines -/

/-- A step without a body. -/
def Step.isSingle : Step → Bool
  | acquire .. | release .. | inspect .. | busy _ => true
  | _ => false

inductive Routine where
  /-- Returns or raises. -/
  | ends (outcome : Outcome)
  | single (step : Step) (h : step.isSingle = true) (next : Outcome → Routine)
  /-- Holds a lock during the body. Without a name, nothing but the block itself has the guard. -/
  | hold (lock reason : String) (guard : Option String) (body : Routine) (next : Outcome → Routine)
  /-- Gives an existing guard back after the body. -/
  | reenter (guard : String) (body : Routine) (next : Outcome → Routine)

namespace Routine

/-- How a routine ends and what it leaves behind. -/
def exec : Routine → Room → Outcome × Room
  | ends outcome, room => (outcome, room)
  | single step _ next, room =>
    let (outcome, _, after) := step.perform (room.name step.lock)
    (next outcome).exec after
  | hold lock reason guard body next, room =>
    match (room.name lock).acquire lock reason guard with
    | .error e => (next (.refused e)).exec (room.name lock)
    | .ok (number, held) =>
      let (outcome, after) := body.exec held
      (next outcome).exec (after.release number)
  | reenter guard body next, room =>
    match room.guard? guard with
    | none => (next (.unknownGuard guard)).exec room
    | some (number, _) =>
      let (outcome, after) := body.exec room
      (next outcome).exec (after.release number)

/-- Where a run goes from a point: what is done there, up to the end of the innermost block, and in
which room. From a block it goes both into the body and to what comes after the block. -/
inductive Leads : Routine × Room → Routine × Room → Prop where
  | single {step h next room} :
    Leads (single step h next, room)
      (next (step.perform (room.name step.lock)).1, (step.perform (room.name step.lock)).2.2)
  | refused {lock reason guard body next room e}
    (h : (room.name lock).acquire lock reason guard = .error e) :
    Leads (hold lock reason guard body next, room) (next (.refused e), room.name lock)
  | enters {lock reason guard body next room number held}
    (h : (room.name lock).acquire lock reason guard = .ok (number, held)) :
    Leads (hold lock reason guard body next, room) (body, held)
  | leaves {lock reason guard body next room number held}
    (h : (room.name lock).acquire lock reason guard = .ok (number, held)) :
    Leads (hold lock reason guard body next, room)
      (next (body.exec held).1, (body.exec held).2.release number)
  | unknown {guard body next room} (h : room.guard? guard = none) :
    Leads (reenter guard body next, room) (next (.unknownGuard guard), room)
  | reenters {guard body next room number found} (h : room.guard? guard = some (number, found)) :
    Leads (reenter guard body next, room) (body, room)
  | releases {guard body next room number found} (h : room.guard? guard = some (number, found)) :
    Leads (reenter guard body next, room)
      (next (body.exec room).1, (body.exec room).2.release number)

/-- The points that a run comes to. -/
def ComesTo : Routine × Room → Routine × Room → Prop := Relation.ReflTransGen Leads

/-- Every run comes to its end. -/
theorem comesTo_ends (routine : Routine) (room : Room) :
    ComesTo (routine, room) (ends (routine.exec room).1, (routine.exec room).2) := by
  induction routine generalizing room with
  | ends outcome => exact .refl
  | single step h next ih => exact .head .single (ih _ _)
  | hold lock reason guard body next _ ih =>
      rw [exec]
      cases hacquire : (room.name lock).acquire lock reason guard with
      | error e => exact .head (.refused hacquire) (ih _ _)
      | ok found =>
          obtain ⟨number, held⟩ := found
          exact .head (.leaves hacquire) (ih _ _)
  | reenter guard body next _ ih =>
      rw [exec]
      cases hguard : room.guard? guard with
      | none => exact .head (.unknown hguard) (ih _ _)
      | some found =>
          obtain ⟨number, found⟩ := found
          exact .head (.releases hguard) (ih _ _)

/-! ## What holds throughout a run -/

/-- A property of rooms that lasts as long as only certain guards are given back, and they are the
only ones that a routine gets at. -/
structure Lasts (P : Room → Prop) (free : ℕ → Prop) : Prop where
  name : ∀ {room} (lock), P room → P (room.name lock)
  acquire : ∀ {room held lock reason guard number}, P room →
    room.acquire lock reason guard = .ok (number, held) → P held ∧ free number
  guard? : ∀ {room name number found}, P room → room.guard? name = some (number, found) →
    free number
  release : ∀ {room number}, P room → free number → P (room.release number)

namespace Lasts

variable {P : Room → Prop} {free : ℕ → Prop}

theorem single (h : Lasts P free) {step : Step} (hsingle : step.isSingle = true) (hroom : P room) :
    P (step.perform room).2.2 := by
  cases step with
  | acquire lock guard reason =>
      rw [Step.perform]
      cases hacquire : room.acquire lock reason (some guard) with
      | error e => exact hroom
      | ok found => exact (h.acquire hroom hacquire).1
  | release lock guard =>
      rw [Step.perform]
      cases hguard : room.guard? guard with
      | none => exact hroom
      | some found => exact h.release hroom (h.guard? hroom hguard)
  | inspect lock guard =>
      rw [Step.perform]
      cases room.guard? guard <;> exact hroom
  | busy lock => exact hroom
  | _ => cases hsingle

theorem exec (h : Lasts P free) (routine : Routine) (hroom : P room) :
    P (routine.exec room).2 := by
  induction routine generalizing room with
  | ends outcome => exact hroom
  | single step hsingle next ih => exact ih _ (h.single hsingle (h.name _ hroom))
  | hold lock reason guard body next ihBody ih =>
      rw [Routine.exec]
      cases hacquire : (room.name lock).acquire lock reason guard with
      | error e => exact ih _ (h.name _ hroom)
      | ok found =>
          obtain ⟨hheld, hfree⟩ := h.acquire (h.name _ hroom) hacquire
          exact ih _ (h.release (ihBody hheld) hfree)
  | reenter guard body next ihBody ih =>
      rw [Routine.exec]
      cases hguard : room.guard? guard with
      | none => exact ih _ hroom
      | some found => exact ih _ (h.release (ihBody hroom) (h.guard? hroom hguard))

theorem leads (h : Lasts P free) {before after : Routine × Room} (hleads : Leads before after)
    (hroom : P before.2) : P after.2 := by
  cases hleads with
  | single => exact h.single ‹_› (h.name _ hroom)
  | refused hacquire => exact h.name _ hroom
  | enters hacquire => exact (h.acquire (h.name _ hroom) hacquire).1
  | leaves hacquire =>
      obtain ⟨hheld, hfree⟩ := h.acquire (h.name _ hroom) hacquire
      exact h.release (h.exec _ hheld) hfree
  | unknown hguard => exact hroom
  | reenters hguard => exact hroom
  | releases hguard => exact h.release (h.exec _ hroom) (h.guard? hroom hguard)

theorem comesTo (h : Lasts P free) {before after : Routine × Room} (hto : ComesTo before after)
    (hroom : P before.2) : P after.2 := by
  induction hto with
  | refl => exact hroom
  | tail _ hleads ih => exact h.leads hleads ih

end Lasts

/-! ## Locks and guards throughout a run -/

theorem lasts_consistent : Lasts (fun room => room.world.locks.Consistent) fun _ => True where
  name {room} lock h := by
    rcases room.name_cases lock with hsame | ⟨-, hlocks, -⟩
    · rwa [hsame]
    · rw [hlocks]
      exact ⟨h.alone, h.busy?_eq_some_iff⟩
  acquire h hacquire := ⟨h.acquire (Room.acquire_eq_ok hacquire).1, trivial⟩
  guard? _ _ := trivial
  release {room number} h _ := by
    rw [Room.release_apply]
    exact h.release number

theorem lasts_issued (number lock : ℕ) (reason : String) :
    Lasts (fun room => room.world.locks.Issued number lock reason) fun _ => True where
  name {room} other h := by
    rcases room.name_cases other with hsame | ⟨-, hlocks, -⟩
    · rwa [hsame]
    · rw [hlocks]
      exact h
  acquire h hacquire := ⟨h.acquire (Room.acquire_eq_ok hacquire).1, trivial⟩
  guard? _ _ := trivial
  release {room other} h _ := by
    rw [Room.release_apply]
    exact h.release other

/-- A live guard that has no name. -/
def Hidden (number lock : ℕ) (reason : String) (room : Room) : Prop :=
  room.world.locks.Live number lock reason ∧ ∀ name, room.guards.lookup name ≠ some number

/-- What has no name is not given back. -/
theorem lasts_hidden (number lock : ℕ) (reason : String) :
    Lasts (Hidden number lock reason) (· ≠ number) where
  name {room} other h := by
    rcases room.name_cases other with hsame | ⟨-, hlocks, -, hguards⟩
    · rwa [hsame]
    · rw [Hidden, hlocks, hguards]
      exact h
  acquire {room held other text guard new} h hacquire := by
    obtain ⟨hlocks, hguards, -⟩ := Room.acquire_eq_ok hacquire
    have hnew : new ≠ number := h.1.issued.ne_of_acquire hlocks
    refine ⟨⟨(Register.live_acquire hlocks).mpr (.inr h.1), fun name => ?_⟩, hnew⟩
    rw [hguards, Room.remember]
    cases guard with
    | none => exact h.2 name
    | some known =>
        simp only [Option.map_some, Option.toList_some, List.singleton_append, List.lookup_cons]
        split
        · simpa using hnew
        · exact h.2 name
  guard? {room name other found} h hguard := by
    rintro rfl
    exact h.2 name (Room.guard?_eq_some hguard).1
  release {room other} h hother := by
    rw [Room.release_apply]
    exact ⟨Register.live_release.mpr ⟨hother.symm, h.1⟩, h.2⟩

/-- All names are of guards that were handed out. -/
def Known (room : Room) : Prop :=
  ∀ name number, room.guards.lookup name = some number → number < room.world.locks.guards.length

theorem lasts_known : Lasts Known fun _ => True where
  name {room} lock h := by
    rcases room.name_cases lock with hsame | ⟨-, hlocks, -, hguards⟩
    · rwa [hsame]
    · rw [Known, hlocks, hguards]
      exact h
  acquire {room held lock reason guard new} h hacquire := by
    obtain ⟨hlocks, hguards, -⟩ := Room.acquire_eq_ok hacquire
    obtain ⟨-, hnew, hissued⟩ := Register.acquire_eq_ok hlocks
    refine ⟨fun name number hname => ?_, trivial⟩
    have hlonger : number < room.world.locks.guards.length ∨ number = new := by
      rw [hguards, Room.remember] at hname
      cases guard with
      | none => exact .inl (h name number hname)
      | some known =>
          simp only [Option.map_some, Option.toList_some, List.singleton_append,
            List.lookup_cons] at hname
          split at hname
          · exact .inr (Option.some.inj hname).symm
          · exact .inl (h name number hname)
    rw [hissued, List.length_append, List.length_singleton]
    omega
  guard? _ _ := trivial
  release {room number} h _ := by
    rw [Room.release_apply]
    intro name other hname
    change other < (room.world.locks.release number).2.guards.length
    rw [Register.length_guards_release]
    exact h name other hname

/-- Every lock has its own number. -/
structure Apart (room : Room) : Prop where
  injective : ∀ {a b number}, room.locks.lookup a = some number →
    room.locks.lookup b = some number → a = b
  used : ∀ {name number}, room.locks.lookup name = some number →
    number < room.world.locks.nextLock

theorem lookup_append_singleton {locks : List (String × ℕ)} {name other : String} {number k : ℕ}
    (h : (locks ++ [(name, number)]).lookup other = some k) :
    locks.lookup other = some k ∨ (other = name ∧ k = number) := by
  rw [List.lookup_append] at h
  cases hlookup : locks.lookup other with
  | some found =>
      rw [hlookup] at h
      exact .inl h
  | none =>
      by_cases hother : other = name
      · subst hother
        rw [hlookup] at h
        exact .inr ⟨rfl, by simpa [eq_comm] using h⟩
      · have hne : (other == name) = false := beq_false_of_ne hother
        simp [hlookup, List.lookup_cons, hne] at h

theorem lasts_apart : Lasts Apart fun _ => True where
  name {room} lock h := by
    rcases room.name_cases lock with hsame | ⟨-, hregister, hlocks, -⟩
    · rwa [hsame]
    · refine ⟨fun {a b number} ha hb => ?_, fun {name number} hname => ?_⟩
      · rw [hlocks] at ha hb
        rcases lookup_append_singleton ha with hold | ⟨rfl, rfl⟩
        · rcases lookup_append_singleton hb with hold' | ⟨rfl, rfl⟩
          · exact h.injective hold hold'
          · exact absurd (h.used hold) (Nat.lt_irrefl _)
        · rcases lookup_append_singleton hb with hold | ⟨rfl, -⟩
          · exact absurd (h.used hold) (Nat.lt_irrefl _)
          · rfl
      · rw [hlocks] at hname
        rw [hregister]
        rcases lookup_append_singleton hname with hold | ⟨-, rfl⟩
        · exact Nat.lt_succ_of_lt (h.used hold)
        · exact Nat.lt_succ_self _
  acquire {room held lock reason guard number} h hacquire := by
    obtain ⟨hregister, -, hlocks⟩ := Room.acquire_eq_ok hacquire
    refine ⟨⟨fun ha hb => ?_, fun hname => ?_⟩, trivial⟩
    · rw [hlocks] at ha hb
      exact h.injective ha hb
    · rw [hlocks] at hname
      rw [Register.nextLock_acquire hregister]
      exact h.used hname
  guard? _ _ := trivial
  release {room number} h _ := by
    rw [Room.release_apply]
    refine ⟨h.injective, fun hname => ?_⟩
    change _ < (room.world.locks.release number).2.nextLock
    rw [Register.nextLock_release]
    exact h.used hname

end Routine

end SmartDevice.Operation
