import SmartDevice.Proofs.Device.Traffic
import SmartDevice.Proofs.Home.Recall

/-! # What threads at a device keep

Between the two steps of a thread that sets the configuration the file is ahead of the memory.
Nobody sees it: the lock lets no other thread in meanwhile, and otherwise the two agree. -/

namespace SmartDevice

open ReadWriteLock

namespace Running

/-- What reading the stored configuration would give at this moment. -/
def onFile (running : Running) : Except Failure (Option Config) :=
  answer running.device.home.loadConfig (running.withFaults []).world

theorem same_withFaults (running : Running) (faults : List (FaultPoint × SystemError)) :
    Disk.Same running.world.disk (running.withFaults faults).world.disk :=
  ⟨fun _ _ => rfl, fun _ => Iff.rfl, rfl⟩

theorem onFile_eq_recalled (running : Running) :
    running.onFile = running.device.home.recalled (running.withFaults []).world.disk := by
  have hcalm : Disk.Calm .read (running.withFaults []).world.disk := nofun
  exact (Home.loadConfig_cases _ hcalm).1

theorem onFile_eq (running : Running) (hnormal : running.device.home.path.Normal)
    (hnull : Disk.hasNull running.device.home.path = false) :
    running.onFile = running.device.home.recalled running.world.disk := by
  rw [onFile_eq_recalled]
  exact Home.recalled_of_same hnormal hnull (running.same_withFaults [])

end Running

namespace Device

open Apply Disk

variable {ι : Type} [DecidableEq ι] {home : Home} {start shared : Running}
  {traffic next : Traffic ι} {i j : ι}

/-! ## Calls in an order -/

/-- The configuration that a call leaves. -/
def Outcome.leaves (before : Option Config) : Outcome → Option Config
  | written config => config
  | _ => before

/-- The configuration that calls one after another leave. -/
def latest (start : Option Config) (history : List (ι × Outcome)) : Option Config :=
  history.foldl (fun config entry => entry.2.leaves config) start

/-- Calls one after another, each of which reads what those before it have left. -/
def IsSequential (start : Option Config) : List (ι × Outcome) → Prop
  | [] => True
  | (_, outcome) :: rest =>
    (∀ config, outcome = .read config → config = start) ∧ IsSequential (outcome.leaves start) rest

/-- What the calls of one thread have come to. -/
def outcomesOf (i : ι) (history : List (ι × Outcome)) : List Outcome :=
  (history.filter (·.1 = i)).map (·.2)

omit [DecidableEq ι] in
theorem latest_concat (start : Option Config) (history : List (ι × Outcome)) (i : ι)
    (outcome : Outcome) :
    latest start (history ++ [(i, outcome)]) = outcome.leaves (latest start history) := by
  simp [latest]

omit [DecidableEq ι] in
theorem isSequential_concat {start : Option Config} {history : List (ι × Outcome)}
    {outcome : Outcome} (h : IsSequential start history)
    (hread : ∀ config, outcome = .read config → config = latest start history) :
    IsSequential start (history ++ [(i, outcome)]) := by
  induction history generalizing start with
  | nil => exact ⟨hread, trivial⟩
  | cons entry history ih => exact ⟨h.1, ih h.2 hread⟩

theorem outcomesOf_concat (i j : ι) (history : List (ι × Outcome)) (outcome : Outcome) :
    outcomesOf j (history ++ [(i, outcome)]) =
      if i = j then outcomesOf j history ++ [outcome] else outcomesOf j history := by
  simp only [outcomesOf, List.filter_append, List.map_append, List.filter_singleton]
  split <;> simp_all

/-! ## Faults -/

/-- No file that is to be removed is reported as missing by mistake. -/
def Act.Honest : Act → Prop
  | work faults => ∀ e, (.unlink, e) ∈ faults → e.isNotFound = false
  | _ => True

theorem Act.Honest.truthful {faults : List (FaultPoint × SystemError)}
    (h : (Act.work faults).Honest) (home : Home) (running : Running) :
    home.Truthful (running.withFaults faults).world.disk := by
  intro e he hmissing
  rw [h e he] at hmissing
  cases hmissing

/-! ## The invariant -/

/-- How a thread stands to the place that it has come to and to what is stored. -/
structure Caller.Sound (caller : Caller) (place : Place)
    (onFile : Except Failure (Option Config)) : Prop where
  side_eq : ∀ side, place.side? = some side → side = caller.access.side
  inside : caller.progress ≠ .ahead → ∃ side, place = .inside side
  halfway : caller.progress = .halfway →
    ∃ config, caller.access = .set config ∧ onFile = .ok config

/-- What holds between two steps. -/
structure Coherent [Fintype ι] (start : Running) (traffic : Traffic ι) : Prop where
  home_eq : traffic.shared.device.home = start.device.home
  standing : Standing start.device.home traffic.shared.world.disk
  accounted : Accounted traffic.crowd
  callers : ∀ i, (traffic.caller i).Sound (traffic.crowd.place i)
    (start.device.home.recalled traffic.shared.world.disk)
  memory : (∀ i, (traffic.caller i).progress ≠ .halfway) →
    start.device.home.recalled traffic.shared.world.disk = .ok traffic.shared.device.config
  latest_eq : latest start.device.config traffic.history = traffic.shared.device.config
  sequential : IsSequential start.device.config traffic.history
  ownOrder : ∀ i, outcomesOf i traffic.history =
    (traffic.caller i).answers ++ (traffic.caller i).progress.outcomes

namespace Caller.Sound

variable {caller : Caller} {place later : Place} {old new : Except Failure (Option Config)}

theorem onward (h : caller.Sound place old) (hlater : place.Onward later) :
    caller.Sound later old where
  side_eq side hside := h.side_eq side (hlater.side?_eq ▸ hside)
  inside hprogress := by
    obtain ⟨side, hplace⟩ := h.inside hprogress
    exact ⟨side, hlater.inside side hplace⟩
  halfway := h.halfway

/-- For a thread that is not halfway it does not matter what is stored. -/
theorem of_not_halfway (h : caller.Sound place old) (hprogress : caller.progress ≠ .halfway) :
    caller.Sound place new :=
  ⟨h.side_eq, h.inside, fun hhalfway => absurd hhalfway hprogress⟩

theorem ahead_of_outside (h : caller.Sound .outside old) : caller.progress = .ahead := by
  by_contra hprogress
  obtain ⟨side, hplace⟩ := h.inside hprogress
  cases hplace

/-- A thread that is halfway is inside to write. -/
theorem writes (h : caller.Sound place old) (hprogress : caller.progress = .halfway) :
    place = .inside .writer := by
  obtain ⟨config, haccess, -⟩ := h.halfway hprogress
  obtain ⟨side, hplace⟩ := h.inside (by rw [hprogress]; nofun)
  rw [hplace, h.side_eq side (by rw [hplace]; rfl), haccess]
  rfl

end Caller.Sound

namespace Coherent

variable [Fintype ι]

/-- A thread that is halfway is the only one inside. -/
theorem eq_of_halfway (h : Coherent start traffic) {side : Side}
    (hplace : traffic.crowd.place i = .inside side)
    (hj : (traffic.caller j).progress = .halfway) : i = j :=
  (h.accounted.alone ((h.callers j).writes hj) hplace).2

theorem nobody_halfway (h : Coherent start traffic) {side : Side}
    (hplace : traffic.crowd.place i = .inside side)
    (hprogress : (traffic.caller i).progress = .ahead) (j : ι) :
    (traffic.caller j).progress ≠ .halfway := by
  intro hj
  obtain rfl := h.eq_of_halfway hplace hj
  rw [hprogress] at hj
  cases hj

/-! ## Steps -/

/-- A thread comes to the end of its work, in a state in which memory and file agree. -/
theorem settle (h : Coherent start traffic) {side : Side} {outcome : Outcome}
    (hplace : traffic.crowd.place i = .inside side)
    (hpending : (traffic.caller i).progress.outcomes = [])
    (hothers : ∀ j, j ≠ i → (traffic.caller j).progress ≠ .halfway)
    (hhome : shared.device.home = start.device.home)
    (hstanding : Standing start.device.home shared.world.disk)
    (hmemory : start.device.home.recalled shared.world.disk = .ok shared.device.config)
    (hleaves : shared.device.config = outcome.leaves traffic.shared.device.config)
    (hread : ∀ config, outcome = .read config → config = traffic.shared.device.config) :
    Coherent start (traffic.settle i outcome shared) where
  home_eq := hhome
  standing := hstanding
  accounted := h.accounted
  callers := by
    refine Traffic.forall_put (P := fun j caller => caller.Sound (traffic.crowd.place j) _) ?_ ?_
    · exact ⟨(h.callers i).side_eq, fun _ => ⟨side, hplace⟩, nofun⟩
    · exact fun j hj => (h.callers j).of_not_halfway (hothers j hj)
  memory := fun _ => hmemory
  latest_eq := (latest_concat ..).trans (h.latest_eq ▸ hleaves.symm)
  sequential := isSequential_concat h.sequential (h.latest_eq ▸ hread)
  ownOrder := by
    refine Traffic.forall_put (P := fun j caller =>
      outcomesOf j (traffic.history ++ [(i, outcome)]) =
        caller.answers ++ caller.progress.outcomes) ?_ fun j hj => ?_
    · rw [outcomesOf_concat, if_pos rfl, h.ownOrder i, hpending, List.append_nil]
      rfl
    · rw [outcomesOf_concat, if_neg (Ne.symm hj), h.ownOrder j]

/-- A thread has stored a configuration and is going to take it over. -/
theorem halve (h : Coherent start traffic) {side : Side} {config : Option Config}
    (hplace : traffic.crowd.place i = .inside side)
    (hprogress : (traffic.caller i).progress = .ahead)
    (haccess : (traffic.caller i).access = .set config)
    (hdevice : shared.device = traffic.shared.device)
    (hstanding : Standing start.device.home shared.world.disk)
    (hstored : start.device.home.recalled shared.world.disk = .ok config) :
    Coherent start (traffic.halve i shared) where
  home_eq := hdevice ▸ h.home_eq
  standing := hstanding
  accounted := h.accounted
  callers := by
    refine Traffic.forall_put (P := fun j caller => caller.Sound (traffic.crowd.place j) _) ?_ ?_
    · exact ⟨(h.callers i).side_eq, fun _ => ⟨side, hplace⟩, fun _ => ⟨config, haccess, hstored⟩⟩
    · intro j hj
      exact (h.callers j).of_not_halfway (h.nobody_halfway hplace hprogress j)
  memory hnobody := absurd (congrArg Caller.progress (Traffic.caller_put traffic i _)) (hnobody i)
  latest_eq := hdevice ▸ h.latest_eq
  sequential := h.sequential
  ownOrder := by
    refine Traffic.forall_put (P := fun j caller => outcomesOf j traffic.history =
        caller.answers ++ caller.progress.outcomes) ?_ fun j _ => h.ownOrder j
    rw [h.ownOrder i, hprogress]
    rfl

/-- A thread that has nothing in hand comes or goes, while the others stay or go on. -/
theorem replace (h : Coherent start traffic) {crowd : Crowd ι} {caller : Caller}
    (haccounted : Accounted crowd)
    (hothers : ∀ j, j ≠ i → (traffic.crowd.place j).Onward (crowd.place j))
    (hprogress : (traffic.caller i).progress ≠ .halfway)
    (hahead : caller.progress = .ahead)
    (hside : ∀ side, (crowd.place i).side? = some side → side = caller.access.side)
    (hanswers : caller.answers =
      (traffic.caller i).answers ++ (traffic.caller i).progress.outcomes) :
    Coherent start { traffic.put i caller with crowd } where
  home_eq := h.home_eq
  standing := h.standing
  accounted := haccounted
  callers := by
    refine Traffic.forall_put (P := fun j caller => caller.Sound (crowd.place j) _) ?_ ?_
    · refine ⟨hside, fun hother => absurd hahead hother, fun hhalfway => ?_⟩
      rw [hahead] at hhalfway
      cases hhalfway
    · exact fun j hj => (h.callers j).onward (hothers j hj)
  memory hnobody := by
    refine h.memory fun j => ?_
    by_cases hj : j = i
    · exact hj ▸ hprogress
    · have hother := hnobody j
      rwa [show Traffic.caller _ j = _ from traffic.caller_put_of_ne caller hj] at hother
  latest_eq := h.latest_eq
  sequential := h.sequential
  ownOrder := by
    refine Traffic.forall_put (P := fun j caller => outcomesOf j traffic.history =
        caller.answers ++ caller.progress.outcomes) ?_ fun j _ => h.ownOrder j
    rw [h.ownOrder i, hanswers, hahead]
    exact (List.append_nil _).symm

theorem moves (h : Coherent start traffic) {move : Move} (hmove : move = .look ∨ move = .stir) :
    Coherent start { traffic with crowd := traffic.crowd.advance i move } where
  home_eq := h.home_eq
  standing := h.standing
  accounted := h.accounted.step (traffic.crowd.step_advance i move)
  callers j := by
    by_cases hj : j = i
    · subst hj
      exact (h.callers j).onward (traffic.crowd.onward_wait j hmove)
    · exact (h.callers j).onward ((traffic.crowd.step_advance i move).onward hj)
  memory := h.memory
  latest_eq := h.latest_eq
  sequential := h.sequential
  ownOrder := h.ownOrder

/-- Whatever faults wait, storing brings the file in line or leaves it as it was. -/
theorem recalled_of_store (h : Coherent start traffic) {faults : List (FaultPoint × SystemError)}
    (hact : (Act.work faults).Honest) (config : Option Config) :
    let result := store traffic.shared.device.home config (traffic.shared.withFaults faults).world
    (∀ world, result = .ok ⟨⟩ world → Standing start.device.home world.disk ∧
      start.device.home.recalled world.disk = .ok config) ∧
    ∀ e world, result = .error e world → Standing start.device.home world.disk ∧
      start.device.home.recalled world.disk =
        start.device.home.recalled traffic.shared.world.disk := by
  have hsame := traffic.shared.same_withFaults faults
  obtain ⟨hok, herror⟩ := store_recalls (h.standing.same hsame) config
    fun _ => hact.truthful _ traffic.shared
  rw [h.home_eq]
  refine ⟨hok, fun e world hstore => ?_⟩
  obtain ⟨hstanding, hkept⟩ := herror e world hstore
  exact ⟨hstanding, hkept.trans
    (Home.recalled_of_same h.standing.normal h.standing.noNull hsame)⟩

/-- Every step keeps the invariant. -/
theorem step (h : Coherent start traffic) {act : Act} (hact : act.Honest)
    (hstep : traffic.Step i act next) : Coherent start next := by
  cases hstep with
  | nothing => exact h
  | calls access hplace =>
      have hprogress := (hplace ▸ h.callers i).ahead_of_outside
      refine h.replace (h.accounted.step (traffic.crowd.step_advance ..))
        (fun j hj => (traffic.crowd.step_advance ..).onward hj) (by rw [hprogress]; nofun) hprogress
        (fun side hside => ?_) ?_
      · rw [Crowd.place_call hplace] at hside
        exact (Option.some.inj hside).symm
      · rw [hprogress]
        exact (List.append_nil _).symm
  | looks => exact h.moves (.inl rfl)
  | stirs => exact h.moves (.inr rfl)
  | reads faults side hplace hprogress haccess =>
      have hnobody := h.nobody_halfway hplace hprogress
      have hsame := traffic.shared.same_withFaults faults
      refine h.settle hplace (by rw [hprogress]; rfl) (fun j _ => hnobody j) h.home_eq
        (h.standing.same hsame) ?_ rfl (by rintro _ ⟨⟩; rfl)
      rw [Home.recalled_of_same h.standing.normal h.standing.noNull hsame, h.memory hnobody]
      rfl
  | stores faults side config world hplace hprogress haccess hstore =>
      obtain ⟨hstanding, hstored⟩ := (h.recalled_of_store hact config).1 world hstore
      exact h.halve hplace hprogress haccess rfl hstanding hstored
  | fails faults side config e world hplace hprogress haccess hstore =>
      have hnobody := h.nobody_halfway hplace hprogress
      obtain ⟨hstanding, hkept⟩ := (h.recalled_of_store hact config).2 e world hstore
      exact h.settle hplace (by rw [hprogress]; rfl) (fun j _ => hnobody j) h.home_eq hstanding
        (hkept.trans (h.memory hnobody)) rfl nofun
  | adopts faults side config world hplace hprogress haccess hdisk =>
      obtain ⟨stored, hstored, hfile⟩ := (h.callers i).halfway hprogress
      obtain rfl : config = stored := Access.set.inj (haccess.symm.trans hstored)
      have hothers (j : ι) (hj : j ≠ i) : (traffic.caller j).progress ≠ .halfway :=
        fun hhalfway => hj (h.eq_of_halfway hplace hhalfway).symm
      exact h.settle hplace (by rw [hprogress]; rfl) hothers h.home_eq (hdisk ▸ h.standing)
        (hdisk ▸ hfile) rfl nofun
  | leaves side outcome hplace hprogress =>
      refine h.replace (h.accounted.step (traffic.crowd.step_advance ..))
        (fun j hj => (traffic.crowd.step_advance ..).onward hj) (by rw [hprogress]; nofun) rfl
        (fun side hside => ?_) ?_
      · rw [Crowd.place_leave hplace] at hside
        cases hside
      · rw [hprogress]
        rfl

end Coherent

end Device

end SmartDevice
