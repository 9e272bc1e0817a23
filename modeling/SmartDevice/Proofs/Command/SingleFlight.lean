import SmartDevice.Proofs.Command.Serial

/-! # One command at a time

At most one of the calls is inside the lock. The others wait, are refused or have ended, and in the
end the calls that acquired the lock have run one after another. -/

namespace SmartDevice.Command

open Device

variable {ι : Type} [DecidableEq ι] {plan : ι → Call} {start : Running} {flight : Flight ι}
  {i j : ι}

/-! ## Calls that do not get the lock -/

theorem Flight.after_concat (plan : ι → Call) (start : Running) (schedule : List ι) (i : ι) :
    after plan start (schedule ++ [i]) = (after plan start schedule).advance plan i := by
  rw [after, List.foldl_append]
  rfl

theorem Flight.stage_advance_self (plan : ι → Call) (flight : Flight ι) (i : ι) :
    (flight.advance plan i).stage i = ((plan i).advance (flight.stage i) flight.shared).1 :=
  Function.update_self ..

theorem Flight.stage_advance_of_ne (plan : ι → Call) (flight : Flight ι) (h : j ≠ i) :
    (flight.advance plan i).stage j = flight.stage j :=
  Function.update_of_ne h ..

theorem Flight.mem_advance (plan : ι → Call) (i : ι) (h : j ∈ flight.acquired) :
    j ∈ (flight.advance plan i).acquired := by
  unfold advance
  simp only
  split
  · exact List.mem_append_left _ h
  · exact h

/-- A step of a call that has not got the lock, and does not get it, changes nothing. -/
theorem Serial.shared_advance (h : Serial plan start flight)
    (hi : i ∉ (flight.advance plan i).acquired) :
    (flight.advance plan i).shared = flight.shared := by
  have hbefore : i ∉ flight.acquired := fun hmem => hi (Flight.mem_advance plan i hmem)
  unfold Flight.advance Call.advance at hi ⊢
  cases hstage : flight.stage i with
  | fresh =>
      simp only
      split <;> rfl
  | confirmed =>
      cases hbusy : flight.shared.device.busy? flight.shared.world with
      | none =>
          simp only [hstage, acquire_free (reason_ne_empty (plan i)) hbusy] at hi
          exact absurd (by simp [Stage.isInside]) hi
      | some holder => simp only [acquire_busy (reason_ne_empty (plan i)) hbusy]
  | inside guard todo result =>
      obtain ⟨-, -, before, hacquired, -⟩ := h.inside i guard todo result hstage
      exact absurd (by simp [hacquired]) hbefore
  | ended result => rfl

/-- No step of the call has changed anything about the device or what lies around it. -/
def Quiet (plan : ι → Call) (start : Running) (schedule : List ι) (i : ι) : Prop :=
  ∀ before later, schedule = before ++ i :: later →
    (Flight.after plan start (before ++ [i])).shared = (Flight.after plan start before).shared

theorem quiet_of_not_mem (hfree : start.device.busy? start.world = none) {schedule : List ι}
    (h : i ∉ (Flight.after plan start schedule).acquired) : Quiet plan start schedule i := by
  induction schedule using List.reverseRecOn with
  | nil =>
      intro before later hsplit
      simp at hsplit
  | append_singleton schedule k ih =>
      rw [Flight.after_concat] at h
      intro before later hsplit
      rcases split_concat hsplit with ⟨-, rfl, rfl⟩ | ⟨rest, -, hrest⟩
      · rw [Flight.after_concat]
        exact (Serial.after hfree schedule).shared_advance h
      · exact ih (fun hmem => h (Flight.mem_advance plan k hmem)) before rest hrest

/-- A call is refused when it tries to acquire the lock, because of what its holder does. -/
theorem Serial.holder_of_refused (h : Serial plan start flight) {reason : String}
    (hbefore : flight.stage i ≠ .ended (.error (.operation (.busy reason))))
    (hafter : (flight.advance plan i).stage i = .ended (.error (.operation (.busy reason)))) :
    flight.stage i = .confirmed ∧
      ∃ holder, (flight.stage holder).isInside ∧ (plan holder).reason = reason := by
  rw [Flight.stage_advance_self] at hafter
  unfold Call.advance at hafter
  cases hstage : flight.stage i with
  | fresh =>
      rw [hstage] at hafter
      simp only at hafter
      split at hafter <;> cases hafter
  | confirmed =>
      cases hbusy : flight.shared.device.busy? flight.shared.world with
      | none =>
          simp only [hstage, acquire_free (reason_ne_empty (plan i)) hbusy] at hafter
          cases hafter
      | some held =>
          simp only [hstage, acquire_busy (reason_ne_empty (plan i)) hbusy] at hafter
          cases hafter
          have hsome : ∃ holder, (flight.stage holder).isInside := by
            by_contra hnone
            rw [(h.outside (not_exists.mp hnone)).1] at hbusy
            cases hbusy
          obtain ⟨holder, hholder⟩ := hsome
          have hreason := (h.busy hholder).symm.trans hbusy
          exact ⟨rfl, holder, hholder, Option.some.inj hreason⟩
  | inside guard todo result =>
      rw [hstage] at hafter
      cases todo with
      | nil =>
          cases hafter
          exact absurd rfl ((h.inside i guard [] _ hstage).2.1 _)
      | cons phase todo =>
          simp only at hafter
          cases hphase : phase.perform flight.shared with
          | ok _ after =>
              rw [hphase] at hafter
              cases hafter
          | error e after =>
              rw [hphase] at hafter
              cases hafter
  | ended result =>
      rw [hstage] at hafter
      exact absurd (hstage.trans hafter) hbefore

/-- Whoever is refused is told what the call does that holds the lock at that moment. -/
theorem exists_holder (hfree : start.device.busy? start.world = none) {schedule : List ι}
    {reason : String}
    (h : (Flight.after plan start schedule).stage i =
      .ended (.error (.operation (.busy reason)))) :
    ∃ before later holder, schedule = before ++ i :: later ∧
      (Flight.after plan start before).stage i = .confirmed ∧
      ((Flight.after plan start before).stage holder).isInside ∧
      (plan holder).reason = reason := by
  induction schedule using List.reverseRecOn with
  | nil => simp [Flight.after] at h
  | append_singleton schedule k ih =>
      rw [Flight.after_concat] at h
      by_cases hearlier : (Flight.after plan start schedule).stage i =
          .ended (.error (.operation (.busy reason)))
      · obtain ⟨before, later, holder, hsplit, hholder⟩ := ih hearlier
        exact ⟨before, later ++ [k], holder, by simp [hsplit], hholder⟩
      · have hik : i = k := by
          by_contra hne
          rw [Flight.stage_advance_of_ne plan _ hne] at h
          exact hearlier h
        subst hik
        have hserial : Serial plan start (Flight.after plan start schedule) :=
          .after hfree schedule
        obtain ⟨hconfirmed, holder, hholder⟩ := hserial.holder_of_refused hearlier h
        exact ⟨schedule, [], holder, rfl, hconfirmed, hholder⟩

/-! ## Single flight -/

/-- What holds at every point of every run. -/
structure SingleFlight (plan : ι → Call) (start : Running) (schedule : List ι)
    (flight : Flight ι) : Prop where
  /-- At most one call is between its acquiring of the lock and its release. -/
  alone : ∀ i j, (flight.stage i).isInside → (flight.stage j).isInside → i = j
  /-- The device is busy with that call, -/
  busy : ∀ i, (flight.stage i).isInside →
    flight.shared.device.busy? flight.shared.world = some (plan i).reason
  /-- and with nothing if there is none. -/
  free : (∀ i, ¬ (flight.stage i).isInside) →
    flight.shared.device.busy? flight.shared.world = none
  /-- Never do two scripts run. -/
  scripts : ∀ i j, (flight.stage i).inScript → (flight.stage j).inScript → i = j
  /-- A call that was refused was told what the holder of the lock does, and has changed nothing. -/
  refused : ∀ i reason, flight.stage i = .ended (.error (.operation (.busy reason))) →
    Quiet plan start schedule i ∧
      ∃ before later holder, schedule = before ++ i :: later ∧
        (Flight.after plan start before).stage i = .confirmed ∧
        ((Flight.after plan start before).stage holder).isInside ∧
        (plan holder).reason = reason
  /-- Once all calls have ended, those that acquired the lock have run one after another. -/
  serial : (∀ i, ∃ result, flight.stage i = .ended result) →
    flight.shared.device.busy? flight.shared.world = none ∧
      flight.shared = inOrder plan start flight.acquired ∧
      flight.acquired.Nodup ∧
      ∀ before i later, flight.acquired = before ++ i :: later →
        flight.stage i = .ended ((plan i).run (inOrder plan start before)).1

theorem isInside_of_inScript {stage : Stage} (h : stage.inScript) : stage.isInside := by
  cases stage with
  | inside guard todo result => rfl
  | _ => cases h

theorem commands_run_one_at_a_time (plan : ι → Call) (start : Running)
    (hfree : start.device.busy? start.world = none) (schedule : List ι) :
    SingleFlight plan start schedule (Flight.after plan start schedule) := by
  have hserial : Serial plan start (Flight.after plan start schedule) := .after hfree schedule
  refine ⟨hserial.alone, fun i => hserial.busy, fun hnone => (hserial.outside hnone).1, ?_, ?_, ?_⟩
  · intro i j hi hj
    exact hserial.alone i j (isInside_of_inScript hi) (isInside_of_inScript hj)
  · intro i reason hrefused
    exact ⟨quiet_of_not_mem hfree (hserial.refused i _ hrefused), exists_holder hfree hrefused⟩
  · intro hended
    have hnone : ∀ i, ¬ ((Flight.after plan start schedule).stage i).isInside := by
      intro i hi
      obtain ⟨result, hresult⟩ := hended i
      simp [hresult, Stage.isInside] at hi
    obtain ⟨hidle, hshared⟩ := hserial.outside hnone
    refine ⟨hidle, hshared, hserial.nodup, fun before i later hsplit => ?_⟩
    exact (hserial.acquired before i later hsplit).resolve_left (hnone i)

/-! ## Two calls -/

/-- A lamp that nobody uses. -/
def idleLamp : Running where
  device := {
    home := ⟨Path.ofString "home"⟩
    identity := {
      productName := "Lamp"
      authorizationKey := ⟨List.replicate 32 0, rfl⟩
      privateKeyFile := Path.ofString "private.pem"
      uuid := ⟨0⟩ }
    config := none
    lock := 0 }
  world := {}

/-- One restarts the lamp while the other wants to configure it. -/
def restartAndSave : Bool → Call
  | true => { invocation := .restart, scripts := [("restart.sh", .finished 0 [] [])] }
  | false => {
    invocation := .saveConfiguration {
      name := "Porch"
      sharedKey := ⟨List.replicate 32 1, rfl⟩ } }

/-- The restart begins, the other call is refused, and the restart comes to its end. -/
def turns : List Bool := [true, false, true, true, false, true, true]

theorem save_refused_during_restart :
    idleLamp.device.busy? idleLamp.world = none ∧
      (Flight.after restartAndSave idleLamp turns).stage false =
        .ended (.error (.operation (.busy "The device is restarting."))) ∧
      SingleFlight restartAndSave idleLamp turns (Flight.after restartAndSave idleLamp turns) :=
  ⟨rfl, rfl, commands_run_one_at_a_time restartAndSave idleLamp rfl turns⟩

end SmartDevice.Command
