import SmartDevice.Proofs.Command.Twins
import SmartDevice.Proofs.Operation.Ownership

/-! # What a command does to the device, its files and its lock

The phases after the configuration was taken over leave it alone, so that it does not matter whether
they succeed. -/

namespace SmartDevice.Command

open Apply Running Device

variable {invocation : Invocation} {running after : Running} {config : Option Config}
  {first rest : List Phase}

theorem core_setConfig_bind (hrest : ∀ phase ∈ rest, phase.reachesConfig = false)
    (config : Option Config) (begun : Running) :
    match store begun.device.home config begun.world with
    | .ok _ stored => (left (setConfig config >>= fun _ => performAll rest) begun).core =
        ({ begun.device with config }, stored.disk)
    | .error e stored => (setConfig config >>= fun _ => performAll rest) begun =
        .error e { begun with world := stored } := by
  cases hstore : store begun.device.home config begun.world with
  | error e stored => simp only [bind_apply, setConfig_apply, hstore]
  | ok answer stored =>
      unfold left
      simp only [bind_apply, setConfig_apply, hstore]
      exact keeps_core_performAll hrest _

/-- The way up to the storing, and what is left of it then. -/
theorem performAll_setting (hfirst : first = [] ∨ first = [.announceReset]) (rest : List Phase)
    (config : Option Config) (held : Running) :
    ∃ begun, begun.device = held.device ∧ begun.world.SameSurroundings held.world ∧
      performAll (first ++ [.store config, .adopt config] ++ rest) held =
        (setConfig config >>= fun _ => performAll rest) begun := by
  obtain ⟨begun, hbegun⟩ : ∃ begun, performAll first held = .ok ⟨⟩ begun := by
    rcases hfirst with rfl | rfl
    · exact ⟨held, rfl⟩
    · exact ⟨_, rfl⟩
  obtain ⟨hdevice, hdisk⟩ :=
    Prod.mk.inj ((keeps_core_performAll (reachesConfig_of_first hfirst)).ok hbegun)
  obtain ⟨henvironment, hscripts⟩ :=
    Prod.mk.inj ((keeps_performAll keeps_settings_perform first).ok hbegun)
  refine ⟨begun, hdevice, ⟨hdisk, henvironment, hscripts⟩, ?_⟩
  rw [List.append_assoc, performAll_append, performAll_append, performAll_setConfig, bind_apply,
    hbegun]

/-- Storing goes the same way whenever it is done between the call of the command and its end. -/
theorem core_left_perform (hfree : running.device.busy? running.world = none)
    (hstores : invocation.stores? = some config) :
    match store running.device.home config running.world with
    | .ok _ stored =>
      (left invocation.perform running).core = ({ running.device with config }, stored.disk)
    | .error e stored => ∃ after, invocation.perform running = .error e after ∧
        after.core = (running.device, stored.disk) := by
  have hconfirmed := isConfirmed_of_stores? hstores
  obtain ⟨first, rest, hphases, hfirst, hrest⟩ := split_of_stores? hstores
  obtain ⟨begun, hdevice, hsame, hall⟩ :=
    performAll_setting hfirst rest config (taken invocation.kind.reason running)
  rw [← hphases] at hall
  have hworld : begun.world.SameSurroundings running.world :=
    ⟨hsame.disk, hsame.environment, hsame.scripts⟩
  have hset := core_setConfig_bind hrest config begun
  have hsameDevice : begun.device = running.device := hdevice
  rw [hsameDevice] at hset
  rcases (unseen_surroundings.store running.device.home config _ _ hworld).cases with
    ⟨⟨⟩, v, w, hbegun, hrunning, hdisk⟩ | ⟨e, v, w, hbegun, hrunning, hdisk⟩
  · rw [hbegun] at hset
    have hleft : left (performAll invocation.phases) (taken invocation.kind.reason running) =
        left (setConfig config >>= fun _ => performAll rest) begun := by
      unfold left
      rw [hall]
    rw [hrunning, left_perform_free hconfirmed hfree, hleft]
    simp only [← hdisk.disk]
    exact hset
  · rw [hbegun] at hset
    have hfailed : invocation.perform running =
        .error e (giveBack running.world.locks.guards.length ⟨running.device, v⟩) := by
      rw [perform_free hconfirmed hfree, hall, hset]
    rw [hrunning]
    refine ⟨_, hfailed, ?_⟩
    rw [← hdisk.disk]
    rfl

/-- Saving has nothing left to fail with once the configuration is stored. -/
theorem saveConfiguration_of_store {new : Config} {stored : World}
    (hfree : running.device.busy? running.world = none)
    (hstore : store running.device.home (some new) running.world = .ok ⟨⟩ stored) :
    ∃ after, saveConfiguration new running = .ok Kind.saveConfiguration.answer after := by
  have hconfirmed : (Invocation.saveConfiguration new).isConfirmed = true := rfl
  have hperform := perform_free hconfirmed hfree
  generalize hheld : taken (Invocation.saveConfiguration new).kind.reason running = held at hperform
  have hhome : held.device.home = running.device.home := hheld ▸ rfl
  have hsame : running.world.SameSurroundings held.world := hheld ▸ ⟨rfl, rfl, rfl⟩
  rcases (unseen_surroundings.store running.device.home (some new) _ _ hsame).cases with
    ⟨⟨⟩, v, w, -, htaken, -⟩ | ⟨e, v, w, hfailed, -, -⟩
  · rw [Invocation.phases, performAll_setConfig, setConfig_apply, hhome, htaken] at hperform
    exact ⟨_, hperform⟩
  · rw [hfailed] at hstore
    cases hstore

/-- A command that stores nothing leaves the device and its files alone. -/
theorem keeps_core_of_stores? (hstores : invocation.stores? = none) :
    Keeps core invocation.perform := by
  cases invocation with
  | factoryReset confirm =>
      have hconfirm : confirm ≠ some confirmation := by
        simpa [Invocation.stores?] using hstores
      intro running
      have hrefused : (Invocation.factoryReset confirm).perform running =
          .error .unconfirmed running :=
        Invocation.perform_unconfirmed (by simpa [Invocation.isConfirmed] using hconfirm) running
      rw [left_of_error hrefused]
  | restart => exact keeps_core_restart
  | shutdown => exact keeps_core_shutdown
  | saveConfiguration config => cases hstores

/-! ## Failures -/

theorem raises_performAll (phases : List Phase) :
    Raises (fun e => e.FromStorage ∨ e.FromScript) (performAll phases) := by
  induction phases with
  | nil => exact .pure _
  | cons phase phases ih => exact .bind (raises_phase phase) fun _ => ih

/-- A command is refused at once, or else it has its confirmation and the device is free. -/
theorem refused_or_free (invocation : Invocation) (running : Running) :
    (invocation.perform running = .error .unconfirmed running ∧
        invocation.isConfirmed = false) ∨
      (∃ holder, invocation.perform running = .error (.operation (.busy holder)) running) ∨
      invocation.isConfirmed = true ∧ running.device.busy? running.world = none := by
  cases hconfirmed : invocation.isConfirmed with
  | false => exact .inl ⟨Invocation.perform_unconfirmed hconfirmed running, rfl⟩
  | true =>
      cases hbusy : running.device.busy? running.world with
      | none => exact .inr (.inr ⟨rfl, rfl⟩)
      | some holder =>
          refine .inr (.inl ⟨holder, ?_⟩)
          rw [Invocation.perform_apply hconfirmed,
            acquire_busy invocation.kind.reason_ne_empty hbusy]

/-- A command is refused, or else its storing or its script fails. -/
theorem failure_of_perform {e : Failure}
    (h : invocation.perform running = .error e after) :
    (e = .unconfirmed ∧ invocation.isConfirmed = false) ∨
      (∃ holder, e = .operation (.busy holder)) ∨ e.FromStorage ∨ e.FromScript := by
  rcases refused_or_free invocation running with
    ⟨hrefused, hconfirmed⟩ | ⟨holder, hrefused⟩ | ⟨hconfirmed, hfree⟩
  · rw [hrefused] at h
    cases h
    exact .inl ⟨rfl, hconfirmed⟩
  · rw [hrefused] at h
    cases h
    exact .inr (.inl ⟨holder, rfl⟩)
  · obtain ⟨last, hall, -⟩ := performAll_of_error hconfirmed hfree h
    exact .inr (.inr (raises_performAll _ _ _ _ hall))

/-- A command that succeeds gives the answer of its kind. -/
theorem answer_of_perform {answer : String} (h : invocation.perform running = .ok answer after) :
    answer = invocation.kind.answer := by
  rcases refused_or_free invocation running with
    ⟨hrefused, -⟩ | ⟨holder, hrefused⟩ | ⟨hconfirmed, hfree⟩
  · rw [hrefused] at h
    cases h
  · rw [hrefused] at h
    cases h
  · exact (performAll_of_ok hconfirmed hfree h).1

/-! ## Locks -/

/-- A free device is left with all locks as they were. -/
theorem locks_left_perform (invocation : Invocation)
    (hfree : running.device.busy? running.world = none) :
    (left invocation.perform running).world.locks.nextLock = running.world.locks.nextLock ∧
      ∀ lock, (left invocation.perform running).world.locks.busy? lock =
        running.world.locks.busy? lock := by
  by_cases hconfirmed : invocation.isConfirmed = true
  · have hkept := keeps_performAll keeps_locks_perform invocation.phases
      (taken invocation.kind.reason running)
    have hlocks : (left invocation.perform running).world.locks =
        ((taken invocation.kind.reason running).world.locks.release
          running.world.locks.guards.length).2 := by
      rw [left_perform_free hconfirmed hfree, ← (Prod.mk.inj hkept).2]
      rfl
    have hlive : (taken invocation.kind.reason running).world.locks.Live
        running.world.locks.guards.length running.device.lock invocation.kind.reason :=
      (keeping_taken _ running).guard_eq
    rw [hlocks]
    refine ⟨Operation.Register.nextLock_release _ _, fun lock => ?_⟩
    rw [Operation.Register.busy?_release hlive]
    split
    · next hlock =>
        rw [hlock]
        exact hfree.symm
    · next hlock =>
        have hother : (lock == running.device.lock) = false := by simpa using hlock
        simp only [taken, Operation.Register.busy?, List.lookup_cons, hother]
  · rw [Bool.not_eq_true] at hconfirmed
    rw [left_of_error (Invocation.perform_unconfirmed hconfirmed running)]
    exact ⟨rfl, fun _ => rfl⟩

end SmartDevice.Command
