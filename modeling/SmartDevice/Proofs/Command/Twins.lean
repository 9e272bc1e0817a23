import SmartDevice.Proofs.Action.Unseen
import SmartDevice.Proofs.Command.Conduct

/-! # Devices that cannot be told apart

Two devices with the same records in the same surroundings go through every command in the same way,
whichever locks they have and whatever has been noted before. -/

namespace SmartDevice

open Apply

variable {r s : Running}

/-- The same files, environment and scripts. -/
structure World.SameSurroundings (v w : World) : Prop where
  disk : v.disk = w.disk
  environment : v.environment = w.environment
  scripts : v.scripts = w.scripts

/-- The same records in the same surroundings. -/
structure Running.Twins (r s : Running) : Prop where
  home : r.device.home = s.device.home
  identity : r.device.identity = s.device.identity
  config : r.device.config = s.device.config
  world : r.world.SameSurroundings s.world

/-- Twins that no command is busy with. -/
structure Running.FreeTwins (r s : Running) : Prop where
  twins : r.Twins s
  left : r.device.busy? r.world = none
  right : s.device.busy? s.world = none

theorem unseen_surroundings : Unseen World.SameSurroundings where
  disk_eq _ _ h := h.disk
  environment_eq _ _ h := h.environment
  scripts_eq _ _ h := h.scripts
  withDisk _ _ _ h := ⟨rfl, h.environment, h.scripts⟩
  withConsole _ _ _ h := ⟨h.disk, h.environment, h.scripts⟩
  withRun _ _ _ h := ⟨h.disk, h.environment, h.scripts⟩

namespace Running.Twins

theorem around {α : Type} {x : SmartDevice.Action α} (hx : Alike World.SameSurroundings x x) :
    Alike Twins (around x) (around x) := by
  intro r s h
  rcases (hx r.world s.world h.world).cases with
    ⟨a, v, w, hr, hs, hworld⟩ | ⟨e, v, w, hr, hs, hworld⟩
  · simp only [around_apply, hr, hs]
    exact .ok ⟨h.home, h.identity, h.config, hworld⟩
  · simp only [around_apply, hr, hs]
    exact .error ⟨h.home, h.identity, h.config, hworld⟩

/-- Locks do not count among what twins have in common. -/
theorem giveBack (h : r.Twins s) (i j : ℕ) : (r.giveBack i).Twins (s.giveBack j) :=
  ⟨h.home, h.identity, h.config, h.world.disk, h.world.environment, h.world.scripts⟩

end Running.Twins

/-- What is said on the consoles of twins does not matter either. -/
theorem Running.FreeTwins.withConsole (h : r.FreeTwins s) (write : Console → Console) :
    Running.FreeTwins { r with world := r.world.saying write }
      { s with world := s.world.saying write } :=
  ⟨⟨h.twins.home, h.twins.identity, h.twins.config, h.twins.world.disk, h.twins.world.environment,
    h.twins.world.scripts⟩, h.left, h.right⟩

namespace Command

open Running

/-- What is noted of a script may differ, since it tells what the device was busy with. -/
theorem alike_perform (phase : Phase) : Alike Twins phase.perform phase.perform := by
  cases phase with
  | announceReset => exact Twins.around (unseen_surroundings.say _)
  | store config =>
      intro r s h
      simp only [Phase.perform, bind_apply, get_apply, h.home]
      exact Twins.around (unseen_surroundings.store _ config) r s h
  | adopt config =>
      refine .bind (.modify fun r s h => ?_) fun _ => Twins.around (unseen_surroundings.say _)
      exact ⟨h.home, h.identity, rfl, h.world⟩
  | startScript name =>
      intro r s h
      exact .ok ⟨h.home, h.identity, h.config, h.world.disk, h.world.environment, h.world.scripts⟩
  | awaitScript name =>
      refine .bind (Twins.around ?_) fun _ => .pure _
      exact .bind unseen_surroundings.scriptDirectory fun _ => unseen_surroundings.awaitScript _ _ _

theorem alike_performAll (phases : List Phase) :
    Alike Twins (performAll phases) (performAll phases) := by
  induction phases with
  | nil => exact .pure _
  | cons phase phases ih => exact .bind (alike_perform phase) fun _ => ih

/-- A command ends alike for free twins, and leaves free twins behind. -/
theorem alike_invocation (invocation : Invocation) :
    Alike FreeTwins invocation.perform invocation.perform := by
  intro r s h
  by_cases hconfirmed : invocation.isConfirmed = true
  · have hfreeR := (conducted hconfirmed h.left).free
    have hfreeS := (conducted hconfirmed h.right).free
    rw [left_perform_free hconfirmed h.left] at hfreeR
    rw [left_perform_free hconfirmed h.right] at hfreeS
    have htaken : (taken invocation.kind.reason r).Twins (taken invocation.kind.reason s) :=
      ⟨h.twins.home, h.twins.identity, h.twins.config, h.twins.world.disk,
        h.twins.world.environment, h.twins.world.scripts⟩
    rw [perform_free hconfirmed h.left, perform_free hconfirmed h.right]
    rcases (alike_performAll invocation.phases _ _ htaken).cases with
      ⟨a, r', s', hr, hs, hlast⟩ | ⟨e, r', s', hr, hs, hlast⟩
    · rw [left_of_ok hr] at hfreeR
      rw [left_of_ok hs] at hfreeS
      simp only [hr, hs]
      exact .ok ⟨hlast.giveBack _ _, hfreeR, hfreeS⟩
    · rw [left_of_error hr] at hfreeR
      rw [left_of_error hs] at hfreeS
      simp only [hr, hs]
      exact .error ⟨hlast.giveBack _ _, hfreeR, hfreeS⟩
  · rw [Bool.not_eq_true] at hconfirmed
    rw [Invocation.perform_unconfirmed hconfirmed, Invocation.perform_unconfirmed hconfirmed]
    exact .error h

end Command

end SmartDevice
