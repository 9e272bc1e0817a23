import SmartDevice.Proofs.Command.Effect
import SmartDevice.Proofs.Disk.Reasons

/-! # Failures that no command means to end with

A command is meant to fail with a report about its script or about what it stores. A script that the
system cannot run, or a home that lies where no file can be, makes it fail in another way. -/

namespace SmartDevice.Command

open Apply World Running Device

variable {invocation : Invocation} {phases : List Phase} {phase : Phase}
  {running now moment after : Running} {e : Failure}

/-! ## Ways that end early -/

/-- A way ends where one of its phases fails. -/
theorem Passes.performAll_eq_error (h : Passes phases now phase moment)
    (hphase : phase.perform moment = .error e after) : performAll phases now = .error e after := by
  induction h with
  | here => rw [performAll, bind_apply, hphase]
  | later hfirst _ ih =>
      rw [performAll, bind_apply, hfirst]
      exact ih hphase

theorem awaitScript_eq_file_iff (name : String) (moment : Running) :
    (∃ e after, (Phase.awaitScript name).perform moment = .error (.file e) after) ↔
      ∃ cause, ownEnding name moment.world = .failed cause := by
  simp only [Phase.perform, bind_apply, around_apply, scriptDirectory_apply, awaitScript,
    outcomeOf_apply]
  rw [ownEnding]
  cases hending : endingOf ((directoryOf moment.world).child name) moment.world with
  | failed cause => exact ⟨fun _ => ⟨cause, rfl⟩, fun _ => ⟨_, _, rfl⟩⟩
  | finished status out err =>
      constructor
      · rintro ⟨e, after, h⟩
        by_cases hstatus : status = 0
        · by_cases houtput : outputText out = ""
          · simp only [ne_eq, hstatus, not_true_eq_false, if_false, houtput] at h
            cases h
          · simp only [ne_eq, hstatus, not_true_eq_false, if_false, houtput, not_false_eq_true,
              if_true] at h
            cases h
        · simp only [ne_eq, hstatus, not_false_eq_true, if_true, bind_apply, throw_apply] at h
          cases h
      · rintro ⟨cause, h⟩
        cases h
  | _ =>
      constructor
      · rintro ⟨e, after, h⟩
        cases h
      · rintro ⟨cause, h⟩
        cases h

theorem store_eq_file_iff (config : Option Config) (moment : Running) :
    (∃ e after, (Phase.store config).perform moment = .error (.file e) after) ↔
      ∃ e after, Device.store moment.device.home config moment.world = .error (.file e) after := by
  simp only [Phase.perform, bind_apply, get_apply, around_apply]
  cases Device.store moment.device.home config moment.world with
  | ok answer world => simp
  | error failure world => simp

/-- Two phases fail without a report: awaiting a script that the system cannot run, and storing
something where no file can be. -/
theorem perform_eq_file_iff (phase : Phase) (moment : Running) :
    (∃ e after, phase.perform moment = .error (.file e) after) ↔
      (∃ name cause, phase = .awaitScript name ∧ ownEnding name moment.world = .failed cause) ∨
        ∃ config e after, phase = .store config ∧
          Device.store moment.device.home config moment.world = .error (.file e) after := by
  cases phase with
  | store config => simp [store_eq_file_iff]
  | awaitScript name => simp [awaitScript_eq_file_iff]
  | announceReset => simp [Phase.perform]
  | adopt config => simp [Phase.perform, Device.adopt]
  | startScript name =>
      simp [Phase.perform, isBusyWith_apply, around_apply, scriptDirectory_apply,
        startScript_apply]

/-! ## Commands -/

/-- A command that is confirmed comes to one of its phases, on a device that was free. -/
structure Comes (invocation : Invocation) (running : Running) (phase : Phase) (moment : Running) :
    Prop where
  confirmed : invocation.isConfirmed = true
  free : running.device.busy? running.world = none
  passes : Passes invocation.phases (taken invocation.kind.reason running) phase moment

/-- A command comes to a script that the system cannot run, or to storing something where no file
can be. -/
inductive Escapes (invocation : Invocation) (running : Running) : Prop where
  | script {name moment cause} (hcomes : Comes invocation running (.awaitScript name) moment)
    (hending : ownEnding name running.world = .failed cause)
  | store {config moment e after} (hcomes : Comes invocation running (.store config) moment)
    (hstore : Device.store moment.device.home config moment.world = .error (.file e) after)

namespace Comes

theorem settings_eq (h : Comes invocation running phase moment) :
    settings moment = settings running :=
  (h.passes.keeps keeps_settings_perform).trans rfl

theorem home_eq (h : Comes invocation running phase moment) :
    moment.device.home = running.device.home := by
  have hkeeps (phase : Phase) : Keeps (fun running : Running => running.device.home)
      phase.perform :=
    keeps_perform (fun _ _ _ _ => rfl) (fun _ _ => rfl) phase
  exact (h.passes.keeps hkeeps).trans rfl

theorem perform_eq_error (h : Comes invocation running phase moment)
    (hphase : phase.perform moment = .error e after) :
    invocation.perform running =
      .error e (after.giveBack running.world.locks.guards.length) := by
  rw [perform_free h.confirmed h.free, h.passes.performAll_eq_error hphase]

end Comes

/-- A command fails without a report exactly where it escapes. -/
theorem escapes_iff (invocation : Invocation) (running : Running) :
    Escapes invocation running ↔
      ∃ e after, invocation.perform running = .error (.file e) after := by
  constructor
  · intro h
    cases h with
    | @script name moment cause hcomes hending =>
        rw [← ownEnding_of_settings hcomes.settings_eq] at hending
        obtain ⟨e, after, hphase⟩ := (awaitScript_eq_file_iff name moment).mpr ⟨cause, hending⟩
        exact ⟨e, _, hcomes.perform_eq_error hphase⟩
    | @store config moment e after hcomes hstore =>
        obtain ⟨e, after, hphase⟩ := (store_eq_file_iff config moment).mpr ⟨e, after, hstore⟩
        exact ⟨e, _, hcomes.perform_eq_error hphase⟩
  · rintro ⟨e, after, h⟩
    rcases refused_or_free invocation running with
      ⟨hrefused, -⟩ | ⟨holder, hrefused⟩ | ⟨hconfirmed, hfree⟩
    · rw [hrefused] at h
      cases h
    · rw [hrefused] at h
      cases h
    · obtain ⟨last, hall, -⟩ := performAll_of_error hconfirmed hfree h
      obtain ⟨phase, moment, hpasses, hphase⟩ := exists_failing_phase hall
      have hcomes : Comes invocation running phase moment := ⟨hconfirmed, hfree, hpasses⟩
      rcases (perform_eq_file_iff phase moment).mp ⟨_, _, hphase⟩ with
        ⟨name, cause, rfl, hending⟩ | ⟨config, e, after, rfl, hstore⟩
      · rw [ownEnding_of_settings hcomes.settings_eq] at hending
        exact .script hcomes hending
      · exact .store hcomes hstore

/-- In a home whose path names no null character, a command escapes only by a script that the system
cannot run. -/
theorem escapes_iff_of_home (h : Disk.hasNull running.device.home.path = false) :
    Escapes invocation running ↔ ∃ name moment cause,
      Comes invocation running (.awaitScript name) moment ∧
        ownEnding name running.world = .failed cause := by
  constructor
  · intro hescapes
    cases hescapes with
    | @script name moment cause hcomes hending => exact ⟨name, moment, cause, hcomes, hending⟩
    | store hcomes hstore =>
        rw [← hcomes.home_eq] at h
        exact (raises_store_report h _ _ _ _ hstore).elim
  · rintro ⟨name, moment, cause, hcomes, hending⟩
    exact .script hcomes hending

end SmartDevice.Command
