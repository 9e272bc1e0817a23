import SmartDevice.Proofs.Command.Calls
import SmartDevice.Proofs.Home.Records

/-! # Moments of a command

While a device goes through phases it comes to each of them in some state. What is started or fails
on the way is started or fails at one of these moments. -/

namespace SmartDevice.Command

open Apply World Running Device

/-- Going through phases, a device comes to one of them at a moment. -/
inductive Passes : List Phase → Running → Phase → Running → Prop where
  | here {phase phases now} : Passes (phase :: phases) now phase now
  | later {first phases now next phase moment} (h : first.perform now = .ok ⟨⟩ next)
    (hlater : Passes phases next phase moment) : Passes (first :: phases) now phase moment

variable {γ : Type} {view : Running → γ} {phases : List Phase} {phase : Phase}
  {now next moment after : Running}

namespace Passes

/-- What every phase leaves alone is as it was at the start. -/
theorem keeps (hkeeps : ∀ phase, Keeps view (Phase.perform phase))
    (h : Passes phases now phase moment) : view moment = view now := by
  induction h with
  | here => rfl
  | later hfirst _ ih => exact ih.trans ((hkeeps _).ok hfirst)

theorem cons_iff {first : Phase} :
    Passes (first :: phases) now phase moment ↔
      (phase = first ∧ moment = now) ∨
        ∃ next, first.perform now = .ok ⟨⟩ next ∧ Passes phases next phase moment := by
  constructor
  · intro h
    cases h with
    | here => exact .inl ⟨rfl, rfl⟩
    | later hfirst hlater => exact .inr ⟨_, hfirst, hlater⟩
  · rintro (⟨rfl, rfl⟩ | ⟨next, hfirst, hlater⟩)
    · exact .here
    · exact .later hfirst hlater

theorem not_nil : ¬ Passes [] now phase moment := by
  intro h
  cases h

end Passes

/-! ## The whole way -/

theorem left_performAll_cons (phase : Phase) (phases : List Phase) (now : Running) :
    left (performAll (phase :: phases)) now =
      match phase.perform now with
      | .ok _ next => left (performAll phases) next
      | .error _ after => after := by
  unfold left
  simp only [performAll, bind_apply]
  cases phase.perform now <;> rfl

/-- What every phase leaves alone is left alone by all of them. -/
theorem keeps_performAll (hkeeps : ∀ phase, Keeps view (Phase.perform phase))
    (phases : List Phase) : Keeps view (performAll phases) := by
  induction phases with
  | nil => exact .pure _
  | cons phase phases ih => exact .bind (hkeeps phase) fun _ => ih

/-- On a way that is gone to its end every phase succeeds. -/
theorem Passes.perform_eq_ok (h : Passes phases now phase moment)
    (hall : performAll phases now = .ok ⟨⟩ after) : ∃ next, phase.perform moment = .ok ⟨⟩ next := by
  induction h with
  | here =>
      rw [performAll, bind_apply] at hall
      cases hphase : Phase.perform _ _ with
      | ok answer next => exact ⟨next, rfl⟩
      | error e after =>
          rw [hphase] at hall
          cases hall
  | later hfirst _ ih =>
      rw [performAll, bind_apply, hfirst] at hall
      exact ih hall

/-- A way that is gone to its end passes all of its phases. -/
theorem exists_passes (hall : performAll phases now = .ok ⟨⟩ after) (hmem : phase ∈ phases) :
    ∃ moment, Passes phases now phase moment := by
  induction phases generalizing now with
  | nil => cases hmem
  | cons first phases ih =>
      rcases List.mem_cons.mp hmem with rfl | hmem
      · exact ⟨now, .here⟩
      · rw [performAll, bind_apply] at hall
        cases hfirst : first.perform now with
        | error e next =>
            rw [hfirst] at hall
            cases hall
        | ok answer next =>
            rw [hfirst] at hall
            obtain ⟨moment, hpasses⟩ := ih hall hmem
            exact ⟨moment, .later hfirst hpasses⟩

/-- A way that ends early ends at a phase that fails. -/
theorem exists_failing_phase {e : Failure} (hall : performAll phases now = .error e after) :
    ∃ phase moment, Passes phases now phase moment ∧ phase.perform moment = .error e after := by
  induction phases generalizing now with
  | nil => cases hall
  | cons first phases ih =>
      rw [performAll, bind_apply] at hall
      cases hfirst : first.perform now with
      | error e next =>
          rw [hfirst] at hall
          cases hall
          exact ⟨first, now, .here, hfirst⟩
      | ok answer next =>
          rw [hfirst] at hall
          obtain ⟨phase, moment, hpasses, hfails⟩ := ih hall
          exact ⟨phase, moment, .later hfirst hpasses, hfails⟩

/-! ## Scripts on the way -/

/-- The script that a phase starts. -/
def Phase.script? : Phase → Option String
  | startScript name => some name
  | _ => none

/-- What is noted of a script that is started now. -/
def noted (name : String) (now : Running) : ScriptRun where
  path := (directoryOf now.world).child name
  timeout := defaultTimeout
  busy := now.device.busy? now.world

theorem runs_perform (phase : Phase) (now : Running) :
    (left phase.perform now).world.runs =
      now.world.runs ++ (phase.script?.map (noted · now)).toList := by
  have hkept {x : Running.Action Unit} (h : Keeps (fun running => running.world.runs) x)
      (now : Running) : (left x now).world.runs = now.world.runs ++ [] :=
    (h now).trans (List.append_nil _).symm
  have haround {α : Type} {x : SmartDevice.Action α} (h : Keeps World.runs x) :
      Keeps (fun running : Running => running.world.runs) (around x) :=
    keeps_around fun running => h running.world
  cases phase with
  | announceReset => exact hkept (fun _ => rfl) now
  | store config =>
      exact hkept (.bind .get fun running => haround (keeps_store (fun _ _ => rfl) _ config)) now
  | adopt config => exact hkept (fun _ => rfl) now
  | startScript name => rfl
  | awaitScript name =>
      refine hkept (.bind (haround (.bind (fun _ => rfl) fun directory => ?_)) fun _ => .pure _) now
      exact keeps_awaitScript (fun _ _ => rfl) _ _ _

/-- Every script that is noted on the way was started at one of its moments. -/
theorem runs_performAll (phases : List Phase) (now : Running) :
    ∃ moments : List (String × Running),
      (left (performAll phases) now).world.runs =
        now.world.runs ++ moments.map (fun (name, moment) => noted name moment) ∧
      (∀ name moment, (name, moment) ∈ moments →
        Passes phases now (.startScript name) moment) ∧
      moments.length ≤ phases.countP (·.script?.isSome) := by
  induction phases generalizing now with
  | nil => exact ⟨[], by simp [left, performAll], by simp, by simp⟩
  | cons phase phases ih =>
      have hruns := runs_perform phase now
      have hfirst (name : String) (moment : Running)
          (hmem : (name, moment) ∈ (phase.script?.map (·, now)).toList) :
          Passes (phase :: phases) now (.startScript name) moment := by
        cases phase with
        | startScript other =>
            obtain ⟨rfl, rfl⟩ : name = other ∧ moment = now := by simpa [Phase.script?] using hmem
            exact .here
        | _ => cases hmem
      have hcount : (phase.script?.map (·, now)).toList.length =
          if phase.script?.isSome then 1 else 0 := by
        cases phase.script? <;> rfl
      have hnoted : (phase.script?.map (noted · now)).toList =
          (phase.script?.map (·, now)).toList.map (fun (name, moment) => noted name moment) := by
        cases phase.script? <;> rfl
      rw [left_performAll_cons]
      cases hphase : phase.perform now with
      | error e after =>
          rw [left_of_error hphase, hnoted] at hruns
          exact ⟨_, hruns, hfirst, by rw [hcount, List.countP_cons]; omega⟩
      | ok answer next =>
          rw [left_of_ok hphase, hnoted] at hruns
          obtain ⟨moments, hlog, hpasses, hlength⟩ := ih next
          refine ⟨(phase.script?.map (·, now)).toList ++ moments, ?_, ?_, ?_⟩
          · rw [hlog, hruns, List.map_append, List.append_assoc]
          · intro name moment hmem
            rcases List.mem_append.mp hmem with hmem | hmem
            · exact hfirst name moment hmem
            · exact .later hphase (hpasses name moment hmem)
          · rw [List.length_append, hcount, List.countP_cons]
            omega

end SmartDevice.Command
