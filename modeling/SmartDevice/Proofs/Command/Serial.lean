import SmartDevice.Proofs.Command.Calls
import Mathlib.Data.List.Induction

/-! # Calls that acquire the lock run one after another

Between any two steps the calls that have acquired the lock have run one after another, but for the
rest of the last one. -/

namespace SmartDevice.Command

open Running Device

variable {ι : Type} {plan : ι → Call} {start : Running} {flight : Flight ι} {i j : ι}

/-! ## The invariant -/

/-- What holds between two steps. -/
structure Serial (plan : ι → Call) (start : Running) (flight : Flight ι) : Prop where
  alone : ∀ i j, (flight.stage i).isInside → (flight.stage j).isInside → i = j
  confirmed : ∀ i, flight.stage i = .confirmed → (plan i).invocation.isConfirmed = true
  inside : ∀ i guard todo result, flight.stage i = .inside guard todo result →
    Keeping flight.shared guard (plan i).reason ∧
      (∀ cause, result ≠ .error (.operation cause)) ∧
      ∃ before, flight.acquired = before ++ [i] ∧
        finish guard todo result flight.shared = (plan i).run (inOrder plan start before)
  outside : (∀ i, ¬ (flight.stage i).isInside) →
    flight.shared.device.busy? flight.shared.world = none ∧
      flight.shared = inOrder plan start flight.acquired
  nodup : flight.acquired.Nodup
  acquired : ∀ before i after, flight.acquired = before ++ i :: after →
    (flight.stage i).isInside ∨
      flight.stage i = .ended ((plan i).run (inOrder plan start before)).1
  refused : ∀ i cause, flight.stage i = .ended (.error (.operation cause)) → i ∉ flight.acquired

/-! ## Lists and stages -/

/-- A list with one more entry at its end, cut at an entry. -/
theorem split_concat {xs before after : List ι} (h : xs ++ [i] = before ++ j :: after) :
    (after = [] ∧ xs = before ∧ i = j) ∨
      ∃ rest, after = rest ++ [i] ∧ xs = before ++ j :: rest := by
  rcases List.eq_nil_or_concat after with rfl | ⟨rest, last, rfl⟩
  · obtain ⟨hxs, hlast⟩ := List.append_inj' h rfl
    exact .inl ⟨rfl, hxs, List.singleton_inj.mp hlast⟩
  · rw [List.concat_eq_append, ← List.cons_append, ← List.append_assoc] at h
    obtain ⟨hxs, hlast⟩ := List.append_inj' h rfl
    rw [List.singleton_inj.mp hlast]
    exact .inr ⟨rest, List.concat_eq_append, hxs⟩

/-- An entry that occurs once, at the end, is found nowhere else. -/
theorem split_last {xs before after : List ι} (hnodup : (xs ++ [i]).Nodup)
    (h : xs ++ [i] = before ++ i :: after) : before = xs := by
  rcases split_concat h with ⟨-, rfl, -⟩ | ⟨rest, -, hrest⟩
  · rfl
  · have hmem : i ∈ xs := by simp [hrest]
    exact absurd rfl ((List.nodup_append.mp hnodup).2.2 i hmem i List.mem_cons_self)

theorem Stage.eq_inside {stage : Stage} (h : stage.isInside) :
    ∃ guard todo result, stage = .inside guard todo result := by
  cases stage with
  | inside guard todo result => exact ⟨guard, todo, result, rfl⟩
  | _ => cases h

section Update

variable [DecidableEq ι] {stages : ι → Stage} {stage : Stage}

/-- Either a call has come to a new stage or it is where it was. -/
theorem update_cases {P : Stage → Prop} (h : P (Function.update stages i stage j)) :
    (j = i ∧ P stage) ∨ (j ≠ i ∧ P (stages j)) := by
  by_cases hji : j = i
  · subst hji
    rw [Function.update_self] at h
    exact .inl ⟨rfl, h⟩
  · rw [Function.update_of_ne hji] at h
    exact .inr ⟨hji, h⟩

theorem isInside_update (h : stage.isInside = (stages i).isInside) (j : ι) :
    (Function.update stages i stage j).isInside = (stages j).isInside := by
  by_cases hji : j = i
  · subst hji
    rw [Function.update_self, h]
  · rw [Function.update_of_ne hji]

end Update

namespace Serial

theorem busy (h : Serial plan start flight) (hi : (flight.stage i).isInside) :
    flight.shared.device.busy? flight.shared.world = some (plan i).reason := by
  obtain ⟨guard, todo, result, hstage⟩ := Stage.eq_inside hi
  exact (h.inside i guard todo result hstage).1.busy_eq

/-- A call that has acquired the lock does not wait for it any more. -/
theorem not_mem_of_isWaiting (h : Serial plan start flight) (hi : (flight.stage i).isWaiting) :
    i ∉ flight.acquired := by
  intro hmem
  obtain ⟨before, after, hsplit⟩ := List.append_of_mem hmem
  rcases h.acquired before i after hsplit with hin | hended
  · obtain ⟨guard, todo, result, hstage⟩ := Stage.eq_inside hin
    rw [hstage] at hi
    cases hi
  · rw [hended] at hi
    cases hi

/-! ## Steps -/

variable [DecidableEq ι]

/-- A call that waits for the lock takes a step outside. -/
theorem waits (h : Serial plan start flight) {stage : Stage}
    (hi : (flight.stage i).isWaiting) (hstage : stage.isInside = false)
    (hconfirmed : stage = .confirmed → (plan i).invocation.isConfirmed = true) :
    Serial plan start { flight with stage := Function.update flight.stage i stage } := by
  have hnew := h.not_mem_of_isWaiting hi
  have hinside := isInside_update (hstage.trans (Stage.isInside_of_isWaiting hi).symm)
  refine ⟨?_, ?_, ?_, ?_, h.nodup, ?_, ?_⟩
  · intro j k hj hk
    rw [hinside] at hj hk
    exact h.alone j k hj hk
  · intro j hj
    rcases update_cases (P := (· = .confirmed)) hj with ⟨rfl, hnow⟩ | ⟨-, hj⟩
    · exact hconfirmed hnow
    · exact h.confirmed j hj
  · intro j guard todo result hj
    rcases update_cases (P := (· = .inside guard todo result)) hj with ⟨-, hj⟩ | ⟨-, hj⟩
    · rw [hj] at hstage
      cases hstage
    · exact h.inside j guard todo result hj
  · intro hnone
    exact h.outside fun j => by simpa only [hinside] using hnone j
  · intro before j after hsplit
    have hji : j ≠ i := by
      rintro rfl
      exact hnew (by simp [show flight.acquired = _ from hsplit])
    simpa only [Function.update_of_ne hji] using h.acquired before j after hsplit
  · intro j cause hj
    rcases update_cases (P := (· = .ended (.error (.operation cause)))) hj with ⟨rfl, -⟩ | ⟨-, hj⟩
    · exact hnew
    · exact h.refused j cause hj

/-- A call acquires the lock. -/
theorem acquires (h : Serial plan start flight) (hstage : flight.stage i = .confirmed)
    (hfree : flight.shared.device.busy? flight.shared.world = none) :
    Serial plan start {
      stage := Function.update flight.stage i
        (.inside flight.shared.world.locks.guards.length (plan i).invocation.phases
          (.ok (plan i).invocation.kind.answer))
      shared := (plan i).prepare (taken (plan i).reason flight.shared)
      acquired := flight.acquired ++ [i] } := by
  have hnew : i ∉ flight.acquired := by
    refine h.not_mem_of_isWaiting ?_
    rw [hstage]
    rfl
  have hnone (j : ι) : ¬ (flight.stage j).isInside := by
    intro hj
    rw [h.busy hj] at hfree
    cases hfree
  obtain ⟨-, hshared⟩ := h.outside hnone
  refine ⟨?_, ?_, ?_, ?_, ?_, ?_, ?_⟩
  · intro j k hj hk
    rcases update_cases (P := (·.isInside = true)) hj with ⟨rfl, -⟩ | ⟨-, hj⟩
    · rcases update_cases (P := (·.isInside = true)) hk with ⟨rfl, -⟩ | ⟨-, hk⟩
      · rfl
      · exact absurd hk (hnone k)
    · exact absurd hj (hnone j)
  · intro j hj
    rcases update_cases (P := (· = .confirmed)) hj with ⟨-, hj⟩ | ⟨-, hj⟩
    · cases hj
    · exact h.confirmed j hj
  · intro j guard todo result hj
    rcases update_cases (P := (· = .inside guard todo result)) hj with ⟨rfl, hnow⟩ | ⟨-, hj⟩
    · cases hnow
      refine ⟨(keeping_taken _ _).of_locks rfl, by simp, flight.acquired, rfl, ?_⟩
      rw [← hshared]
      exact (run_eq_finish (h.confirmed j hstage) hfree).symm
    · exact absurd (by rw [hj]; rfl) (hnone j)
  · intro houtside
    exact absurd (by simp [Stage.isInside]) (houtside i)
  · refine List.nodup_append.mpr ⟨h.nodup, by simp, ?_⟩
    rintro j hj k hk rfl
    exact hnew (List.mem_singleton.mp hk ▸ hj)
  · intro before j after hsplit
    rcases split_concat hsplit with ⟨-, -, rfl⟩ | ⟨rest, -, hrest⟩
    · exact .inl (by simp [Stage.isInside])
    · have hji : j ≠ i := by
        rintro rfl
        exact hnew (by simp [hrest])
      simpa only [Function.update_of_ne hji] using h.acquired before j rest hrest
  · intro j cause hj
    rcases update_cases (P := (· = .ended (.error (.operation cause)))) hj with ⟨-, hj⟩ | ⟨hji, hj⟩
    · cases hj
    · rw [List.mem_append, List.mem_singleton, not_or]
      exact ⟨h.refused j cause hj, hji⟩

/-- A call goes through a phase. -/
theorem goesOn (h : Serial plan start flight) {guard : ℕ} {todo rest : List Phase}
    {result later : Except Failure String} {shared : Running}
    (hstage : flight.stage i = .inside guard todo result)
    (hlocks : locksOf shared = locksOf flight.shared)
    (hlater : ∀ cause, later ≠ .error (.operation cause))
    (hfinish : finish guard todo result flight.shared = finish guard rest later shared) :
    Serial plan start {
      stage := Function.update flight.stage i (.inside guard rest later)
      shared
      acquired := flight.acquired } := by
  have hin : (flight.stage i).isInside = true := by
    rw [hstage]
    rfl
  have hinside (j : ι) : (Function.update flight.stage i (.inside guard rest later) j).isInside =
      (flight.stage j).isInside := by
    refine isInside_update ?_ j
    rw [hin]
    rfl
  obtain ⟨hkeeping, -, before, hbefore, hrun⟩ := h.inside i guard todo result hstage
  refine ⟨?_, ?_, ?_, ?_, h.nodup, ?_, ?_⟩
  · intro j k hj hk
    rw [hinside] at hj hk
    exact h.alone j k hj hk
  · intro j hj
    rcases update_cases (P := (· = .confirmed)) hj with ⟨-, hj⟩ | ⟨-, hj⟩
    · cases hj
    · exact h.confirmed j hj
  · intro j guard' todo' result' hj
    rcases update_cases (P := (· = .inside guard' todo' result')) hj with ⟨rfl, hnow⟩ | ⟨hji, hj⟩
    · cases hnow
      exact ⟨hkeeping.of_locks hlocks, hlater, before, hbefore, hfinish ▸ hrun⟩
    · exact absurd (h.alone j i (by rw [hj]; rfl) hin) hji
  · intro houtside
    exact absurd hin (by simpa only [hinside] using houtside i)
  · intro before' j after hsplit
    by_cases hji : j = i
    · subst hji
      exact .inl ((hinside j).trans hin)
    · simpa only [Function.update_of_ne hji] using h.acquired before' j after hsplit
  · intro j cause hj
    rcases update_cases (P := (· = .ended (.error (.operation cause)))) hj with ⟨-, hj⟩ | ⟨-, hj⟩
    · cases hj
    · exact h.refused j cause hj

/-- A call gives the lock back. -/
theorem releases (h : Serial plan start flight) {guard : ℕ} {result : Except Failure String}
    (hstage : flight.stage i = .inside guard [] result) :
    Serial plan start {
      stage := Function.update flight.stage i (.ended result)
      shared := flight.shared.giveBack guard
      acquired := flight.acquired } := by
  have hin : (flight.stage i).isInside = true := by
    rw [hstage]
    rfl
  obtain ⟨hkeeping, hresult, before, hbefore, hrun⟩ := h.inside i guard [] result hstage
  have hended : (plan i).run (inOrder plan start before) =
      (result, flight.shared.giveBack guard) := hrun.symm
  have hnone (j : ι) : ¬ (Function.update flight.stage i (.ended result) j).isInside := by
    intro hj
    rcases update_cases (P := (·.isInside = true)) hj with ⟨-, hj⟩ | ⟨hji, hj⟩
    · cases hj
    · exact hji (h.alone j i hj hin)
  refine ⟨?_, ?_, ?_, ?_, h.nodup, ?_, ?_⟩
  · exact fun j _ hj => absurd hj (hnone j)
  · intro j hj
    rcases update_cases (P := (· = .confirmed)) hj with ⟨-, hj⟩ | ⟨-, hj⟩
    · cases hj
    · exact h.confirmed j hj
  · intro j guard' todo' result' hj
    refine absurd ?_ (hnone j)
    rw [show Function.update flight.stage i (.ended result) j = _ from hj]
    rfl
  · intro _
    refine ⟨hkeeping.free, ?_⟩
    rw [hbefore, inOrder, List.foldl_append]
    exact congrArg Prod.snd hended.symm
  · intro before' j after hsplit
    right
    by_cases hji : j = i
    · subst hji
      obtain rfl := split_last (hbefore ▸ h.nodup) (hbefore.symm.trans hsplit)
      rw [hended]
      exact Function.update_self ..
    · rcases h.acquired before' j after hsplit with hj | hj
      · exact absurd (h.alone j i hj hin) hji
      · exact (Function.update_of_ne hji ..).trans hj
  · intro j cause hj
    rcases update_cases (P := (· = .ended (.error (.operation cause)))) hj with ⟨-, hj⟩ | ⟨-, hj⟩
    · exact absurd (Stage.ended.inj hj) (hresult cause)
    · exact h.refused j cause hj

/-- Every step of every call keeps the invariant. -/
theorem advance (h : Serial plan start flight) (i : ι) :
    Serial plan start (flight.advance plan i) := by
  unfold Flight.advance Call.advance
  cases hstage : flight.stage i with
  | fresh =>
      have hwaiting : (flight.stage i).isWaiting := by
        rw [hstage]
        rfl
      simp only
      split
      · next hconfirmed => exact h.waits hwaiting rfl fun _ => hconfirmed
      · exact h.waits hwaiting rfl fun hc => by cases hc
  | confirmed =>
      have hwaiting : (flight.stage i).isWaiting := by
        rw [hstage]
        rfl
      cases hbusy : flight.shared.device.busy? flight.shared.world with
      | none =>
          simp only [acquire_free (reason_ne_empty (plan i)) hbusy]
          exact h.acquires hstage hbusy
      | some holder =>
          simp only [acquire_busy (reason_ne_empty (plan i)) hbusy]
          exact h.waits hwaiting rfl fun hc => by cases hc
  | inside guard todo result =>
      cases todo with
      | nil => exact h.releases hstage
      | cons phase todo =>
          have hlocks := keeps_locks_perform phase
          simp only
          cases hphase : phase.perform flight.shared with
          | ok _ after =>
              have hresult := (h.inside i guard (phase :: todo) result hstage).2.1
              exact h.goesOn hstage (hlocks.ok hphase) hresult (finish_ok hphase guard todo result)
          | error e after =>
              have hresult : ∀ cause, (.error e : Except Failure String) ≠
                  .error (.operation cause) := by
                intro cause he
                exact raises_perform phase _ _ _ hphase cause (Except.error.inj he)
              exact h.goesOn hstage (hlocks.error hphase) hresult
                (finish_error hphase guard todo result)
  | ended result =>
      simp only [← hstage, Function.update_eq_self]
      simpa [hstage, Stage.isInside] using h

/-- The invariant holds after any steps, by induction on them. -/
theorem after (hfree : start.device.busy? start.world = none) (schedule : List ι) :
    Serial plan start (Flight.after plan start schedule) := by
  induction schedule using List.reverseRecOn with
  | nil =>
      exact ⟨by simp [Flight.after, Stage.isInside], by simp [Flight.after],
        by simp [Flight.after], fun _ => ⟨hfree, rfl⟩, List.nodup_nil, by simp [Flight.after],
        by simp [Flight.after]⟩
  | append_singleton schedule i ih =>
      rw [Flight.after, List.foldl_append]
      exact ih.advance i

end Serial

end SmartDevice.Command
