import SmartDevice.Operation.Register
import Mathlib.Data.Nat.Notation

/-! # Who keeps a lock busy

Giving a guard back frees its lock without asking whose turn it is. The lock is still never freed by
a stranger, because a guard does this only once and at most one guard of a lock is live. -/

namespace SmartDevice.Operation.Register

variable {register before after : Register} {guard lock i j : ℕ} {reason : String}

/-- A guard that was handed out and not given back. -/
def Live (register : Register) (guard lock : ℕ) (reason : String) : Prop :=
  register.guards[guard]? = some { lock, reason, released := false }

/-- A guard that was handed out, given back or not. -/
def Issued (register : Register) (guard lock : ℕ) (reason : String) : Prop :=
  ∃ released, register.guards[guard]? = some { lock, reason, released }

theorem Live.issued (h : register.Live guard lock reason) : register.Issued guard lock reason :=
  ⟨false, h⟩

/-- A lock has at most one live guard, and is busy with the reason of that one. -/
structure Consistent (register : Register) : Prop where
  alone : ∀ {i j lock : ℕ} {reason other : String},
    register.Live i lock reason → register.Live j lock other → i = j
  busy?_eq_some_iff : ∀ {lock : ℕ} {reason : String},
    register.busy? lock = some reason ↔ ∃ guard, register.Live guard lock reason

theorem consistent_empty : Consistent {} where
  alone h := by simp [Live] at h
  busy?_eq_some_iff := by simp [Live, busy?]

/-! ## Acquiring -/

/-- The three ways in which an attempt to acquire a lock can end. -/
theorem acquire_cases (lock : ℕ) (reason : String) (register : Register) :
    (reason = "" ∧ register.acquire lock reason = .error .emptyReason) ∨
      (reason ≠ "" ∧ ∃ holder, register.busy? lock = some holder ∧
        register.acquire lock reason = .error (.busy holder)) ∨
      (reason ≠ "" ∧ register.busy? lock = none ∧
        register.acquire lock reason = .ok (register.guards.length,
          { register with
            busyLocks := (lock, reason) :: register.busyLocks
            guards := register.guards ++ [{ lock, reason }] })) := by
  unfold acquire
  by_cases hreason : reason = ""
  · exact .inl ⟨hreason, by rw [if_pos hreason]⟩
  · rw [if_neg hreason]
    cases hbusy : register.busy? lock with
    | some holder => exact .inr (.inl ⟨hreason, holder, rfl, rfl⟩)
    | none => exact .inr (.inr ⟨hreason, rfl, rfl⟩)

/-- A successful attempt hands out one more guard of a lock that was free. -/
theorem acquire_eq_ok (h : before.acquire lock reason = .ok (guard, after)) :
    before.busy? lock = none ∧ guard = before.guards.length ∧
      after.guards = before.guards ++ [Guard.mk lock reason false] := by
  rcases acquire_cases lock reason before with
    ⟨-, herror⟩ | ⟨-, holder, -, herror⟩ | ⟨-, hfree, hok⟩
  · rw [herror] at h
    cases h
  · rw [herror] at h
    cases h
  · rw [hok] at h
    cases h
    exact ⟨hfree, rfl, rfl⟩

theorem live_acquire (h : before.acquire lock reason = .ok (guard, after)) {other : ℕ}
    {text : String} :
    after.Live i other text ↔
      (i = guard ∧ other = lock ∧ text = reason) ∨ before.Live i other text := by
  obtain ⟨-, rfl, hguards⟩ := acquire_eq_ok h
  unfold Live
  rw [hguards]
  rcases Nat.lt_trichotomy i before.guards.length with hlt | rfl | hgt
  · rw [List.getElem?_append_left hlt]
    simp [Nat.ne_of_lt hlt]
  · simp [eq_comm]
  · have hlength : (before.guards ++ [Guard.mk lock reason false]).length ≤ i := by
      rw [List.length_append]
      exact hgt
    rw [List.getElem?_eq_none hlength, List.getElem?_eq_none (Nat.le_of_lt hgt)]
    simp [Nat.ne_of_gt hgt]

theorem Consistent.acquire (h : before.Consistent)
    (hacquire : before.acquire lock reason = .ok (guard, after)) : after.Consistent where
  alone {i j other text text'} hi hj := by
    have hnone {k : ℕ} {text : String} : ¬ before.Live k lock text := by
      intro hlive
      have hbusy := h.busy?_eq_some_iff.mpr ⟨k, hlive⟩
      rw [(acquire_eq_ok hacquire).1] at hbusy
      cases hbusy
    rcases (live_acquire hacquire).mp hi with ⟨rfl, rfl, -⟩ | hi
    · rcases (live_acquire hacquire).mp hj with ⟨rfl, -, -⟩ | hj
      · rfl
      · exact absurd hj hnone
    · rcases (live_acquire hacquire).mp hj with ⟨rfl, rfl, -⟩ | hj
      · exact absurd hi hnone
      · exact h.alone hi hj
  busy?_eq_some_iff {other text} := by
    simp only [busy?_of_acquire hacquire, live_acquire hacquire, exists_or]
    by_cases hother : other = lock
    · subst hother
      have hnone : ¬ ∃ k, before.Live k other text := by
        rw [← h.busy?_eq_some_iff, (acquire_eq_ok hacquire).1]
        simp
      simp [hnone, eq_comm]
    · simp [hother, h.busy?_eq_some_iff]

theorem Issued.acquire (h : before.Issued i lock reason) {other : ℕ} {text : String}
    (hacquire : before.acquire other text = .ok (guard, after)) : after.Issued i lock reason := by
  obtain ⟨released, h⟩ := h
  refine ⟨released, ?_⟩
  rw [(acquire_eq_ok hacquire).2.2, List.getElem?_append_left (List.getElem?_eq_some_iff.mp h).1, h]

theorem issued_acquire (h : before.acquire lock reason = .ok (guard, after)) :
    after.Issued guard lock reason :=
  ((live_acquire h).mpr (.inl ⟨rfl, rfl, rfl⟩)).issued

/-- The guard of an attempt that succeeds is a new one. -/
theorem Issued.ne_of_acquire (h : before.Issued i lock reason) {other : ℕ} {text : String}
    (hacquire : before.acquire other text = .ok (guard, after)) : guard ≠ i := by
  obtain ⟨released, h⟩ := h
  rintro rfl
  rw [(acquire_eq_ok hacquire).2.1, List.getElem?_eq_none (Nat.le_refl _)] at h
  cases h

theorem nextLock_acquire (h : before.acquire lock reason = .ok (guard, after)) :
    after.nextLock = before.nextLock := by
  rcases acquire_cases lock reason before with
    ⟨-, herror⟩ | ⟨-, holder, -, herror⟩ | ⟨-, -, hok⟩
  · rw [herror] at h
    cases h
  · rw [herror] at h
    cases h
  · rw [hok] at h
    cases h
    rfl

/-- Who fails to acquire a lock is told what its live guard is for, unless no reason was given. -/
theorem Consistent.of_acquire_eq_error (h : register.Consistent) {e : OperationError}
    (herror : register.acquire lock reason = .error e) :
    (reason = "" ∧ e = .emptyReason) ∨
      (reason ≠ "" ∧ ∃ holder text, register.Live holder lock text ∧ e = .busy text) := by
  rcases acquire_cases lock reason register with
    ⟨hreason, hempty⟩ | ⟨hreason, text, hbusy, hholder⟩ | ⟨-, -, hok⟩
  · rw [hempty] at herror
    cases herror
    exact .inl ⟨hreason, rfl⟩
  · rw [hholder] at herror
    cases herror
    obtain ⟨holder, hlive⟩ := h.busy?_eq_some_iff.mp hbusy
    exact .inr ⟨hreason, holder, text, hlive, rfl⟩
  · rw [hok] at herror
    cases herror

/-! ## Giving back -/

/-- A guard that is not live does nothing, a live one frees its lock. -/
theorem release_cases (guard : ℕ) (register : Register) :
    ((register.release guard).2 = register ∧ ∀ lock reason, ¬ register.Live guard lock reason) ∨
      ∃ lock reason, register.Live guard lock reason ∧
        (register.release guard).2 = free lock { register with
          guards := register.guards.set guard { lock, reason, released := true } } := by
  unfold release
  cases hguard : register.guards[guard]? with
  | none => exact .inl ⟨rfl, fun _ _ => by simp [Live, hguard]⟩
  | some held =>
      obtain ⟨lock, reason, released⟩ := held
      cases released with
      | true => exact .inl ⟨rfl, fun _ _ => by simp [Live, hguard]⟩
      | false => exact .inr ⟨lock, reason, hguard, rfl⟩

theorem nextLock_release (guard : ℕ) (register : Register) :
    (register.release guard).2.nextLock = register.nextLock := by
  rcases release_cases guard register with ⟨hsame, -⟩ | ⟨lock, reason, -, hreleased⟩
  · rw [hsame]
  · rw [hreleased]
    rfl

theorem length_guards_release (guard : ℕ) (register : Register) :
    (register.release guard).2.guards.length = register.guards.length := by
  rcases release_cases guard register with ⟨hsame, -⟩ | ⟨lock, reason, -, hreleased⟩
  · rw [hsame]
  · rw [hreleased]
    exact List.length_set

theorem guards_release (guard : ℕ) (register : Register) (i : ℕ) :
    (register.release guard).2.guards[i]? =
      if i = guard then register.guards[i]?.map fun held => { held with released := true }
      else register.guards[i]? := by
  rcases release_cases guard register with ⟨hsame, hdead⟩ | ⟨lock, reason, hlive, hreleased⟩
  · rw [hsame]
    split
    · next hi =>
        subst hi
        cases hguard : register.guards[i]? with
        | none => rfl
        | some held =>
            obtain ⟨lock, reason, released⟩ := held
            cases released with
            | true => rfl
            | false => exact absurd hguard (hdead lock reason)
    · rfl
  · have hlength : guard < register.guards.length := (List.getElem?_eq_some_iff.mp hlive).1
    rw [hreleased]
    unfold free
    by_cases hi : i = guard
    · subst hi
      rw [if_pos rfl, show register.guards[i]? = _ from hlive]
      exact List.getElem?_set_self hlength
    · rw [if_neg hi]
      exact List.getElem?_set_ne (Ne.symm hi)

theorem live_release :
    (register.release guard).2.Live i lock reason ↔ i ≠ guard ∧ register.Live i lock reason := by
  unfold Live
  rw [guards_release]
  by_cases hi : i = guard
  · subst hi
    cases register.guards[i]? <;> simp
  · simp [hi]

theorem Issued.release (h : register.Issued i lock reason) (guard : ℕ) :
    (register.release guard).2.Issued i lock reason := by
  obtain ⟨released, h⟩ := h
  unfold Issued
  rw [guards_release, h]
  split
  · exact ⟨true, rfl⟩
  · exact ⟨released, rfl⟩

theorem busy?_release (h : register.Live guard lock reason) (other : ℕ) :
    (register.release guard).2.busy? other =
      if other = lock then none else register.busy? other := by
  rcases release_cases guard register with ⟨-, hdead⟩ | ⟨lock', reason', hlive, hreleased⟩
  · exact absurd h (hdead lock reason)
  · obtain ⟨rfl, -⟩ : lock = lock' ∧ reason = reason' := by
      simpa using h.symm.trans hlive
    rw [hreleased, busy?_free]
    rfl

theorem Consistent.release (h : register.Consistent) (guard : ℕ) :
    (register.release guard).2.Consistent where
  alone hi hj := h.alone (live_release.mp hi).2 (live_release.mp hj).2
  busy?_eq_some_iff {other text} := by
    simp only [live_release]
    rcases release_cases guard register with ⟨hsame, hdead⟩ | ⟨lock, reason, hlive, -⟩
    · rw [hsame, h.busy?_eq_some_iff]
      refine exists_congr fun i => ⟨fun hi => ⟨?_, hi⟩, And.right⟩
      rintro rfl
      exact hdead other text hi
    · rw [busy?_release hlive]
      by_cases hother : other = lock
      · subst hother
        rw [if_pos rfl]
        simp only [reduceCtorEq, false_iff, not_exists, not_and]
        exact fun i hi hother => hi (h.alone hother hlive)
      · rw [if_neg hother, h.busy?_eq_some_iff]
        refine exists_congr fun i => ⟨fun hi => ⟨?_, hi⟩, And.right⟩
        rintro rfl
        have hsame : some _ = some _ := hi.symm.trans hlive
        simp only [Option.some.injEq, Guard.mk.injEq] at hsame
        exact hother hsame.1

/-- A guard reaches no lock but its own. -/
theorem busy?_release_of_ne (h : register.Issued guard lock reason) {other : ℕ}
    (hother : other ≠ lock) : (register.release guard).2.busy? other = register.busy? other := by
  obtain ⟨released, h⟩ := h
  rcases release_cases guard register with ⟨hsame, -⟩ | ⟨lock', reason', hlive, -⟩
  · rw [hsame]
  · obtain ⟨rfl, -⟩ : lock = lock' ∧ _ := by simpa using h.symm.trans hlive
    rw [busy?_release hlive, if_neg hother]

end SmartDevice.Operation.Register
