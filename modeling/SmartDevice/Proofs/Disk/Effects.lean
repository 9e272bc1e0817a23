import SmartDevice.Proofs.Action.Apply
import SmartDevice.Proofs.Disk.Places

/-! # What the operations on files do

Each operation on a path either does its one change at the place that the path leads to, or fails
and leaves every file as it was. -/

namespace SmartDevice.Disk

open Apply

variable {α : Type} {P Q : Location → Prop} {a b c disk : Disk} {location : Location}

/-! ## Changes at some places only -/

/-- The disks differ at most at the given places, and in no directory. -/
structure Touches (P : Location → Prop) (a b : Disk) : Prop where
  elsewhere : ∀ location, ¬ P location → b.node? location = a.node? location
  directories : SameDirectories a b

theorem SameDirectories.refl (disk : Disk) : SameDirectories disk disk :=
  ⟨fun _ => Iff.rfl, rfl⟩

theorem SameDirectories.trans (h : SameDirectories a b) (h' : SameDirectories b c) :
    SameDirectories a c :=
  ⟨fun location => (h'.node location).trans (h.node location), h'.working.trans h.working⟩

theorem Touches.refl (disk : Disk) : Touches P disk disk :=
  ⟨fun _ _ => rfl, .refl disk⟩

theorem Touches.trans (h : Touches P a b) (h' : Touches P b c) : Touches P a c :=
  ⟨fun location hP => (h'.elsewhere location hP).trans (h.elsewhere location hP),
    h.directories.trans h'.directories⟩

theorem Touches.mono (h : Touches P a b) (hPQ : ∀ location, P location → Q location) :
    Touches Q a b :=
  ⟨fun location hQ => h.elsewhere location fun hP => hQ (hPQ location hP), h.directories⟩

/-- The same files and directories everywhere; the faults that wait may differ. -/
abbrev Same : Disk → Disk → Prop := Touches fun _ => False

theorem Same.touches (h : Same a b) : Touches P a b := h.mono fun _ => False.elim

theorem Same.node? (h : Same a b) (location : Location) : b.node? location = a.node? location :=
  h.elsewhere location id

theorem ne_root (h : disk.node? location ≠ some .directory) : location ≠ [] := by
  rintro rfl
  exact h rfl

theorem touches_put (h : disk.node? location ≠ some .directory) (bytes : List UInt8) :
    Touches (· = location) disk (disk.put location (.file bytes)) where
  elsewhere other hother := by
    rw [node?_put (ne_root h), if_neg hother]
  directories := by
    refine ⟨fun other => ?_, rfl⟩
    rw [node?_put (ne_root h)]
    split
    · next hother => simp [hother, h]
    · rfl

theorem touches_erase (h : disk.node? location ≠ some .directory) :
    Touches (· = location) disk (disk.erase location) where
  elsewhere other hother := by
    rw [node?_erase (ne_root h), if_neg hother]
  directories := by
    refine ⟨fun other => ?_, rfl⟩
    rw [node?_erase (ne_root h)]
    split
    · next hother => simp [hother, h]
    · rfl

/-! ## Failures -/

/-- An operation failed and left every file as it was. -/
def Fails (disk : Disk) (e : FileError) (result : EStateM.Result FileError Disk α) : Prop :=
  ∃ after, result = .error e after ∧ Same disk after

theorem fails_error (disk : Disk) (e : FileError) :
    Fails disk e (.error e disk : EStateM.Result FileError Disk α) :=
  ⟨disk, rfl, .refl disk⟩

/-- A fault strikes or nothing happens. -/
theorem strike_cases (point : FaultPoint) (disk : Disk) :
    strike point disk = .ok ⟨⟩ disk ∨
      ∃ e, (point, e) ∈ disk.faults ∧ Fails disk (.system e) (strike point disk) := by
  unfold strike
  simp only [bind_apply, get_apply]
  cases hfind : disk.faults.find? (·.1 = point) with
  | none => exact .inl rfl
  | some fault =>
      obtain ⟨other, e⟩ := fault
      obtain rfl : other = point := by simpa using List.find?_some hfind
      refine .inr ⟨e, List.mem_of_find?_eq_some hfind, _, rfl, ?_⟩
      exact ⟨fun _ _ => rfl, fun _ => Iff.rfl, rfl⟩

/-- A fault strikes, or what comes after it goes on as if there were none. -/
theorem strike_bind_cases (point : FaultPoint) (rest : Unit → Action α) (disk : Disk) :
    (strike point >>= rest) disk = rest ⟨⟩ disk ∨
      ∃ e, (point, e) ∈ disk.faults ∧ Fails disk (.system e) ((strike point >>= rest) disk) := by
  rw [bind_apply]
  rcases strike_cases point disk with h | ⟨e, hmem, after, h, hsame⟩
  · exact .inl (by rw [h])
  · exact .inr ⟨e, hmem, after, by rw [h], hsame⟩

/-! ## Operations -/

/-- The place of a path that names no null character. -/
def found (disk : Disk) (path : Path) : Except FileError Location :=
  if hasNull path then .error .embeddedNull
  else (disk.locate path).mapError fun condition => .system (.file condition path.toString none)

theorem find_apply (path : Path) (disk : Disk) :
    find path disk =
      match disk.found path with
      | .ok location => .ok (location, disk.node? location) disk
      | .error e => .error e disk := by
  unfold find found
  by_cases hnull : hasNull path
  · simp [hnull]
  · simp only [hnull, Bool.false_eq_true, if_false, bind_apply, get_apply]
    cases disk.locate path <;> rfl

theorem found_eq_ok_iff (path : Path) :
    disk.found path = .ok location ↔ hasNull path = false ∧ disk.locate path = .ok location := by
  unfold found
  by_cases hnull : hasNull path
  · simp [hnull]
  · simp only [hnull, Bool.false_eq_true, if_false, true_and]
    cases disk.locate path <;> simp [Except.mapError]

theorem SameDirectories.found_eq_ok_iff (h : SameDirectories a b) (path : Path) :
    b.found path = .ok location ↔ a.found path = .ok location := by
  rw [Disk.found_eq_ok_iff, Disk.found_eq_ok_iff, h.locate_eq_ok_iff]

/-- A path is followed by directories and files alone. -/
theorem Same.walk_eq (h : Same a b) (parts : List String) (at_ : Location) :
    b.walk at_ parts = a.walk at_ parts := by
  induction parts generalizing at_ with
  | nil => rfl
  | cons part rest ih => simp only [walk, h.node?, ih]

theorem Same.found_eq (h : Same a b) (path : Path) : b.found path = a.found path := by
  simp only [found, locate, h.walk_eq, startOf, h.directories.working]

/-- A path leads to nothing. -/
def Absent (disk : Disk) (path : Path) : Prop :=
  ∀ location, disk.found path = .ok location → disk.node? location = none

theorem openForWriting_cases (path : Path) (disk : Disk) :
    (∃ location, disk.found path = .ok location ∧ disk.node? location ≠ some .directory ∧
        openForWriting path disk = .ok location (disk.put location (.file []))) ∨
      ∃ e, Fails disk e (openForWriting path disk) := by
  unfold openForWriting
  rcases strike_bind_cases .openFile _ disk with h | ⟨e, -, hfails⟩
  · rw [h]
    simp only [bind_apply, find_apply]
    cases hfound : disk.found path with
    | error e => exact .inr ⟨e, fails_error disk e⟩
    | ok location =>
        simp only
        cases hnode : disk.node? location with
        | none => exact .inl ⟨location, rfl, by simp [hnode], rfl⟩
        | some node =>
            cases node with
            | file bytes => exact .inl ⟨location, rfl, by simp [hnode], rfl⟩
            | directory => exact .inr ⟨_, fails_error disk _⟩
  · exact .inr ⟨_, hfails⟩

theorem write_cases (location : Location) (bytes : List UInt8) (disk : Disk) :
    write location bytes disk = .ok ⟨⟩ (disk.put location (.file bytes)) ∨
      ∃ e, Fails disk e (write location bytes disk) := by
  unfold write
  rcases strike_bind_cases .write _ disk with h | ⟨e, -, hfails⟩
  · exact .inl h
  · exact .inr ⟨_, hfails⟩

theorem rename_cases (path target : Path) (disk : Disk) :
    (∃ source goal bytes, disk.found path = .ok source ∧ disk.found target = .ok goal ∧
        disk.node? source = some (.file bytes) ∧ disk.node? goal ≠ some .directory ∧
        rename path target disk = .ok ⟨⟩ ((disk.erase source).put goal (.file bytes))) ∨
      ∃ e, Fails disk e (rename path target disk) := by
  unfold rename
  rcases strike_bind_cases .rename _ disk with h | ⟨e, -, hfails⟩
  · rw [h]
    by_cases hnull : hasNull path || hasNull target
    · simp only [hnull, if_true]
      exact .inr ⟨_, fails_error disk _⟩
    · simp only [hnull, Bool.false_eq_true, if_false]
      simp only [Bool.or_eq_true, not_or, Bool.not_eq_true] at hnull
      simp only [found_eq_ok_iff, hnull.1, hnull.2, true_and, bind_apply, get_apply]
      cases hsource : disk.locate path with
      | error condition => exact .inr ⟨_, fails_error disk _⟩
      | ok source =>
          cases hgoal : disk.locate target with
          | error condition => exact .inr ⟨_, fails_error disk _⟩
          | ok goal =>
              simp only
              split
              · exact .inr ⟨_, fails_error disk _⟩
              · cases hfrom : disk.node? source with
                | none => exact .inr ⟨_, fails_error disk _⟩
                | some node =>
                    cases node with
                    | directory => exact .inr ⟨_, fails_error disk _⟩
                    | file bytes =>
                        cases hto : disk.node? goal with
                        | none =>
                            exact .inl ⟨source, goal, bytes, rfl, rfl, hfrom, by simp [hto], rfl⟩
                        | some node =>
                            cases node with
                            | directory => exact .inr ⟨_, fails_error disk _⟩
                            | file old =>
                                exact .inl
                                  ⟨source, goal, bytes, rfl, rfl, hfrom, by simp [hto], rfl⟩
  · exact .inr ⟨_, hfails⟩

/-- Removing a file. That it is missing is reported where there is none, or by a fault. -/
theorem unlink_cases (path : Path) (disk : Disk) :
    (∃ location bytes, disk.found path = .ok location ∧
        disk.node? location = some (.file bytes) ∧
        unlink path disk = .ok ⟨⟩ (disk.erase location)) ∨
      ∃ e, Fails disk e (unlink path disk) ∧
        ∀ cause, e = .system cause → cause.isNotFound = true →
          (.unlink, cause) ∈ disk.faults ∨ disk.Absent path := by
  unfold unlink
  rcases strike_bind_cases .unlink _ disk with h | ⟨e, hmem, hfails⟩
  · rw [h]
    simp only [bind_apply, find_apply]
    cases hfound : disk.found path with
    | error e =>
        refine .inr ⟨e, fails_error disk e, fun _ _ _ => .inr fun _ h => ?_⟩
        rw [hfound] at h
        cases h
    | ok location =>
        simp only
        cases hnode : disk.node? location with
        | none =>
            refine .inr ⟨_, fails_error disk _, fun _ _ _ => .inr fun other hother => ?_⟩
            rw [← Except.ok.inj (hfound.symm.trans hother), hnode]
        | some node =>
            cases node with
            | file bytes => exact .inl ⟨location, bytes, rfl, hnode, rfl⟩
            | directory =>
                refine .inr ⟨_, fails_error disk _, ?_⟩
                rintro cause ⟨⟩ hcause
                exact absurd hcause Bool.false_ne_true
  · refine .inr ⟨_, hfails, ?_⟩
    rintro cause ⟨⟩ -
    exact .inl hmem

theorem isDirectory_apply {path : Path} (h : disk.found path = .ok location)
    (hdir : disk.node? location = some .directory) : isDirectory path disk = .ok true disk := by
  have hfind : find path disk = .ok (location, some .directory) disk := by
    rw [find_apply, h]
    simp only [hdir]
  simp only [isDirectory, look, bind_apply, tryCatch_apply, hfind]
  rfl

/-- What is seen where a path cannot be followed. Some reasons mean that nothing is there. -/
def missed : FileError → Except FileError (Option Node)
  | .system (.file .notFound _ _) | .system (.file .notDirectory _ _) | .embeddedNull => .ok none
  | e => .error e

theorem missed_eq_error {e cause : FileError} (h : missed e = .error cause) : cause = e := by
  unfold missed at h
  split at h
  · cases h
  · cases h
  · cases h
  · exact (Except.error.inj h).symm

/-- What is seen at a path. -/
def seen (disk : Disk) (path : Path) : Except FileError (Option Node) :=
  match disk.found path with
  | .ok location => .ok (disk.node? location)
  | .error e => missed e

theorem look_apply (path : Path) (disk : Disk) :
    look path disk =
      match disk.seen path with
      | .ok node => .ok node disk
      | .error e => .error e disk := by
  unfold look seen
  simp only [bind_apply, tryCatch_apply, find_apply]
  cases hfound : disk.found path with
  | ok location => rfl
  | error e =>
      cases e with
      | embeddedNull => rfl
      | nameless path => rfl
      | system e =>
          cases e with
          | file condition path target => cases condition <;> rfl
          | _ => rfl

/-- Whether something stands at a path. -/
def occupied (disk : Disk) (path : Path) : Except FileError Bool :=
  (disk.seen path).map Option.isSome

theorem occupied_of_missing {path : Path} (hnull : hasNull path = false)
    (h : disk.locate path = .error .notFound) : disk.occupied path = .ok false := by
  have hwhole : ¬ hasNull path = true := by simp [hnull]
  rw [occupied, seen, found, if_neg hwhole, h]
  rfl

theorem Same.occupied_eq (h : Same a b) (path : Path) : b.occupied path = a.occupied path := by
  simp only [occupied, seen, h.found_eq, h.node?]

/-- What is left of a disk after a test for a file. -/
def tested (disk : Disk) : Disk :=
  { disk with faults := disk.faults.eraseP (·.1 = .look) }

theorem same_tested (disk : Disk) : Same disk disk.tested :=
  ⟨fun _ _ => rfl, fun _ => Iff.rfl, rfl⟩

/-- What a test for a file tells. -/
def tells (disk : Disk) (path : Path) : Except FileError Bool :=
  match disk.faults.find? (·.1 = .look) with
  | some (_, e) => if e.isAbsence then disk.occupied path else .error (.system e)
  | none => disk.occupied path

theorem isThere_apply (path : Path) (disk : Disk) :
    isThere path disk =
      match disk.tells path with
      | .ok there => .ok there disk.tested
      | .error e => .error e disk.tested := by
  have hlook (disk : Disk) : (do return (← look path).isSome : Action Bool) disk =
      match disk.occupied path with
      | .ok there => .ok there disk
      | .error e => .error e disk := by
    unfold occupied
    simp only [bind_apply, look_apply]
    cases disk.seen path <;> rfl
  unfold isThere tells
  rw [bind_apply, tryCatch_apply, strike]
  simp only [bind_apply, get_apply]
  cases hfind : disk.faults.find? (·.1 = .look) with
  | none =>
      have htested : disk.tested = disk := by
        rw [tested, List.eraseP_of_forall_not (List.find?_eq_none.mp hfind)]
      rw [htested]
      exact hlook disk
  | some fault =>
      obtain ⟨point, e⟩ := fault
      simp only [bind_apply, set_apply, throw_apply]
      rw [← (same_tested disk).occupied_eq path]
      cases e.isAbsence with
      | false => rfl
      | true => exact hlook disk.tested

/-- A test tells what is there, unless a report that it is not told by is in the way. -/
theorem tells_cases (disk : Disk) (path : Path) :
    disk.tells path = disk.occupied path ∨
      ∃ e, (.look, e) ∈ disk.faults ∧ e.isAbsence = false ∧
        disk.tells path = .error (.system e) := by
  unfold tells
  cases hfind : disk.faults.find? (·.1 = .look) with
  | none => exact .inl rfl
  | some fault =>
      obtain ⟨point, e⟩ := fault
      obtain rfl : point = .look := by simpa using List.find?_some hfind
      cases habsence : e.isAbsence with
      | true => exact .inl (by simp [habsence])
      | false => exact .inr ⟨e, List.mem_of_find?_eq_some hfind, habsence, by simp [habsence]⟩

theorem occupied_of_tells {path : Path} {there : Bool} (h : disk.tells path = .ok there) :
    disk.occupied path = .ok there := by
  rcases disk.tells_cases path with htells | ⟨e, -, -, htells⟩
  · exact htells.symm.trans h
  · cases h.symm.trans htells

/-- A directory that is there need not be made. -/
theorem makeDirectories_cases {path : Path} (h : disk.found path = .ok location)
    (hdir : disk.node? location = some .directory) :
    makeDirectories path disk = .ok ⟨⟩ disk ∨ ∃ e, Fails disk e (makeDirectories path disk) := by
  unfold makeDirectories
  rcases strike_bind_cases .makeDirectories _ disk with hstrike | ⟨e, -, hfails⟩
  · have hmake : makeDirectory path disk =
        .error (.system (.file .alreadyExists path.toString none)) disk := by
      unfold makeDirectory
      simp only [bind_apply, find_apply, h, hdir, Option.isSome_some, if_true]
      rfl
    left
    rw [hstrike, ensureDirectories, tryCatch_apply, hmake]
    have hother : ¬ (SystemError.file .alreadyExists path.toString none).isNotFound = true :=
      Bool.false_ne_true
    simp only [if_neg hother, bind_apply, isDirectory_apply h hdir]
    rfl
  · exact .inr ⟨_, hfails⟩

/-! ## Reading -/

/-- The bytes of the file that a path leads to. -/
def content (disk : Disk) (path : Path) : Except FileError (List UInt8) := do
  match disk.node? (← disk.found path) with
  | none => .error (.system (.file .notFound path.toString none))
  | some .directory => .error (.system (.file .isDirectory path.toString none))
  | some (.file bytes) => .ok bytes

theorem content_of_found {path : Path} (h : disk.found path = .ok location) :
    disk.content path =
      match disk.node? location with
      | none => .error (.system (.file .notFound path.toString none))
      | some .directory => .error (.system (.file .isDirectory path.toString none))
      | some (.file bytes) => .ok bytes := by
  rw [content, h]
  rfl

theorem content_eq_ok_iff {path : Path} {bytes : List UInt8} :
    disk.content path = .ok bytes ↔
      ∃ location, disk.found path = .ok location ∧ disk.node? location = some (.file bytes) := by
  cases hfound : disk.found path with
  | error e => simp [content, hfound, bind, Except.bind]
  | ok location =>
      rw [content_of_found hfound]
      split <;> simp_all

theorem SameDirectories.content_eq (h : SameDirectories a b) {path : Path}
    (hfound : a.found path = .ok location) (hnode : b.node? location = a.node? location) :
    b.content path = a.content path := by
  rw [content_of_found hfound, content_of_found ((h.found_eq_ok_iff path).mpr hfound), hnode]

/-- What is left alone by files that change somewhere else. -/
theorem Touches.content_eq_ok_iff {path : Path} {bytes : List UInt8} (h : Touches P a b)
    (hP : ∀ location, a.found path = .ok location → ¬ P location) :
    b.content path = .ok bytes ↔ a.content path = .ok bytes := by
  simp only [Disk.content_eq_ok_iff, h.directories.found_eq_ok_iff]
  refine exists_congr fun location => and_congr_right fun hfound => ?_
  rw [h.elsewhere _ (hP location hfound)]

/-- No operation of this kind is about to fail. -/
def Calm (point : FaultPoint) (disk : Disk) : Prop :=
  ∀ e, (point, e) ∉ disk.faults

theorem strike_of_calm {point : FaultPoint} (h : Calm point disk) :
    strike point disk = .ok ⟨⟩ disk := by
  rcases strike_cases point disk with hstrike | ⟨e, hmem, -⟩
  · exact hstrike
  · exact absurd hmem (h e)

theorem tells_of_calm (h : Calm .look disk) (path : Path) :
    disk.tells path = disk.occupied path := by
  rcases disk.tells_cases path with htells | ⟨e, hmem, -⟩
  · exact htells
  · exact absurd hmem (h e)

theorem tested_of_calm (h : Calm .look disk) : disk.tested = disk := by
  rw [tested, List.eraseP_of_forall_not]
  rintro ⟨point, e⟩ hmem hpoint
  obtain rfl : point = .look := by simpa using hpoint
  exact h e hmem

theorem Calm.tested {point : FaultPoint} (h : Calm point disk) : Calm point disk.tested :=
  fun e hmem => h e (List.mem_of_mem_eraseP hmem)

/-- A file that is there is removed. -/
theorem unlink_of_file {path : Path} {bytes : List UInt8} (h : Calm .unlink disk)
    (hfound : disk.found path = .ok location) (hnode : disk.node? location = some (.file bytes)) :
    unlink path disk = .ok ⟨⟩ (disk.erase location) := by
  unfold unlink
  simp only [bind_apply, strike_of_calm h, find_apply, hfound, hnode, modify_apply]

theorem openForWriting_of_calm {path : Path} (h : Calm .openFile disk)
    (hfound : disk.found path = .ok location)
    (hfree : disk.node? location ≠ some .directory) :
    openForWriting path disk = .ok location (disk.put location (.file [])) := by
  unfold openForWriting
  simp only [bind_apply, strike_of_calm h, find_apply, hfound]
  cases hnode : disk.node? location with
  | none => rfl
  | some node =>
      cases node with
      | file bytes => rfl
      | directory => exact absurd hnode hfree

theorem write_of_calm (location : Location) (bytes : List UInt8)
    (h : Calm .write disk) :
    write location bytes disk = .ok ⟨⟩ (disk.put location (.file bytes)) := by
  unfold write
  rw [bind_apply, strike_of_calm h]
  rfl

theorem rename_of_calm {path target : Path} {source goal : Location}
    {bytes : List UInt8} {name : String} (h : Calm .rename disk)
    (hsource : disk.found path = .ok source) (hgoal : disk.found target = .ok goal)
    (hname : target.name? = some name) (hup : name ≠ "..")
    (hfile : disk.node? source = some (.file bytes)) (hfree : disk.node? goal ≠ some .directory) :
    rename path target disk = .ok ⟨⟩ ((disk.erase source).put goal (.file bytes)) := by
  obtain ⟨hnull, hlocate⟩ := (found_eq_ok_iff _).mp hsource
  obtain ⟨hnull', hlocate'⟩ := (found_eq_ok_iff _).mp hgoal
  unfold rename
  simp only [bind_apply, strike_of_calm h, hnull, hnull', Bool.or_self, Bool.false_eq_true,
    if_false, get_apply, hlocate, hlocate', hname, reduceCtorEq, Option.some.injEq, hup, or_self,
    hfile]
  cases hnode : disk.node? goal with
  | none => rfl
  | some node =>
      cases node with
      | file old => rfl
      | directory => exact absurd hnode hfree

theorem read_apply (h : Calm .read disk) (path : Path) :
    read path disk =
      match disk.content path with
      | .ok bytes => .ok bytes disk
      | .error e => .error e disk := by
  unfold read
  simp only [bind_apply, strike_of_calm h, find_apply]
  cases hfound : disk.found path with
  | error e => simp only [content, hfound, bind, Except.bind]
  | ok location =>
      rw [content_of_found hfound]
      simp only
      cases disk.node? location with
      | none => rfl
      | some node => cases node <;> rfl

end SmartDevice.Disk
