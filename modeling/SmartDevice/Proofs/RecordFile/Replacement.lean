import SmartDevice.RecordFile
import SmartDevice.Proofs.Disk.Faults
import Mathlib.Logic.Function.Iterate

/-! # A file is replaced as a whole or not at all

A replacement goes through stages, one step from each to the next. What is on the disk at a stage is
kept by the step that leaves it, and so holds however many steps are taken. -/

namespace SmartDevice.RecordFile

open Apply Disk World

variable {α : Type} {temporary file : Path} {name text : String} {before now disk : Disk}

/-! ## Stages -/

/-- How far a replacement has come. -/
inductive Stage where
  | opening
  | writing (place : Location)
  | syncing
  | moving
  /-- A step was refused, so the temporary file is to go. -/
  | clearing (cause : SystemError)
  | done
  | reported (cause : SystemError)
  /-- No file can have one of the paths. -/
  | broken (e : FileError)
  deriving DecidableEq

namespace Stage

/-- What a failed step leads to. -/
def afterFailure : FileError → Stage
  | .system cause => clearing cause
  | e => broken e

/-- What a step leads to, with the disk that it leaves. -/
def following (result : EStateM.Result FileError Disk α) (next : α → Stage) : Stage × Disk :=
  match result with
  | .ok a disk => (next a, disk)
  | .error e disk => (afterFailure e, disk)

/-- One step. The last three stages are final. -/
def advance (temporary file : Path) (text : String) : Stage × Disk → Stage × Disk
  | (opening, disk) => following (openForWriting temporary disk) writing
  | (writing place, disk) =>
    following (Disk.write place (Text.Utf8.encode text.toList) disk) fun _ => syncing
  | (syncing, disk) => following (sync disk) fun _ => moving
  | (moving, disk) => following (rename temporary file disk) fun _ => done
  | (clearing cause, disk) =>
    match discard temporary disk with
    | .ok _ disk => (reported cause, disk)
    | .error e disk => (broken e, disk)
  | final => final

/-- Where a replacement is after a number of steps. -/
def reached (temporary file : Path) (text : String) (disk : Disk) (n : ℕ) : Stage × Disk :=
  (advance temporary file text)^[n] (opening, disk)

/-- How a replacement ends at a final stage. -/
def ending? (file : Path) (world : World) :
    Stage × Disk → Option (EStateM.Result Failure World Unit)
  | (done, disk) => some (.ok ⟨⟩ { world with disk })
  | (reported cause, disk) =>
    some (.error (.storage (.write file.toString cause)) { world with disk })
  | (broken e, disk) => some (.error (.file e) { world with disk })
  | _ => none

/-- What follows a failed step. -/
def recover (temporary file : Path) : Failure → Action Unit
  | .file (.system cause) => do
    onDisk (discard temporary)
    throw (.storage (.write file.toString cause))
  | e => throw e

/-- After a failed step one more is enough. -/
theorem ending?_afterFailure (e : FileError) (disk : Disk) (world : World) (n : ℕ) :
    ending? file world ((advance temporary file text)^[n + 1] (afterFailure e, disk)) =
      some (recover temporary file (.file e) { world with disk }) := by
  have hbroken (e : FileError) (disk : Disk) (n : ℕ) :
      (advance temporary file text)^[n] (broken e, disk) = (broken e, disk) :=
    Function.iterate_fixed rfl n
  have hreported (cause : SystemError) (disk : Disk) (n : ℕ) :
      (advance temporary file text)^[n] (reported cause, disk) = (reported cause, disk) :=
    Function.iterate_fixed rfl n
  cases e with
  | embeddedNull =>
      rw [afterFailure, hbroken]
      · rfl
      · simp
  | nameless path =>
      rw [afterFailure, hbroken]
      · rfl
      · simp
  | system cause =>
      rw [afterFailure, Function.iterate_succ_apply, advance, recover]
      simp only [bind_apply, onDisk_apply]
      cases discard temporary disk with
      | ok answer cleared =>
          rw [hreported]
          rfl
      | error e cleared =>
          rw [hbroken]
          rfl

/-- A replacement is the same as its steps in a row, of which there are never more than five. -/
theorem ending?_reached (hname : file.name? = some name) (text : String) (world : World) :
    ending? file world (reached (file.sibling (name ++ ".tmp")) file text world.disk 5) =
      some (replace file text world) := by
  unfold reached replace RecordFile.temporary writeThrough
  simp only [hname, bind_apply, pure_apply, tryCatch_apply, onDisk_apply]
  rw [Function.iterate_succ_apply, advance]
  cases openForWriting (file.sibling (name ++ ".tmp")) world.disk with
  | error e opened => exact ending?_afterFailure e opened world 3
  | ok place opened =>
      simp only [following]
      rw [Function.iterate_succ_apply, advance]
      cases Disk.write place (Text.Utf8.encode text.toList) opened with
      | error e written => exact ending?_afterFailure e written world 2
      | ok answer written =>
          simp only [following]
          rw [Function.iterate_succ_apply, advance]
          cases sync written with
          | error e synced => exact ending?_afterFailure e synced world 1
          | ok answer synced =>
              simp only [following]
              rw [Function.iterate_succ_apply, advance]
              cases rename (file.sibling (name ++ ".tmp")) file synced with
              | error e renamed => exact ending?_afterFailure e renamed world 0
              | ok answer renamed => rfl

end Stage

/-! ## What is different on the disk -/

/-- The text stands in the file and the temporary file is gone; nothing else is different. -/
structure Replaced (source goal : Location) (text : String) (before after : Disk) : Prop where
  touches : Touches (fun location => location = source ∨ location = goal) before after
  written : after.node? goal = some (.file (Text.Utf8.encode text.toList))
  removed : source ≠ goal → after.node? source = none

/-- Nothing is different but perhaps the temporary file. -/
abbrev Abandoned (temporary : Path) (before : Disk) : Disk → Prop :=
  Touches (fun location => before.found temporary = .ok location) before

/-- The last step, once the temporary file holds the text. -/
theorem rename_written (file : Path) {disk full : Disk} {source : Location}
    (hsource : disk.found temporary = .ok source) (hwritten : Touches (· = source) disk full)
    (hbytes : full.node? source = some (.file (Text.Utf8.encode text.toList))) :
    (∃ goal after, disk.found file = .ok goal ∧ rename temporary file full = .ok ⟨⟩ after ∧
        Replaced source goal text disk after) ∨
      ∃ e, Fails full e (rename temporary file full) := by
  rcases rename_cases temporary file full with
    ⟨source', goal, bytes, hsource', hgoal, hfrom, hto, h⟩ | ⟨e, hfails⟩
  · rw [hwritten.directories.found_eq_ok_iff] at hsource' hgoal
    obtain rfl : source = source' := Except.ok.inj (hsource.symm.trans hsource')
    obtain rfl : Text.Utf8.encode text.toList = bytes :=
      Node.file.inj (Option.some.inj (hbytes.symm.trans hfrom))
    have hfree : full.node? source ≠ some .directory := by
      rw [hbytes]
      simp
    have herased := touches_erase hfree
    have hto' : (full.erase source).node? goal ≠ some .directory :=
      fun hdir => hto ((herased.directories.node goal).mp hdir)
    have hmoved := touches_put hto' (Text.Utf8.encode text.toList)
    refine .inl ⟨goal, _, hgoal, h, ⟨?_, ?_, ?_⟩⟩
    · exact ((hwritten.trans herased).mono fun _ => .inl).trans (hmoved.mono fun _ => .inr)
    · rw [node?_put (ne_root hto), if_pos rfl]
    · intro hne
      rw [node?_put (ne_root hto), if_neg hne, node?_erase (ne_root hfree), if_pos rfl]
  · exact .inr ⟨e, hfails⟩

theorem touches_discard (temporary : Path) (disk : Disk) :
    Touches (fun location => disk.found temporary = .ok location) disk
      (left (discard temporary) disk) := by
  unfold left discard
  rw [tryCatch_apply]
  rcases unlink_cases temporary disk with ⟨location, bytes, hfound, hnode, h⟩ |
    ⟨e, ⟨after, h, hsame⟩, -⟩
  · have hfree : disk.node? location ≠ some .directory := by
      rw [hnode]
      simp
    rw [h]
    refine (touches_erase hfree).mono ?_
    rintro other rfl
    exact hfound
  · rw [h]
    cases e <;> exact hsame.touches

/-- A file that was to be discarded is gone, unless its removal is about to fail. -/
theorem gone_discard (h : Calm .unlink disk) (bytes : List UInt8) :
    (left (discard temporary) disk).content temporary ≠ .ok bytes := by
  intro hcontent
  unfold left discard at hcontent
  rw [tryCatch_apply] at hcontent
  rcases unlink_cases temporary disk with ⟨location, old, hfound, hnode, hx⟩ |
    ⟨e, ⟨after, hx, hsame⟩, -⟩
  · have hfree : disk.node? location ≠ some .directory := by
      rw [hnode]
      simp
    rw [hx, content_of_found (((touches_erase hfree).directories.found_eq_ok_iff _).mpr hfound),
      node?_erase (ne_root hfree), if_pos rfl] at hcontent
    cases hcontent
  · have hafter : after.content temporary = .ok bytes := by
      rw [hx] at hcontent
      cases e <;> exact hcontent
    obtain ⟨location, hfound, hnode⟩ :=
      content_eq_ok_iff.mp ((hsame.content_eq_ok_iff fun _ _ => id).mp hafter)
    rw [unlink_of_file h hfound hnode] at hx
    cases hx

/-! ## Whatever happens -/

/-- Only the temporary file may be different, and its removal still meets the same faults. -/
structure Begun (temporary : Path) (before now : Disk) : Prop where
  touches : Abandoned temporary before now
  waiting : now.waiting .unlink = before.waiting .unlink

theorem begun_left {x : Disk.Action α} (h : Begun temporary before now)
    (hkeeps : Keeps (waiting .unlink) x)
    (htouches : Touches (before.found temporary = .ok ·) now (left x now)) :
    Begun temporary before (left x now) :=
  ⟨h.touches.trans htouches, (hkeeps now).trans h.waiting⟩

namespace Stage

/-- What there is on the disk at a stage. -/
def Stands (temporary file : Path) (text : String) (before : Disk) : Stage × Disk → Prop
  | (opening, now) | (clearing _, now) => Begun temporary before now
  | (writing place, now) =>
    Begun temporary before now ∧ before.found temporary = .ok place ∧
      now.node? place ≠ some .directory
  | (syncing, now) | (moving, now) =>
    Begun temporary before now ∧ ∃ place, before.found temporary = .ok place ∧
      now.node? place = some (.file (Text.Utf8.encode text.toList))
  | (done, now) =>
    ∃ source goal, before.found temporary = .ok source ∧ before.found file = .ok goal ∧
      Replaced source goal text before now
  | (reported _, now) =>
    Abandoned temporary before now ∧
      (Calm .unlink before → ∀ bytes, now.content temporary ≠ .ok bytes)
  | (broken _, now) => Abandoned temporary before now

theorem stands_of_fails {x : Disk.Action α} {e : FileError} (h : Begun temporary before now)
    (hkeeps : Keeps (waiting .unlink) x) (hfails : Fails now e (x now)) (next : α → Stage) :
    Stands temporary file text before (following (x now) next) := by
  obtain ⟨after, hx, hsame⟩ := hfails
  have hleft := left_of_error hx
  have hbegun := begun_left h hkeeps (hleft ▸ hsame.touches)
  rw [hleft] at hbegun
  rw [hx]
  cases e with
  | system cause => exact hbegun
  | embeddedNull => exact hbegun.touches
  | nameless path => exact hbegun.touches

theorem stands_opening (h : Stands temporary file text before (opening, now)) :
    Stands temporary file text before (advance temporary file text (opening, now)) := by
  have hkeeps := keeps_waiting_openForWriting (by decide : FaultPoint.openFile ≠ .unlink) temporary
  rw [advance]
  rcases openForWriting_cases temporary now with ⟨place, hfound, hfree, hx⟩ | ⟨e, hfails⟩
  · have hfound' := (h.touches.directories.found_eq_ok_iff _).mp hfound
    have hbegun := begun_left h hkeeps (by
      rw [left_of_ok hx]
      refine (touches_put hfree []).mono ?_
      rintro location rfl
      exact hfound')
    rw [left_of_ok hx] at hbegun
    rw [hx]
    refine ⟨hbegun, hfound', ?_⟩
    rw [node?_put (ne_root hfree), if_pos rfl]
    simp
  · exact stands_of_fails h hkeeps hfails _

theorem stands_writing {place : Location}
    (h : Stands temporary file text before (writing place, now)) :
    Stands temporary file text before (advance temporary file text (writing place, now)) := by
  obtain ⟨hbegun, hfound, hfree⟩ := h
  have hkeeps := keeps_waiting_write (by decide : FaultPoint.write ≠ .unlink) place
    (Text.Utf8.encode text.toList)
  rw [advance]
  rcases write_cases place (Text.Utf8.encode text.toList) now with hx | ⟨e, hfails⟩
  · have hafter := begun_left hbegun hkeeps (by
      rw [left_of_ok hx]
      refine (touches_put hfree _).mono ?_
      rintro location rfl
      exact hfound)
    rw [left_of_ok hx] at hafter
    rw [hx]
    refine ⟨hafter, place, hfound, ?_⟩
    rw [node?_put (ne_root hfree), if_pos rfl]
  · exact stands_of_fails hbegun hkeeps hfails _

theorem stands_syncing (h : Stands temporary file text before (syncing, now)) :
    Stands temporary file text before (advance temporary file text (syncing, now)) := by
  rw [advance]
  rcases strike_cases .sync now with hx | ⟨e, -, hfails⟩
  · rw [sync, hx]
    exact h
  · exact stands_of_fails h.1 (keeps_waiting_strike (by decide)) hfails _

theorem stands_moving (h : Stands temporary file text before (moving, now)) :
    Stands temporary file text before (advance temporary file text (moving, now)) := by
  obtain ⟨hbegun, source, hsource, hbytes⟩ := h
  have hwritten : Touches (· = source) before now :=
    hbegun.touches.mono fun location hlocation => Except.ok.inj (hlocation.symm.trans hsource)
  rw [advance]
  rcases rename_written file hsource hwritten hbytes with
    ⟨goal, after, hgoal, hx, hreplaced⟩ | ⟨e, hfails⟩
  · rw [hx]
    exact ⟨source, goal, hsource, hgoal, hreplaced⟩
  · exact stands_of_fails hbegun (keeps_waiting_rename (by decide) _ _) hfails _

theorem stands_clearing {cause : SystemError}
    (h : Stands temporary file text before (clearing cause, now)) :
    Stands temporary file text before (advance temporary file text (clearing cause, now)) := by
  have habandoned : Abandoned temporary before (left (discard temporary) now) := by
    refine h.touches.trans ((touches_discard temporary now).mono fun location hlocation => ?_)
    exact (h.touches.directories.found_eq_ok_iff _).mp hlocation
  -- No other step takes away the faults that wait for the removal.
  have hgone (hcalm : Calm .unlink before) (bytes : List UInt8) :
      (left (discard temporary) now).content temporary ≠ .ok bytes := by
    rw [calm_iff_waiting, ← h.waiting, ← calm_iff_waiting] at hcalm
    exact gone_discard hcalm bytes
  rw [advance]
  unfold left at habandoned hgone
  cases hx : discard temporary now with
  | ok answer after =>
      rw [hx] at habandoned hgone
      exact ⟨habandoned, hgone⟩
  | error e after =>
      rw [hx] at habandoned
      exact habandoned

theorem stands_advance {state : Stage × Disk} (h : Stands temporary file text before state) :
    Stands temporary file text before (advance temporary file text state) := by
  obtain ⟨stage, now⟩ := state
  cases stage with
  | opening => exact stands_opening h
  | writing place => exact stands_writing h
  | syncing => exact stands_syncing h
  | moving => exact stands_moving h
  | clearing cause => exact stands_clearing h
  | done => exact h
  | reported cause => exact h
  | broken e => exact h

theorem stands_reached (temporary file : Path) (text : String) (before : Disk) (n : ℕ) :
    Stands temporary file text before (reached temporary file text before n) := by
  induction n with
  | zero => exact ⟨.refl before, rfl⟩
  | succ n ih =>
      rw [reached, Function.iterate_succ_apply']
      exact stands_advance ih

end Stage

/-- Replacing a file succeeds or leaves it as it was, whichever steps fail. -/
theorem replace_cases (hname : file.name? = some name) (text : String) (world : World) :
    (∃ source goal disk, world.disk.found (file.sibling (name ++ ".tmp")) = .ok source ∧
        world.disk.found file = .ok goal ∧ replace file text world = .ok ⟨⟩ { world with disk } ∧
        Replaced source goal text world.disk disk) ∨
      ∃ e disk, replace file text world = .error e { world with disk } ∧
        Abandoned (file.sibling (name ++ ".tmp")) world.disk disk := by
  have hending := Stage.ending?_reached hname text world
  have hstands := Stage.stands_reached (file.sibling (name ++ ".tmp")) file text world.disk 5
  generalize Stage.reached (file.sibling (name ++ ".tmp")) file text world.disk 5 = state
    at hending hstands
  obtain ⟨stage, disk⟩ := state
  cases stage with
  | done =>
      obtain ⟨source, goal, hsource, hgoal, hreplaced⟩ := hstands
      exact .inl ⟨source, goal, disk, hsource, hgoal, (Option.some.inj hending).symm, hreplaced⟩
  | reported cause => exact .inr ⟨_, disk, (Option.some.inj hending).symm, hstands.1⟩
  | broken e => exact .inr ⟨_, disk, (Option.some.inj hending).symm, hstands⟩
  | _ => cases hending

/-- A file that was replaced holds the text. -/
theorem content_of_replace {world after : World} (h : replace file text world = .ok ⟨⟩ after) :
    after.disk.content file = .ok (Text.Utf8.encode text.toList) := by
  cases hname : file.name? with
  | none =>
      unfold replace RecordFile.temporary at h
      rw [hname] at h
      cases h
  | some name =>
      rcases replace_cases hname text world with
        ⟨source, goal, disk, -, hgoal, hreplace, hreplaced⟩ | ⟨e, disk, hreplace, -⟩
      · rw [hreplace] at h
        cases h
        exact content_eq_ok_iff.mpr
          ⟨goal, (hreplaced.touches.directories.found_eq_ok_iff _).mpr hgoal, hreplaced.written⟩
      · rw [hreplace] at h
        cases h

/-- Where no fault waits, and where no directory is in the way, a file is replaced. -/
theorem replace_of_calm {world : World} {source goal : Location} (hname : file.name? = some name)
    (hup : name ≠ "..") (h : ∀ point, Calm point world.disk)
    (hsource : world.disk.found (file.sibling (name ++ ".tmp")) = .ok source)
    (hgoal : world.disk.found file = .ok goal)
    (hfree : world.disk.node? source ≠ some .directory)
    (hfree' : world.disk.node? goal ≠ some .directory) (text : String) :
    ∃ disk, replace file text world = .ok ⟨⟩ { world with disk } ∧
      disk.faults = world.disk.faults := by
  have hopened := touches_put hfree []
  have hfree₁ : (world.disk.put source (.file [])).node? source ≠ some .directory :=
    fun hdir => hfree ((hopened.directories.node source).mp hdir)
  have hwritten := hopened.trans (touches_put hfree₁ (Text.Utf8.encode text.toList))
  have hcalm₁ : Calm .write (world.disk.put source (.file [])) := h .write
  have hwrite := write_of_calm source (Text.Utf8.encode text.toList) hcalm₁
  generalize hfull : (world.disk.put source (.file [])).put source
    (.file (Text.Utf8.encode text.toList)) = full at hwritten hwrite
  have hcalm (point : FaultPoint) : Calm point full := hfull ▸ h point
  have hbytes : full.node? source = some (.file (Text.Utf8.encode text.toList)) := by
    rw [← hfull, node?_put (ne_root hfree), if_pos rfl]
  have hrename := rename_of_calm (hcalm .rename)
    ((hwritten.directories.found_eq_ok_iff _).mpr hsource)
    ((hwritten.directories.found_eq_ok_iff _).mpr hgoal) hname hup hbytes
    fun hdir => hfree' ((hwritten.directories.node goal).mp hdir)
  unfold replace RecordFile.temporary writeThrough
  simp only [hname, bind_apply, pure_apply, tryCatch_apply, onDisk_apply,
    openForWriting_of_calm (h .openFile) hsource hfree, hwrite, sync,
    strike_of_calm (hcalm .sync), hrename]
  exact ⟨_, rfl, by rw [← hfull]; rfl⟩

end SmartDevice.RecordFile
