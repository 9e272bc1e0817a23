import SmartDevice.Proofs.Action.Raises
import SmartDevice.Proofs.Home.Recall

/-! # Why operations on files fail

On a path that names no null character an operation fails only where the system refuses it, and
storing a configuration fails only with a report. -/

namespace SmartDevice

/-- The system has refused an operation. -/
def FileError.IsSystem : FileError → Prop
  | system _ => True
  | _ => False

namespace Disk

open Apply

variable {path target : Path}

/-! ## Operations -/

theorem raises_fail {α : Type} (condition : FileCondition) (path : Path) :
    Raises FileError.IsSystem (fail condition path : Action α) :=
  .throw trivial

theorem raises_strike (point : FaultPoint) : Raises FileError.IsSystem (strike point) := by
  refine .bind .get fun disk => ?_
  split
  · exact .pure _
  · exact .bind (fun _ _ _ h => by cases h) fun _ => .throw trivial

theorem raises_find (h : hasNull path = false) : Raises FileError.IsSystem (find path) := by
  unfold find
  simp only [h, Bool.false_eq_true, if_false]
  refine .bind .get fun disk => ?_
  split
  · exact raises_fail _ _
  · exact .pure _

theorem raises_openForWriting (h : hasNull path = false) :
    Raises FileError.IsSystem (openForWriting path) := by
  refine .bind (raises_strike _) fun _ => .bind (raises_find h) fun (location, node) => ?_
  dsimp only
  split
  · exact raises_fail _ _
  · exact .bind (.modify _) fun _ => .pure _

theorem raises_write (location : Location) (bytes : List UInt8) :
    Raises FileError.IsSystem (write location bytes) :=
  .bind (raises_strike _) fun _ => .modify _

theorem raises_rename (h : hasNull path = false) (h' : hasNull target = false) :
    Raises FileError.IsSystem (rename path target) := by
  unfold rename
  simp only [h, h', Bool.or_self, Bool.false_eq_true, if_false]
  refine .bind (raises_strike _) fun _ => .bind .get fun disk => ?_
  split
  · exact .throw trivial
  · exact .throw trivial
  · refine .ite (.throw trivial) ?_
    split
    · exact .throw trivial
    · exact .throw trivial
    · exact .throw trivial
    · exact fun _ _ _ h => by cases h

theorem raises_read (h : hasNull path = false) : Raises FileError.IsSystem (read path) := by
  refine .bind (raises_strike _) fun _ => .bind (raises_find h) fun (location, node) => ?_
  dsimp only
  split
  · exact raises_fail _ _
  · exact raises_fail _ _
  · exact .pure _

theorem raises_unlink (h : hasNull path = false) : Raises FileError.IsSystem (unlink path) := by
  refine .bind (raises_strike _) fun _ => .bind (raises_find h) fun (location, node) => ?_
  dsimp only
  split
  · exact raises_fail _ _
  · exact raises_fail _ _
  · exact .modify _

/-! ## Directories -/

theorem raises_isDirectory (h : hasNull path = false) :
    Raises FileError.IsSystem (isDirectory path) := by
  refine .bind ?_ fun _ => .pure _
  intro disk e after hlook
  rw [look_apply, seen] at hlook
  cases hfound : disk.found path with
  | ok location =>
      rw [hfound] at hlook
      cases hlook
  | error cause =>
      have hsystem := raises_find h disk cause disk (by rw [find_apply, hfound])
      rw [hfound] at hlook
      cases hmissed : missed cause with
      | ok node =>
          simp only [hmissed] at hlook
          cases hlook
      | error seen =>
          simp only [hmissed] at hlook
          cases hlook
          rw [missed_eq_error hmissed]
          exact hsystem

theorem raises_makeDirectory (h : hasNull path = false) :
    Raises FileError.IsSystem (makeDirectory path) := by
  refine .bind (raises_find h) fun (location, node) => ?_
  dsimp only
  refine .ite (.bind (raises_fail _ _) fun _ => .modify _) (.modify _)

theorem raises_ensureDirectory (h : hasNull path = false) :
    Raises FileError.IsSystem (ensureDirectory path) := by
  refine .tryCatch (raises_makeDirectory h) fun e he => ?_
  split
  · exact .bind (raises_isDirectory h) fun _ => .ite (.throw trivial) (.pure _)
  · exact .throw he

theorem hasNull_parent (h : hasNull path = false) : hasNull path.parent = false := by
  rw [hasNull, List.any_eq_false] at h ⊢
  exact fun part hpart => h part (List.dropLast_subset _ hpart)

theorem raises_ensureDirectories (h : hasNull path = false) :
    Raises FileError.IsSystem (ensureDirectories path) := by
  induction path using ensureDirectories.induct with
  | case1 path ih =>
    rw [ensureDirectories]
    refine .tryCatch (raises_makeDirectory h) fun e he => ?_
    split
    · refine .ite ?_ (.bind (raises_isDirectory h) fun _ => .ite (.throw trivial) (.pure _))
      split
      · exact .throw trivial
      · next hparts =>
          exact .bind (ih hparts (hasNull_parent h)) fun _ => raises_ensureDirectory h
    · exact .throw he

theorem raises_makeDirectories (h : hasNull path = false) :
    Raises FileError.IsSystem (makeDirectories path) :=
  .bind (raises_strike _) fun _ => raises_ensureDirectories h

/-! ## Records -/

theorem raises_writeThrough (h : hasNull path = false) (h' : hasNull target = false)
    (text : String) : Raises FileError.IsSystem (RecordFile.writeThrough path target text) :=
  .bind (raises_openForWriting h) fun _ => .bind (raises_write _ _) fun _ =>
    .bind (raises_strike _) fun _ => raises_rename h h'

/-- A file whose removal may as well fail never makes anything fail. -/
theorem raises_discard (h : hasNull path = false) :
    Raises (fun _ => False) (RecordFile.discard path) := by
  refine .catching (raises_unlink h) fun e he => ?_
  cases e with
  | system cause => exact .pure _
  | _ => cases he

end Disk

/-! ## Reports -/

open Disk

/-- What went wrong while something was stored is reported. -/
def Failure.IsReport : Failure → Prop
  | storage _ => True
  | _ => False

/-- The system has refused a file operation. -/
def Failure.IsRefusal : Failure → Prop
  | file e => e.IsSystem
  | _ => False

theorem World.raises_onDisk_system {α : Type} {x : Disk.Action α}
    (h : Raises FileError.IsSystem x) : Raises Failure.IsRefusal (World.onDisk x) := by
  intro world e after hx
  rw [World.onDisk_apply] at hx
  cases hd : x world.disk with
  | ok a disk =>
      rw [hd] at hx
      cases hx
  | error cause disk =>
      rw [hd] at hx
      cases hx
      exact h _ _ _ hd

theorem RecordFile.raises_replace_report {file : Path} {name : String}
    (hname : file.name? = some name) (h : hasNull file = false)
    (h' : hasNull (file.sibling (name ++ ".tmp")) = false) (text : String) :
    Raises Failure.IsReport (replace file text) := by
  unfold replace temporary
  simp only [hname, pure_bind]
  refine .catching (World.raises_onDisk_system (raises_writeThrough h' h text)) fun e he => ?_
  cases e with
  | file cause =>
      cases cause with
      | system cause =>
          refine .bind ?_ fun _ => .throw trivial
          intro world e after hx
          rw [World.onDisk_apply] at hx
          cases hd : discard (file.sibling (name ++ ".tmp")) world.disk with
          | ok answer disk =>
              rw [hd] at hx
              cases hx
          | error cause disk => exact (raises_discard h' _ _ _ hd).elim
      | _ => cases he
  | _ => cases he

namespace Device

variable {home : Home}

theorem raises_saveConfig_refusal (h : hasNull home.path = false) (config : Config) :
    Raises (fun e => e.IsReport ∨ e.IsRefusal) (home.saveConfig config) := by
  have hfile : hasNull home.configFile = false :=
    Home.noNull_child h Home.isName_config (by simp)
  have htemporary : hasNull (home.configFile.sibling ("config.json" ++ ".tmp")) = false := by
    rw [home.sibling_configFile]
    exact Home.noNull_child h Home.isName_temporary (by simp)
  refine .bind (.mono (World.raises_onDisk_system (raises_strike _)) fun _ => .inr) fun _ =>
    .bind ?_ fun _ => ?_
  · refine .catching (World.raises_onDisk_system (raises_makeDirectories h)) fun e he => ?_
    split
    · exact .throw (.inl trivial)
    · exact .throw (.inr he)
  · exact (RecordFile.raises_replace_report home.name?_configFile hfile htemporary _).mono
      fun _ => .inl

theorem raises_removeConfig_refusal (h : hasNull home.path = false) :
    Raises (fun e => e.IsReport ∨ e.IsRefusal) home.removeConfig := by
  have hfile : hasNull home.configFile = false :=
    Home.noNull_child h Home.isName_config (by simp)
  refine .bind (.mono (World.raises_onDisk_system (raises_strike _)) fun _ => .inr) fun _ => ?_
  refine .catching (World.raises_onDisk_system (raises_unlink hfile)) fun e he => ?_
  split
  · exact .ite (.throw (.inl trivial)) (.pure _)
  · exact .throw (.inr he)

theorem isReport_unstored {e : Failure} (h : e.IsReport ∨ e.IsRefusal) :
    (unstored e).IsReport := by
  cases e with
  | file cause =>
      cases cause with
      | system cause => trivial
      | _ => rcases h with h | h <;> exact h
  | storage cause => trivial
  | _ => rcases h with h | h <;> exact h

/-- Storing in a home whose path names no null character fails only with a report. -/
theorem raises_store_report (h : hasNull home.path = false) (config : Option Config) :
    Raises Failure.IsReport (store home config) := by
  have hfirst : Raises (fun e => e.IsReport ∨ e.IsRefusal)
      (config.elim home.removeConfig home.saveConfig) := by
    cases config with
    | none => exact raises_removeConfig_refusal h
    | some config => exact raises_saveConfig_refusal h config
  intro world e after hstore
  rw [store_apply] at hstore
  cases hfails : config.elim home.removeConfig home.saveConfig world with
  | ok answer stored =>
      rw [hfails] at hstore
      cases hstore
  | error cause stored =>
      rw [hfails] at hstore
      cases hstore
      exact isReport_unstored (hfirst _ _ _ hfails)

end Device

end SmartDevice
