import SmartDevice.Proofs.Action.Alike
import SmartDevice.Proofs.Disk.Effects

/-! # Disks that agree but for what some files hold

Where such files are neither read nor moved elsewhere, every operation ends alike on both disks and
leaves disks behind that agree again. -/

namespace SmartDevice.Disk

open Apply

variable {P : Location → Prop} {a b : Disk} {location : Location}

/-- The same files and directories, but for what the files at some places hold. -/
structure AgreeBut (P : Location → Prop) (a b : Disk) : Prop where
  node : ∀ location, b.node? location = a.node? location ∨
    P location ∧ ∃ old new, a.node? location = some (.file old) ∧
      b.node? location = some (.file new)
  working : b.workingDirectory = a.workingDirectory
  faults : b.faults = a.faults

/-- Nothing can be put in place of the root. -/
theorem node?_put_root (node : Node) (disk : Disk) (other : Location) :
    (disk.put [] node).node? other = disk.node? other := by
  cases other with
  | nil => rfl
  | cons name above =>
      have := lookup_filter [] (name :: above) disk.nodes
      grind [node?, put, erase]

namespace AgreeBut

theorem refl (disk : Disk) : AgreeBut P disk disk := ⟨fun _ => .inl rfl, rfl, rfl⟩

theorem mono {Q : Location → Prop} (h : AgreeBut P a b)
    (hPQ : ∀ location, P location → Q location) : AgreeBut Q a b :=
  ⟨fun location => (h.node location).imp_right (And.imp_left (hPQ location)), h.working, h.faults⟩

theorem node?_eq (h : AgreeBut P a b) (hP : ¬ P location) :
    b.node? location = a.node? location := by
  rcases h.node location with heq | ⟨hplace, -⟩
  · exact heq
  · exact absurd hplace hP

/-- At every place there is a thing of the same kind. -/
theorem kinds (h : AgreeBut P a b) (location : Location) :
    a.node? location = none ∧ b.node? location = none ∨
      a.node? location = some .directory ∧ b.node? location = some .directory ∨
      ∃ old new, a.node? location = some (.file old) ∧ b.node? location = some (.file new) := by
  rcases h.node location with heq | ⟨-, hfiles⟩
  · rw [heq]
    cases a.node? location with
    | none => exact .inl ⟨rfl, rfl⟩
    | some node =>
        cases node with
        | file bytes => exact .inr (.inr ⟨bytes, bytes, rfl, rfl⟩)
        | directory => exact .inr (.inl ⟨rfl, rfl⟩)
  · exact .inr (.inr hfiles)

/-! ## Paths -/

theorem walk_eq (h : AgreeBut P a b) (at_ : Location) (parts : List String) :
    b.walk at_ parts = a.walk at_ parts := by
  induction parts generalizing at_ with
  | nil => rfl
  | cons part rest ih =>
      simp only [walk]
      rcases h.kinds at_ with ⟨ha, hb⟩ | ⟨ha, hb⟩ | ⟨old, new, ha, hb⟩
      · rw [ha, hb]
      · rw [ha, hb]
        simp only [ih]
      · rw [ha, hb]

theorem locate_eq (h : AgreeBut P a b) (path : Path) : b.locate path = a.locate path := by
  have hstart : b.startOf path = a.startOf path := by
    rw [startOf, startOf, h.working]
  rw [locate, locate, hstart, h.walk_eq]

theorem found_eq (h : AgreeBut P a b) (path : Path) : b.found path = a.found path := by
  rw [found, found, h.locate_eq]

theorem content_eq (h : AgreeBut P a b) {path : Path}
    (hP : ∀ location, a.found path = .ok location → ¬ P location) :
    b.content path = a.content path := by
  rw [content, content, h.found_eq]
  cases hfound : a.found path with
  | error e => rfl
  | ok location =>
      simp only [bind, Except.bind]
      rw [h.node?_eq (hP location hfound)]

/-! ## Changes -/

theorem put (h : AgreeBut P a b) (location : Location) (node : Node) :
    AgreeBut P (a.put location node) (b.put location node) where
  node other := by
    by_cases hroot : location = []
    · subst hroot
      rw [node?_put_root, node?_put_root]
      exact h.node other
    · rw [node?_put hroot, node?_put hroot]
      split
      · exact .inl rfl
      · exact h.node other
  working := h.working
  faults := h.faults

/-- At such a place files with different bytes may be put. -/
theorem putFiles (h : AgreeBut P a b) (hP : P location) (hroot : location ≠ [])
    (old new : List UInt8) :
    AgreeBut P (a.put location (.file old)) (b.put location (.file new)) where
  node other := by
    rw [node?_put hroot, node?_put hroot]
    split
    · next hother => exact .inr ⟨hother ▸ hP, old, new, rfl, rfl⟩
    · exact h.node other
  working := h.working
  faults := h.faults

theorem erase (h : AgreeBut P a b) (hroot : location ≠ []) :
    AgreeBut P (a.erase location) (b.erase location) where
  node other := by
    rw [node?_erase hroot, node?_erase hroot]
    split
    · exact .inl rfl
    · exact h.node other
  working := h.working
  faults := h.faults

end AgreeBut

/-! ## Operations -/

theorem alike_strike (point : FaultPoint) :
    Alike (AgreeBut P) (strike point) (strike point) := by
  intro a b h
  unfold strike
  simp only [bind_apply, get_apply, h.faults]
  cases a.faults.find? (·.1 = point) with
  | none => exact .ok h
  | some fault => exact .error ⟨h.node, h.working, rfl⟩

theorem alike_openForWriting (path : Path) :
    Alike (AgreeBut P) (openForWriting path) (openForWriting path) := by
  refine .bind (alike_strike _) fun _ => ?_
  intro a b h
  simp only [bind_apply, find_apply, h.found_eq]
  cases a.found path with
  | error e => exact .error h
  | ok location =>
      simp only
      rcases h.kinds location with ⟨ha, hb⟩ | ⟨ha, hb⟩ | ⟨old, new, ha, hb⟩
      · rw [ha, hb]
        exact .ok (h.put location (.file []))
      · rw [ha, hb]
        exact .error h
      · rw [ha, hb]
        exact .ok (h.put location (.file []))

theorem alike_write (location : Location) (bytes : List UInt8) :
    Alike (AgreeBut P) (write location bytes) (write location bytes) :=
  .bind (alike_strike _) fun _ => .modify fun _ _ h => h.put location (.file bytes)

theorem alike_write_files (hP : P location) (old new : List UInt8) :
    Alike (AgreeBut P) (write location old) (write location new) := by
  refine .bind (alike_strike _) fun _ => .modify fun a b h => ?_
  by_cases hroot : location = []
  · subst hroot
    refine ⟨fun other => ?_, h.working, h.faults⟩
    rw [node?_put_root, node?_put_root]
    exact h.node other
  · exact h.putFiles hP hroot old new

theorem alike_sync : Alike (AgreeBut P) sync sync := alike_strike _

/-- A file that may hold something else may be moved to where files may hold something else. -/
theorem alike_rename {path target : Path}
    (hP : ∀ (disk : Disk) (source goal : Location), disk.found path = .ok source →
      disk.found target = .ok goal → P source → P goal) :
    Alike (AgreeBut P) (rename path target) (rename path target) := by
  refine .bind (alike_strike _) fun _ => ?_
  intro a b h
  by_cases hnull : (hasNull path || hasNull target) = true
  · simp only [hnull, if_true]
    exact .error h
  · have hnull' : hasNull path = false ∧ hasNull target = false := by simpa using hnull
    simp only [hnull, Bool.false_eq_true, if_false, bind_apply, get_apply, h.locate_eq]
    cases hsource : a.locate path with
    | error condition => exact .error h
    | ok source =>
        cases hgoal : a.locate target with
        | error condition => exact .error h
        | ok goal =>
            simp only
            split
            · exact .error h
            · rcases h.kinds source with ⟨ha, hb⟩ | ⟨ha, hb⟩ | ⟨old, new, ha, hb⟩
              · rw [ha, hb]
                exact .error h
              · rw [ha, hb]
                exact .error h
              · have hplain : a.node? source ≠ some .directory := by simp [ha]
                have hfree : source ≠ [] := ne_root hplain
                have hmoved (hroot : goal ≠ []) : AgreeBut P
                    ((a.erase source).put goal (.file old))
                    ((b.erase source).put goal (.file new)) := by
                  by_cases hplace : P source
                  · exact (h.erase hfree).putFiles
                      (hP a source goal ((found_eq_ok_iff _).mpr ⟨hnull'.1, hsource⟩)
                        ((found_eq_ok_iff _).mpr ⟨hnull'.2, hgoal⟩) hplace) hroot old new
                  · have hsame := h.node?_eq hplace
                    rw [ha, hb] at hsame
                    cases hsame
                    exact (h.erase hfree).put goal (.file old)
                rw [ha, hb]
                rcases h.kinds goal with ⟨ha, hb⟩ | ⟨ha, hb⟩ | ⟨old', new', ha, hb⟩
                · have hgoal : a.node? goal ≠ some .directory := by simp [ha]
                  rw [ha, hb]
                  exact .ok (hmoved (ne_root hgoal))
                · rw [ha, hb]
                  exact .error h
                · have hgoal : a.node? goal ≠ some .directory := by simp [ha]
                  rw [ha, hb]
                  exact .ok (hmoved (ne_root hgoal))

theorem alike_unlink (path : Path) : Alike (AgreeBut P) (unlink path) (unlink path) := by
  refine .bind (alike_strike _) fun _ => ?_
  intro a b h
  simp only [bind_apply, find_apply, h.found_eq]
  cases a.found path with
  | error e => exact .error h
  | ok location =>
      simp only
      rcases h.kinds location with ⟨ha, hb⟩ | ⟨ha, hb⟩ | ⟨old, new, ha, hb⟩
      · rw [ha, hb]
        exact .error h
      · rw [ha, hb]
        exact .error h
      · have hfree : a.node? location ≠ some .directory := by simp [ha]
        rw [ha, hb]
        exact .ok (h.erase (ne_root hfree))

/-! ## Directories -/

theorem alike_makeDirectory (path : Path) :
    Alike (AgreeBut P) (makeDirectory path) (makeDirectory path) := by
  intro a b h
  unfold makeDirectory
  simp only [bind_apply, find_apply, h.found_eq]
  cases a.found path with
  | error e => exact .error h
  | ok location =>
      simp only
      rcases h.kinds location with ⟨ha, hb⟩ | ⟨ha, hb⟩ | ⟨old, new, ha, hb⟩
      · rw [ha, hb]
        exact .ok (h.put location .directory)
      · rw [ha, hb]
        exact .error h
      · rw [ha, hb]
        exact .error h

theorem alike_isDirectory (path : Path) :
    Alike (AgreeBut P) (isDirectory path) (isDirectory path) := by
  intro a b h
  unfold isDirectory
  simp only [bind_apply, look_apply, seen, h.found_eq]
  cases a.found path with
  | ok location =>
      simp only
      rcases h.kinds location with ⟨ha, hb⟩ | ⟨ha, hb⟩ | ⟨old, new, ha, hb⟩
      · rw [ha, hb]
        exact .ok h
      · rw [ha, hb]
        exact .ok h
      · rw [ha, hb]
        exact .ok h
  | error e =>
      simp only
      cases missed e with
      | ok node => exact .ok h
      | error e => exact .error h

theorem alike_ensureDirectory (path : Path) :
    Alike (AgreeBut P) (ensureDirectory path) (ensureDirectory path) := by
  refine .tryCatch (alike_makeDirectory path) fun e => ?_
  split
  · exact .bind (alike_isDirectory path) fun there => .ite (fun _ => .throw _) fun _ => .pure _
  · exact .throw _

theorem alike_ensureDirectories (path : Path) :
    Alike (AgreeBut P) (ensureDirectories path) (ensureDirectories path) := by
  induction path using ensureDirectories.induct with
  | case1 path ih =>
    rw [ensureDirectories]
    refine .tryCatch (alike_makeDirectory path) fun e => ?_
    split
    · refine .ite (fun _ => ?_) fun _ => ?_
      · split
        · exact .throw _
        · next hparts => exact .bind (ih hparts) fun _ => alike_ensureDirectory path
      · exact .bind (alike_isDirectory path) fun _ => .ite (fun _ => .throw _) fun _ => .pure _
    · exact .throw _

theorem alike_makeDirectories (path : Path) :
    Alike (AgreeBut P) (makeDirectories path) (makeDirectories path) :=
  .bind (alike_strike _) fun _ => alike_ensureDirectories path

end SmartDevice.Disk
