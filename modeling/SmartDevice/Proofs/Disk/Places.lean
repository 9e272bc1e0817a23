import SmartDevice.Disk
import SmartDevice.Proofs.Path.Normal
import SmartDevice.Proofs.Text.Split

/-! # Where paths lead to

A path is followed through directories only, so it leads to the same place on any disk that holds
the same directories. -/

namespace SmartDevice.Disk

variable {a b disk : Disk} {at_ place location : Location}

theorem hasNull_ofString {path : String} (h : path.contains (Char.ofNat 0) = false) :
    hasNull (Path.ofString path) = false := by
  rw [String.contains_char_eq, decide_eq_false_iff_not] at h
  rw [hasNull, List.any_eq_false]
  intro part hpart
  simp only [Path.ofString, List.mem_filter, List.mem_map] at hpart
  obtain ⟨⟨piece, hpiece, rfl⟩, -⟩ := hpart
  rw [String.contains_char_eq, decide_eq_true_iff, String.toList_ofList]
  exact fun hmem => h (Text.mem_of_mem_split _ piece hpiece hmem)

/-! ## The directories of a disk -/

/-- The same directories, and the same one to start from. -/
structure SameDirectories (a b : Disk) : Prop where
  node : ∀ location, b.node? location = some .directory ↔ a.node? location = some .directory
  working : b.workingDirectory = a.workingDirectory

theorem walk_cons_eq_ok_iff (part : String) (rest : List String) :
    disk.walk at_ (part :: rest) = .ok location ↔
      disk.node? at_ = some .directory ∧
        if part = ".." then disk.walk at_.tail rest = .ok location
        else part.utf8ByteSize ≤ longestName ∧ disk.walk (part :: at_) rest = .ok location := by
  rw [walk]
  cases hnode : disk.node? at_ with
  | none => simp
  | some node =>
      cases node with
      | file bytes => simp
      | directory =>
          by_cases hup : part = ".."
          · simp [hup]
          · by_cases hlong : longestName < part.utf8ByteSize
            · simp [hup, hlong, Nat.not_le_of_lt hlong]
            · simp [hup, hlong, Nat.le_of_not_lt hlong]

theorem SameDirectories.walk_eq_ok_iff (h : SameDirectories a b) (parts : List String) :
    b.walk at_ parts = .ok location ↔ a.walk at_ parts = .ok location := by
  induction parts generalizing at_ with
  | nil => rfl
  | cons part rest ih => rw [walk_cons_eq_ok_iff, walk_cons_eq_ok_iff, h.node, ih, ih]

theorem SameDirectories.locate_eq_ok_iff (h : SameDirectories a b) (path : Path) :
    b.locate path = .ok location ↔ a.locate path = .ok location := by
  have hstart : b.startOf path = a.startOf path := by
    rw [startOf, startOf, h.working]
  unfold locate
  split
  · rfl
  · rw [hstart, h.walk_eq_ok_iff]

/-! ## Children -/

theorem walk_append_eq_ok_iff (parts rest : List String) :
    disk.walk at_ (parts ++ rest) = .ok location ↔
      ∃ place, disk.walk at_ parts = .ok place ∧ disk.walk place rest = .ok location := by
  induction parts generalizing at_ with
  | nil => simp [walk]
  | cons part parts ih =>
      rw [List.cons_append, walk_cons_eq_ok_iff, ih, ih]
      simp only [walk_cons_eq_ok_iff]
      by_cases hup : part = ".."
      · simp [hup, and_assoc]
      · simp [hup, and_assoc]

theorem walk_name_eq_ok_iff {name : String} (hup : name ≠ "..") :
    disk.walk at_ [name] = .ok location ↔
      disk.node? at_ = some .directory ∧ name.utf8ByteSize ≤ longestName ∧
        location = name :: at_ := by
  rw [walk_cons_eq_ok_iff, if_neg hup, walk, Except.ok.injEq, eq_comm (a := location)]

/-- A name lies directly below the directory that it is looked up in. -/
theorem locate_child_eq_ok_iff (base : Path) {name : String} (h : Path.IsName name)
    (hup : name ≠ "..") :
    disk.locate (base.child name) = .ok location ↔
      (base.child name).toString.utf8ByteSize ≤ longestPath ∧
        name.utf8ByteSize ≤ longestName ∧
        ∃ place, disk.walk (disk.startOf base) base.parts = .ok place ∧
          disk.node? place = some .directory ∧ location = name :: place := by
  have hstart : disk.startOf (base.child name) = disk.startOf base := by
    rw [startOf, startOf, Path.root_child base h]
  unfold locate
  split
  · next hlong => simp [Nat.not_le_of_lt hlong]
  · next hshort =>
      rw [hstart, Path.parts_child base h, walk_append_eq_ok_iff]
      simp only [walk_name_eq_ok_iff hup, Nat.le_of_not_lt hshort, true_and]
      constructor
      · rintro ⟨place, hwalk, hdir, hname, rfl⟩
        exact ⟨hname, place, hwalk, hdir, rfl⟩
      · rintro ⟨hname, place, hwalk, hdir, rfl⟩
        exact ⟨place, hwalk, hdir, hname, rfl⟩

/-- Where the children of a path are. -/
structure Holds (disk : Disk) (base : Path) (place : Location) : Prop where
  located : disk.locate base = .ok place
  directory : disk.node? place = some .directory
  walked : disk.walk (disk.startOf base) base.parts = .ok place

/-- One child found is enough to know where the others are. -/
theorem holds_of_child {base : Path} {name : String} (h : Path.IsName name) (hup : name ≠ "..")
    (hchild : disk.locate (base.child name) = .ok location) :
    ∃ place, disk.Holds base place ∧ location = name :: place := by
  obtain ⟨hpath, -, place, hwalk, hdir, rfl⟩ := (locate_child_eq_ok_iff base h hup).mp hchild
  refine ⟨place, ⟨?_, hdir, hwalk⟩, rfl⟩
  obtain ⟨front, hsize, hfront⟩ := base.toString_child
  have hpositive : 0 < name.utf8ByteSize :=
    Nat.pos_of_ne_zero fun hzero => h.normal.1 (String.utf8ByteSize_eq_zero_iff.mp hzero)
  rw [hfront name h, String.utf8ByteSize_append] at hpath
  rw [locate, if_neg (by omega), hwalk]

theorem Holds.eq_child {base : Path} {name : String} (h : Path.IsName name) (hup : name ≠ "..")
    (hplace : disk.Holds base place) (hchild : disk.locate (base.child name) = .ok location) :
    location = name :: place := by
  obtain ⟨other, hother, rfl⟩ := holds_of_child h hup hchild
  rw [Except.ok.inj (hother.located.symm.trans hplace.located)]

/-- A child with a name that is no longer than that of another child is not too long either. -/
theorem Holds.locate_child {base : Path} {name other : String} (h : Path.IsName name)
    (hup : name ≠ "..") (hother : Path.IsName other) (hotherUp : other ≠ "..")
    (hsize : other.utf8ByteSize ≤ name.utf8ByteSize) (hplace : disk.Holds base place)
    (hchild : disk.locate (base.child name) = .ok location) :
    disk.locate (base.child other) = .ok (other :: place) := by
  obtain ⟨hpath, hname, -⟩ := (locate_child_eq_ok_iff base h hup).mp hchild
  obtain ⟨front, -, hfront⟩ := base.toString_child
  rw [hfront name h, String.utf8ByteSize_append] at hpath
  rw [locate_child_eq_ok_iff base hother hotherUp, hfront other hother,
    String.utf8ByteSize_append]
  exact ⟨by omega, by omega, place, hplace.walked, hplace.directory, rfl⟩

theorem SameDirectories.holds (h : SameDirectories a b) {base : Path}
    (hplace : a.Holds base place) : b.Holds base place where
  located := (h.locate_eq_ok_iff base).mpr hplace.located
  directory := (h.node place).mpr hplace.directory
  walked := by
    rw [startOf, h.working, h.walk_eq_ok_iff]
    exact hplace.walked

end SmartDevice.Disk
