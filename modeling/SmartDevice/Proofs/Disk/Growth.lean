import SmartDevice.Proofs.Action.Keeps
import SmartDevice.Proofs.Disk.Effects
import Mathlib.Data.List.Induction

/-! # Directories that are made

Making a directory and those above it adds to the tree and takes nothing away, also where it fails
halfway. Afterwards a path can lead further than before, but to no file that it did not lead to,
unless it goes up again from a directory that was not there. -/

namespace SmartDevice.Disk

open Apply

variable {α β : Type} {P : Location → Prop} {a b c disk : Disk} {at_ place location : Location}
  {path : Path} {bytes : List UInt8}

/-! ## Trees -/

/-- Everything lies in a directory. -/
structure IsTree (disk : Disk) : Prop where
  above : ∀ name place, disk.node? (name :: place) ≠ none → disk.node? place = some .directory
  working : disk.node? disk.workingDirectory = some .directory

theorem node?_eq_none_iff (h : location ≠ []) :
    disk.node? location = none ↔ ∀ entry ∈ disk.nodes, entry.1 ≠ location := by
  cases location with
  | nil => exact absurd rfl h
  | cons name place =>
      rw [node?, List.lookup_eq_none_iff]
      · simp only [bne_iff_ne, ne_comm]
      · exact List.cons_ne_nil _ _

/-- It is enough to look at what is listed. -/
theorem isTree_iff :
    disk.IsTree ↔ (∀ entry ∈ disk.nodes, disk.node? entry.1.tail = some .directory) ∧
      disk.node? disk.workingDirectory = some .directory := by
  constructor
  · refine fun h => ⟨fun entry hentry => ?_, h.working⟩
    cases hlocation : entry.1 with
    | nil => rfl
    | cons name place =>
        refine h.above name place fun hnone => ?_
        exact (node?_eq_none_iff (List.cons_ne_nil _ _)).mp hnone entry hentry hlocation
  · refine fun ⟨habove, hworking⟩ => ⟨fun name place hnode => ?_, hworking⟩
    obtain ⟨entry, hentry, hlocation⟩ :
        ∃ entry ∈ disk.nodes, entry.1 = name :: place := by
      by_contra hnone
      refine hnode ((node?_eq_none_iff (List.cons_ne_nil _ _)).mpr fun entry hentry heq => ?_)
      exact hnone ⟨entry, hentry, heq⟩
    have hplace := habove entry hentry
    rwa [hlocation] at hplace

instance (disk : Disk) : Decidable disk.IsTree := decidable_of_iff' _ isTree_iff

namespace IsTree

theorem tail (h : disk.IsTree) (hplace : disk.node? place = some .directory) :
    disk.node? place.tail = some .directory := by
  cases place with
  | nil => rfl
  | cons name above => exact h.above name above (by simp [hplace])

theorem startOf (h : disk.IsTree) (path : Path) :
    disk.node? (disk.startOf path) = some .directory := by
  unfold Disk.startOf
  split
  · exact h.working
  · rfl

end IsTree

theorem walk_concat_eq_ok_iff (parts : List String) (name : String) :
    disk.walk at_ (parts ++ [name]) = .ok location ↔
      ∃ place, disk.walk at_ parts = .ok place ∧ disk.node? place = some .directory ∧
        if name = ".." then location = place.tail
        else name.utf8ByteSize ≤ longestName ∧ location = name :: place := by
  rw [walk_append_eq_ok_iff]
  refine exists_congr fun place => and_congr_right fun _ => ?_
  rw [walk_cons_eq_ok_iff, walk, walk, Except.ok.injEq, Except.ok.injEq, eq_comm (a := location),
    eq_comm (a := location)]

/-- A path that leads to nothing leads to a name in a directory. -/
theorem IsTree.exists_parent (h : disk.IsTree)
    (hwalk : disk.walk (disk.startOf path) path.parts = .ok location)
    (hnode : disk.node? location = none) :
    ∃ name place, location = name :: place ∧ disk.node? place = some .directory := by
  rcases List.eq_nil_or_concat path.parts with hparts | ⟨parts, name, hparts⟩
  · rw [hparts, walk, Except.ok.injEq] at hwalk
    subst hwalk
    rw [h.startOf] at hnode
    cases hnode
  · rw [hparts, List.concat_eq_append, walk_concat_eq_ok_iff] at hwalk
    obtain ⟨place, -, hplace, hlast⟩ := hwalk
    split at hlast
    · subst hlast
      rw [h.tail hplace] at hnode
      cases hnode
    · exact ⟨name, place, hlast.2, hplace⟩

/-- Files that come and go in directories leave a tree. -/
theorem IsTree.touches (h : a.IsTree) (hab : Touches P a b)
    (hP : ∀ location, P location →
      ∃ name place, location = name :: place ∧ a.node? place = some .directory) : b.IsTree where
  above name place hnode := by
    rw [hab.directories.node]
    by_cases hlocation : P (name :: place)
    · obtain ⟨_, _, ⟨⟩, hplace⟩ := hP _ hlocation
      exact hplace
    · rw [hab.elsewhere _ hlocation] at hnode
      exact h.above name place hnode
  working := by
    rw [hab.directories.working, hab.directories.node]
    exact h.working

/-- A child of a path lies in a directory. -/
theorem exists_parent_of_found {name : String} (hname : Path.IsName name) (hup : name ≠ "..")
    (hfound : disk.found (path.child name) = .ok location) :
    ∃ place, location = name :: place ∧ disk.node? place = some .directory := by
  obtain ⟨place, hplace, rfl⟩ := holds_of_child hname hup ((found_eq_ok_iff _).mp hfound).2
  exact ⟨place, rfl, hplace.directory⟩

/-! ## Directories that stay -/

/-- Every directory of one disk is there on the other, and both start from the same. -/
structure DirectoriesStay (a b : Disk) : Prop where
  node : ∀ location, a.node? location = some .directory → b.node? location = some .directory
  working : b.workingDirectory = a.workingDirectory

theorem SameDirectories.stay (h : SameDirectories a b) : DirectoriesStay a b :=
  ⟨fun location => (h.node location).mpr, h.working⟩

namespace DirectoriesStay

theorem startOf_eq (h : DirectoriesStay a b) (path : Path) : b.startOf path = a.startOf path := by
  rw [startOf, startOf, h.working]

theorem walk (h : DirectoriesStay a b) (parts : List String)
    (hwalk : a.walk at_ parts = .ok location) : b.walk at_ parts = .ok location := by
  induction parts generalizing at_ with
  | nil => exact hwalk
  | cons part rest ih =>
      rw [walk_cons_eq_ok_iff] at hwalk ⊢
      refine ⟨h.node _ hwalk.1, ?_⟩
      split at hwalk
      · next hup =>
          rw [if_pos hup]
          exact ih hwalk.2
      · next hup =>
          rw [if_neg hup]
          exact ⟨hwalk.2.1, ih hwalk.2.2⟩

theorem locate (h : DirectoriesStay a b) (hlocate : a.locate path = .ok location) :
    b.locate path = .ok location := by
  unfold Disk.locate at hlocate ⊢
  split at hlocate
  · cases hlocate
  · next hshort =>
      rw [if_neg hshort, h.startOf_eq]
      exact h.walk _ hlocate

theorem found (h : DirectoriesStay a b) (hfound : a.found path = .ok location) :
    b.found path = .ok location := by
  rw [found_eq_ok_iff] at hfound ⊢
  exact ⟨hfound.1, h.locate hfound.2⟩

end DirectoriesStay

/-! ## Growth -/

/-- A disk has new directories, and is a tree if it was one. -/
structure Grows (a b : Disk) : Prop where
  node : ∀ location, b.node? location = a.node? location ∨
    a.node? location = none ∧ b.node? location = some .directory
  working : b.workingDirectory = a.workingDirectory
  tree : a.IsTree → b.IsTree

namespace Grows

theorem refl (disk : Disk) : Grows disk disk := ⟨fun _ => .inl rfl, rfl, id⟩

theorem trans (h : Grows a b) (h' : Grows b c) : Grows a c where
  node location := by
    rcases h.node location with hab | ⟨hnone, hdir⟩
    · rw [← hab]
      exact h'.node location
    · rcases h'.node location with hbc | ⟨hnone', -⟩
      · exact .inr ⟨hnone, hbc.trans hdir⟩
      · exact absurd (hdir.symm.trans hnone') nofun
  working := h'.working.trans h.working
  tree := h'.tree ∘ h.tree

theorem of_same (h : Same a b) : Grows a b :=
  ⟨fun location => .inl (h.node? location), h.directories.working,
    fun htree => htree.touches h fun _ => False.elim⟩

theorem stay (h : Grows a b) : DirectoriesStay a b where
  node location hdir := by
    rcases h.node location with heq | ⟨-, hdir'⟩
    · rw [heq, hdir]
    · exact hdir'
  working := h.working

/-- The files are the same. -/
theorem file_iff (h : Grows a b) :
    b.node? location = some (.file bytes) ↔ a.node? location = some (.file bytes) := by
  rcases h.node location with heq | ⟨hnone, hdir⟩
  · rw [heq]
  · simp [hnone, hdir]

theorem put (hwalk : disk.walk (disk.startOf path) path.parts = .ok location)
    (hnode : disk.node? location = none) : Grows disk (disk.put location .directory) := by
  have hroot : location ≠ [] := by
    rintro rfl
    cases hnode
  have hput := node?_put hroot .directory disk
  refine ⟨fun other => ?_, rfl, fun htree => ⟨fun name place hchild => ?_, ?_⟩⟩
  · rw [hput]
    split
    · next hother => exact .inr ⟨hother ▸ hnode, rfl⟩
    · exact .inl rfl
  · obtain ⟨last, parent, rfl, hparent⟩ := htree.exists_parent hwalk hnode
    rw [hput] at hchild ⊢
    split
    · rfl
    · split at hchild
      · next hlast =>
          obtain ⟨-, rfl⟩ := List.cons.inj hlast
          exact hparent
      · exact htree.above name place hchild
  · rw [hput]
    split
    · rfl
    · exact htree.working

end Grows

/-! ## Making directories -/

/-- All that an operation does is to make directories. -/
def OnlyGrows (x : Action α) : Prop := ∀ disk, Grows disk (left x disk)

theorem keeps_find (path : Path) : Keeps id (find path) := by
  intro disk
  unfold left
  rw [find_apply]
  cases disk.found path <;> rfl

theorem keeps_look (path : Path) : Keeps id (look path) := by
  refine .bind (.tryCatch (.bind (keeps_find path) fun _ => .pure _) fun e => ?_) fun result => ?_
  · split
    · exact .pure _
    · exact .pure _
    · exact .pure _
    · exact .bind (.throw _) fun _ => .pure _
  · cases result <;> exact .pure _

theorem keeps_isDirectory (path : Path) : Keeps id (isDirectory path) :=
  .bind (keeps_look path) fun _ => .pure _

theorem moves_strike {R : Disk → Disk → Prop} (hsame : ∀ a b, Same a b → R a b)
    (point : FaultPoint) : Moves R (strike point) := by
  intro disk
  rcases strike_cases point disk with h | ⟨e, -, after, h, hafter⟩
  · rw [left_of_ok h]
    exact hsame disk disk (.refl disk)
  · rw [left_of_error h]
    exact hsame disk after hafter

theorem makeDirectory_apply (path : Path) (disk : Disk) :
    makeDirectory path disk =
      match disk.found path with
      | .error e => .error e disk
      | .ok location =>
        if (disk.node? location).isSome then
          .error (.system (.file .alreadyExists path.toString none)) disk
        else .ok ⟨⟩ (disk.put location .directory) := by
  unfold makeDirectory
  simp only [bind_apply, find_apply]
  cases disk.found path with
  | error e => rfl
  | ok location =>
      simp only
      split <;> rfl

/-- A path that names a null character leads to no directory that could be made. -/
theorem noNull_of_makeDirectories (h : makeDirectories path a = .ok ⟨⟩ b) :
    hasNull path = false := by
  rw [Bool.eq_false_iff]
  intro hnull
  have hmake (disk : Disk) : makeDirectory path disk = .error .embeddedNull disk := by
    rw [makeDirectory_apply, found, if_pos hnull]
  have hensure (disk : Disk) : ensureDirectories path disk = .error .embeddedNull disk := by
    rw [ensureDirectories, tryCatch_apply, hmake]
    rfl
  unfold makeDirectories at h
  rcases strike_bind_cases .makeDirectories _ a with hrest | ⟨e, -, after, hfails, -⟩
  · rw [hrest, hensure] at h
    cases h
  · rw [hfails] at h
    cases h

/-- One directory is put at the place of its path, if nothing is there. -/
theorem moves_makeDirectory {R : Disk → Disk → Prop} (hrefl : ∀ disk, R disk disk) (path : Path)
    (hput : ∀ disk location, disk.walk (disk.startOf path) path.parts = .ok location →
      disk.node? location = none → R disk (disk.put location .directory)) :
    Moves R (makeDirectory path) := by
  intro disk
  unfold left
  rw [makeDirectory_apply]
  cases hfound : disk.found path with
  | error e => exact hrefl disk
  | ok location =>
      have hlocate := ((found_eq_ok_iff _).mp hfound).2
      unfold locate at hlocate
      split at hlocate
      · cases hlocate
      · simp only
        cases hnode : disk.node? location with
        | some node => exact hrefl disk
        | none => exact hput disk location hlocate hnode

/-- All that is done for the directories of a path is to make single ones on the way. -/
theorem moves_ensureDirectories {R : Disk → Disk → Prop} (hrefl : ∀ disk, R disk disk)
    (htrans : ∀ a b c, R a b → R b c → R a c) (path : Path)
    (hmake : ∀ above rest, above.root = path.root → path.parts = above.parts ++ rest →
      Moves R (makeDirectory above)) : Moves R (ensureDirectories path) := by
  induction path using ensureDirectories.induct with
  | case1 path ih =>
    have hself : Moves R (makeDirectory path) := hmake path [] rfl (List.append_nil _).symm
    have hthrow (e : FileError) : Moves R (throw e : Action Unit) := .of_keeps hrefl (.throw e)
    have hcheck (e : FileError) :
        Moves R (do if !(← isDirectory path) then throw e : Action Unit) := by
      refine .bind htrans (.of_keeps hrefl (keeps_isDirectory path)) fun there => ?_
      exact .ite (hthrow e) (.of_keeps hrefl (.pure _))
    rw [ensureDirectories]
    refine .tryCatch htrans hself fun e => ?_
    split
    · refine .ite ?_ (hcheck _)
      split
      · exact hthrow _
      · next hparts =>
          refine .bind htrans (ih hparts fun above rest hroot hrest => ?_) fun _ => ?_
          · have hlast : path.parts = above.parts ++ (rest ++ [path.parts.getLast hparts]) := by
              rw [← List.append_assoc, ← hrest]
              exact (List.dropLast_append_getLast hparts).symm
            exact hmake above _ hroot hlast
          · refine .tryCatch htrans hself fun e => ?_
            split
            · refine .bind htrans (.of_keeps hrefl (keeps_isDirectory path)) fun there => ?_
              exact .ite (hthrow _) (.of_keeps hrefl (.pure _))
            · exact hthrow _
    · exact hthrow _

theorem onlyGrows_ensureDirectories (path : Path) : OnlyGrows (ensureDirectories path) :=
  moves_ensureDirectories .refl (fun _ _ _ => .trans) path fun above _ _ _ =>
    moves_makeDirectory .refl above fun _ _ => .put

theorem onlyGrows_makeDirectories (path : Path) : OnlyGrows (makeDirectories path) :=
  Moves.bind (fun _ _ _ => .trans) (moves_strike (fun _ _ => .of_same) _) fun _ =>
    onlyGrows_ensureDirectories path

/-! ## Directories that are missing -/

/-- A missing directory is made in the one above it. -/
theorem ensureDirectories_of_free (hfound : disk.found path = .ok location)
    (hnode : disk.node? location = none) :
    ensureDirectories path disk = .ok ⟨⟩ (disk.put location .directory) := by
  rw [ensureDirectories, tryCatch_apply, makeDirectory_apply, hfound]
  simp only [hnode, Option.isSome_none, Bool.false_eq_true, if_false]

/-- Once those above it are made, a directory may be there. -/
theorem ensureDirectories_of_above {e : SystemError} (hparts : path.parts ≠ [])
    (hfound : disk.found path = .error (.system e)) (hmissing : e.isNotFound = true)
    (habove : ensureDirectories path.parent disk = .ok ⟨⟩ a) (hthere : a.found path = .ok location)
    (hdir : a.node? location = some .directory) : ensureDirectories path disk = .ok ⟨⟩ a := by
  have hmake : makeDirectory path a =
      .error (.system (.file .alreadyExists path.toString none)) a := by
    rw [makeDirectory_apply, hthere]
    simp only [hdir, Option.isSome_some, if_true]
  have hensure : ensureDirectory path a = .ok ⟨⟩ a := by
    rw [ensureDirectory, tryCatch_apply, hmake]
    simp only [bind_apply, isDirectory_apply hthere hdir]
    rfl
  rw [ensureDirectories, tryCatch_apply, makeDirectory_apply, hfound]
  simp only [hmissing, if_true, hparts, dite_false, bind_apply, habove, hensure]

/-- A missing directory that a path goes up from at once is made all the same. -/
theorem makeDirectories_around (hcalm : Calm .makeDirectories disk)
    (hworking : disk.workingDirectory = []) (hfree : disk.node? ["a"] = none) :
    makeDirectories (Path.ofString "a/..") disk = .ok ⟨⟩ (disk.put ["a"] .directory) := by
  have hpath : Path.ofString "a/.." = { parts := ["a", ".."] } := by decide
  have hnull : hasNull (Path.ofString "a/..") = false := hasNull_ofString (by simp)
  have hparent : hasNull (Path.ofString "a") = false := hasNull_ofString (by simp)
  have hroot (disk : Disk) : disk.node? [] = some .directory := rfl
  have hput : (disk.put ["a"] .directory).node? ["a"] = some .directory := by
    rw [node?_put (by decide), if_pos rfl]
  have habove : disk.found (Path.ofString "a") = .ok ["a"] := by
    refine (found_eq_ok_iff _).mpr ⟨hparent, ?_⟩
    rw [locate, if_neg (by decide), startOf, hworking]
    rfl
  have hmissing : disk.found (Path.ofString "a/..") =
      .error (.system (.file .notFound "a/.." none)) := by
    have hlocate : disk.locate (Path.ofString "a/..") = .error .notFound := by
      rw [locate, if_neg (by decide), startOf, hworking, hpath]
      have hsize : "a".utf8ByteSize ≤ longestName := by decide
      simp [walk, hroot, hfree, Nat.not_lt_of_le hsize]
    rw [found, if_neg (by simp [hnull]), hlocate]
    rfl
  have hthere : (disk.put ["a"] .directory).found (Path.ofString "a/..") = .ok [] := by
    refine (found_eq_ok_iff _).mpr ⟨hnull, ?_⟩
    have hworking' : (disk.put ["a"] .directory).workingDirectory = [] := hworking
    have hsize : "a".utf8ByteSize ≤ longestName := by decide
    rw [locate, if_neg (by decide), startOf, hworking', hpath]
    simp [walk, hroot, hput, Nat.not_lt_of_le hsize]
  have hensure := ensureDirectories_of_above (by decide) hmissing rfl
    (ensureDirectories_of_free habove hfree) hthere rfl
  simp only [makeDirectories, bind_apply, strike_of_calm hcalm, hensure]
/-! ## Files that a path leads to -/

/-- Wherever the path goes up, it goes up from a directory that is there. -/
def Climbs (disk : Disk) (path : Path) : Prop :=
  ∀ down rest, path.parts = down ++ ".." :: rest →
    ∃ place, disk.walk (disk.startOf path) down = .ok place ∧ disk.node? place = some .directory

namespace Climbs

/-- So does every path that never goes up. -/
theorem of_not_mem (h : ".." ∉ path.parts) : disk.Climbs path := by
  intro down rest hparts
  exact absurd (by simp [hparts]) h

/-- So does every path to something that is there. -/
theorem of_walk (h : disk.walk (disk.startOf path) path.parts = .ok location) :
    disk.Climbs path := by
  intro down rest hparts
  rw [hparts, walk_append_eq_ok_iff] at h
  obtain ⟨place, hplace, hrest⟩ := h
  exact ⟨place, hplace, ((walk_cons_eq_ok_iff ..).mp hrest).1⟩

theorem stay (h : a.Climbs path) (hab : DirectoriesStay a b) : b.Climbs path := by
  intro down rest hparts
  obtain ⟨place, hplace, hdir⟩ := h down rest hparts
  refine ⟨place, ?_, hab.node _ hdir⟩
  rw [hab.startOf_eq]
  exact hab.walk _ hplace

theorem child (h : disk.Climbs path) {name : String} (hname : Path.IsName name)
    (hup : name ≠ "..") : disk.Climbs (path.child name) := by
  intro down rest hparts
  have hstart : disk.startOf (path.child name) = disk.startOf path := by
    rw [startOf, startOf, Path.root_child path hname]
  rw [Path.parts_child path hname] at hparts
  rcases List.eq_nil_or_concat rest with rfl | ⟨front, last, rfl⟩
  · exact absurd (List.singleton_inj.mp (List.append_inj' hparts rfl).2) hup
  · rw [List.concat_eq_append, ← List.cons_append, ← List.append_assoc] at hparts
    rw [hstart]
    exact h down front (List.append_inj' hparts rfl).1

end Climbs

/-- On the way to something that was there already there is no new directory. -/
theorem Grows.walk (hab : Grows a b) (htree : a.IsTree) (hclimbs : a.Climbs path)
    {parts rest : List String} (hparts : path.parts = parts ++ rest)
    (hwalk : b.walk (b.startOf path) parts = .ok location) (hnode : a.node? location ≠ none) :
    a.walk (a.startOf path) parts = .ok location := by
  rw [hab.stay.startOf_eq] at hwalk
  induction parts using List.reverseRecOn generalizing rest location with
  | nil => exact hwalk
  | append_singleton parts name ih =>
      rw [List.append_assoc] at hparts
      rw [walk_concat_eq_ok_iff] at hwalk ⊢
      obtain ⟨place, hplace, -, hlast⟩ := hwalk
      by_cases hup : name = ".."
      · subst hup
        obtain ⟨other, hother, hdir⟩ := hclimbs parts rest hparts
        obtain rfl := Except.ok.inj (hplace.symm.trans (hab.stay.walk _ hother))
        exact ⟨place, hother, hdir, hlast⟩
      · rw [if_neg hup] at hlast
        obtain ⟨hshort, rfl⟩ := hlast
        have hdir := htree.above name place hnode
        refine ⟨place, ih hparts hplace (by simp [hdir]), hdir, ?_⟩
        rw [if_neg hup]
        exact ⟨hshort, rfl⟩

/-- A path that climbs leads to nothing that was there already unless it did so before. -/
theorem Grows.found_of_node (hab : Grows a b) (htree : a.IsTree) (hclimbs : a.Climbs path)
    (hfound : b.found path = .ok location) (hnode : a.node? location ≠ none) :
    a.found path = .ok location := by
  rw [found_eq_ok_iff] at hfound ⊢
  refine ⟨hfound.1, ?_⟩
  have hlocate := hfound.2
  unfold locate at hlocate ⊢
  split at hlocate
  · cases hlocate
  · next hshort =>
      rw [if_neg hshort]
      exact hab.walk htree hclimbs (List.append_nil _).symm hlocate hnode

/-- Where only directories are new, a path that climbs leads to the same file as before, or to none
as before. -/
theorem Grows.content_eq_ok_iff (hab : Grows a b) (htree : a.IsTree) (hclimbs : a.Climbs path) :
    b.content path = .ok bytes ↔ a.content path = .ok bytes := by
  rw [Disk.content_eq_ok_iff, Disk.content_eq_ok_iff]
  constructor
  · rintro ⟨location, hfound, hfile⟩
    rw [hab.file_iff] at hfile
    exact ⟨location, hab.found_of_node htree hclimbs hfound (by simp [hfile]), hfile⟩
  · rintro ⟨location, hfound, hfile⟩
    exact ⟨location, hab.stay.found hfound, hab.file_iff.mpr hfile⟩

end SmartDevice.Disk
