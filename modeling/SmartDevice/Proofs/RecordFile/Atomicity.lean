import SmartDevice.Proofs.Disk.Reasons

/-! # Whoever looks at a file that is replaced sees a complete text

The temporary file lies beside the file, so wherever the one can be written, the other has a place
too, and it is another place. Only the last step of a replacement touches that place. -/

namespace SmartDevice

open Apply Disk World

variable {a b before after disk : Disk} {location source : Location} {path file temporary : Path}
  {name text : String}

/-! ## A file and the one beside it -/

namespace Path

theorem parts_of_name? (h : path.name? = some name) :
    path.parts = path.parts.dropLast ++ [name] :=
  (List.dropLast_append_getLast? name h).symm

theorem sibling_name (h : path.name? = some name) : path.sibling name = path := by
  rw [sibling, ← parts_of_name? h]

/-- The texts of a path and of those beside it differ in the last name only. -/
theorem toString_sibling (path : Path) :
    ∃ front : String, ∀ name, (path.sibling name).toString = front ++ name := by
  have htext (name : String) : (path.sibling name).toString =
      path.root.toString ++ "/".intercalate (path.parts.dropLast ++ [name]) := by
    rw [toString, if_neg (fun h => by simp [sibling] at h)]
    rfl
  by_cases hparts : path.parts.dropLast = []
  · refine ⟨path.root.toString, fun name => ?_⟩
    rw [htext, hparts, List.nil_append, String.intercalate_singleton]
  · refine ⟨path.root.toString ++ "/".intercalate path.parts.dropLast ++ "/", fun name => ?_⟩
    rw [htext, String.intercalate_append_of_ne_nil hparts (by simp),
      String.intercalate_singleton]
    simp only [String.append_assoc]

end Path

namespace Disk

theorem hasNull_sibling {suffix : String} (hname : file.name? = some name)
    (h : hasNull file = false) (hsuffix : suffix.contains (Char.ofNat 0) = false) :
    hasNull (file.sibling (name ++ suffix)) = false := by
  rw [hasNull, Path.parts_of_name? hname, List.any_append, Bool.or_eq_false_iff] at h
  rw [String.contains_char_eq, decide_eq_false_iff_not] at hsuffix
  have hlast : name.contains (Char.ofNat 0) = false := by simpa using h.2
  rw [String.contains_char_eq, decide_eq_false_iff_not] at hlast
  rw [hasNull, Path.sibling, List.any_append, h.1, Bool.false_or, List.any_cons, List.any_nil,
    Bool.or_false, String.contains_char_eq, decide_eq_false_iff_not, String.toList_append,
    List.mem_append, not_or]
  exact ⟨hlast, hsuffix⟩

/-- What lies beside a file is looked up in the same directory. -/
theorem locate_sibling_eq_ok_iff (file : Path) (name : String) :
    disk.locate (file.sibling name) = .ok location ↔
      (file.sibling name).toString.utf8ByteSize ≤ longestPath ∧
        ∃ place, disk.walk (disk.startOf file) file.parts.dropLast = .ok place ∧
          disk.node? place = some .directory ∧
          if name = ".." then location = place.tail
          else name.utf8ByteSize ≤ longestName ∧ location = name :: place := by
  unfold locate
  split
  · next hlong => simp [Nat.not_le_of_lt hlong]
  · next hshort =>
      change disk.walk (disk.startOf file) (file.parts.dropLast ++ [name]) = _ ↔ _
      rw [walk_concat_eq_ok_iff]
      simp only [Nat.le_of_not_lt hshort, true_and]

theorem utf8ByteSize_temporary (name : String) :
    (name ++ ".tmp").utf8ByteSize = name.utf8ByteSize + 4 :=
  String.utf8ByteSize_append

theorem temporary_ne_up (name : String) : name ++ ".tmp" ≠ ".." := by
  intro heq
  have hsize := utf8ByteSize_temporary name
  rw [heq] at hsize
  change 2 = _ at hsize
  omega

theorem temporary_ne_self (name : String) : name ++ ".tmp" ≠ name := by
  intro heq
  have hsize := utf8ByteSize_temporary name
  rw [heq] at hsize
  omega

/-- Where the temporary file has a place, the file has another one. -/
theorem exists_found_of_temporary (hname : file.name? = some name) (hnull : hasNull file = false)
    (h : disk.found (file.sibling (name ++ ".tmp")) = .ok source) :
    ∃ goal, disk.found file = .ok goal ∧ source ≠ goal := by
  obtain ⟨front, hfront⟩ := file.toString_sibling
  obtain ⟨hpath, place, hwalk, hplace, hlast⟩ :=
    (locate_sibling_eq_ok_iff _ _).mp ((found_eq_ok_iff _).mp h).2
  rw [if_neg (temporary_ne_up name), utf8ByteSize_temporary] at hlast
  rw [hfront, String.utf8ByteSize_append, utf8ByteSize_temporary] at hpath
  obtain ⟨hsize, rfl⟩ := hlast
  have hgoal (goal : Location) (hlast : if name = ".." then goal = place.tail
      else name.utf8ByteSize ≤ longestName ∧ goal = name :: place) : disk.found file = .ok goal := by
    rw [← Path.sibling_name hname] at hnull ⊢
    refine (found_eq_ok_iff _).mpr ⟨hnull, ?_⟩
    refine (locate_sibling_eq_ok_iff _ _).mpr ⟨?_, place, hwalk, hplace, hlast⟩
    rw [hfront, String.utf8ByteSize_append]
    omega
  -- Two dots lead up from the directory, any other name into it.
  by_cases hup : name = ".."
  · refine ⟨place.tail, hgoal _ (by rw [if_pos hup]), fun heq => ?_⟩
    have hlength := congrArg List.length heq
    rw [List.length_cons, List.length_tail] at hlength
    omega
  · have hshort : name.utf8ByteSize ≤ longestName := by omega
    refine ⟨name :: place, hgoal _ ?_, fun heq => temporary_ne_self name (List.cons.inj heq).1⟩
    rw [if_neg hup]
    exact ⟨hshort, rfl⟩

/-! ## Disks with the same files -/

theorem Same.content_eq (h : Same a b) (path : Path) : b.content path = a.content path := by
  simp only [content, h.found_eq, h.node?]

end Disk

/-! ## The two ends of a replacement -/

namespace RecordFile

/-- The file holds the text and the temporary file is gone; nothing else is different. -/
structure Completed (temporary file : Path) (text : String) (before after : Disk) : Prop where
  written : after.content file = .ok (Text.Utf8.encode text.toList)
  gone : after.content temporary = .error (.system (.file .notFound temporary.toString none))
  elsewhere : Touches (fun location => before.found temporary = .ok location ∨
    before.found file = .ok location) before after

/-- All is as before but for the temporary file, of which no bytes are left either unless its
removal was to fail. -/
structure GivenUp (temporary file : Path) (before after : Disk) : Prop where
  kept : after.content file = before.content file
  elsewhere : Abandoned temporary before after
  removed : ∀ bytes, after.content temporary = .ok bytes → ∃ e, (.unlink, e) ∈ before.faults

theorem Abandoned.content_eq (hname : file.name? = some name) (hnull : hasNull file = false)
    (h : Abandoned (file.sibling (name ++ ".tmp")) before after) :
    after.content file = before.content file := by
  cases htemporary : before.found (file.sibling (name ++ ".tmp")) with
  | error e =>
      refine Same.content_eq (h.mono fun location hlocation => ?_) file
      cases htemporary.symm.trans hlocation
  | ok source =>
      obtain ⟨goal, hgoal, hne⟩ := exists_found_of_temporary hname hnull htemporary
      refine h.directories.content_eq hgoal (h.elsewhere goal fun hsource => hne ?_)
      exact Except.ok.inj (htemporary.symm.trans hsource)

theorem Replaced.completed {goal : Location} (hname : file.name? = some name)
    (hnull : hasNull file = false)
    (hsource : before.found (file.sibling (name ++ ".tmp")) = .ok source)
    (hgoal : before.found file = .ok goal) (h : Replaced source goal text before after) :
    Completed (file.sibling (name ++ ".tmp")) file text before after := by
  obtain ⟨other, hother, hne⟩ := exists_found_of_temporary hname hnull hsource
  obtain rfl : goal = other := Except.ok.inj (hgoal.symm.trans hother)
  refine ⟨content_eq_ok_iff.mpr ⟨goal, ?_, h.written⟩, ?_, h.touches.mono ?_⟩
  · exact (h.touches.directories.found_eq_ok_iff _).mpr hgoal
  · rw [content_of_found ((h.touches.directories.found_eq_ok_iff _).mpr hsource), h.removed hne]
  · rintro location (rfl | rfl)
    · exact .inl hsource
    · exact .inr hgoal

/-! ## Between the steps -/

/-- At every stage the file is as it was, until with the last step it holds the whole text. -/
theorem Stage.content_of_stands {stage : Stage} {now : Disk} (hname : file.name? = some name)
    (hnull : hasNull file = false)
    (h : Stands (file.sibling (name ++ ".tmp")) file text before (stage, now)) :
    if stage = .done then now.content file = .ok (Text.Utf8.encode text.toList)
    else now.content file = before.content file := by
  have hkept (h : Abandoned (file.sibling (name ++ ".tmp")) before now) :
      now.content file = before.content file :=
    h.content_eq hname hnull
  cases stage with
  | opening => exact hkept h.touches
  | writing place => exact hkept h.1.touches
  | syncing => exact hkept h.1.touches
  | moving => exact hkept h.1.touches
  | clearing cause => exact hkept h.touches
  | done =>
      obtain ⟨source, goal, hsource, hgoal, hreplaced⟩ := h
      exact (hreplaced.completed hname hnull hsource hgoal).written
  | reported cause => exact hkept h.1
  | broken e => exact hkept h

/-- Nothing is in the way of replacing a file. -/
structure Ready (file : Path) (disk : Disk) : Prop where
  calm : ∀ point, Calm point disk
  free : ∃ name source goal, file.name? = some name ∧ name ≠ ".." ∧
    disk.found (file.sibling (name ++ ".tmp")) = .ok source ∧ disk.found file = .ok goal ∧
    disk.node? source ≠ some .directory ∧ disk.node? goal ≠ some .directory

theorem replace_of_ready {world : World} (h : Ready file world.disk) (text : String) :
    ∃ disk, replace file text world = .ok ⟨⟩ { world with disk } ∧ Ready file disk := by
  obtain ⟨name, source, goal, hname, hup, hsource, hgoal, hfree, hfree'⟩ := h.free
  obtain ⟨disk, hreplace, hfaults⟩ :=
    replace_of_calm hname hup h.calm hsource hgoal hfree hfree' text
  rcases replace_cases hname text world with
    ⟨source', goal', disk', -, -, hx, hreplaced⟩ | ⟨e, disk', hx, -⟩
  · obtain rfl : disk = disk' := by
      rw [hx] at hreplace
      cases hreplace
      rfl
    have hsame := hreplaced.touches.directories
    refine ⟨disk, hreplace, fun point e hmem => h.calm point e (hfaults ▸ hmem), name, source, goal,
      hname, hup, ?_⟩
    rw [hsame.found_eq_ok_iff, hsame.found_eq_ok_iff]
    exact ⟨hsource, hgoal, mt (hsame.node _).mp hfree, mt (hsame.node _).mp hfree'⟩
  · rw [hx] at hreplace
    cases hreplace

/-- Of a replacement that has failed no temporary file is left, unless its removal was to fail. -/
theorem gone_of_replace_error {world after : World} {e : Failure} (hname : file.name? = some name)
    (hnull : hasNull file = false) (hcalm : Calm .unlink world.disk)
    (h : replace file text world = .error e after) (bytes : List UInt8) :
    after.disk.content (file.sibling (name ++ ".tmp")) ≠ .ok bytes := by
  have hreport := raises_replace_report hname hnull
    (hasNull_sibling hname hnull (by simp)) text world e after h
  have hending := Stage.ending?_reached hname text world
  have hstands := Stage.stands_reached (file.sibling (name ++ ".tmp")) file text world.disk 5
  rw [h] at hending
  generalize Stage.reached (file.sibling (name ++ ".tmp")) file text world.disk 5 = state
    at hending hstands
  obtain ⟨stage, disk⟩ := state
  cases stage with
  | reported cause =>
      cases hending
      exact hstands.2 hcalm bytes
  | broken cause =>
      cases hending
      exact hreport.elim
  | _ => cases hending

/-- Replacing a file either puts the whole text there or reports why it cannot, and then leaves
everything but the temporary file as it was, whichever steps fail. It succeeds where nothing is in
the way. It takes five steps at most, and after any number of them the file is either as it was or
holds the whole text. -/
theorem replace_is_atomic (hname : file.name? = some name) (hnull : hasNull file = false)
    (text : String) (world : World) :
    ((∃ disk, replace file text world = .ok ⟨⟩ { world with disk } ∧
        Completed (file.sibling (name ++ ".tmp")) file text world.disk disk) ∨
      ∃ cause disk, replace file text world =
          .error (.storage (.write file.toString cause)) { world with disk } ∧
        GivenUp (file.sibling (name ++ ".tmp")) file world.disk disk) ∧
    (Ready file world.disk → ∃ disk, replace file text world = .ok ⟨⟩ { world with disk }) ∧
    Stage.ending? file world
        (Stage.reached (file.sibling (name ++ ".tmp")) file text world.disk 5) =
      some (replace file text world) ∧
    ∀ n stage disk,
      Stage.reached (file.sibling (name ++ ".tmp")) file text world.disk n = (stage, disk) →
      if stage = .done then disk.content file = .ok (Text.Utf8.encode text.toList)
      else disk.content file = world.disk.content file := by
  have hending := Stage.ending?_reached hname text world
  have hstands := Stage.stands_reached (file.sibling (name ++ ".tmp")) file text world.disk
  refine ⟨?_, fun h => (replace_of_ready h text).imp fun _ => And.left, hending,
    fun n stage disk hreached =>
      Stage.content_of_stands hname hnull (hreached ▸ hstands n)⟩
  have hreport := raises_replace_report hname hnull
    (hasNull_sibling hname hnull (by simp)) text world
  have hlast := hstands 5
  generalize Stage.reached (file.sibling (name ++ ".tmp")) file text world.disk 5 = state
    at hending hlast
  obtain ⟨stage, disk⟩ := state
  cases stage with
  | done =>
      obtain ⟨source, goal, hsource, hgoal, hreplaced⟩ := hlast
      exact .inl ⟨disk, (Option.some.inj hending).symm,
        hreplaced.completed hname hnull hsource hgoal⟩
  | reported cause =>
      obtain ⟨habandoned, hremoved⟩ := hlast
      refine .inr ⟨cause, disk, (Option.some.inj hending).symm,
        habandoned.content_eq hname hnull, habandoned, fun bytes hbytes => ?_⟩
      by_contra hcalm
      exact hremoved (fun e he => hcalm ⟨e, he⟩) bytes hbytes
  | broken e => exact (hreport _ _ (Option.some.inj hending).symm).elim
  | _ => cases hending

/-- A directory stands where the temporary file would have to be. -/
def blockedWorld : World where
  disk := { nodes := [(["config.json"], .file [0x7B, 0x7D]), (["config.json.tmp"], .directory)] }

/-- The file keeps its two braces there. -/
theorem blocked_file_is_kept :
    ∃ cause disk, replace (Path.ofString "config.json") "null" blockedWorld =
        .error (.storage (.write "config.json" cause)) { blockedWorld with disk } ∧
      disk.content (Path.ofString "config.json") = .ok [0x7B, 0x7D] := by
  have hname : (Path.ofString "config.json").name? = some "config.json" := by decide
  have hnull : hasNull (Path.ofString "config.json") = false := hasNull_ofString (by simp)
  have hsibling : hasNull ((Path.ofString "config.json").sibling ("config.json" ++ ".tmp")) =
      false :=
    hasNull_sibling hname hnull (by simp)
  have hsource : blockedWorld.disk.found
      ((Path.ofString "config.json").sibling ("config.json" ++ ".tmp")) =
        .ok ["config.json.tmp"] :=
    (found_eq_ok_iff _).mpr ⟨hsibling, by decide +kernel⟩
  have hgoal : blockedWorld.disk.found (Path.ofString "config.json") = .ok ["config.json"] :=
    (found_eq_ok_iff _).mpr ⟨hnull, by decide +kernel⟩
  rcases (replace_is_atomic hname hnull "null" blockedWorld).1 with
    ⟨disk, -, hcompleted⟩ | ⟨cause, disk, hreplace, hgivenUp⟩
  · have hsame := hcompleted.elsewhere.directories
    have hgone := hcompleted.gone
    rw [content_of_found ((hsame.found_eq_ok_iff _).mpr hsource), (hsame.node _).mpr rfl] at hgone
    cases hgone
  · refine ⟨cause, disk, hreplace, hgivenUp.kept.trans ?_⟩
    exact content_eq_ok_iff.mpr ⟨["config.json"], hgoal, rfl⟩

end RecordFile

end SmartDevice
