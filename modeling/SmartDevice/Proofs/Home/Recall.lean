import SmartDevice.Proofs.Disk.Growth
import SmartDevice.Proofs.Home.Records

/-! # Storing a configuration wherever the home may be

The directory of a home need not be there: saving a configuration makes it, and may fail before,
halfway or afterwards. What counts as stored is then the configuration that was saved, or is what it
was before. -/

namespace SmartDevice

open Apply Disk World

variable {home : Home} {location : Location} {a b disk : Disk} {world : World}
  {config : Option Config}

/-- What a path without a null character leads to can only not be read. -/
theorem Disk.system_of_content {path : Path} {e : FileError} (hnull : hasNull path = false)
    (h : disk.content path = .error e) : ∃ cause, e = .system cause := by
  cases hfound : disk.found path with
  | error e' =>
      rw [content, hfound] at h
      cases h
      rw [found, if_neg (by simp [hnull])] at hfound
      cases hlocate : disk.locate path with
      | ok location =>
          rw [hlocate] at hfound
          cases hfound
      | error condition =>
          rw [hlocate] at hfound
          cases hfound
          exact ⟨_, rfl⟩
  | ok location =>
      rw [content_of_found hfound] at h
      split at h
      · cases h
        exact ⟨_, rfl⟩
      · cases h
        exact ⟨_, rfl⟩
      · cases h

namespace Home

/-! ## What counts as stored -/

theorem noNull_child {name : String} (hnull : hasNull home.path = false) (hname : Path.IsName name)
    (hplain : name.contains (Char.ofNat 0) = false) : hasNull (home.path.child name) = false := by
  rw [hasNull_child _ hname, hnull, hplain, Bool.or_self]

/-- What cannot be read does not count. -/
theorem recalled_of_not_content (hnormal : home.path.Normal) (hnull : hasNull home.path = false)
    (h : ∀ bytes, disk.content home.configFile ≠ .ok bytes) : home.recalled disk = .ok none := by
  have hchild : hasNull home.configFile = false := noNull_child hnull isName_config (by simp)
  cases hcontent : disk.content home.configFile with
  | ok bytes => exact absurd hcontent (h bytes)
  | error e =>
      obtain ⟨cause, rfl⟩ := system_of_content hchild hcontent
      rw [recalled, Config.stored, RecordFile.stored, ofString_configFile hnormal, hcontent]
      simp only [RecordFile.unread]
      cases hcause : cause.isNotFound with
      | true => simp only [if_true, bind, Except.bind, hcause]
      | false => rfl

/-- Only the bytes of the file count. -/
theorem recalled_congr (hnormal : home.path.Normal) (hnull : hasNull home.path = false)
    (h : ∀ bytes, b.content home.configFile = .ok bytes ↔ a.content home.configFile = .ok bytes) :
    home.recalled b = home.recalled a := by
  cases hcontent : a.content home.configFile with
  | ok bytes =>
      have hsame := (h bytes).mpr hcontent
      rw [recalled, recalled, Config.stored, Config.stored, RecordFile.stored, RecordFile.stored,
        ofString_configFile hnormal, hcontent, hsame]
  | error e =>
      have hnone (bytes : List UInt8) : a.content home.configFile ≠ .ok bytes := by
        simp [hcontent]
      rw [recalled_of_not_content hnormal hnull hnone,
        recalled_of_not_content hnormal hnull fun bytes => mt (h bytes).mp (hnone bytes)]

theorem recalled_of_same (hnormal : home.path.Normal) (hnull : hasNull home.path = false)
    (h : Same a b) : home.recalled b = home.recalled a :=
  recalled_congr hnormal hnull fun _ => h.content_eq_ok_iff fun _ _ => id

theorem recalled_of_inLine (hnormal : home.path.Normal) (hnull : hasNull home.path = false)
    (h : home.InLine disk config) : home.recalled disk = .ok config := by
  cases config with
  | none =>
      refine recalled_of_not_content hnormal hnull fun bytes hcontent => ?_
      obtain ⟨location, hfound, hfile⟩ := content_eq_ok_iff.mp hcontent
      exact absurd (hfile.symm.trans (h location hfound)) nofun
  | some config =>
      have hcontent : disk.content home.configFile =
          .ok (Text.Utf8.encode config.toText.toList) := h
      rw [← ofString_configFile hnormal] at hcontent
      rw [recalled, Config.stored_of_content config hcontent]

/-! ## Storing -/

theorem name?_configFile (home : Home) : home.configFile.name? = some "config.json" :=
  Path.name?_child _ isName_config

theorem sibling_configFile (home : Home) :
    home.configFile.sibling ("config.json" ++ ".tmp") = home.path.child "config.json.tmp" :=
  Path.sibling_child _ isName_config isName_temporary

/-- The places where a home has its configuration and the temporary file beside it. -/
def HasPlace (home : Home) (disk : Disk) (location : Location) : Prop :=
  disk.found home.configFile = .ok location ∨
    disk.found (home.path.child "config.json.tmp") = .ok location

theorem HasPlace.exists_parent (h : home.HasPlace disk location) :
    ∃ name place, location = name :: place ∧ disk.node? place = some .directory := by
  rcases h with h | h
  · obtain ⟨place, hplace⟩ := exists_parent_of_found isName_config (by decide) h
    exact ⟨_, place, hplace⟩
  · obtain ⟨place, hplace⟩ := exists_parent_of_found isName_temporary (by decide) h
    exact ⟨_, place, hplace⟩

/-- The temporary file is another file than that of the configuration. -/
theorem config_ne_temporary (hconfig : disk.found home.configFile = .ok location) :
    disk.found (home.path.child "config.json.tmp") ≠ .ok location := by
  intro htemporary
  obtain ⟨place, rfl, -⟩ := exists_parent_of_found isName_config (by decide) hconfig
  obtain ⟨other, hother, -⟩ := exists_parent_of_found isName_temporary (by decide) htemporary
  exact absurd (List.cons.inj hother).1 (by decide)

/-- Saving makes directories first and then changes files, that of the configuration only if it
succeeds. -/
theorem saveConfig_grows (home : Home) (config : Config) (world : World) :
    ∃ grown, Grows world.disk grown ∧
      match home.saveConfig config world with
      | .ok _ after => Touches (home.HasPlace grown) grown after.disk
      | .error _ after =>
        Touches (grown.found (home.path.child "config.json.tmp") = .ok ·) grown after.disk := by
  unfold saveConfig
  rcases onDisk_strike_cases .saveConfig _ world with hs | ⟨e, disk, hs, hsame⟩
  · rw [hs]
    have hgrows := onlyGrows_makeDirectories home.path world.disk
    simp only [bind_apply, tryCatch_apply, makeDirectory, onDisk_apply]
    unfold left at hgrows
    cases hm : makeDirectories home.path world.disk with
    | error e grown =>
        rw [hm] at hgrows
        refine ⟨grown, hgrows, ?_⟩
        cases e <;> exact .refl grown
    | ok answer grown =>
        rw [hm] at hgrows
        refine ⟨grown, hgrows, ?_⟩
        simp only [Config.save]
        rcases RecordFile.replace_cases home.name?_configFile config.toText
            { world with disk := grown } with
          ⟨source, goal, disk, hsource, hgoal, hr, hreplaced⟩ | ⟨e, disk, hr, habandoned⟩
        · rw [hr]
          refine hreplaced.touches.mono ?_
          rintro location (rfl | rfl)
          · exact .inr (home.sibling_configFile ▸ hsource)
          · exact .inl hgoal
        · rw [hr]
          exact home.sibling_configFile ▸ habandoned
  · rw [hs]
    exact ⟨world.disk, .refl _, hsame.touches⟩

end Home

namespace Device

theorem store_grows (home : Home) (config : Option Config) (world : World)
    (ht : config = none → home.Truthful world.disk) :
    ∃ grown, Grows world.disk grown ∧
      match store home config world with
      | .ok _ after => Touches (home.HasPlace grown) grown after.disk
      | .error _ after =>
        Touches (grown.found (home.path.child "config.json.tmp") = .ok ·) grown after.disk := by
  rw [store_apply]
  cases config with
  | none =>
      rw [Option.elim_none]
      refine ⟨world.disk, .refl _, ?_⟩
      rcases Home.removeConfig_cases (ht rfl) with ⟨disk, hr, htouches, -⟩ | ⟨e, disk, hr, hsame⟩
      · rw [hr]
        exact htouches.mono fun _ => .inl
      · rw [hr]
        exact hsame.touches
  | some config =>
      rw [Option.elim_some]
      obtain ⟨grown, hgrows, htouches⟩ := home.saveConfig_grows config world
      refine ⟨grown, hgrows, ?_⟩
      cases hs : home.saveConfig config world with
      | ok answer after =>
          rw [hs] at htouches
          exact htouches
      | error e after =>
          rw [hs] at htouches
          exact htouches

/-- A disk with a home in which what is stored can be found again. -/
structure Standing (home : Home) (disk : Disk) : Prop where
  normal : home.path.Normal
  noNull : hasNull home.path = false
  tree : disk.IsTree
  climbs : disk.Climbs home.path

theorem Standing.same (h : Standing home a) (hab : Same a b) : Standing home b :=
  ⟨h.normal, h.noNull, h.tree.touches hab fun _ => False.elim,
    h.climbs.stay hab.directories.stay⟩

/-- What is stored is what was to be stored, or else what was stored before. -/
theorem store_recalls (h : Standing home world.disk) (config : Option Config)
    (ht : config = none → home.Truthful world.disk) :
    (∀ after, store home config world = .ok ⟨⟩ after →
      Standing home after.disk ∧ home.recalled after.disk = .ok config) ∧
    ∀ e after, store home config world = .error e after →
      Standing home after.disk ∧ home.recalled after.disk = home.recalled world.disk := by
  obtain ⟨grown, hgrows, htouches⟩ := store_grows home config world ht
  have hstanding {P : Location → Prop} {disk : Disk} (htouches : Touches P grown disk)
      (hP : ∀ location, P location → home.HasPlace grown location) : Standing home disk := by
    refine ⟨h.normal, h.noNull, ?_, (h.climbs.stay hgrows.stay).stay htouches.directories.stay⟩
    exact (hgrows.tree h.tree).touches htouches fun location hlocation =>
      (hP location hlocation).exists_parent
  refine ⟨fun after hstore => ?_, fun e after hstore => ?_⟩
  · rw [hstore] at htouches
    refine ⟨hstanding htouches fun _ => id, ?_⟩
    exact Home.recalled_of_inLine h.normal h.noNull (inLine_of_store ht hstore)
  · rw [hstore] at htouches
    refine ⟨hstanding htouches fun _ => .inr, ?_⟩
    refine Home.recalled_congr h.normal h.noNull fun bytes => ?_
    rw [htouches.content_eq_ok_iff fun location => Home.config_ne_temporary]
    exact hgrows.content_eq_ok_iff h.tree (h.climbs.child Home.isName_config (by decide))

end Device

end SmartDevice
