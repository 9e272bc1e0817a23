import SmartDevice.Device
import SmartDevice.Proofs.RecordFile.Reading
import SmartDevice.Proofs.RecordFile.Replacement

/-! # The records of a home -/

namespace SmartDevice

open Apply Disk World

variable {home : Home} {place location : Location} {disk : Disk} {world : World}

namespace Home

/-! ## Places -/

theorem isName_config : Path.IsName "config.json" := by decide

theorem isName_temporary : Path.IsName "config.json.tmp" := by decide

theorem isName_identity : Path.IsName "device.json" := by decide

/-- A home whose directory is there, with all its files directly below it. -/
structure Resides (home : Home) (place : Location) (disk : Disk) : Prop where
  holds : disk.Holds home.path place
  noNull : hasNull home.path = false
  config : disk.locate home.configFile = .ok ("config.json" :: place)

theorem hasNull_child (base : Path) {name : String} (h : Path.IsName name) :
    hasNull (base.child name) = (hasNull base || name.contains (Char.ofNat 0)) := by
  rw [hasNull, Path.parts_child base h, List.any_append, hasNull]
  simp

/-- A home resides where its identity is found. -/
theorem resides_of_identity (h : disk.found home.identityFile = .ok location) :
    ∃ place, home.Resides place disk := by
  obtain ⟨hnull, hlocated⟩ := (found_eq_ok_iff _).mp h
  obtain ⟨place, hplace, rfl⟩ := holds_of_child isName_identity (by decide) hlocated
  rw [identityFile, hasNull_child _ isName_identity, Bool.or_eq_false_iff] at hnull
  refine ⟨place, hplace, hnull.1, ?_⟩
  exact hplace.locate_child isName_identity (by decide) isName_config (by decide) (by decide)
    hlocated

namespace Resides

theorem sameDirectories {a b : Disk} (h : home.Resides place a) (hab : SameDirectories a b) :
    home.Resides place b where
  holds := hab.holds h.holds
  noNull := h.noNull
  config := (hab.locate_eq_ok_iff _).mpr h.config

theorem found_home (h : home.Resides place disk) : disk.found home.path = .ok place :=
  (found_eq_ok_iff _).mpr ⟨h.noNull, h.holds.located⟩

theorem found_config (h : home.Resides place disk) :
    disk.found home.configFile = .ok ("config.json" :: place) := by
  refine (found_eq_ok_iff _).mpr ⟨?_, h.config⟩
  rw [configFile, hasNull_child _ isName_config, h.noNull]
  simp

theorem eq_temporary (h : home.Resides place disk)
    (hfound : disk.found (home.configFile.sibling "config.json.tmp") = .ok location) :
    location = "config.json.tmp" :: place := by
  rw [configFile, Path.sibling_child _ isName_config isName_temporary] at hfound
  exact h.holds.eq_child isName_temporary (by decide) ((found_eq_ok_iff _).mp hfound).2

end Resides

/-! ## Reading -/

/-- The configuration that counts as stored on a disk. -/
def recalled (home : Home) (disk : Disk) : Except Failure (Option Config) :=
  match Config.stored home.configFile.toString disk with
  | .ok config => .ok (some config)
  | .error (.file (.system e)) => if e.isNotFound then .ok none else .error (.file (.system e))
  | .error (.storage _) => .ok none
  | .error e => .error e

theorem loadConfig_cases (home : Home) (h : Calm .read world.disk) :
    answer home.loadConfig world = home.recalled world.disk ∧
      (left home.loadConfig world).disk = world.disk := by
  unfold answer left loadConfig recalled
  simp only [tryCatch_apply, bind_apply, Config.load_apply h]
  cases Config.stored home.configFile.toString world.disk with
  | ok config => exact ⟨rfl, rfl⟩
  | error e =>
      cases e with
      | storage cause => exact ⟨rfl, rfl⟩
      | file cause =>
          cases cause with
          | system cause =>
              simp only
              cases cause.isNotFound <;> exact ⟨rfl, rfl⟩
          | embeddedNull => exact ⟨rfl, rfl⟩
          | nameless path => exact ⟨rfl, rfl⟩
      | _ => exact ⟨rfl, rfl⟩

/-- The path of the file is in normal form, so that its text leads to the same place. -/
theorem ofString_configFile (h : home.path.Normal) :
    Path.ofString home.configFile.toString = home.configFile :=
  Path.ofString_toString (h.child isName_config)

theorem recalled_of_same_file {a b : Disk} (hnormal : home.path.Normal)
    (h : home.Resides place a) (hab : SameDirectories a b)
    (hfile : b.node? ("config.json" :: place) = a.node? ("config.json" :: place)) :
    home.recalled b = home.recalled a := by
  have hcontent := hab.content_eq h.found_config hfile
  rw [← ofString_configFile hnormal] at hcontent
  rw [recalled, recalled, Config.stored, Config.stored, RecordFile.stored, RecordFile.stored,
    hcontent]

theorem recalled_none (hnormal : home.path.Normal) (h : home.Resides place disk)
    (hfile : disk.node? ("config.json" :: place) = none) : home.recalled disk = .ok none := by
  have hcontent := content_of_found h.found_config
  rw [hfile, ← ofString_configFile hnormal] at hcontent
  rw [recalled, Config.stored, RecordFile.stored, hcontent]
  rfl

theorem recalled_some (hnormal : home.path.Normal) (h : home.Resides place disk) (config : Config)
    (hfile : disk.node? ("config.json" :: place) =
      some (.file (Text.Utf8.encode config.toText.toList))) :
    home.recalled disk = .ok (some config) := by
  have hcontent := content_of_found h.found_config
  rw [hfile, ← ofString_configFile hnormal] at hcontent
  rw [recalled, Config.stored_of_content config hcontent]

/-! ## Writing -/

/-- A removal that is going to fail reports the stored configuration as missing only if it is. -/
def Truthful (home : Home) (disk : Disk) : Prop :=
  ∀ e, (.unlink, e) ∈ disk.faults → e.isNotFound = true →
    ∀ location, disk.found home.configFile = .ok location → disk.node? location = none

/-- What comes after a fault around the whole operation that did not strike. -/
theorem onDisk_strike_cases (point : FaultPoint) (rest : Unit → Action Unit) (world : World) :
    (onDisk (strike point) >>= rest) world = rest ⟨⟩ world ∨
      ∃ e disk, (onDisk (strike point) >>= rest) world = .error e { world with disk } ∧
        Same world.disk disk := by
  rw [bind_apply, onDisk_apply]
  rcases strike_cases point world.disk with h | ⟨e, -, after, h, hsame⟩
  · exact .inl (by rw [h])
  · exact .inr ⟨_, after, by rw [h], hsame⟩

/-- A removal leaves nothing where the configuration would be found, or fails and changes no
file. -/
theorem removeConfig_cases (ht : home.Truthful world.disk) :
    (∃ disk, home.removeConfig world = .ok ⟨⟩ { world with disk } ∧
        Touches (world.disk.found home.configFile = .ok ·) world.disk disk ∧
        disk.Absent home.configFile) ∨
      ∃ e disk, home.removeConfig world = .error e { world with disk } ∧ Same world.disk disk := by
  unfold removeConfig
  rcases onDisk_strike_cases .removeConfig _ world with hs | ⟨e, disk, hs, hsame⟩
  · rw [hs]
    simp only [tryCatch_apply, onDisk_apply]
    rcases unlink_cases home.configFile world.disk with ⟨location, bytes, hfound, hnode, hu⟩ |
      ⟨e, ⟨after, hu, hsame⟩, hmissing⟩
    · have hfree : world.disk.node? location ≠ some .directory := by
        rw [hnode]
        simp
      have htouches := touches_erase hfree
      left
      rw [hu]
      refine ⟨_, rfl, htouches.mono ?_, fun other hother => ?_⟩
      · rintro other rfl
        exact hfound
      · rw [htouches.directories.found_eq_ok_iff, hfound] at hother
        obtain rfl := Except.ok.inj hother
        rw [node?_erase (ne_root hfree), if_pos rfl]
    · rw [hu]
      cases e with
      | embeddedNull => exact .inr ⟨_, after, rfl, hsame⟩
      | nameless path => exact .inr ⟨_, after, rfl, hsame⟩
      | system cause =>
          simp only
          cases hcause : cause.isNotFound with
          | false => exact .inr ⟨_, after, rfl, hsame⟩
          | true =>
              left
              refine ⟨after, rfl, hsame.touches, fun location hlocation => ?_⟩
              rw [hsame.directories.found_eq_ok_iff] at hlocation
              rw [hsame.node?]
              rcases hmissing cause rfl hcause with hfault | hnone
              · exact ht cause hfault hcause location hlocation
              · exact hnone location hlocation
  · exact .inr ⟨e, disk, hs, hsame⟩

theorem removeConfig_of_file {bytes : List UInt8} (h : ∀ point, Calm point world.disk)
    (hfound : world.disk.found home.configFile = .ok location)
    (hnode : world.disk.node? location = some (.file bytes)) :
    home.removeConfig world = .ok ⟨⟩ { world with disk := world.disk.erase location } := by
  unfold removeConfig
  simp only [bind_apply, tryCatch_apply, onDisk_apply, strike_of_calm (h .removeConfig),
    unlink_of_file (h .unlink) hfound hnode]

theorem makeDirectory_cases (h : home.Resides place world.disk) :
    home.makeDirectory world = .ok ⟨⟩ world ∨
      ∃ e disk, home.makeDirectory world = .error (.file e) { world with disk } ∧
        Same world.disk disk := by
  unfold makeDirectory
  rw [onDisk_apply]
  rcases makeDirectories_cases h.found_home h.holds.directory with hm | ⟨e, after, hm, hsame⟩
  · exact .inl (by rw [hm])
  · exact .inr ⟨e, after, by rw [hm], hsame⟩

theorem saveConfig_cases (h : home.Resides place world.disk) (config : Config) :
    (∃ disk, home.saveConfig config world = .ok ⟨⟩ { world with disk } ∧
        RecordFile.Replaced ("config.json.tmp" :: place) ("config.json" :: place) config.toText
          world.disk disk) ∨
      ∃ e disk, home.saveConfig config world = .error e { world with disk } ∧
        Touches (· = "config.json.tmp" :: place) world.disk disk := by
  unfold saveConfig
  rcases onDisk_strike_cases .saveConfig _ world with hs | ⟨e, disk, hs, hsame⟩
  · rw [hs]
    simp only [bind_apply, tryCatch_apply]
    rcases makeDirectory_cases h with hm | ⟨e, disk, hm, hsame⟩
    · have hname : home.configFile.name? = some "config.json" :=
        Path.name?_child _ isName_config
      rw [hm]
      simp only [Config.save]
      rcases RecordFile.replace_cases hname config.toText world with
        ⟨source, goal, disk, hsource, hgoal, hr, hreplaced⟩ | ⟨e, disk, hr, habandoned⟩
      · obtain rfl := h.eq_temporary hsource
        obtain rfl := Except.ok.inj (h.found_config.symm.trans hgoal)
        exact .inl ⟨disk, hr, hreplaced⟩
      · exact .inr ⟨e, disk, hr, habandoned.mono fun _ => h.eq_temporary⟩
    · rw [hm]
      cases e <;> exact .inr ⟨_, disk, rfl, hsame.touches⟩
  · exact .inr ⟨e, disk, hs, hsame.touches⟩

/-- The stored configuration is what it would be after the given one was stored. -/
def InLine (home : Home) (disk : Disk) : Option Config → Prop
  | none => disk.Absent home.configFile
  | some config => disk.content home.configFile = .ok (Text.Utf8.encode config.toText.toList)

/-- Wherever a home is, a configuration that was saved stands in its file. -/
theorem inLine_of_saveConfig {config : Config} {after : World}
    (h : home.saveConfig config world = .ok ⟨⟩ after) : home.InLine after.disk (some config) := by
  unfold saveConfig at h
  rcases onDisk_strike_cases .saveConfig _ world with hs | ⟨e, disk, hs, -⟩
  · rw [hs] at h
    simp only [bind_apply, tryCatch_apply] at h
    cases hmake : home.makeDirectory world with
    | ok answer made =>
        rw [hmake] at h
        exact RecordFile.content_of_replace h
    | error e made =>
        rw [hmake] at h
        cases e with
        | file cause => cases cause <;> cases h
        | _ => cases h
  · rw [hs] at h
    cases h

end Home

namespace Device

/-- The failure that storing reports for one of the files. -/
def unstored : Failure → Failure
  | .file (.system e) => .storage (.failed e)
  | e => e

theorem throw_unstored (e : Failure) (world : World) :
    (match e with
      | .file (.system e) => throw (.storage (.failed e))
      | e => throw e : Action Unit) world = .error (unstored e) world := by
  unfold unstored
  split <;> rfl

theorem store_apply (home : Home) (config : Option Config) (world : World) :
    store home config world =
      match (config.elim home.removeConfig home.saveConfig) world with
      | .ok answer after => .ok answer after
      | .error e after => .error (unstored e) after := by
  unfold store
  rw [tryCatch_apply]
  cases config with
  | none =>
      simp only [Option.elim_none]
      cases home.removeConfig world with
      | ok answer after => rfl
      | error e after => exact throw_unstored e after
  | some config =>
      simp only [Option.elim_some]
      cases home.saveConfig config world with
      | ok answer after => rfl
      | error e after => exact throw_unstored e after

theorem inLine_of_store {config : Option Config} {after : World}
    (ht : config = none → home.Truthful world.disk)
    (h : store home config world = .ok ⟨⟩ after) : home.InLine after.disk config := by
  rw [store_apply] at h
  cases config with
  | none =>
      rw [Option.elim_none] at h
      rcases Home.removeConfig_cases (ht rfl) with
        ⟨disk, hr, -, habsent⟩ | ⟨e, disk, hr, -⟩
      · rw [hr] at h
        cases h
        exact habsent
      · rw [hr] at h
        cases h
  | some config =>
      rw [Option.elim_some] at h
      cases hs : home.saveConfig config world with
      | ok answer made =>
          rw [hs] at h
          cases h
          exact Home.inLine_of_saveConfig hs
      | error e made =>
          rw [hs] at h
          cases h

/-- What is stored is what was to be stored, or else only the temporary file may be different. -/
theorem store_cases (hnormal : home.path.Normal) (h : home.Resides place world.disk)
    (config : Option Config) (ht : config = none → home.Truthful world.disk) :
    (∃ disk, store home config world = .ok ⟨⟩ { world with disk } ∧
        Touches (fun location => location = "config.json" :: place ∨
          location = "config.json.tmp" :: place) world.disk disk ∧
        home.recalled disk = .ok config) ∨
      ∃ e disk, store home config world = .error e { world with disk } ∧
        Touches (· = "config.json.tmp" :: place) world.disk disk := by
  rw [store_apply]
  cases config with
  | none =>
      rw [Option.elim_none]
      rcases Home.removeConfig_cases (ht rfl) with
        ⟨disk, hr, htouches, habsent⟩ | ⟨e, disk, hr, hsame⟩
      · have hresides := h.sameDirectories htouches.directories
        rw [hr]
        refine .inl ⟨disk, rfl, htouches.mono ?_, ?_⟩
        · intro location hlocation
          exact .inl (Except.ok.inj (hlocation.symm.trans h.found_config))
        · exact Home.recalled_none hnormal hresides (habsent _ hresides.found_config)
      · rw [hr]
        exact .inr ⟨_, disk, rfl, hsame.touches⟩
  | some config =>
      rw [Option.elim_some]
      rcases Home.saveConfig_cases h config with ⟨disk, hs, hreplaced⟩ | ⟨e, disk, hs, htouches⟩
      · rw [hs]
        refine .inl ⟨disk, rfl, hreplaced.touches.mono fun _ => Or.symm, ?_⟩
        exact Home.recalled_some hnormal (h.sameDirectories hreplaced.touches.directories) config
          hreplaced.written
      · rw [hs]
        exact .inr ⟨_, disk, rfl, htouches⟩

end Device

end SmartDevice
