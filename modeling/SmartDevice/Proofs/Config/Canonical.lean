import SmartDevice.Proofs.Record.Reading
import SmartDevice.Proofs.RecordFile.Atomicity

/-! # Configurations are kept without loss and in one form

What is written is read back, whatever characters the name has. A file may spell a configuration in
many ways, but once it is loaded and saved again its bytes never change any more. -/

namespace SmartDevice.Config

open Apply Disk World RecordFile

variable {config : Config} {fields : List (WideText × Json)} {file : String} {world saved : World}

/-! ## Objects -/

/-- The fields spell a configuration; the digits of its key may be of either case. -/
structure Spelled (config : Config) (fields : List (WideText × Json)) : Prop where
  name : fields.lookup ↑"name" = some (.string config.name)
  key : ∃ text, fields.lookup ↑"dht_shared_key" = some (.string text) ∧
    config.sharedKey.SpelledHex text.toList

theorem ofJson_eq_ok_iff : ofJson (.object fields) = .ok config ↔ config.Spelled fields := by
  constructor
  · intro h
    obtain ⟨name, hname, h⟩ := Json.bind_eq_ok.mp h
    obtain ⟨value, hfield, h⟩ := Json.bind_eq_ok.mp h
    cases name with
    | string name =>
        obtain ⟨key, hkey, h⟩ := Json.bind_eq_ok.mp h
        cases h
        obtain ⟨text, rfl, hspelled⟩ := Record.requireKey_eq_ok_iff.mp hkey
        exact ⟨Record.require_eq_ok_iff.mp hname, text, Record.require_eq_ok_iff.mp hfield,
          hspelled⟩
    | _ => cases h
  · rintro ⟨hname, text, hfield, hspelled⟩
    have hkey : Record.requireKey (.string text) = .ok config.sharedKey :=
      Record.requireKey_eq_ok_iff.mpr ⟨text, rfl, hspelled⟩
    rw [ofJson, Record.require_eq_ok_iff.mpr hname, Record.require_eq_ok_iff.mpr hfield]
    simp only [hkey, bind, Except.bind, pure, Except.pure]

/-- An object is accepted if it has a text for a name and another one of sixty-four digits. -/
theorem exists_ofJson_eq_ok_iff :
    (∃ config, ofJson (.object fields) = .ok config) ↔
      ∃ name text, fields.lookup ↑"name" = some (.string name) ∧
        fields.lookup ↑"dht_shared_key" = some (.string text) ∧ text.toList.length = 64 ∧
        ∀ c ∈ text.toList, c ∈ Hex.digits := by
  constructor
  · rintro ⟨config, h⟩
    obtain ⟨hname, text, hfield, hspelled⟩ := ofJson_eq_ok_iff.mp h
    exact ⟨config.name, text, hname, hfield, hspelled.length_eq, hspelled.digits⟩
  · rintro ⟨name, text, hname, hfield, hlength, hdigits⟩
    obtain ⟨key, hspelled⟩ := Key.exists_spelledHex hlength hdigits
    exact ⟨⟨name, key⟩, ofJson_eq_ok_iff.mpr ⟨hname, text, hfield, hspelled⟩⟩

/-! ## Files -/

/-- A file that was saved is loaded as it was saved. -/
theorem load_of_save (h : config.save (Path.ofString file) world = .ok ⟨⟩ saved)
    (hcalm : Calm .read saved.disk) : load file saved = .ok config saved := by
  rw [load_apply hcalm, stored_of_content config (content_of_replace h)]

theorem save_of_ready (h : Ready (Path.ofString file) world.disk) (config : Config) :
    ∃ saved, config.save (Path.ofString file) world = .ok ⟨⟩ saved ∧
      Ready (Path.ofString file) saved.disk := by
  obtain ⟨disk, hsave, hready⟩ := replace_of_ready h config.toText
  exact ⟨_, hsave, hready⟩

/-! ## Saving again -/

/-- Loads a configuration and saves it in the same file. -/
def resave (file : String) : Action Config := do
  let config ← load file
  config.save (Path.ofString file)
  return config

theorem resave_eq_ok_iff :
    resave file world = .ok config saved ↔ ∃ loaded, load file world = .ok config loaded ∧
      config.save (Path.ofString file) loaded = .ok ⟨⟩ saved := by
  unfold resave
  rw [bind_apply]
  cases hload : load file world with
  | error e loaded => simp
  | ok other loaded =>
      simp only [bind_apply]
      cases hsave : other.save (Path.ofString file) loaded with
      | error e after =>
          simp only [reduceCtorEq, false_iff, not_exists, not_and]
          rintro _ ⟨⟩
          simp [hsave]
      | ok answer after =>
          simp only [pure_apply]
          constructor
          · rintro ⟨⟩
            exact ⟨loaded, rfl, hsave⟩
          · rintro ⟨_, ⟨⟩, hsave'⟩
            rw [hsave] at hsave'
            cases hsave'
            rfl

/-- What was loaded and saved is loaded again, and its bytes stay when it is saved again. -/
theorem resave_stays (h : resave file world = .ok config saved) (hcalm : Calm .read saved.disk) :
    load file saved = .ok config saved ∧
      ∀ other again, resave file saved = .ok other again → other = config ∧
        again.disk.content (Path.ofString file) = saved.disk.content (Path.ofString file) := by
  obtain ⟨loaded, -, hsave⟩ := resave_eq_ok_iff.mp h
  have hload := load_of_save hsave hcalm
  refine ⟨hload, fun other again hagain => ?_⟩
  obtain ⟨_, hload', hsave'⟩ := resave_eq_ok_iff.mp hagain
  rw [hload] at hload'
  cases hload'
  exact ⟨rfl, (content_of_replace hsave').trans (content_of_replace hsave).symm⟩

/-- A configuration loses nothing in its texts and files, objects with the two fields are accepted
and no others, and a file that is loaded and saved again has reached its last form. -/
theorem persistence_is_canonical (config : Config) (file : String) (world : World) :
    (∀ text ∈ [config.toJson.render, config.toJson.renderLines],
      Record.Conveys ofJson config text) ∧
    (∀ fields, ofJson (.object fields) = .ok config ↔ config.Spelled fields) ∧
    (∀ fields, (∃ accepted, ofJson (.object fields) = .ok accepted) ↔
      ∃ name text, fields.lookup ↑"name" = some (.string name) ∧
        fields.lookup ↑"dht_shared_key" = some (.string text) ∧ text.toList.length = 64 ∧
        ∀ c ∈ text.toList, c ∈ Hex.digits) ∧
    (∀ saved, config.save (Path.ofString file) world = .ok ⟨⟩ saved → Calm .read saved.disk →
      load file saved = .ok config saved) ∧
    (∀ saved, resave file world = .ok config saved → Calm .read saved.disk →
      load file saved = .ok config saved ∧
        ∀ other again, resave file saved = .ok other again → other = config ∧
          again.disk.content (Path.ofString file) = saved.disk.content (Path.ofString file)) ∧
    (Ready (Path.ofString file) world.disk →
      (∃ saved, config.save (Path.ofString file) world = .ok ⟨⟩ saved ∧
        load file saved = .ok config saved) ∧
      (load file world = .ok config world →
        ∃ saved again, resave file world = .ok config saved ∧
          load file saved = .ok config saved ∧ resave file saved = .ok config again ∧
          again.disk.content (Path.ofString file) =
            saved.disk.content (Path.ofString file))) := by
  refine ⟨Record.conveys_layouts config.lossless_toJson config.ofJson_toJson,
    fun _ => ofJson_eq_ok_iff, fun _ => exists_ofJson_eq_ok_iff, fun _ => load_of_save,
    fun _ => resave_stays, fun hready => ?_⟩
  obtain ⟨saved, hsave, hready'⟩ := save_of_ready hready config
  have hload := load_of_save hsave (hready'.calm .read)
  refine ⟨⟨saved, hsave, hload⟩, fun hloaded => ?_⟩
  obtain ⟨again, hagain, -⟩ := save_of_ready hready' config
  have hresave : resave file world = .ok config saved :=
    resave_eq_ok_iff.mpr ⟨world, hloaded, hsave⟩
  have hresave' : resave file saved = .ok config again :=
    resave_eq_ok_iff.mpr ⟨saved, hload, hagain⟩
  exact ⟨saved, again, hresave, hload, hresave',
    ((resave_stays hresave (hready'.calm .read)).2 config again hresave').2⟩

def lampConfig : Config where
  name := "Lamp"
  sharedKey := ⟨List.replicate 32 0xAB, rfl⟩

/-- A disk with a configuration that is written on one line. -/
def oneLineDisk : Disk where
  nodes := [(["config.json"], .file (Text.Utf8.encode lampConfig.toJson.render.toList))]

theorem oneLineDisk_ready : Ready (Path.ofString "config.json") oneLineDisk := by
  have hname : (Path.ofString "config.json").name? = some "config.json" := by decide
  have hnull : hasNull (Path.ofString "config.json") = false := hasNull_ofString (by simp)
  have hsibling : hasNull ((Path.ofString "config.json").sibling ("config.json" ++ ".tmp")) =
      false :=
    hasNull_sibling hname hnull (by simp)
  refine ⟨by simp [Calm, oneLineDisk], "config.json", ["config.json.tmp"], ["config.json"], hname,
    by decide, (found_eq_ok_iff _).mpr ⟨hsibling, by decide +kernel⟩,
    (found_eq_ok_iff _).mpr ⟨hnull, by decide +kernel⟩, nofun, nofun⟩

/-- The file there has reached its last form once it is loaded and saved again. -/
theorem one_line_file_settles :
    ∃ saved again, resave "config.json" { disk := oneLineDisk } = .ok lampConfig saved ∧
      resave "config.json" saved = .ok lampConfig again ∧
      again.disk.content (Path.ofString "config.json") =
        saved.disk.content (Path.ofString "config.json") := by
  have hrender : lampConfig.toJson.render.toList = Json.print .oneLine lampConfig.toJson :=
    String.toList_ofList
  have hcontent : oneLineDisk.content (Path.ofString "config.json") =
      .ok (Text.Utf8.encode (Json.print .oneLine lampConfig.toJson)) := by
    rw [← hrender]
    exact content_eq_ok_iff.mpr ⟨["config.json"],
      (found_eq_ok_iff _).mpr ⟨hasNull_ofString (by simp), by decide +kernel⟩, rfl⟩
  have hload : load "config.json" { disk := oneLineDisk } =
      .ok lampConfig { disk := oneLineDisk } := by
    have hobject : RecordFile.stored "config.json" oneLineDisk = .ok lampConfig.toJson := by
      simp only [RecordFile.stored, hcontent]
      exact objectOf_printed _ _ lampConfig.lossless_toJson
    rw [load_apply (oneLineDisk_ready.calm .read), stored, hobject]
    simp only [bind, Except.bind, ofJson_toJson]
    rfl
  obtain ⟨-, -, -, -, -, hready⟩ :=
    persistence_is_canonical lampConfig "config.json" { disk := oneLineDisk }
  obtain ⟨saved, again, hresave, -, hresave', hsame⟩ := (hready oneLineDisk_ready).2 hload
  exact ⟨saved, again, hresave, hresave', hsame⟩

end SmartDevice.Config
