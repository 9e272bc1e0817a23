import SmartDevice.Proofs.Device.Persistence
import SmartDevice.Proofs.Disk.Reasons
import SmartDevice.Proofs.Json.Excess

/-! # What keeps a device from starting

A device starts or does not know what it is, and the file of its identity decides which. Whatever
the file of the configuration holds, it counts as a configuration or as none. Neither is true of
files with a numeral that is too long or with containers that are nested too deep, and a name with
half of a pair in it cannot be shown on the console. -/

namespace SmartDevice

open Apply Disk World

variable {home : Home} {disk : Disk} {world after : World} {file : String}
  {excess : Json.Excess}

/-! ## Failures -/

/-- A record is missing, cannot be read, or is too much for its reader. -/
def Failure.IsUnread : Failure → Prop
  | .file (.system e) => e.isNotFound = true
  | .storage _ => True
  | .excess _ => True
  | _ => False

/-- A text is too much for its reader. -/
def Failure.IsExcess (e : Failure) : Prop := ∃ excess, e = .excess excess

namespace RecordFile

theorem raises_readText (h : hasNull (Path.ofString file) = false) :
    Raises Failure.IsUnread (readText file) := by
  refine .bind (.catching (raises_onDisk_system (raises_read h)) fun e he => ?_) fun bytes => ?_
  · cases e with
    | file cause =>
        cases cause with
        | system cause =>
            dsimp only
            split
            · next hmissing => exact .throw hmissing
            · exact .throw trivial
        | _ => cases he
    | _ => cases he
  · split
    · exact .throw trivial
    · exact .pure _

theorem raises_readObject (h : hasNull (Path.ofString file) = false) :
    Raises Failure.IsUnread (readObject file) := by
  refine .bind (raises_readText h) fun text => ?_
  split
  · exact .throw trivial
  · exact .throw trivial
  · exact .pure _
  · exact .throw trivial

end RecordFile

theorem Config.raises_load (h : hasNull (Path.ofString file) = false) :
    Raises Failure.IsUnread (load file) := by
  refine .bind (RecordFile.raises_readObject h) fun value => ?_
  split
  · exact .throw trivial
  · exact .pure _

theorem Identity.raises_load (h : hasNull (Path.ofString file) = false) :
    Raises Failure.IsUnread (load file) := by
  refine .bind (RecordFile.raises_readObject h) fun value => ?_
  split
  · exact .throw trivial
  · exact .pure _

namespace Home

theorem ofString_identityFile (h : home.path.Normal) :
    Path.ofString home.identityFile.toString = home.identityFile :=
  Path.ofString_toString (h.child isName_identity)

theorem raises_loadConfig (hnormal : home.path.Normal) (hnull : hasNull home.path = false) :
    Raises Failure.IsExcess home.loadConfig := by
  have hfile : hasNull (Path.ofString home.configFile.toString) = false := by
    rw [ofString_configFile hnormal]
    exact noNull_child hnull isName_config (by simp)
  refine .bind (.catching (.bind (Config.raises_load hfile) fun _ => .pure _) fun e he => ?_)
    fun result => ?_
  · cases e with
    | file cause =>
        cases cause with
        | system cause =>
            have hmissing : cause.isNotFound = true := he
            simp only [hmissing, if_true]
            exact .pure _
        | _ => cases he
    | storage cause => exact .bind (raises_say _) fun _ => .pure _
    | excess excess => exact .bind (.throw ⟨excess, rfl⟩) fun _ => .pure _
    | _ => cases he
  · cases result <;> exact .pure _

theorem raises_loadIdentity (hnormal : home.path.Normal) (hnull : hasNull home.path = false) :
    Raises (fun e => (∃ cause, e = .identity cause) ∨ e.IsExcess) home.loadIdentity := by
  have hfile : hasNull (Path.ofString home.identityFile.toString) = false := by
    rw [ofString_identityFile hnormal]
    exact noNull_child hnull isName_identity (by simp)
  refine .catching (Identity.raises_load hfile) fun e he => ?_
  cases e with
  | file cause =>
      cases cause with
      | system cause =>
          have hmissing : cause.isNotFound = true := he
          simp only [hmissing, if_true]
          exact .throw (.inl ⟨_, rfl⟩)
      | _ => cases he
  | storage cause => exact .throw (.inl ⟨_, rfl⟩)
  | excess excess => exact .throw (.inr ⟨excess, rfl⟩)
  | _ => cases he

end Home

namespace Device

/-- What a device says once it knows what it is. -/
def introduction (identity : Identity) : Console → Console :=
  Console.info
    s!"Loaded device information for {identity.productName.toString} ({identity.uuid.toText})"

/-- What it does after that. -/
def configured (home : Home) (identity : Identity) : Action Device := do
  let config ← home.loadConfig
  if config.isNone then say (Console.info "Device is not configured yet")
  build home identity config none

/-- Only an excess can keep a device from starting then. -/
theorem raises_configured (hnormal : home.path.Normal) (hnull : hasNull home.path = false)
    (identity : Identity) : Raises Failure.IsExcess (configured home identity) := by
  have hbuild (config : Option Config) :
      Raises Failure.IsExcess (build home identity config none) := fun _ _ _ h => by cases h
  refine .bind (Home.raises_loadConfig hnormal hnull) fun config => ?_
  split
  · exact .bind (raises_say _) fun _ => hbuild config
  · exact hbuild config

theorem load_apply (home : Home) (world : World) :
    load home world =
      match home.loadIdentity world with
      | .error e after => .error e after
      | .ok identity after =>
        if after.console.enabled ∧ ¬ identity.productName.IsWhole then .error .unencodable after
        else configured home identity (after.saying (introduction identity)) := by
  unfold load
  rw [bind_apply]
  cases home.loadIdentity world with
  | error e after => rfl
  | ok identity after =>
      simp only
      rw [bind_apply, sayNaming_apply]
      split_ifs <;> rfl

theorem raises_load (hnormal : home.path.Normal) (hnull : hasNull home.path = false) :
    Raises (fun e => (∃ cause, e = .identity cause) ∨ e.IsExcess ∨ e = .unencodable)
      (load home) := by
  refine .bind ((Home.raises_loadIdentity hnormal hnull).mono fun e => .imp_right .inl)
    fun identity => .bind ?_ fun _ => ?_
  · intro world e after h
    rw [sayNaming_apply] at h
    split at h
    · cases h
      exact .inr (.inr rfl)
    · cases h
  · exact (raises_configured hnormal hnull identity).mono fun e he => .inr (.inl he)

/-- A device that does not know what it is has found so before anything else. -/
theorem loadIdentity_of_load {cause : IdentityError} (hnormal : home.path.Normal)
    (hnull : hasNull home.path = false)
    (h : load home world = .error (.identity cause) after) :
    home.loadIdentity world = .error (.identity cause) after := by
  rw [load_apply] at h
  cases hidentity : home.loadIdentity world with
  | error e last =>
      rw [hidentity] at h
      cases h
      rfl
  | ok identity last =>
      simp only [hidentity] at h
      split at h
      · cases h
      · obtain ⟨excess, hexcess⟩ := raises_configured hnormal hnull identity _ _ _ h
        cases hexcess

end Device

/-! ## Texts that are too much -/

/-- A file holds a text with a numeral that is too long or with containers that are nested too
deep. -/
def Disk.Excessive (disk : Disk) (path : Path) : Prop :=
  ∃ bytes text excess, disk.content path = .ok bytes ∧ Text.Utf8.decode bytes = .ok text ∧
    Json.read (Text.unifyLineEnds text) = .error (.excess excess)

theorem RecordFile.exists_excess_iff :
    (∃ excess, stored file disk = .error (.excess excess)) ↔
      disk.Excessive (Path.ofString file) := by
  unfold stored objectOf Disk.Excessive
  cases hcontent : disk.content (Path.ofString file) with
  | error e =>
      cases e with
      | system cause =>
          simp only [unread]
          split <;> simp
      | _ => simp [unread]
  | ok bytes =>
      cases hdecode : Text.Utf8.decode bytes with
      | error e => simp [hdecode]
      | ok text =>
          cases hread : Json.read (Text.unifyLineEnds text) with
          | error e => cases e <;> simp [hdecode, hread]
          | ok value => cases value <;> simp [hdecode, hread]

/-- What a record is made of is too much, not what is made of it. -/
theorem excess_of_parsed_iff {β ρ : Type} {x : Except Failure Json} {parse : Json → Except ρ β}
    {wrap : ρ → StorageError} :
    (do (parse (← x)).mapError fun e => Failure.storage (wrap e)) =
      .error (.excess excess) ↔ x = .error (.excess excess) := by
  cases x with
  | error e => simp [bind, Except.bind]
  | ok value =>
      simp only [bind, Except.bind, reduceCtorEq, iff_false]
      cases parse value <;> simp [Except.mapError]

namespace Home

/-- The file of the identity holds one. -/
def Identified (home : Home) (disk : Disk) : Prop :=
  ∃ identity, Identity.stored home.identityFile.toString disk = .ok identity

/-- Only the bytes of that file count. -/
theorem identified_congr {a b : Disk} (hnormal : home.path.Normal)
    (h : b.content home.identityFile = a.content home.identityFile) :
    home.Identified b ↔ home.Identified a := by
  rw [← ofString_identityFile hnormal] at h
  simp only [Identified, Identity.stored, RecordFile.stored, h]

theorem unidentified_eq_excess {e : Failure}
    (h : unidentified file e = .excess excess) : e = .excess excess := by
  unfold unidentified at h
  split at h
  · split at h <;> cases h
  · cases h
  · exact h

theorem excessive_configFile_iff (hnormal : home.path.Normal) :
    disk.Excessive home.configFile ↔
      ∃ excess, Config.stored home.configFile.toString disk = .error (.excess excess) := by
  rw [← ofString_configFile hnormal, ← RecordFile.exists_excess_iff,
    ofString_configFile hnormal]
  exact exists_congr fun excess => excess_of_parsed_iff.symm

theorem excessive_identityFile_iff (hnormal : home.path.Normal) :
    disk.Excessive home.identityFile ↔
      ∃ excess, Identity.stored home.identityFile.toString disk = .error (.excess excess) := by
  rw [← ofString_identityFile hnormal, ← RecordFile.exists_excess_iff,
    ofString_identityFile hnormal]
  exact exists_congr fun excess => excess_of_parsed_iff.symm

theorem stored_of_recalled (h : home.recalled disk = .error (.excess excess)) :
    Config.stored home.configFile.toString disk = .error (.excess excess) := by
  unfold recalled at h
  split at h
  · cases h
  · split at h <;> cases h
  · cases h
  · next e hstored =>
      rw [hstored]
      exact congrArg Except.error (Except.error.inj h)

/-- An excess is all that keeps a file from counting as a configuration or as none. -/
theorem exists_recalled_iff (hnormal : home.path.Normal) (hnull : hasNull home.path = false)
    (hcalm : Calm .read world.disk) :
    (∃ config, home.recalled world.disk = .ok config) ↔
      ¬ world.disk.Excessive home.configFile := by
  rw [excessive_configFile_iff hnormal]
  constructor
  · rintro ⟨config, hrecalled⟩ ⟨excess, hstored⟩
    rw [recalled, hstored] at hrecalled
    cases hrecalled
  · intro hshort
    have hanswer := (loadConfig_cases home hcalm).1
    cases hload : home.loadConfig world with
    | ok config after =>
        rw [answer, hload] at hanswer
        exact ⟨config, hanswer.symm⟩
    | error e after =>
        obtain ⟨excess, rfl⟩ := raises_loadConfig hnormal hnull _ _ _ hload
        rw [answer, hload] at hanswer
        exact absurd ⟨excess, stored_of_recalled hanswer.symm⟩ hshort

theorem loadConfig_iff (hnormal : home.path.Normal) (hnull : hasNull home.path = false)
    (hcalm : Calm .read world.disk) :
    (∃ config after, home.loadConfig world = .ok config after) ↔
      ¬ world.disk.Excessive home.configFile := by
  rw [← exists_recalled_iff hnormal hnull hcalm]
  have hanswer := (loadConfig_cases home hcalm).1
  cases hload : home.loadConfig world with
  | ok config after =>
      rw [answer, hload] at hanswer
      exact ⟨fun _ => ⟨config, hanswer.symm⟩, fun _ => ⟨config, after, rfl⟩⟩
  | error e after =>
      rw [answer, hload] at hanswer
      refine ⟨?_, ?_⟩
      · rintro ⟨config, last, h⟩
        cases h
      · rintro ⟨config, hrecalled⟩
        rw [hrecalled] at hanswer
        cases hanswer

theorem loadIdentity_iff (hnormal : home.path.Normal) (hnull : hasNull home.path = false)
    (hcalm : Calm .read world.disk) :
    (∃ cause after, home.loadIdentity world = .error (.identity cause) after) ↔
      ¬ home.Identified world.disk ∧ ¬ world.disk.Excessive home.identityFile := by
  rw [excessive_identityFile_iff hnormal, Identified, loadIdentity_apply home hcalm]
  cases hstored : Identity.stored home.identityFile.toString world.disk with
  | ok identity => simp
  | error e =>
      have hends := raises_loadIdentity hnormal hnull world
      rw [loadIdentity_apply home hcalm, hstored] at hends
      rcases hends _ _ rfl with ⟨cause, hcause⟩ | ⟨excess, hexcess⟩
      · refine ⟨fun _ => ⟨nofun, ?_⟩, fun _ => ⟨cause, world, by simp only [hcause]⟩⟩
        rintro ⟨excess, hexcess⟩
        cases hexcess
        cases hcause
      · have he := unidentified_eq_excess hexcess
        simp [he, unidentified]

end Home

/-! ## Starting -/

namespace Device

/-- The file of the identity holds one whose name cannot be shown. -/
def Nameless (home : Home) (world : World) : Prop :=
  world.console.enabled = true ∧ ∃ identity,
    Identity.stored home.identityFile.toString world.disk = .ok identity ∧
      ¬ identity.productName.IsWhole

theorem load_unencodable_iff (hnormal : home.path.Normal) (hnull : hasNull home.path = false)
    (hcalm : Calm .read world.disk) :
    (∃ after, load home world = .error .unencodable after) ↔ Nameless home world := by
  rw [load_apply, Home.loadIdentity_apply home hcalm, Nameless]
  cases hstored : Identity.stored home.identityFile.toString world.disk with
  | error e =>
      simp only [reduceCtorEq, false_and, exists_false, and_false, iff_false]
      rintro ⟨after, hload⟩
      have hidentity : home.loadIdentity world = .error .unencodable world := by
        rw [Home.loadIdentity_apply home hcalm, hstored]
        exact congrArg (EStateM.Result.error · world) (EStateM.Result.error.inj hload).1
      rcases Home.raises_loadIdentity hnormal hnull _ _ _ hidentity with ⟨cause, h⟩ | ⟨excess, h⟩
      · cases h
      · cases h
  | ok identity =>
      simp only [Except.ok.injEq, exists_eq_left']
      split
      · next hshown => simp [hshown]
      · next hshown =>
          simp only [hshown, iff_false, not_exists]
          intro after hload
          obtain ⟨excess, hexcess⟩ := raises_configured hnormal hnull identity _ _ _ hload
          cases hexcess

/-- A device starts if the file of its identity holds one, and otherwise does not know what it is;
the file of the configuration has no part in this. What keeps it from ending in one of the two ways
is a text in either file that is too much to read, or a name that the console cannot show. -/
theorem start_depends_on_identity (path : String)
    (hnull : path.contains (Char.ofNat 0) = false) :
    let home : Home := ⟨Path.ofString path⟩
    (∀ world e after, home.loadConfig world = .error e after →
      ∃ excess, e = .excess excess) ∧
    (∀ world e after, load home world = .error e after →
      (∃ cause, e = .identity cause) ∨ (∃ excess, e = .excess excess) ∨ e = .unencodable) ∧
    ∀ world : World, Calm .read world.disk →
      ((∃ config after, home.loadConfig world = .ok config after) ↔
        ¬ world.disk.Excessive home.configFile) ∧
      ((∃ device after, load home world = .ok device after) ↔
        home.Identified world.disk ∧ ¬ Nameless home world ∧
          ¬ world.disk.Excessive home.configFile) ∧
      ((∃ cause after, load home world = .error (.identity cause) after) ↔
        ¬ home.Identified world.disk ∧ ¬ world.disk.Excessive home.identityFile) ∧
      ((∃ after, load home world = .error .unencodable after) ↔ Nameless home world) ∧
      ∀ other : Disk, other.content home.identityFile = world.disk.content home.identityFile →
        (home.Identified other ↔ home.Identified world.disk) := by
  intro home
  have hnormal : home.path.Normal := Path.normal_ofString path
  have hhome : hasNull home.path = false := hasNull_ofString hnull
  refine ⟨Home.raises_loadConfig hnormal hhome, raises_load hnormal hhome,
    fun world hcalm => ⟨Home.loadConfig_iff hnormal hhome hcalm, ?_, ?_,
      load_unencodable_iff hnormal hhome hcalm, fun other hother =>
        Home.identified_congr hnormal hother⟩⟩
  · rw [← Home.exists_recalled_iff hnormal hhome hcalm]
    constructor
    · rintro ⟨device, after, hload⟩
      obtain ⟨hidentity, hconfig, -, -⟩ := load_eq_ok hcalm hload
      refine ⟨⟨device.identity, hidentity⟩, fun hnameless => ?_, device.config, hconfig⟩
      obtain ⟨last, hfailed⟩ := (load_unencodable_iff hnormal hhome hcalm).mpr hnameless
      cases hload.symm.trans hfailed
    · rintro ⟨⟨identity, hidentity⟩, hshown, config, hconfig⟩
      refine exists_load hcalm hidentity (fun henabled => ?_) hconfig
      by_contra hname
      exact hshown ⟨henabled, identity, hidentity, hname⟩
  · rw [← Home.loadIdentity_iff hnormal hhome hcalm]
    -- whatever comes after the identity fails in other ways
    constructor
    · rintro ⟨cause, after, hload⟩
      exact ⟨cause, after, loadIdentity_of_load hnormal hhome hload⟩
    · rintro ⟨cause, after, hidentity⟩
      exact ⟨cause, after, by rw [load_apply, hidentity]⟩

/-! ## Two lamps -/

/-- The lamp with bytes in the file of its configuration. -/
def lampHolding (bytes : List UInt8) : World :=
  { disk := lampWorld.disk.put ["config.json", "home"] (.file bytes) }

theorem lampHolding_calm (bytes : List UInt8) : Calm .read (lampHolding bytes).disk :=
  lampWorld_calm

theorem touches_lampHolding (bytes : List UInt8) :
    Touches (· = ["config.json", "home"]) lampWorld.disk (lampHolding bytes).disk :=
  have hfree : lampWorld.disk.node? ["config.json", "home"] ≠ some .directory := by decide +kernel
  touches_put hfree bytes

theorem stored_lampHolding (bytes : List UInt8) :
    Identity.stored (Home.mk (Path.ofString "home")).identityFile.toString
      (lampHolding bytes).disk = .ok lamp :=
  Identity.stored_of_touches (Path.normal_ofString _) lampWorld_resides
    (touches_lampHolding bytes) (by decide) lampWorld_identity

theorem identified_lampHolding (bytes : List UInt8) :
    Home.Identified ⟨Path.ofString "home"⟩ (lampHolding bytes).disk :=
  ⟨lamp, stored_lampHolding bytes⟩

theorem content_lampHolding (bytes : List UInt8) :
    (lampHolding bytes).disk.content (Home.mk (Path.ofString "home")).configFile = .ok bytes := by
  have hresides := lampWorld_resides.sameDirectories (touches_lampHolding bytes).directories
  exact content_eq_ok_iff.mpr ⟨_, hresides.found_config, rfl⟩

theorem excessive_lampHolding {text : List Char} (hlines : '\r' ∉ text)
    (hread : Json.read text = .error (.excess excess)) :
    (lampHolding (Text.Utf8.encode text)).disk.Excessive
      (Home.mk (Path.ofString "home")).configFile := by
  refine ⟨_, _, excess, content_lampHolding _, Text.Utf8.decode_encode _, ?_⟩
  rwa [Text.unifyLineEnds_of_not_mem hlines]

/-- A configuration of nothing but digits. -/
theorem excessive_digits {n : ℕ} (hlong : Json.maxIntegerDigits < n) :
    (lampHolding (Text.Utf8.encode (List.replicate n '1'))).disk.Excessive
      (Home.mk (Path.ofString "home")).configFile := by
  have hdigits : ∀ c ∈ List.replicate n '1', c.isDigit = true := by
    intro c hc
    rw [List.eq_of_mem_replicate hc]
    rfl
  have hhead : (List.replicate n '1').head? ≠ some '0' := by
    rw [List.head?_replicate]
    split
    · nofun
    · decide
  exact excessive_lampHolding (fun h => absurd (List.eq_of_mem_replicate h) (by decide))
    (Json.read_digits hdigits hhead (by rwa [List.length_replicate]))

/-- A configuration of nothing but brackets. -/
theorem excessive_brackets {n : ℕ} (hdeep : Json.maxNesting < n) :
    (lampHolding (Text.Utf8.encode (List.replicate n '['))).disk.Excessive
      (Home.mk (Path.ofString "home")).configFile :=
  excessive_lampHolding (fun h => absurd (List.eq_of_mem_replicate h) (by decide))
    (Json.read_brackets hdeep)

/-- A lamp whose configuration is no text starts. -/
theorem unreadable_lamp_starts :
    "home".contains (Char.ofNat 0) = false ∧ Calm .read (lampHolding [0xff]).disk ∧
      ∃ device after, load ⟨Path.ofString "home"⟩ (lampHolding [0xff]) = .ok device after := by
  have hnull : "home".contains (Char.ofNat 0) = false := by simp
  have hcalm := lampHolding_calm [0xff]
  obtain ⟨-, -, hends⟩ := start_depends_on_identity "home" hnull
  refine ⟨hnull, hcalm, (hends _ hcalm).2.1.mpr ⟨identified_lampHolding _, ?_, ?_⟩⟩
  · rintro ⟨-, identity, hidentity, hname⟩
    cases (stored_lampHolding [0xff]).symm.trans hidentity
    exact hname (WideText.isWhole_ofString _)
  rintro ⟨bytes, text, excess, hcontent, hdecode, -⟩
  cases (content_lampHolding [0xff]).symm.trans hcontent
  cases hdecode

/-- A lamp whose configuration is too much to read does not start, though it knows what it is. -/
theorem excessive_lamp_fails {bytes : List UInt8}
    (h : (lampHolding bytes).disk.Excessive (Home.mk (Path.ofString "home")).configFile) :
    let home : Home := ⟨Path.ofString "home"⟩
    let world := lampHolding bytes
    Calm .read world.disk ∧ home.Identified world.disk ∧
      ¬ (∃ config after, home.loadConfig world = .ok config after) ∧
      ¬ (∃ device after, load home world = .ok device after) ∧
      ¬ ∃ cause after, load home world = .error (.identity cause) after := by
  intro home world
  have hnormal : home.path.Normal := Path.normal_ofString _
  have hnull : hasNull home.path = false := hasNull_ofString (by simp)
  have hcalm : Calm .read world.disk := lampHolding_calm _
  have hidentified : home.Identified world.disk := identified_lampHolding _
  refine ⟨hcalm, hidentified, ?_, ?_, ?_⟩
  · rw [Home.loadConfig_iff hnormal hnull hcalm]
    exact fun hread => hread h
  · rintro ⟨device, after, hload⟩
    obtain ⟨-, hconfig, -, -⟩ := load_eq_ok hcalm hload
    exact (Home.exists_recalled_iff hnormal hnull hcalm).mp ⟨_, hconfig⟩ h
  · rintro ⟨cause, after, hload⟩
    have hidentity := loadIdentity_of_load hnormal hnull hload
    exact ((Home.loadIdentity_iff hnormal hnull hcalm).mp ⟨cause, after, hidentity⟩).1
      hidentified

/-- One long numeral is too much. -/
theorem overlong_lamp_fails :
    let home : Home := ⟨Path.ofString "home"⟩
    let world := lampHolding (Text.Utf8.encode (List.replicate 4301 '1'))
    Calm .read world.disk ∧ home.Identified world.disk ∧
      ¬ (∃ config after, home.loadConfig world = .ok config after) ∧
      ¬ (∃ device after, load home world = .ok device after) ∧
      ¬ ∃ cause after, load home world = .error (.identity cause) after :=
  excessive_lamp_fails (excessive_digits (by decide))

/-- So are more brackets than containers may be nested in one another. -/
theorem nested_lamp_fails {n : ℕ} (hdeep : Json.maxNesting < n) :
    let home : Home := ⟨Path.ofString "home"⟩
    let world := lampHolding (Text.Utf8.encode (List.replicate n '['))
    Calm .read world.disk ∧ home.Identified world.disk ∧
      ¬ (∃ config after, home.loadConfig world = .ok config after) ∧
      ¬ (∃ device after, load home world = .ok device after) ∧
      ¬ ∃ cause after, load home world = .error (.identity cause) after :=
  excessive_lamp_fails (excessive_brackets hdeep)

end Device

end SmartDevice
