import SmartDevice.Proofs.Home.Records
import SmartDevice.Proofs.Uuid.RoundTrip
import SmartDevice.Proofs.WidePath.Normal

/-! # What a device starts with -/

namespace SmartDevice

open Apply Disk World

variable {home : Home} {location : Location} {disk : Disk} {world loaded : World} {device : Device}

/-! ## The identity -/

/-- The identity that a file of the disk holds. -/
def Identity.stored (file : String) (disk : Disk) : Except Failure Identity := do
  (ofJson (← RecordFile.stored file disk)).mapError fun e => .storage (.badIdentity file e)

theorem Identity.load_apply (h : Calm .read world.disk) (file : String) :
    Identity.load file world =
      match stored file world.disk with
      | .error e => .error e world
      | .ok identity => .ok identity world := by
  unfold load stored
  simp only [bind_apply, RecordFile.readObject_apply h]
  cases RecordFile.stored file world.disk with
  | error e => rfl
  | ok value =>
      simp only [bind, Except.bind]
      cases ofJson value <;> rfl

theorem Identity.lossless_toJson (identity : Identity) : identity.toJson.Lossless :=
  .object (by simp) (by simp [Key.toJson, Json.LosslessIn.string])

/-- An identity that a device can have is read as it was written. -/
theorem Identity.ofJson_toJson {identity : Identity} (hversion : identity.uuid.version? = some 7)
    (hpath : identity.privateKeyFile.Normal) : ofJson identity.toJson = .ok identity := by
  obtain ⟨name, key, file, uuid⟩ := identity
  have hname : Record.require "product_name" (toJson ⟨name, key, file, uuid⟩) =
      .ok (.string name) := rfl
  have hkeyField : Record.require "authorization_key" (toJson ⟨name, key, file, uuid⟩) =
      .ok key.toJson := rfl
  have hfile : Record.require "private_key_file" (toJson ⟨name, key, file, uuid⟩) =
      .ok (.string file.toText) := rfl
  have huuidField : Record.require "uuid" (toJson ⟨name, key, file, uuid⟩) =
      .ok (.string uuid.toText) := rfl
  have huuid : uuidOfText uuid.toText = .ok uuid := by
    rw [uuidOfText, WideText.toList_ofString, Uuid.ofText_toText]
    simp only [Except.mapError, bind, Except.bind, hversion]
    rfl
  simp only [ofJson, hname, hkeyField, hfile, huuidField, huuid, Record.requireKey_toJson,
    WidePath.ofText_toText hpath, bind, Except.bind, pure, Except.pure]

/-- A file with the text of an identity holds that identity. -/
theorem Identity.stored_of_content {file : String} {identity : Identity}
    (hversion : identity.uuid.version? = some 7) (hpath : identity.privateKeyFile.Normal)
    (h : disk.content (Path.ofString file) = .ok (Text.Utf8.encode identity.toText.toList)) :
    stored file disk = .ok identity := by
  have hobject : RecordFile.stored file disk = .ok identity.toJson :=
    RecordFile.stored_of_printed identity.lossless_toJson h
  rw [stored, hobject]
  simp only [bind, Except.bind, ofJson_toJson hversion hpath]
  rfl

/-- A record is only ever read from a file that is there. -/
theorem RecordFile.found_of_stored {file : String} {value : Json}
    (h : RecordFile.stored file disk = .ok value) :
    ∃ location bytes, disk.found (Path.ofString file) = .ok location ∧
      disk.node? location = some (.file bytes) := by
  unfold RecordFile.stored at h
  cases hcontent : disk.content (Path.ofString file) with
  | error e =>
      rw [hcontent] at h
      cases h
  | ok bytes =>
      obtain ⟨location, hfound, hnode⟩ := content_eq_ok_iff.mp hcontent
      exact ⟨location, bytes, hfound, hnode⟩

namespace Home

/-- The failure to know what the device is, for a failure to read its record. -/
def unidentified (file : String) : Failure → Failure
  | .file (.system e) => if e.isNotFound then .identity (.missing file e) else .file (.system e)
  | .storage e => .identity (.unreadable file e)
  | e => e

theorem loadIdentity_apply (home : Home) (h : Calm .read world.disk) :
    home.loadIdentity world =
      match Identity.stored home.identityFile.toString world.disk with
      | .error e => .error (unidentified home.identityFile.toString e) world
      | .ok identity => .ok identity world := by
  unfold loadIdentity unidentified
  simp only [tryCatch_apply, Identity.load_apply h]
  cases Identity.stored home.identityFile.toString world.disk with
  | ok identity => rfl
  | error e =>
      cases e with
      | file cause =>
          cases cause with
          | system cause =>
              simp only
              cases cause.isNotFound <;> rfl
          | embeddedNull => rfl
          | nameless path => rfl
      | _ => rfl

theorem resides_of_stored {identity : Identity} (hnormal : home.path.Normal)
    (h : Identity.stored home.identityFile.toString disk = .ok identity) :
    ∃ place, home.Resides place disk := by
  unfold Identity.stored at h
  cases hstored : RecordFile.stored home.identityFile.toString disk with
  | error e =>
      rw [hstored] at h
      cases h
  | ok value =>
      obtain ⟨location, bytes, hfound, hnode⟩ := RecordFile.found_of_stored hstored
      have hpath : Path.ofString home.identityFile.toString = home.identityFile :=
        Path.ofString_toString (hnormal.child isName_identity)
      exact resides_of_identity (hpath ▸ hfound)

end Home

/-- Where the file of the identity is as it was, it holds the same identity. -/
theorem Identity.stored_of_touches {place : Location} {P : Location → Prop} {a b : Disk}
    {identity : Identity} (hnormal : home.path.Normal) (hresides : home.Resides place a)
    (htouches : Touches P a b) (hP : ¬ P ("device.json" :: place))
    (h : stored home.identityFile.toString a = .ok identity) :
    stored home.identityFile.toString b = .ok identity := by
  have hpath : Path.ofString home.identityFile.toString = home.identityFile :=
    Path.ofString_toString (hnormal.child Home.isName_identity)
  have hfound : ∃ location, a.found home.identityFile = .ok location := by
    unfold stored at h
    cases hstored : RecordFile.stored home.identityFile.toString a with
    | error e =>
        rw [hstored] at h
        cases h
    | ok value =>
        obtain ⟨location, bytes, hfound, -⟩ := RecordFile.found_of_stored hstored
        exact ⟨location, hpath ▸ hfound⟩
  obtain ⟨location, hfound⟩ := hfound
  obtain rfl : location = "device.json" :: place :=
    hresides.holds.eq_child Home.isName_identity (by decide) ((found_eq_ok_iff _).mp hfound).2
  have hcontent := htouches.directories.content_eq hfound (htouches.elsewhere _ hP)
  rw [← hpath] at hcontent
  rw [stored, RecordFile.stored, hcontent]
  exact h

/-! ## The device -/

namespace Device

theorem build_apply (home : Home) (identity : Identity) (config : Option Config) (world : World) :
    build home identity config none world =
      .ok { home, identity, config, lock := world.locks.newLock.1 }
        { world with locks := world.locks.newLock.2 } :=
  rfl

/-- A device that starts has the records that its home holds, and has changed no file. -/
theorem load_eq_ok (h : Calm .read world.disk) (hload : load home world = .ok device loaded) :
    Identity.stored home.identityFile.toString world.disk = .ok device.identity ∧
      home.recalled world.disk = .ok device.config ∧ device.home = home ∧
      loaded.disk = world.disk := by
  unfold load at hload
  simp only [bind_apply, Home.loadIdentity_apply home h] at hload
  cases hidentity : Identity.stored home.identityFile.toString world.disk with
  | error e =>
      rw [hidentity] at hload
      cases hload
  | ok identity =>
      simp only [hidentity, sayNaming_apply] at hload
      split_ifs at hload with hshown
      simp only at hload
      generalize hsaid : world.saying _ = said at hload
      have hdisk : said.disk = world.disk := hsaid ▸ rfl
      have hcalm : Calm .read said.disk := hdisk ▸ h
      obtain ⟨hanswer, hleft⟩ := Home.loadConfig_cases home hcalm
      cases hconfig : home.loadConfig said with
      | error e after =>
          rw [hconfig] at hload
          cases hload
      | ok config after =>
          rw [hconfig] at hload
          rw [answer, hconfig, hdisk] at hanswer
          rw [left_of_ok hconfig, hdisk] at hleft
          simp only at hload
          split at hload
          · simp only [bind_apply, say_apply, build_apply] at hload
            cases hload
            exact ⟨rfl, hanswer.symm, rfl, hleft⟩
          · rw [build_apply] at hload
            cases hload
            exact ⟨rfl, hanswer.symm, rfl, hleft⟩

/-- A device starts where both of its records can be read and its name can be shown. -/
theorem exists_load {identity : Identity} {config : Option Config} (h : Calm .read world.disk)
    (hidentity : Identity.stored home.identityFile.toString world.disk = .ok identity)
    (hname : world.console.enabled → identity.productName.IsWhole)
    (hconfig : home.recalled world.disk = .ok config) :
    ∃ device loaded, load home world = .ok device loaded := by
  unfold load
  simp only [bind_apply, Home.loadIdentity_apply home h, hidentity, sayNaming_apply]
  rw [if_neg fun hshown => hshown.2 (hname hshown.1)]
  simp only
  generalize hsaid : world.saying _ = said
  have hdisk : said.disk = world.disk := hsaid ▸ rfl
  have hanswer := (Home.loadConfig_cases home (hdisk ▸ h : Calm .read said.disk)).1
  rw [hdisk, hconfig] at hanswer
  cases hload : home.loadConfig said with
  | error e after =>
      rw [answer, hload] at hanswer
      cases hanswer
  | ok config after =>
      simp only
      split
      · exact ⟨_, _, rfl⟩
      · exact ⟨_, _, rfl⟩

end Device

/-! ## What loading leaves alone -/

section Keeping

variable {γ : Type} {view : World → γ}
  (hdisk : ∀ (world : World) (disk : Disk), view { world with disk } = view world)
  (hconsole : ∀ (world : World) (console : Console), view { world with console } = view world)

include hdisk

theorem RecordFile.keeps_readObject (file : String) : Keeps view (readObject file) := by
  refine .bind (.bind (.tryCatch (keeps_onDisk _ hdisk) fun e => ?_) fun bytes => ?_) fun text => ?_
  · split
    · exact .ite (fun _ => .throw _) fun _ => .throw _
    · exact .throw _
  · split
    · exact .throw _
    · exact .pure _
  · split
    · exact .throw _
    · exact .throw _
    · exact .pure _
    · exact .throw _

theorem Home.keeps_loadIdentity (home : Home) : Keeps view home.loadIdentity := by
  refine .tryCatch (.bind (RecordFile.keeps_readObject hdisk _) fun value => ?_) fun e => ?_
  · split
    · exact .throw _
    · exact .pure _
  · split
    · exact .ite (fun _ => .throw _) fun _ => .throw _
    · exact .throw _
    · exact .throw _

include hconsole

theorem Home.keeps_loadConfig (home : Home) : Keeps view home.loadConfig := by
  have hload (file : String) : Keeps view (Config.load file) := by
    refine .bind (RecordFile.keeps_readObject hdisk _) fun value => ?_
    split
    · exact .throw _
    · exact .pure _
  refine .bind (.tryCatch (.bind (hload _) fun _ => .pure _) fun e => ?_) fun result => ?_
  · split
    · exact .ite (fun _ => .pure _) fun _ => .bind (.throw _) fun _ => .pure _
    · exact .bind (keeps_say _ hconsole) fun _ => .pure _
    · exact .bind (.throw _) fun _ => .pure _
  · cases result <;> exact .pure _

end Keeping

/-- A device starts with a new lock, in surroundings that it has not changed. -/
theorem Device.load_new (hload : load home world = .ok device loaded) :
    device.home = home ∧ device.lock = world.locks.nextLock ∧
      loaded.locks = world.locks.newLock.2 ∧ loaded.environment = world.environment ∧
      loaded.scripts = world.scripts := by
  have hidentity : Keeps (fun world => (world.locks, world.environment, world.scripts))
      home.loadIdentity := Home.keeps_loadIdentity (fun _ _ => rfl) home
  have hconfig : Keeps (fun world => (world.locks, world.environment, world.scripts))
      home.loadConfig := Home.keeps_loadConfig (fun _ _ => rfl) (fun _ _ => rfl) home
  unfold load at hload
  simp only [bind_apply] at hload
  cases hi : home.loadIdentity world with
  | error e after =>
      rw [hi] at hload
      cases hload
  | ok identity identified =>
      have hidentified := hidentity.ok hi
      simp only [hi, sayNaming_apply] at hload
      split_ifs at hload with hshown
      simp only at hload
      generalize hsaid : identified.saying _ = said at hload
      have hsaidSame : (said.locks, said.environment, said.scripts) =
          (world.locks, world.environment, world.scripts) := hsaid ▸ hidentified
      cases hc : home.loadConfig said with
      | error e after =>
          rw [hc] at hload
          cases hload
      | ok config configured =>
          have hsame := (hconfig.ok hc).trans hsaidSame
          simp only [Prod.mk.injEq] at hsame
          obtain ⟨hlocks, henvironment, hscripts⟩ := hsame
          have hlock : configured.locks.newLock = world.locks.newLock := by rw [hlocks]
          rw [hc] at hload
          simp only at hload
          split at hload
          · simp only [bind_apply, say_apply, build_apply] at hload
            cases hload
            exact ⟨rfl, congrArg Prod.fst hlock, congrArg Prod.snd hlock, henvironment, hscripts⟩
          · rw [build_apply] at hload
            cases hload
            exact ⟨rfl, congrArg Prod.fst hlock, congrArg Prod.snd hlock, henvironment, hscripts⟩

end SmartDevice
