import SmartDevice.Provision.Basic
import SmartDevice.Proofs.Home.Records
import SmartDevice.Proofs.Generator.Draws
import SmartDevice.Proofs.RecordFile.Atomicity
import SmartDevice.Proofs.WidePath.Normal

/-! # Carrying out an order for an identity

The key and the identifier are drawn first, then the identity is written as a whole. -/

namespace SmartDevice

namespace Home

/-- The file that a new identity is first written to. -/
def temporaryIdentityFile (home : Home) : Path := home.path.child "device.json.tmp"

theorem isName_temporaryIdentity : Path.IsName "device.json.tmp" := by decide

theorem name?_identityFile (home : Home) : home.identityFile.name? = some "device.json" :=
  Path.name?_child _ isName_identity

theorem sibling_identityFile (home : Home) :
    home.identityFile.sibling ("device.json" ++ ".tmp") = home.temporaryIdentityFile :=
  Path.sibling_child _ isName_identity isName_temporaryIdentity

end Home

namespace Provision

open Apply Disk World

variable {home : Home} {order : Order} {identity : Identity} {world after : World}

/-! ## Making an identity -/

/-- An identity as it was ordered. Its key is made of the first bytes of the source, and its
identifier of the ten that follow. -/
structure Issued (home : Home) (order : Order) (generator : Generator) (identity : Identity) :
    Prop where
  name : identity.productName = order.productName
  file : identity.privateKeyFile = order.keyFile home
  drawn : ∃ time random rest, generator.shown = .ok time ∧ random.length = 10 ∧
    generator.source.bytes = identity.authorizationKey.bytes ++ (random ++ rest) ∧
    identity.uuid.Carries time (BitVec.ofNat 80 (Key.natOfBytes random))

namespace Issued

variable {generator : Generator}

theorem version (h : Issued home order generator identity) : identity.uuid.version? = some 7 := by
  obtain ⟨time, random, rest, -, -, -, hcarries⟩ := h.drawn
  exact hcarries.version

theorem normal (h : Issued home order generator identity) (hnormal : home.path.Normal) :
    identity.privateKeyFile.Normal := by
  rw [h.file]
  refine WidePath.normal_ofPath ?_
  unfold Order.keyFile
  split
  · exact Path.normal_ofString _
  · exact hnormal.child (by decide)

end Issued

theorem newIdentity_eq_ok (h : newIdentity home order world = .ok identity after) :
    Issued home order world.generator identity ∧ after.disk = world.disk := by
  unfold newIdentity Home.newIdentity at h
  simp only [bind_apply, onGenerator_apply] at h
  cases hkey : Generator.key world.generator with
  | error e left =>
      rw [hkey] at h
      cases h
  | ok key keyed =>
      obtain ⟨hbytes, hsame⟩ := Generator.key_eq_ok hkey
      rw [hkey] at h
      simp only at h
      cases huuid : Generator.uuid keyed with
      | error e left =>
          rw [huuid] at h
          cases h
      | ok uuid named =>
          obtain ⟨time, random, hshown, hlength, hrandom, hcarries⟩ := Generator.uuid_eq_ok huuid
          have hdrawn : world.generator.source.bytes =
              key.bytes ++ (random ++ named.source.bytes) := by
            rw [hbytes, hrandom]
          have hshown' := hsame.symm.trans hshown
          rw [huuid] at h
          simp only [pure_apply] at h
          cases hfile : order.privateKeyFile with
          | blank =>
              rw [hfile] at h
              cases h
          | unmade =>
              rw [hfile] at h
              cases h
              refine ⟨⟨rfl, ?_, time, random, _, hshown', hlength, hdrawn, hcarries⟩, rfl⟩
              rw [Order.keyFile, hfile]
          | made file =>
              rw [hfile] at h
              cases h
              refine ⟨⟨rfl, ?_, time, random, _, hshown', hlength, hdrawn, hcarries⟩, rfl⟩
              rw [Order.keyFile, hfile]

/-! ## Writing it -/

/-- The file of the identity holds the given one. -/
def Written (home : Home) (identity : Identity) (disk : Disk) : Prop :=
  disk.content home.identityFile = .ok (Text.Utf8.encode identity.toText.toList)

theorem written_of_save (h : home.saveIdentity identity world = .ok ⟨⟩ after) :
    Written home identity after.disk :=
  RecordFile.content_of_replace h

theorem announce_apply (home : Home) (order : Order) (identity : Identity) (world : World) :
    announce home order identity world = .ok ⟨⟩ (left (announce home order identity) world) ∧
      (left (announce home order identity) world).disk = world.disk := by
  unfold announce
  cases order.showKey with
  | false => exact ⟨rfl, rfl⟩
  | true => exact ⟨rfl, rfl⟩

theorem write_apply (home : Home) (order : Order) (world : World) :
    write home order world =
      match newIdentity home order world with
      | .error e made => .error e made
      | .ok identity made =>
        match home.saveIdentity identity made with
        | .ok _ saved => .ok 0 (left (announce home order identity) saved)
        | .error (.storage e) saved =>
          .ok 1 (saved.saying
            (Console.error s!"Could not write device information: {e.message}"))
        | .error e saved => .error e saved := by
  unfold write
  simp only [bind_apply, tryCatch_apply]
  cases newIdentity home order world with
  | error e made => rfl
  | ok identity made =>
      simp only
      cases home.saveIdentity identity made with
      | ok answer saved =>
          have hannounce := (announce_apply home order identity saved).1
          change (announce home order identity >>= fun _ => pure 0) saved = _
          rw [bind_apply, hannounce]
          rfl
      | error e saved => cases e <;> rfl

theorem write_eq_zero (h : write home order world = .ok 0 after) :
    ∃ identity, Issued home order world.generator identity ∧
      Written home identity after.disk := by
  rw [write_apply] at h
  cases hnew : newIdentity home order world with
  | error e made =>
      rw [hnew] at h
      cases h
  | ok identity made =>
      refine ⟨identity, (newIdentity_eq_ok hnew).1, ?_⟩
      rw [hnew] at h
      simp only at h
      cases hsave : home.saveIdentity identity made with
      | ok answer saved =>
          have hdisk := (announce_apply home order identity saved).2
          rw [hsave] at h
          cases h
          rw [hdisk]
          exact written_of_save hsave
      | error e saved =>
          rw [hsave] at h
          cases e <;> cases h

/-! ## Carrying out an order -/

/-- What is said before an identity that is there is replaced. -/
def warned (world : World) : World :=
  (world.saying (Console.warning "Overwriting existing device information")).saying
    (Console.warning "The old authorization key will no longer be accepted by the device")

/-- What is said where an identity that is there stays. -/
def kept (file : Path) (world : World) : World :=
  (world.saying
      (Console.info s!"The device information file already exists at: {file.toString}")).saying
    (Console.info "You can use the -f option to overwrite it with a new one.")

/-- What an order comes to once it may be carried out. -/
def makeThenWrite (home : Home) (order : Order) : Action Nat := do
  try home.makeDirectory
  catch
    | .file (.system e) =>
      say (Console.error s!"Could not create output path: {e.message}")
      return 1
    | e => throw e
  write home order

/-- The directory is made, or else what went wrong is said and nothing is written. -/
theorem makeThenWrite_apply (home : Home) (order : Order) (world : World) :
    makeThenWrite home order world =
      match home.makeDirectory world with
      | .ok _ made => write home order made
      | .error (.file (.system e)) made =>
        .ok 1 (made.saying (Console.error s!"Could not create output path: {e.message}"))
      | .error e made => .error e made := by
  unfold makeThenWrite
  simp only [bind_apply, tryCatch_apply]
  cases home.makeDirectory world with
  | ok answer made => rfl
  | error e made =>
      cases e with
      | file e => cases e <;> rfl
      | _ => rfl

theorem onDisk_isThere_apply (path : Path) (world : World) :
    onDisk (isThere path) world =
      match world.disk.tells path with
      | .error e => .error (.file e) { world with disk := world.disk.tested }
      | .ok there => .ok there { world with disk := world.disk.tested } := by
  rw [onDisk_apply, isThere_apply]
  cases world.disk.tells path <;> rfl

/-- What an order finds before it does anything. -/
inductive Finding where
  /-- It cannot be found out whether there is an identity. -/
  | unknown (e : FileError)
  /-- There is one, and it stays. -/
  | stays
  /-- The order may be carried out; it may be that an identity is there. -/
  | allowed (there : Bool)

/-- Whether there is an identity is tested once to see if it stays, and once more if it does not. -/
def Order.finding (order : Order) (home : Home) (disk : Disk) : Finding :=
  match disk.tells home.identityFile with
  | .error e => .unknown e
  | .ok there =>
    if there && !order.force then .stays
    else match disk.tested.tells home.identityFile with
      | .error e => .unknown e
      | .ok there => .allowed there

/-- What is left of a disk after these tests. -/
def Order.inspected (order : Order) (home : Home) (disk : Disk) : Disk :=
  match disk.tells home.identityFile with
  | .error _ => disk.tested
  | .ok there => if there && !order.force then disk.tested else disk.tested.tested

theorem create_apply (home : Home) (order : Order) (world : World) :
    create home order world =
      let opened := { world.saying (Console.header "Create Device Information") with
        disk := order.inspected home world.disk }
      match order.finding home world.disk with
      | .unknown e => .error (.file e) opened
      | .stays => .ok 0 (kept home.identityFile opened)
      | .allowed there => makeThenWrite home order (if there then warned opened else opened) := by
  have hsaid (write : Console → Console) (world : World) :
      (world.saying write).disk = world.disk := rfl
  unfold create Order.finding Order.inspected
  simp only [bind_apply, say_apply, onDisk_isThere_apply, hsaid]
  cases htells : world.disk.tells home.identityFile with
  | error e => rfl
  | ok there =>
      simp only
      by_cases hstays : (there && !order.force) = true
      · simp only [if_pos hstays]
        rfl
      · simp only [if_neg hstays]
        rw [bind_apply, onDisk_isThere_apply]
        simp only
        cases world.disk.tested.tells home.identityFile with
        | error e => rfl
        | ok again => cases again <;> rfl

section Finding

variable {disk : Disk} {e : FileError} {there : Bool}

theorem same_inspected (order : Order) (home : Home) (disk : Disk) :
    Same disk (order.inspected home disk) := by
  have hagain : Same disk disk.tested.tested := disk.same_tested.trans disk.tested.same_tested
  unfold Order.inspected
  split
  · exact disk.same_tested
  · split
    · exact disk.same_tested
    · exact hagain

theorem calm_inspected {point : FaultPoint} (h : Calm point disk) (order : Order) (home : Home) :
    Calm point (order.inspected home disk) := by
  unfold Order.inspected
  split
  · exact h.tested
  · split
    · exact h.tested
    · exact h.tested.tested

theorem of_finding_stays (h : order.finding home disk = .stays) :
    disk.occupied home.identityFile = .ok true ∧ order.force = false ∧
      order.inspected home disk = disk.tested := by
  unfold Order.finding at h
  unfold Order.inspected
  cases htells : disk.tells home.identityFile with
  | error e =>
      rw [htells] at h
      cases h
  | ok there =>
      simp only [htells] at h ⊢
      split at h
      · next hstays =>
          rw [if_pos hstays]
          rw [Bool.and_eq_true, Bool.not_eq_true'] at hstays
          obtain ⟨rfl, hforce⟩ := hstays
          exact ⟨occupied_of_tells htells, hforce, rfl⟩
      · split at h
        · cases h
        · cases h

theorem of_finding_allowed (h : order.finding home disk = .allowed there) :
    disk.occupied home.identityFile = .ok there ∧ (there = true → order.force = true) := by
  unfold Order.finding at h
  cases htells : disk.tells home.identityFile with
  | error e =>
      rw [htells] at h
      cases h
  | ok first =>
      simp only [htells] at h
      split at h
      · cases h
      · next hmakes =>
          split at h
          · cases h
          · next again htells' =>
              cases h
              have hagain := occupied_of_tells htells'
              rw [disk.same_tested.occupied_eq] at hagain
              cases (occupied_of_tells htells).symm.trans hagain
              refine ⟨hagain, ?_⟩
              rintro rfl
              simpa using hmakes

/-- Where an identity is seen that is not to be replaced, only the first test can fail. -/
theorem of_finding_unknown (h : order.finding home disk = .unknown e) :
    (disk.tells home.identityFile = .error e ∧ order.inspected home disk = disk.tested) ∨
      ∃ there, disk.occupied home.identityFile = .ok there ∧
        (there = true → order.force = true) := by
  unfold Order.finding at h
  unfold Order.inspected
  cases htells : disk.tells home.identityFile with
  | error e' =>
      rw [htells] at h
      cases h
      exact .inl ⟨rfl, rfl⟩
  | ok there =>
      simp only [htells] at h
      split at h
      · cases h
      · next hmakes =>
          refine .inr ⟨there, occupied_of_tells htells, ?_⟩
          rintro rfl
          simpa using hmakes

/-- Where no test is about to fail, what is there decides. -/
theorem finding_of_free (order : Order) (hcalm : Calm .look disk)
    (hfree : disk.occupied home.identityFile = .ok false) :
    order.finding home disk = .allowed false ∧ order.inspected home disk = disk := by
  have htells : disk.tells home.identityFile = .ok false :=
    (tells_of_calm hcalm _).trans hfree
  unfold Order.finding Order.inspected
  rw [tested_of_calm hcalm, htells]
  simp only [Bool.false_and, Bool.false_eq_true, if_false, tested_of_calm hcalm, and_self]

end Finding

theorem keeps_makeDirectory (home : Home) : Keeps World.generator home.makeDirectory :=
  keeps_onDisk _ fun _ _ => rfl

/-- An identity that is there stays, with all other files, and nothing is drawn. -/
structure Stays (home : Home) (order : Order) (before after : World) : Prop where
  there : before.disk.occupied home.identityFile = .ok true
  unforced : order.force = false
  disk : after.disk = before.disk.tested
  generator : after.generator = before.generator

/-- An identity was made and written, in place of none or because that was asked for. -/
structure Given (home : Home) (order : Order) (before after : World) (identity : Identity) :
    Prop where
  allowed : before.disk.occupied home.identityFile = .ok false ∨ order.force = true
  issued : Issued home order before.generator identity
  written : Written home identity after.disk

theorem create_eq_zero (h : create home order world = .ok 0 after) :
    Stays home order world after ∨ ∃ identity, Given home order world after identity := by
  rw [create_apply] at h
  generalize hopened : ({ world.saying _ with disk := _ } : World) = opened at h
  simp only at h
  cases hfinding : order.finding home world.disk with
  | unknown e =>
      rw [hfinding] at h
      cases h
  | stays =>
      obtain ⟨hthere, hforce, hdisk⟩ := of_finding_stays hfinding
      rw [hfinding] at h
      cases h
      subst hopened
      exact .inl ⟨hthere, hforce, hdisk, rfl⟩
  | allowed there =>
      obtain ⟨hthere, hforce⟩ := of_finding_allowed hfinding
      have hallowed : world.disk.occupied home.identityFile = .ok false ∨
          order.force = true := by
        cases there with
        | false => exact .inl hthere
        | true => exact .inr (hforce rfl)
      rw [hfinding] at h
      simp only at h
      generalize hsaid : (if there = true then warned opened else opened) = said at h
      have hgenerator : said.generator = world.generator := by
        rw [← hsaid, ← hopened]
        cases there <;> rfl
      rw [makeThenWrite_apply] at h
      cases hmake : home.makeDirectory said with
      | ok answer made =>
          have hmade := (keeps_makeDirectory home).ok hmake
          rw [hmake] at h
          obtain ⟨identity, hissued, hwritten⟩ := write_eq_zero h
          rw [hmade, hgenerator] at hissued
          exact .inr ⟨identity, hallowed, hissued, hwritten⟩
      | error e made =>
          rw [hmake] at h
          cases e with
          | file e => cases e <;> cases h
          | _ => cases h

/-- Where no file operation is about to fail, and no directory is in the place of the two files,
nothing is in the way of an identity. -/
theorem ready_identityFile {disk : Disk} {source goal : Location}
    (hcalm : ∀ point, Calm point disk)
    (hsource : disk.found home.temporaryIdentityFile = .ok source)
    (hgoal : disk.found home.identityFile = .ok goal)
    (hfree : disk.node? source ≠ some .directory) (hfree' : disk.node? goal ≠ some .directory) :
    RecordFile.Ready home.identityFile disk := by
  rw [← home.sibling_identityFile] at hsource
  exact ⟨hcalm, "device.json", source, goal, home.name?_identityFile, by decide, hsource, hgoal,
    hfree, hfree'⟩

/-- Where there is no identity and nothing is in the way, the order is carried out. -/
theorem create_of_ready {made : Disk} {issued : World} {source goal : Location}
    (hcalm : Calm .look world.disk)
    (hfree : world.disk.occupied home.identityFile = .ok false)
    (hmake : makeDirectories home.path world.disk = .ok ⟨⟩ made)
    (hnew : newIdentity home order
      { world.saying (Console.header "Create Device Information") with disk := made } =
        .ok identity issued)
    (hready : RecordFile.Ready home.identityFile made)
    (hsource : made.found home.temporaryIdentityFile = .ok source)
    (hgoal : made.found home.identityFile = .ok goal) :
    ∃ after, create home order world = .ok 0 after ∧
      RecordFile.Replaced source goal identity.toText made after.disk := by
  have hdisk : issued.disk = made := (newIdentity_eq_ok hnew).2
  obtain ⟨hfinding, hinspected⟩ := finding_of_free order hcalm hfree
  have hmade : home.makeDirectory
      (world.saying (Console.header "Create Device Information")) =
      .ok ⟨⟩ { world.saying (Console.header "Create Device Information") with disk := made } := by
    have hsame : (world.saying (Console.header "Create Device Information")).disk = world.disk :=
      rfl
    rw [Home.makeDirectory, onDisk_apply, hsame, hmake]
  rw [← hdisk] at hready
  obtain ⟨disk, hreplace, -⟩ := RecordFile.replace_of_ready hready identity.toText
  have hsave : home.saveIdentity identity issued = .ok ⟨⟩ { issued with disk } := hreplace
  rw [create_apply, hfinding, hinspected]
  change ∃ after, makeThenWrite home order
    (world.saying (Console.header "Create Device Information")) = .ok 0 after ∧ _
  simp only [makeThenWrite_apply, hmade, write_apply, hnew, hsave]
  refine ⟨_, rfl, ?_⟩
  rw [(announce_apply _ _ _ _).2]
  rcases RecordFile.replace_cases home.name?_identityFile identity.toText issued with
    ⟨source', goal', disk', hsource', hgoal', hx, hreplaced⟩ | ⟨e, disk', hx, -⟩
  · rw [home.sibling_identityFile, hdisk] at hsource'
    rw [hdisk] at hgoal' hreplaced
    obtain rfl := Except.ok.inj (hsource.symm.trans hsource')
    obtain rfl := Except.ok.inj (hgoal.symm.trans hgoal')
    cases hreplace.symm.trans hx
    exact hreplaced
  · cases hreplace.symm.trans hx

end Provision

end SmartDevice
