import SmartDevice.Proofs.Device.Linearization
import SmartDevice.Proofs.Disk.Paving
import SmartDevice.Proofs.Provision.Usability

/-! # An identity that is there is not damaged

An order can be carried out in four ways, and only the last touches the file of the identity: it is
not known whether there is one, there is one that stays, something fails, or a new one is saved. -/

namespace SmartDevice.Provision

open Apply Disk World RecordFile

variable {home : Home} {order : Order} {before after made said : World} {location : Location}

/-! ## The courses that an order can take -/

/-- An order may be carried out: there is no identity yet, or it is to be replaced. -/
def Allowed (home : Home) (order : Order) (disk : Disk) : Prop :=
  disk.occupied home.identityFile = .ok false ∨
    disk.occupied home.identityFile = .ok true ∧ order.force = true

/-- How an order is carried out, with the result. Once that is allowed directories are made, and
what comes next is either completed or leaves everything else but the temporary file alone. -/
inductive Course (home : Home) (order : Order) (before : World) :
    EStateM.Result Failure World ℕ → Prop where
  | unknown {e : FileError} {after : World}
      (h : order.finding home before.disk = .unknown e)
      (hdisk : after.disk = order.inspected home before.disk)
      (hgenerator : after.generator = before.generator) :
      Course home order before (.error (.file e) after)
  | stays {after : World} (h : Stays home order before after) :
      Course home order before (.ok 0 after)
  | reports {after : World} {made : Disk} (hallowed : Allowed home order before.disk)
      (hpaves : Paves home.path before.disk made)
      (habandoned : Abandoned home.temporaryIdentityFile made after.disk) :
      Course home order before (.ok 1 after)
  | raises {e : Failure} {after : World} {made : Disk} (hallowed : Allowed home order before.disk)
      (hpaves : Paves home.path before.disk made)
      (habandoned : Abandoned home.temporaryIdentityFile made after.disk) :
      Course home order before (.error e after)
  | saves {after : World} {made : Disk} {identity : Identity} {source goal : Location}
      (hallowed : Allowed home order before.disk) (hpaves : Paves home.path before.disk made)
      (hsource : made.found home.temporaryIdentityFile = .ok source)
      (hgoal : made.found home.identityFile = .ok goal)
      (hreplaced : Replaced source goal identity.toText made after.disk) :
      Course home order before (.ok 0 after)

theorem keeps_newIdentity (home : Home) (order : Order) :
    Keeps World.disk (newIdentity home order) := by
  have hdrawn {α : Type} (x : EStateM GenerationError Generator α) :
      Keeps World.disk (onGenerator x) := by
    intro world
    unfold left
    rw [onGenerator_apply]
    cases x world.generator <;> rfl
  refine .bind (.bind (hdrawn _) fun _ => .bind (hdrawn _) fun _ => .pure _) fun identity => ?_
  cases order.privateKeyFile with
  | unmade => exact .pure _
  | blank => exact .throw _
  | made file => exact .pure _

theorem course_write (hallowed : Allowed home order before.disk)
    (hpaves : Paves home.path before.disk made.disk) :
    Course home order before (write home order made) := by
  rw [write_apply]
  cases hnew : newIdentity home order made with
  | error e issued =>
      have hdisk := (keeps_newIdentity home order).error hnew
      rw [← hdisk] at hpaves
      exact .raises hallowed hpaves (.refl issued.disk)
  | ok identity issued =>
      have hdisk := (keeps_newIdentity home order).ok hnew
      have hcases := replace_cases home.name?_identityFile identity.toText issued
      rw [home.sibling_identityFile] at hcases
      rw [← hdisk] at hpaves
      rcases hcases with
        ⟨source, goal, disk, hsource, hgoal, hsave, hreplaced⟩ | ⟨e, disk, hsave, habandoned⟩
      · have hsave' : home.saveIdentity identity issued = .ok ⟨⟩ { issued with disk } := hsave
        simp only [hsave']
        have hannounced : Replaced source goal identity.toText issued.disk
            (left (announce home order identity) { issued with disk }).disk := by
          rw [(announce_apply _ _ _ _).2]
          exact hreplaced
        exact .saves hallowed hpaves hsource hgoal hannounced
      · have hsave' : home.saveIdentity identity issued = .error e { issued with disk } := hsave
        simp only [hsave']
        cases e with
        | storage e => exact .reports hallowed hpaves habandoned
        | _ => exact .raises hallowed hpaves habandoned

/-- First the directory is made, and then the identity is written. -/
theorem course_makeThenWrite (hallowed : Allowed home order before.disk)
    (hsame : Same before.disk said.disk) :
    Course home order before (makeThenWrite home order said) := by
  have hpaves := (Paves.of_same hsame).trans (paves_makeDirectories home.path said.disk)
  rw [makeThenWrite_apply, Home.makeDirectory, onDisk_apply]
  unfold left at hpaves
  cases hmake : makeDirectories home.path said.disk with
  | ok answer disk =>
      rw [hmake] at hpaves
      let made : World := { said with disk }
      have hpaves' : Paves home.path before.disk made.disk := hpaves
      exact course_write hallowed hpaves'
  | error e disk =>
      rw [hmake] at hpaves
      cases e with
      | system e => exact .reports hallowed hpaves (.refl disk)
      | _ => exact .raises hallowed hpaves (.refl disk)

theorem allowed_of_finding {disk : Disk} {there : Bool}
    (h : order.finding home disk = .allowed there) : Allowed home order disk := by
  obtain ⟨hthere, hforce⟩ := of_finding_allowed h
  cases there with
  | false => exact .inl hthere
  | true => exact .inr ⟨hthere, hforce rfl⟩

theorem course_create (home : Home) (order : Order) (before : World) :
    Course home order before (create home order before) := by
  have hsame := same_inspected order home before.disk
  rw [create_apply]
  simp only
  cases hfinding : order.finding home before.disk with
  | unknown e => exact .unknown hfinding rfl rfl
  | stays =>
      obtain ⟨hthere, hforce, hdisk⟩ := of_finding_stays hfinding
      exact .stays ⟨hthere, hforce, hdisk, rfl⟩
  | allowed there =>
      have hallowed := allowed_of_finding hfinding
      cases there with
      | false => exact course_makeThenWrite hallowed hsame
      | true => exact course_makeThenWrite hallowed hsame

/-! ## What an order leaves alone -/

theorem Allowed.missing_or_forced (h : Allowed home order before.disk) :
    before.disk.reached? home.identityFile = none ∨ order.force = true := by
  refine h.imp (fun hfree => ?_) And.right
  rcases occupied_cases before.disk home.identityFile with hoccupied | ⟨hnone, -⟩
  · rw [hfree] at hoccupied
    exact Option.not_isSome_iff_eq_none.mp (by simp [← Except.ok.inj hoccupied])
  · exact hnone

theorem reached?_identityFile_of_abandoned {made after : Disk}
    (h : Abandoned home.temporaryIdentityFile made after) :
    after.reached? home.identityFile = made.reached? home.identityFile := by
  ext node
  rw [reached?_eq_some_iff, reached?_eq_some_iff]
  refine exists_congr fun location => ?_
  rw [h.directories.found_eq_ok_iff]
  refine and_congr_right fun hfound => ?_
  rw [h.elsewhere location fun htemporary => ?_]
  obtain ⟨place, rfl, -⟩ := exists_parent_of_found Home.isName_identity (by decide) hfound
  obtain ⟨other, hother, -⟩ :=
    exists_parent_of_found Home.isName_temporaryIdentity (by decide) htemporary
  exact absurd (List.cons.inj hother).1 (by decide)

/-- What carrying out an order may change. -/
structure Spares (home : Home) (order : Order) (before : World) (answer : Except Failure ℕ)
    (after : World) : Prop where
  /-- An identity is given only by an order that succeeds, in place of none or by force. -/
  identity : after.disk.reached? home.identityFile ≠ before.disk.reached? home.identityFile →
    answer = .ok 0 ∧
      (before.disk.reached? home.identityFile = none ∨ order.force = true)
  /-- Without force whatever was there, where the identity is or would be, stays with all other
  files, and nothing is drawn. The order succeeds unless the test for an identity fails. -/
  unforced : order.force = false → ∀ location,
    before.disk.found home.identityFile = .ok location ∨
      after.disk.found home.identityFile = .ok location →
    before.disk.node? location ≠ none →
      (answer = .ok 0 ∨
        ∃ e, before.disk.tells home.identityFile = .error e ∧ answer = .error (.file e)) ∧
      after.disk = before.disk.tested ∧ after.generator = before.generator
  /-- Whatever is different is one of the two files, or a new directory on the way to the home. -/
  elsewhere : ∀ location, after.disk.node? location ≠ before.disk.node? location →
    after.disk.found home.identityFile = .ok location ∨
      after.disk.found home.temporaryIdentityFile = .ok location ∨
      before.disk.node? location = none ∧ after.disk.node? location = some .directory ∧
        after.disk.OnWay home.path location

/-- Where every file is as it was nothing is different. -/
theorem Spares.of_same {answer : Except Failure ℕ} (hsame : Same before.disk after.disk)
    (hstays : order.force = false → before.disk.occupied home.identityFile = .ok true →
      (answer = .ok 0 ∨
        ∃ e, before.disk.tells home.identityFile = .error e ∧ answer = .error (.file e)) ∧
      after.disk = before.disk.tested ∧ after.generator = before.generator) :
    Spares home order before answer after where
  identity h := absurd (hsame.reached?_eq _) h
  unforced hforce location hfound hnode := by
    rw [hsame.found_eq, or_self] at hfound
    obtain ⟨node, hnode⟩ := Option.ne_none_iff_exists'.mp hnode
    exact hstays hforce (occupied_of_reached (reached?_eq_some_iff.mpr ⟨location, hfound, hnode⟩))
  elsewhere location h := absurd (hsame.node? location) h

/-- Where an order may be carried out without force, and the way climbs, there was nothing. -/
theorem Allowed.node?_eq_none {made b : Disk} (h : Allowed home order before.disk)
    (hforce : order.force = false) (htree : before.disk.IsTree)
    (hclimbs : before.disk.Climbs home.path) (hpaves : Paves home.path before.disk made)
    (hsame : SameDirectories made b)
    (hfound : before.disk.found home.identityFile = .ok location ∨
      b.found home.identityFile = .ok location) : before.disk.node? location = none := by
  by_contra hnode
  have hfound' : before.disk.found home.identityFile = .ok location := by
    refine hfound.elim id fun hlater => ?_
    rw [hsame.found_eq_ok_iff] at hlater
    exact hpaves.grows.found_of_node htree (hclimbs.child Home.isName_identity (by decide)) hlater
      hnode
  obtain ⟨node, hnode⟩ := Option.ne_none_iff_exists'.mp hnode
  have hthere := reached?_eq_some_iff.mpr ⟨location, hfound', hnode⟩
  rcases h.missing_or_forced with hnone | hforced
  · cases hthere.symm.trans hnone
  · cases hforce.symm.trans hforced

/-- Directories are made first, and then only the two files may come, change or go. -/
theorem elsewhere_of_touches {made a b : Disk} (hpaves : Paves home.path a made)
    (htouches : Touches (fun location => made.found home.identityFile = .ok location ∨
      made.found home.temporaryIdentityFile = .ok location) made b)
    (hnew : b.node? location ≠ a.node? location) :
    b.found home.identityFile = .ok location ∨
      b.found home.temporaryIdentityFile = .ok location ∨
      a.node? location = none ∧ b.node? location = some .directory ∧
        b.OnWay home.path location := by
  rw [htouches.directories.found_eq_ok_iff, htouches.directories.found_eq_ok_iff]
  by_cases hlater : b.node? location = made.node? location
  · rw [hlater] at hnew
    obtain ⟨hnone, hdir⟩ := (hpaves.grows.node location).resolve_left hnew
    exact .inr (.inr ⟨hnone, hlater.trans hdir,
      (hpaves.way location hnew).stay htouches.directories.stay⟩)
  · rw [← or_assoc]
    exact .inl (by_contra fun hfiles => hlater (htouches.elsewhere location hfiles))

/-- Whatever goes wrong, the identity is left as it is. -/
theorem Spares.of_abandoned {made : Disk} {answer : Except Failure ℕ}
    (htree : before.disk.IsTree) (hclimbs : before.disk.Climbs home.path)
    (hallowed : Allowed home order before.disk) (hpaves : Paves home.path before.disk made)
    (habandoned : Abandoned home.temporaryIdentityFile made after.disk) :
    Spares home order before answer after where
  identity h := by
    have hmade : made.reached? home.identityFile = before.disk.reached? home.identityFile :=
      hpaves.reached?_child htree hclimbs Home.isName_identity (by decide)
    exact absurd ((reached?_identityFile_of_abandoned habandoned).trans hmade) h
  unforced hforce _ hfound hnode := absurd (hallowed.node?_eq_none hforce htree hclimbs hpaves
    habandoned.directories hfound) hnode
  elsewhere location hnew :=
    elsewhere_of_touches hpaves (habandoned.mono fun _ => .inr) hnew

/-- Carrying out an order does not damage an identity, however it ends: it takes the place of one
only by force and as a whole, and changes nothing else. The way to the home must not go up from a
directory that is missing. -/
theorem identity_is_spared (home : Home) (order : Order) (before : World)
    (htree : before.disk.IsTree) (hclimbs : before.disk.Climbs home.path) :
    Spares home order before (answer (create home order) before)
      (left (create home order) before) := by
  have hcourse := course_create home order before
  unfold answer left
  generalize create home order before = result at hcourse
  cases hcourse with
  | @unknown e after h hdisk hgenerator =>
      have hsame := same_inspected order home before.disk
      rw [← hdisk] at hsame
      refine .of_same hsame fun hforce hthere => ?_
      rcases of_finding_unknown h with ⟨htells, hinspected⟩ | ⟨there, hoccupied, hforced⟩
      · exact ⟨.inr ⟨e, htells, rfl⟩, hdisk.trans hinspected, hgenerator⟩
      · cases hthere.symm.trans hoccupied
        cases hforce.symm.trans (hforced rfl)
  | stays h =>
      have hsame := before.disk.same_tested
      rw [← h.disk] at hsame
      exact .of_same hsame fun _ _ => ⟨.inl rfl, h.disk, h.generator⟩
  | reports hallowed hpaves habandoned =>
      exact .of_abandoned htree hclimbs hallowed hpaves habandoned
  | raises hallowed hpaves habandoned =>
      exact .of_abandoned htree hclimbs hallowed hpaves habandoned
  | saves hallowed hpaves hsource hgoal hreplaced =>
      have htouches := hreplaced.touches
      refine ⟨fun _ => ⟨rfl, hallowed.missing_or_forced⟩, fun hforce _ hfound hnode => ?_,
        fun location hnew => elsewhere_of_touches hpaves (htouches.mono ?_) hnew⟩
      · exact absurd (hallowed.node?_eq_none hforce htree hclimbs hpaves htouches.directories
          hfound) hnode
      · rintro location (rfl | rfl)
        · exact .inr hsource
        · exact .inl hgoal

/-- The lamp in its home keeps its identity, and all else stays as it is. -/
theorem lamp_keeps_identity :
    Device.lampWorld.disk.IsTree ∧
      Device.lampWorld.disk.Climbs (Home.mk (Path.ofString "home")).path ∧
      lampOrder.force = false ∧
      Device.lampWorld.disk.node? ["device.json", "home"] =
        some (.file (Text.Utf8.encode Device.lamp.toText.toList)) ∧
      (left (create ⟨Path.ofString "home"⟩ lampOrder) Device.lampWorld).disk =
        Device.lampWorld.disk := by
  have hclimbs : Device.lampWorld.disk.Climbs (Home.mk (Path.ofString "home")).path :=
    .of_not_mem (by decide)
  have hfound : Device.lampWorld.disk.found (Home.mk (Path.ofString "home")).identityFile =
      .ok ["device.json", "home"] := by
    refine (found_eq_ok_iff _).mpr ⟨?_, by decide +kernel⟩
    exact Home.noNull_child Device.lampWorld_resides.noNull Home.isName_identity (by simp)
  have hspares := identity_is_spared ⟨Path.ofString "home"⟩ lampOrder Device.lampWorld
    Device.lampWorld_isTree hclimbs
  have hcalm : Calm .look Device.lampWorld.disk := by simp [Calm, Device.lampWorld]
  have hdisk := (hspares.unforced rfl _ (.inl hfound) (by decide)).2.1
  rw [tested_of_calm hcalm] at hdisk
  exact ⟨Device.lampWorld_isTree, hclimbs, rfl, rfl, hdisk⟩

/-! ## A detour through a missing directory -/

/-- A lamp in the working directory, and the random bytes for another key. -/
def detour : World where
  disk := { nodes := [(["device.json"], .file (Text.Utf8.encode Device.lamp.toText.toList))] }
  generator := {
    source := { bytes := List.replicate 32 1 ++ List.replicate 10 9 }, clock := .pattern }

/-- Where the path of the home goes up from a directory that is missing, the identity that it leads
to once that directory is made is replaced without having been seen. -/
theorem detour_replaces_identity :
    detour.disk.IsTree ∧ lampOrder.force = false ∧
      detour.disk.node? ["device.json"] =
        some (.file (Text.Utf8.encode Device.lamp.toText.toList)) ∧
      ∃ (after : World) (identity : Identity),
        create ⟨Path.ofString "a/.."⟩ lampOrder detour = .ok 0 after ∧
        after.disk.found (Home.mk (Path.ofString "a/..")).identityFile = .ok ["device.json"] ∧
        after.disk.node? ["device.json"] = some (.file (Text.Utf8.encode identity.toText.toList)) ∧
        identity.authorizationKey ≠ Device.lamp.authorizationKey := by
  let home : Home := ⟨Path.ofString "a/.."⟩
  let made : Disk := detour.disk.put ["a"] .directory
  have hcalm (point : FaultPoint) : Calm point detour.disk := by simp [Calm, detour]
  have hmake : makeDirectories home.path detour.disk = .ok ⟨⟩ made :=
    makeDirectories_around (hcalm _) rfl rfl
  have hnull : hasNull home.path = false := noNull_of_makeDirectories hmake
  have hfree : detour.disk.occupied home.identityFile = .ok false :=
    occupied_of_missing (Home.noNull_child hnull Home.isName_identity (by simp))
      (by decide +kernel)
  have hsource : made.found home.temporaryIdentityFile = .ok ["device.json.tmp"] :=
    (found_eq_ok_iff _).mpr
      ⟨Home.noNull_child hnull Home.isName_temporaryIdentity (by simp), by decide +kernel⟩
  have hgoal : made.found home.identityFile = .ok ["device.json"] :=
    (found_eq_ok_iff _).mpr
      ⟨Home.noNull_child hnull Home.isName_identity (by simp), by decide +kernel⟩
  have hready : Ready home.identityFile made :=
    ready_identityFile hcalm hsource hgoal (by decide) (by decide)
  obtain ⟨identity, issued, hnew, hkey⟩ : ∃ identity issued,
      newIdentity home lampOrder
        { detour.saying (Console.header "Create Device Information") with disk := made } =
          .ok identity issued ∧
      identity.authorizationKey.bytes = List.replicate 32 1 := ⟨_, _, rfl, by decide⟩
  obtain ⟨after, hcreate, hreplaced⟩ :=
    create_of_ready (hcalm _) hfree hmake hnew hready hsource hgoal
  refine ⟨by decide, rfl, rfl, after, identity, hcreate, ?_, hreplaced.written, fun heq => ?_⟩
  · exact (hreplaced.touches.directories.found_eq_ok_iff _).mpr hgoal
  · rw [heq] at hkey
    exact absurd hkey (by decide)

end SmartDevice.Provision
