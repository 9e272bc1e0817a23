import SmartDevice.Proofs.Credential.Decision
import SmartDevice.Proofs.Device.Loading
import SmartDevice.Proofs.Disk.Growth
import SmartDevice.Proofs.Provision.Steps

/-! # A new identity serves its device

What was written is read again as it was made, and the key that was drawn grants access. -/

namespace SmartDevice.Provision

open Apply Disk World

/-- Whoever carries out an order successfully either finds an identity that stays, or gives the
device one that is read back as it was made. The device then grants access to the spellings of the
key that was drawn for it, and takes those of all other keys for wrong. -/
theorem created_identity_is_usable (path : String) (order : Order) {before after : World}
    (h : create ⟨Path.ofString path⟩ order before = .ok 0 after) :
    Stays ⟨Path.ofString path⟩ order before after ∨
      ∃ identity, Given ⟨Path.ofString path⟩ order before after identity ∧
        (∀ world : World, Same after.disk world.disk → Calm .read world.disk →
          Home.loadIdentity ⟨Path.ofString path⟩ world = .ok identity world) ∧
        ∀ device : Device, device.identity = identity →
          (∀ presented, (∃ key, device.check presented = .ok key) ↔
            ∃ text, presented = some text ∧ identity.authorizationKey.Spelled text) ∧
          ∀ other : Key, other ≠ identity.authorizationKey →
            ∀ text, other.Spelled text → device.check (some text) = .error .wrongKey := by
  have hnormal : (Home.mk (Path.ofString path)).path.Normal := Path.normal_ofString path
  have hfile : (Home.mk (Path.ofString path)).identityFile.Normal :=
    hnormal.child Home.isName_identity
  rcases create_eq_zero h with hstays | ⟨identity, hgiven⟩
  · exact .inl hstays
  · refine .inr ⟨identity, hgiven, fun world hsame hcalm => ?_, ?_⟩
    · obtain ⟨location, hfound, hnode⟩ := content_eq_ok_iff.mp hgiven.written
      have hcontent := hsame.directories.content_eq hfound (hsame.node? location)
      rw [hgiven.written, ← Path.ofString_toString hfile] at hcontent
      rw [Home.loadIdentity_apply _ hcalm, Identity.stored_of_content hgiven.issued.version
        (hgiven.issued.normal hnormal) hcontent]
    · rintro device rfl
      refine ⟨fun presented => ?_, fun other hother text hspelled => ?_⟩
      · simp only [Device.check, Credential.check_eq_ok_iff, exists_eq_left]
      · exact (Credential.check_eq_wrongKey_iff _ _).mpr ⟨text, other, rfl, hother, hspelled⟩

/-! ## A new lamp -/

/-- A world without any file, with just enough random bytes. -/
def bareWorld : World where
  generator := {
    source := { bytes := List.replicate 32 7 ++ List.replicate 10 9 }, clock := .pattern }

/-- The disk of the bare world once the directory is made. -/
def bareMade : Disk := bareWorld.disk.put ["home"] .directory

theorem bareHome_noNull : hasNull (Path.ofString "home") = false :=
  hasNull_ofString (by simp)

theorem bareMade_found {name : String} (hname : Path.IsName name)
    (hplain : name.contains (Char.ofNat 0) = false)
    (h : bareMade.locate ((Path.ofString "home").child name) = .ok [name, "home"]) :
    bareMade.found ((Path.ofString "home").child name) = .ok [name, "home"] := by
  refine (found_eq_ok_iff _).mpr ⟨?_, h⟩
  rw [Home.hasNull_child _ hname, bareHome_noNull, hplain, Bool.or_self]

theorem bareWorld_calm (point : FaultPoint) : Calm point bareWorld.disk := by
  simp [Calm, bareWorld]

theorem bareWorld_makes :
    makeDirectories (Path.ofString "home") bareWorld.disk = .ok ⟨⟩ bareMade := by
  have hfound : bareWorld.disk.found (Path.ofString "home") = .ok ["home"] :=
    (found_eq_ok_iff _).mpr ⟨bareHome_noNull, by decide +kernel⟩
  simp only [makeDirectories, bind_apply, strike_of_calm (bareWorld_calm _),
    ensureDirectories_of_free hfound rfl]
  rfl

theorem bareWorld_vacant :
    bareWorld.disk.occupied (Home.mk (Path.ofString "home")).identityFile = .ok false :=
  occupied_of_missing (Home.noNull_child bareHome_noNull Home.isName_identity (by simp))
    (by decide +kernel)

/-- An order for a lamp. -/
def lampOrder : Order := { productName := "Lamp" }

theorem bareMade_ready :
    RecordFile.Ready (Home.mk (Path.ofString "home")).identityFile bareMade ∧
      bareMade.found (Home.mk (Path.ofString "home")).temporaryIdentityFile =
        .ok ["device.json.tmp", "home"] ∧
      bareMade.found (Home.mk (Path.ofString "home")).identityFile =
        .ok ["device.json", "home"] := by
  have hsource : bareMade.found (Home.mk (Path.ofString "home")).temporaryIdentityFile =
      .ok ["device.json.tmp", "home"] :=
    bareMade_found Home.isName_temporaryIdentity (by simp) (by decide +kernel)
  have hgoal : bareMade.found (Home.mk (Path.ofString "home")).identityFile =
      .ok ["device.json", "home"] :=
    bareMade_found Home.isName_identity (by simp) (by decide +kernel)
  have hcalm (point : FaultPoint) : Calm point bareMade := bareWorld_calm point
  exact ⟨ready_identityFile hcalm hsource hgoal (by decide) (by decide), hsource, hgoal⟩

theorem bareWorld_takes_order :
    ∃ after, create ⟨Path.ofString "home"⟩ lampOrder bareWorld = .ok 0 after := by
  obtain ⟨hready, hsource, hgoal⟩ := bareMade_ready
  obtain ⟨identity, issued, hnew⟩ : ∃ identity issued, newIdentity ⟨Path.ofString "home"⟩ lampOrder
      { bareWorld.saying (Console.header "Create Device Information") with disk := bareMade } =
        .ok identity issued := ⟨_, _, rfl⟩
  obtain ⟨after, hcreate, -⟩ :=
    create_of_ready (bareWorld_calm _) bareWorld_vacant bareWorld_makes hnew hready hsource hgoal
  exact ⟨after, hcreate⟩

theorem lamp_gets_usable_identity :
    ∃ after identity, create ⟨Path.ofString "home"⟩ lampOrder bareWorld = .ok 0 after ∧
      Given ⟨Path.ofString "home"⟩ lampOrder bareWorld after identity ∧
      ∀ device : Device, device.identity = identity →
        ∀ other : Key, other ≠ identity.authorizationKey →
          ∀ text, other.Spelled text → device.check (some text) = .error .wrongKey := by
  obtain ⟨after, h⟩ := bareWorld_takes_order
  rcases created_identity_is_usable "home" lampOrder h with hstays | ⟨identity, hgiven, -, hcheck⟩
  · exact absurd (hstays.there.symm.trans bareWorld_vacant) (by simp)
  · exact ⟨after, identity, h, hgiven, fun device hdevice => (hcheck device hdevice).2⟩

end SmartDevice.Provision
