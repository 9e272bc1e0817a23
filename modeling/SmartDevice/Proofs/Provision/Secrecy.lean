import SmartDevice.Proofs.Action.Unseen
import SmartDevice.Proofs.Hex.Reading
import SmartDevice.Proofs.Provision.Usability
import SmartDevice.Proofs.RecordFile.Atomicity

/-! # Only the start of a new key shows

A key is made of 32 random bytes, and the console shows the digits of the first four. Two runs whose
random bytes agree in these, and in all that come after the key, end alike: they write the same to
the console and leave the same files behind, but for the key in the file of the identity. -/

namespace SmartDevice

open Apply Disk World

/-! ## Random bytes -/

/-- As many random bytes, that differ at most in those which a key is made of after the first
four. -/
structure SameHint (bytes other : List UInt8) : Prop where
  length_eq : other.length = bytes.length
  start : other.take 4 = bytes.take 4
  rest : other.drop 32 = bytes.drop 32

theorem Key.hint_hex_eq {key other : Key} (h : other.bytes.take 4 = key.bytes.take 4)
    (letters : Hex.Letters) : hint (other.hex letters) = hint (key.hex letters) := by
  have hdigits (key : Key) : (key.hex letters).toList.take 8 =
      Hex.encode letters (key.bytes.take 4) := by
    rw [hex, String.toList_ofList]
    exact Hex.take_encode letters 4 key.bytes
  rw [hint, hint, hdigits, hdigits, h]

/-- A key is drawn in both runs or in neither. What is left to draw is then the same. -/
theorem Generator.key_withBytes {generator : Generator} {bytes : List UInt8}
    (h : SameHint generator.source.bytes bytes) :
    (∃ made other after, key generator = .ok made after ∧
        key (generator.withBytes bytes) = .ok other after ∧
        other.bytes.take 4 = made.bytes.take 4) ∨
      ∃ e after after', key generator = .error e after ∧
        key (generator.withBytes bytes) = .error e after' := by
  rw [key_apply, key_apply, withBytes]
  unfold RandomSource.draw
  simp only [OfNat.ofNat_ne_zero, dite_false]
  cases generator.source.fault with
  | some fault => exact .inr ⟨_, _, _, rfl, rfl⟩
  | none =>
      by_cases henough : 32 ≤ generator.source.bytes.length
      · have henough' : 32 ≤ bytes.length := h.length_eq ▸ henough
        simp only [henough, henough', dite_true, h.rest]
        refine .inl ⟨_, _, _, rfl, rfl, ?_⟩
        rw [List.take_take, List.take_take]
        exact h.start
      · have henough' : ¬ 32 ≤ bytes.length := h.length_eq ▸ henough
        simp only [henough, henough', dite_false]
        exact .inr ⟨_, _, _, rfl, rfl⟩

/-- The same surroundings with other random bytes. -/
def World.withEntropy (bytes : List UInt8) (world : World) : World :=
  { world with generator := world.generator.withBytes bytes }

/-! ## Replacing a file by either of two texts -/

namespace RecordFile

variable {file temporary : Path} {name old new : String} {location source goal : Location}
  {before a b : Disk}

/-- Only in the file itself do two texts make a difference. -/
theorem Replaced.node?_eq (h : Replaced source goal old before a)
    (h' : Replaced source goal new before b) (hother : location ≠ goal) :
    b.node? location = a.node? location := by
  by_cases htemporary : location = source
  · subst htemporary
    rw [h.removed hother, h'.removed hother]
  · have helsewhere : ¬ (location = source ∨ location = goal) := not_or.mpr ⟨htemporary, hother⟩
    rw [h.touches.elsewhere location helsewhere, h'.touches.elsewhere location helsewhere]

/-- A file that was to hold one of two texts holds them, or the temporary file could not be
removed. -/
inductive Unlike (temporary file : Path) (old new : String) (before a b : Disk)
    (location : Location) : Prop where
  | replaced (hfound : a.found file = .ok location)
      (hold : a.node? location = some (.file (Text.Utf8.encode old.toList)))
      (hnew : b.node? location = some (.file (Text.Utf8.encode new.toList)))
  | stuck (hfault : ¬ Calm .unlink before) (hfound : a.found temporary = .ok location)

/-- Which of two texts replaces a file makes no difference to anything else. -/
theorem replace_either (hname : file.name? = some name) (hnull : hasNull file = false)
    (old new : String) (world : World) :
    EndsAlike (fun v w => ∃ a b, v = { world with disk := a } ∧ w = { world with disk := b } ∧
        AgreeBut (Unlike (file.sibling (name ++ ".tmp")) file old new world.disk a b) a b)
      (replace file old world) (replace file new world) := by
  have hwrite : ∀ name, file.name? = some name →
      let temporary := file.sibling (name ++ ".tmp")
      Alike (AgreeBut fun _ => True) (writeThrough temporary file old)
        (writeThrough temporary file new) :=
    fun name _ => .bind (alike_openForWriting _) fun _ =>
      .bind (alike_write_files trivial _ _) fun _ => .bind alike_sync fun _ =>
        alike_rename fun _ _ _ _ _ _ => trivial
  have halike := (veiled_files fun _ => True).replace hwrite (fun path => alike_discard path)
    world world ⟨world.disk, .refl _, rfl⟩
  rcases halike.cases with ⟨⟨⟩, v, -, hx, hy, b, hagree, rfl⟩ | ⟨e, v, -, hx, hy, b, hagree, rfl⟩
  · rcases replace_cases hname old world with
      ⟨source, goal, a, hsource, hgoal, hold, hreplaced⟩ | ⟨e, disk, hfails, -⟩
    · rcases replace_cases hname new world with
        ⟨source', goal', disk, hsource', hgoal', hnew, hreplaced'⟩ | ⟨e, disk, hfails, -⟩
      · obtain rfl := Except.ok.inj (hsource.symm.trans hsource')
        obtain rfl := Except.ok.inj (hgoal.symm.trans hgoal')
        cases hx.symm.trans hold
        cases hy.symm.trans hnew
        rw [hold, hnew]
        refine .ok ⟨a, b, rfl, rfl, fun location => ?_, hagree.working, hagree.faults⟩
        by_cases hlocation : location = goal
        · subst hlocation
          have hgoal' := (hreplaced.touches.directories.found_eq_ok_iff _).mpr hgoal
          exact .inr ⟨.replaced hgoal' hreplaced.written hreplaced'.written, _, _,
            hreplaced.written, hreplaced'.written⟩
        · exact .inl (hreplaced.node?_eq hreplaced' hlocation)
      · cases hy.symm.trans hfails
    · cases hx.symm.trans hfails
  · rcases replace_cases hname old world with
      ⟨source, goal, a, -, -, hold, -⟩ | ⟨e, a, hold, habandoned⟩
    · cases hx.symm.trans hold
    · rcases replace_cases hname new world with
        ⟨source, goal, disk, -, -, hnew, -⟩ | ⟨e', disk, hnew, habandoned'⟩
      · cases hy.symm.trans hnew
      · cases hx.symm.trans hold
        cases hy.symm.trans hnew
        rw [hold, hnew]
        refine .error ⟨a, b, rfl, rfl, fun location => ?_, hagree.working, hagree.faults⟩
        by_cases hfound : world.disk.found (file.sibling (name ++ ".tmp")) = .ok location
        · rcases hagree.node location with heq | ⟨-, left, right, hleft, hright⟩
          · exact .inl heq
          · have hfound' := (habandoned.directories.found_eq_ok_iff _).mpr hfound
            refine .inr ⟨.stuck (fun hcalm => ?_) hfound', left, right, hleft, hright⟩
            exact gone_of_replace_error hname hnull hcalm hold left
              (content_eq_ok_iff.mpr ⟨location, hfound', hleft⟩)
        · left
          rw [habandoned.elsewhere location hfound, habandoned'.elsewhere location hfound]

end RecordFile

namespace Provision

variable {home : Home} {order : Order} {world : World} {bytes : List UInt8}

/-! ## Two identities -/

/-- The same identity with a key that starts alike. -/
structure Twins (identity other : Identity) : Prop where
  others : other = { identity with authorizationKey := other.authorizationKey }
  start : other.authorizationKey.bytes.take 4 = identity.authorizationKey.bytes.take 4

/-- Both runs make an identity or fail in the same way, and write nothing yet. -/
theorem newIdentity_withEntropy (home : Home) (order : Order) (world : World)
    (h : SameHint world.generator.source.bytes bytes) :
    (∃ identity other made, newIdentity home order world = .ok identity made ∧
        newIdentity home order (world.withEntropy bytes) = .ok other made ∧
        Twins identity other ∧ ∃ generator, made = { world with generator }) ∨
      ∃ e generator generator', newIdentity home order world = .error e { world with generator } ∧
        newIdentity home order (world.withEntropy bytes) =
          .error e { world with generator := generator' } := by
  unfold newIdentity Home.newIdentity
  simp only [bind_apply, onGenerator_apply, withEntropy]
  rcases Generator.key_withBytes h with
    ⟨made, other, keyed, hmade, hother, hstart⟩ | ⟨e, after, after', hmade, hother⟩
  · rw [hmade, hother]
    simp only
    cases Generator.uuid keyed with
    | error e named => exact .inr ⟨_, _, _, rfl, rfl⟩
    | ok uuid named =>
        cases order.privateKeyFile with
        | blank => exact .inr ⟨_, _, _, rfl, rfl⟩
        | unmade => exact .inl ⟨_, _, _, rfl, rfl, ⟨rfl, hstart⟩, _, rfl⟩
        | made file => exact .inl ⟨_, _, _, rfl, rfl, ⟨rfl, hstart⟩, _, rfl⟩
  · rw [hmade, hother]
    exact .inr ⟨_, _, _, rfl, rfl⟩

/-- What is told about either identity is the same, if not all of the key is asked for. -/
theorem console_announce {identity other : Identity} (h : Twins identity other) (home : Home)
    (hshow : order.showKey = false) {v w : World} (hconsole : w.console = v.console) :
    (left (announce home order other) w).console =
      (left (announce home order identity) v).console := by
  have htold (identity : Identity) (world : World) :
      (left (announce home order identity) world).console =
        Console.substep s!"Authorization key: {Key.hint (identity.authorizationKey.hex .upper)}"
          (Console.substep s!"Private key file: {(order.keyFile home).toString}"
            (Console.substep s!"UUID: {identity.uuid.toText}"
              (Console.substep s!"Product name: {order.productName}"
                (Console.success
                  s!"A new device information file was written to: {home.identityFile.toString}"
                  world.console)))) := by
    unfold announce
    rw [hshow]
    rfl
  rw [htold, htold, hconsole, Key.hint_hex_eq h.start, h.others]

/-! ## Two runs -/

/-- A place where two runs that started with the same files leave different ones: there the
identity was to be saved. -/
def ShowsKey (home : Home) (before a b : Disk) (location : Location) : Prop :=
  ∃ identity other, Twins identity other ∧
    RecordFile.Unlike home.temporaryIdentityFile home.identityFile identity.toText other.toText
      before a b location

/-- After two runs that started with the same files the console shows the same, and all files hold
the same but for the key in that of the identity, and in the temporary one if its removal was to
fail. -/
structure Indistinct (home : Home) (before : Disk) (v w : World) : Prop where
  console : w.console = v.console
  files : AgreeBut (ShowsKey home before v.disk w.disk) v.disk w.disk

theorem Indistinct.of_disk_eq {before : Disk} {v w : World} (hconsole : w.console = v.console)
    (hdisk : w.disk = v.disk) : Indistinct home before v w := by
  refine ⟨hconsole, ?_⟩
  rw [hdisk]
  exact .refl _

theorem Indistinct.of_calm {a b : Disk} {v w : World} (h : Indistinct home a v w)
    (hcalm : Calm .unlink b → Calm .unlink a) : Indistinct home b v w := by
  refine ⟨h.console, h.files.mono fun location ⟨identity, other, htwins, hunlike⟩ => ?_⟩
  refine ⟨identity, other, htwins, ?_⟩
  cases hunlike with
  | replaced hfound hold hnew => exact .replaced hfound hold hnew
  | stuck hfault hfound => exact .stuck (fun h => hfault (hcalm h)) hfound

/-- Saving either identity ends in the same way. -/
theorem saveIdentity_twins {identity other : Identity} (h : Twins identity other)
    (hnull : hasNull home.path = false) (world : World) :
    EndsAlike (Indistinct home world.disk) (home.saveIdentity identity world)
      (home.saveIdentity other world) := by
  have hfile : hasNull home.identityFile = false := by
    rw [Home.identityFile, Home.hasNull_child _ Home.isName_identity, hnull]
    simp
  have hsave := RecordFile.replace_either home.name?_identityFile hfile identity.toText
    other.toText world
  rw [home.sibling_identityFile] at hsave
  change EndsAlike _ (RecordFile.replace _ _ world) (RecordFile.replace _ _ world)
  rcases hsave.cases with ⟨⟨⟩, -, -, hx, hy, a, b, rfl, rfl, hfiles⟩ |
    ⟨e, -, -, hx, hy, a, b, rfl, rfl, hfiles⟩
  · rw [hx, hy]
    exact .ok ⟨rfl, hfiles.mono fun location hlocation => ⟨identity, other, h, hlocation⟩⟩
  · rw [hx, hy]
    exact .error ⟨rfl, hfiles.mono fun location hlocation => ⟨identity, other, h, hlocation⟩⟩

theorem write_withEntropy (hshow : order.showKey = false) (hnull : hasNull home.path = false)
    (h : SameHint world.generator.source.bytes bytes) :
    EndsAlike (Indistinct home world.disk) (write home order world)
      (write home order (world.withEntropy bytes)) := by
  rw [write_apply, write_apply]
  rcases newIdentity_withEntropy home order world h with
    ⟨identity, other, made, hnew, hnew', htwins, generator, rfl⟩ |
    ⟨e, generator, generator', hnew, hnew'⟩
  · rw [hnew, hnew']
    simp only
    rcases (saveIdentity_twins htwins hnull { world with generator }).cases with
      ⟨⟨⟩, v, w, hsave, hsave', hends⟩ | ⟨e, v, w, hsave, hsave', hends⟩
    · rw [hsave, hsave']
      refine .ok ⟨console_announce htwins home hshow hends.console, ?_⟩
      rw [(announce_apply _ _ identity v).2, (announce_apply _ _ other w).2]
      exact hends.files
    · rw [hsave, hsave']
      have hsaid (write : Console → Console) :
          Indistinct home world.disk (v.saying write) (w.saying write) :=
        ⟨congrArg write hends.console, hends.files⟩
      cases e with
      | storage e => exact .ok (hsaid _)
      | _ => exact .error hends
  · rw [hnew, hnew']
    exact .error (.of_disk_eq rfl rfl)

/-- The directory is made in both runs or in neither, before anything is drawn. -/
theorem makeThenWrite_withEntropy (hshow : order.showKey = false)
    (h : SameHint world.generator.source.bytes bytes) :
    EndsAlike (Indistinct home world.disk) (makeThenWrite home order world)
      (makeThenWrite home order (world.withEntropy bytes)) := by
  have hdisk : (world.withEntropy bytes).disk = world.disk := rfl
  have hwaiting := keeps_waiting_makeDirectories (by decide : FaultPoint.makeDirectories ≠ .unlink)
    home.path
  rw [makeThenWrite_apply, makeThenWrite_apply, Home.makeDirectory, onDisk_apply, onDisk_apply,
    hdisk]
  cases hmake : makeDirectories home.path world.disk with
  | ok answer disk =>
      let made : World := { world with disk }
      have hmade : SameHint made.generator.source.bytes bytes := h
      have hends := write_withEntropy hshow (noNull_of_makeDirectories hmake) hmade
      have hcalm (hcalm : Calm .unlink world.disk) : Calm .unlink disk := by
        rw [calm_iff_waiting, hwaiting.ok hmake]
        exact calm_iff_waiting.mp hcalm
      exact hends.mono fun _ _ hvw => hvw.of_calm hcalm
  | error e disk =>
      cases e with
      | system e => exact .ok (.of_disk_eq rfl rfl)
      | _ => exact .error (.of_disk_eq rfl rfl)

/-- Whoever sees the console and the files, but not the key in the file of the identity, learns no
more of a new key than the hint shows. However the run ends, it ends in the same way with any other
random bytes that give the same hint and the same identifier. -/
theorem creation_shows_hint_only (home : Home) (order : Order) (world : World) (bytes : List UInt8)
    (hshow : order.showKey = false) (h : SameHint world.generator.source.bytes bytes) :
    EndsAlike (Indistinct home world.disk) (create home order world)
      (create home order (world.withEntropy bytes)) := by
  have hdisk : (world.withEntropy bytes).disk = world.disk := rfl
  rw [create_apply, create_apply, hdisk]
  cases order.finding home world.disk with
  | unknown e => exact .error (.of_disk_eq rfl rfl)
  | stays => exact .ok (.of_disk_eq rfl rfl)
  | allowed there =>
      let opened : World := { world.saying (Console.header "Create Device Information") with
        disk := order.inspected home world.disk }
      let said := if there then warned opened else opened
      have hends : EndsAlike (Indistinct home world.disk) (makeThenWrite home order said)
          (makeThenWrite home order (said.withEntropy bytes)) := by
        have hsaid : said.disk = order.inspected home world.disk ∧
            SameHint said.generator.source.bytes bytes := by
          cases there <;> exact ⟨rfl, h⟩
        have hcalm (hcalm : Calm .unlink world.disk) : Calm .unlink said.disk := by
          rw [hsaid.1]
          exact calm_inspected hcalm order home
        exact (makeThenWrite_withEntropy hshow hsaid.2).mono fun _ _ hvw => hvw.of_calm hcalm
      cases there <;> exact hends

/-- A new lamp in the bare world, and in the same with another key. -/
theorem lamps_start_alike :
    let bytes := List.replicate 4 7 ++ List.replicate 28 8 ++ List.replicate 10 9
    lampOrder.showKey = false ∧ SameHint bareWorld.generator.source.bytes bytes ∧
      bytes ≠ bareWorld.generator.source.bytes ∧
      ∃ v w, create ⟨Path.ofString "home"⟩ lampOrder bareWorld = .ok 0 v ∧
        create ⟨Path.ofString "home"⟩ lampOrder (bareWorld.withEntropy bytes) = .ok 0 w ∧
        Indistinct ⟨Path.ofString "home"⟩ bareWorld.disk v w := by
  intro bytes
  have hsame : SameHint bareWorld.generator.source.bytes bytes :=
    ⟨by decide, by decide, by decide⟩
  refine ⟨rfl, hsame, by decide, ?_⟩
  obtain ⟨after, hafter⟩ := bareWorld_takes_order
  rcases (creation_shows_hint_only ⟨Path.ofString "home"⟩ lampOrder bareWorld bytes rfl
    hsame).cases with ⟨status, v, w, hv, hw, hvw⟩ | ⟨e, v, w, hv, -, -⟩
  · cases hafter.symm.trans hv
    exact ⟨after, w, hv, hw, hvw⟩
  · cases hafter.symm.trans hv

end Provision

end SmartDevice
