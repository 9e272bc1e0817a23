import SmartDevice.Proofs.Provision.Integrity

/-! # Which failures an order reports

Whoever gives an order learns from the status whether it has succeeded. A failure that is not
reported like this escapes: the test for an identity, and making one, stand outside of every
handler. -/

namespace SmartDevice

open Apply Disk World

/-! ## Making an identity -/

namespace Generator

variable {generator : Generator}

/-- What goes wrong when a key and then an identifier are drawn. -/
def shortfall? (generator : Generator) : Option GenerationError :=
  match generator.source.fault with
  | some fault => some (.random fault)
  | none =>
    if generator.source.bytes.length < 32 then some (.random .exhausted)
    else match generator.shown with
      | .error e => some (.clock e)
      | .ok _ =>
        if generator.source.bytes.length < 42 then some (.random .exhausted) else none

/-- The identifier is made after the key, of the bytes that the key has left. -/
theorem uuid_after_key (hfault : generator.source.fault = none)
    (hkey : 32 ≤ generator.source.bytes.length) :
    let keyed := generator.withBytes (generator.source.bytes.drop 32)
    match generator.shortfall? with
    | some e => ∃ after, uuid keyed = .error e after
    | none => ∃ made after, uuid keyed = .ok made after := by
  intro keyed
  have hlength : keyed.source.bytes.length = generator.source.bytes.length - 32 :=
    List.length_drop ..
  have hshown : keyed.shown = generator.shown := rfl
  unfold shortfall? uuid
  rw [hfault, bind_apply, readClock_apply, hshown]
  simp only [Nat.not_lt.mpr hkey, if_false]
  cases generator.shown with
  | error e => exact ⟨_, rfl⟩
  | ok time =>
      simp only [bind_apply]
      generalize htimed : ({ keyed with clock := _ } : Generator) = timed
      have hsource : timed.source = keyed.source := by rw [← htimed]
      have hfault' : timed.source.fault = none := by
        rw [hsource]
        exact hfault
      rw [← hsource] at hlength
      rcases draw_cases (by decide : 10 ≠ 0) timed with
        ⟨fault, after, hwaits, -⟩ | ⟨-, hshort, hdraw⟩ | ⟨-, henough, bytes, hdraw⟩
      · cases hfault'.symm.trans hwaits
      · rw [if_pos (by omega), hdraw]
        exact ⟨_, rfl⟩
      · rw [if_neg (by omega), hdraw]
        exact ⟨_, _, rfl⟩

end Generator

namespace Provision

variable {home : Home} {order : Order} {world before : World}

/-- Why an ordered identity is not made. -/
def unissued? (order : Order) (generator : Generator) : Option Failure :=
  match generator.shortfall? with
  | some e => some (.generation e)
  | none => if order.privateKeyFile = .blank then some .blankPath else none

theorem newIdentity_cases (home : Home) (order : Order) (world : World) :
    match unissued? order world.generator with
    | some e => ∃ made, newIdentity home order world = .error e made
    | none => ∃ identity made, newIdentity home order world = .ok identity made := by
  unfold newIdentity Home.newIdentity unissued?
  simp only [bind_apply, onGenerator_apply, Generator.key]
  rcases Generator.draw_cases (by decide : 32 ≠ 0) world.generator with
    ⟨fault, after, hfault, hdraw⟩ | ⟨hfault, hshort, hdraw⟩ | ⟨hfault, henough, bytes, hdraw⟩
  · rw [hdraw, Generator.shortfall?, hfault]
    exact ⟨_, rfl⟩
  · rw [hdraw, Generator.shortfall?, hfault]
    simp only [if_pos hshort]
    exact ⟨_, rfl⟩
  · have huuid := Generator.uuid_after_key hfault henough
    rw [hdraw]
    simp only [pure_apply]
    cases hshortfall : world.generator.shortfall? with
    | some e =>
        rw [hshortfall] at huuid
        obtain ⟨after, huuid⟩ := huuid
        rw [huuid]
        exact ⟨_, rfl⟩
    | none =>
        rw [hshortfall] at huuid
        obtain ⟨made, after, huuid⟩ := huuid
        rw [huuid]
        simp only
        cases order.privateKeyFile with
        | blank => exact ⟨_, rfl⟩
        | unmade => exact ⟨_, _, rfl⟩
        | made file => exact ⟨_, _, rfl⟩

/-! ## Failures that escape -/

/-- The failure of an order that is not reported. -/
inductive Escapes (home : Home) (order : Order) (before : World) : Failure → Prop where
  /-- One of the tests for an identity fails. -/
  | unknown {e : FileError} (h : order.finding home before.disk = .unknown e) :
      Escapes home order before (.file e)
  /-- There is a directory for the identity, but it cannot be made. -/
  | unissued {e : Failure} {there : Bool} {made : Disk}
      (hallowed : order.finding home before.disk = .allowed there)
      (hmake : makeDirectories home.path (order.inspected home before.disk) = .ok ⟨⟩ made)
      (h : unissued? order before.generator = some e) : Escapes home order before e

theorem Escapes.unique {e e' : Failure} (h : Escapes home order before e)
    (h' : Escapes home order before e') : e = e' := by
  cases h with
  | unknown h =>
      cases h' with
      | unknown h' => rw [Finding.unknown.inj (h.symm.trans h')]
      | unissued hallowed => cases h.symm.trans hallowed
  | unissued hallowed _ h =>
      cases h' with
      | unknown h' => cases hallowed.symm.trans h'
      | unissued _ _ h' => exact Option.some.inj (h.symm.trans h')

/-- A run ends with a status unless its failure escapes. -/
inductive Ends (home : Home) (order : Order) (before : World) :
    EStateM.Result Failure World ℕ → Prop where
  | told {status : ℕ} {after : World} (h : ∀ e, ¬ Escapes home order before e) :
      Ends home order before (.ok status after)
  | failed {e : Failure} {after : World} (h : Escapes home order before e) :
      Ends home order before (.error e after)

/-- Once it is made, an identity is saved, or it is reported why not. -/
theorem ends_write {made : World} (hnull : hasNull home.path = false)
    (h : ∀ e, Escapes home order before e ↔ unissued? order made.generator = some e) :
    Ends home order before (write home order made) := by
  have hcases := newIdentity_cases home order made
  rw [write_apply]
  cases hunissued : unissued? order made.generator with
  | some e =>
      rw [hunissued] at hcases
      obtain ⟨issued, hnew⟩ := hcases
      rw [hnew]
      exact .failed ((h e).mpr hunissued)
  | none =>
      have htold (e : Failure) : ¬ Escapes home order before e := by
        rw [h, hunissued]
        exact nofun
      have hfile : hasNull home.identityFile = false :=
        Home.noNull_child hnull Home.isName_identity (by simp)
      rw [hunissued] at hcases
      obtain ⟨identity, issued, hnew⟩ := hcases
      have hreport := RecordFile.raises_replace_report home.name?_identityFile hfile
        (hasNull_sibling home.name?_identityFile hfile (by simp)) identity.toText issued
      rw [hnew]
      simp only
      cases hsave : home.saveIdentity identity issued with
      | ok _ saved => exact .told htold
      | error e saved =>
          cases e with
          | storage e => exact .told htold
          | _ => exact (hreport _ _ hsave).elim

theorem ends_makeThenWrite {said : World} {there : Bool} (hnull : hasNull home.path = false)
    (hallowed : order.finding home before.disk = .allowed there)
    (hdisk : said.disk = order.inspected home before.disk)
    (hgenerator : said.generator = before.generator) :
    Ends home order before (makeThenWrite home order said) := by
  rw [makeThenWrite_apply, Home.makeDirectory, onDisk_apply, hdisk]
  cases hmake : makeDirectories home.path (order.inspected home before.disk) with
  | error e disk =>
      cases e with
      | system e =>
          refine .told fun e hescapes => ?_
          cases hescapes with
          | unknown h => cases hallowed.symm.trans h
          | unissued _ hmake' => cases hmake.symm.trans hmake'
      | _ => exact (raises_makeDirectories hnull _ _ _ hmake).elim
  | ok _ disk =>
      have hsaid : ({ said with disk } : World).generator = before.generator := hgenerator
      refine ends_write hnull fun e => ⟨fun hescapes => ?_, fun h => ?_⟩
      · rw [hsaid]
        cases hescapes with
        | unknown h => cases hallowed.symm.trans h
        | unissued _ _ h => exact h
      · rw [hsaid] at h
        exact .unissued hallowed hmake h

theorem ends_create (order : Order) (before : World) (hnull : hasNull home.path = false) :
    Ends home order before (create home order before) := by
  rw [create_apply]
  simp only
  cases hfinding : order.finding home before.disk with
  | unknown e => exact .failed (.unknown hfinding)
  | stays =>
      refine .told fun e hescapes => ?_
      cases hescapes with
      | unknown h => cases hfinding.symm.trans h
      | unissued hallowed => cases hfinding.symm.trans hallowed
  | allowed there =>
      cases there with
      | false => exact ends_makeThenWrite hnull hfinding rfl rfl
      | true => exact ends_makeThenWrite hnull hfinding rfl rfl

theorem answer_eq_error_iff (hnull : hasNull home.path = false) (e : Failure) :
    answer (create home order) before = .error e ↔ Escapes home order before e := by
  have hends := ends_create order before hnull
  unfold answer
  generalize create home order before = result at hends
  cases hends with
  | told h => exact ⟨nofun, fun hescapes => absurd hescapes (h e)⟩
  | failed h =>
      refine ⟨fun heq => ?_, fun hescapes => congrArg Except.error (h.unique hescapes)⟩
      cases heq
      exact h

theorem Course.status {status : ℕ} {after : World}
    (h : Course home order before (.ok status after)) : status = 0 ∨ status = 1 := by
  cases h with
  | stays => exact .inl rfl
  | saves => exact .inl rfl
  | reports => exact .inr rfl

theorem Course.occupied {after : World} (h : Course home order before (.ok 0 after)) :
    after.disk.occupied home.identityFile = .ok true := by
  cases h with
  | stays h =>
      rw [h.disk, before.disk.same_tested.occupied_eq]
      exact h.there
  | saves _ _ _ hgoal hreplaced =>
      have hfound := (hreplaced.touches.directories.found_eq_ok_iff _).mpr hgoal
      exact occupied_of_reached (reached?_eq_some_iff.mpr ⟨_, hfound, hreplaced.written⟩)

/-- Every run ends with one of two statuses, unless its failure is one of those that escape. The
status for success means that there is an identity. -/
theorem failures_escape_iff (home : Home) (order : Order) (before : World)
    (hnull : hasNull home.path = false) :
    (∀ e, answer (create home order) before = .error e ↔ Escapes home order before e) ∧
      (∀ status, answer (create home order) before = .ok status → status = 0 ∨ status = 1) ∧
      (answer (create home order) before = .ok 0 →
        (left (create home order) before).disk.occupied home.identityFile = .ok true) := by
  have hcourse := course_create home order before
  refine ⟨answer_eq_error_iff hnull, ?_⟩
  unfold answer left
  generalize create home order before = result at hcourse
  cases result with
  | error e after => exact ⟨nofun, nofun⟩
  | ok status after =>
      refine ⟨fun other h => ?_, fun h => ?_⟩
      · cases h
        exact hcourse.status
      · cases h
        exact hcourse.occupied

/-- There is an identity in the bare world after it was ordered. -/
theorem bareWorld_has_identity :
    hasNull (Home.mk (Path.ofString "home")).path = false ∧
      answer (create ⟨Path.ofString "home"⟩ lampOrder) bareWorld = .ok 0 ∧
      (left (create ⟨Path.ofString "home"⟩ lampOrder) bareWorld).disk.occupied
        (Home.mk (Path.ofString "home")).identityFile = .ok true := by
  obtain ⟨after, hcreate⟩ := bareWorld_takes_order
  have hanswer : answer (create ⟨Path.ofString "home"⟩ lampOrder) bareWorld = .ok 0 := by
    rw [answer, hcreate]
  exact ⟨bareHome_noNull, hanswer,
    (failures_escape_iff ⟨Path.ofString "home"⟩ lampOrder bareWorld bareHome_noNull).2.2 hanswer⟩

/-- The bare world with hardly any random bytes. -/
def drainedWorld : World where
  generator := { source := { bytes := [7, 7, 7, 7] }, clock := .pattern }

/-- There the failure of the random source is raised and not reported. -/
theorem drainedWorld_fails :
    hasNull (Home.mk (Path.ofString "home")).path = false ∧
      answer (create ⟨Path.ofString "home"⟩ lampOrder) drainedWorld =
        .error (.generation (.random .exhausted)) := by
  obtain ⟨hfinding, hinspected⟩ :=
    finding_of_free lampOrder (bareWorld_calm _) bareWorld_vacant
  have hmakes := bareWorld_makes
  rw [← hinspected] at hmakes
  exact ⟨bareHome_noNull, (answer_eq_error_iff bareHome_noNull _).mpr
    (.unissued hfinding hmakes (by decide))⟩

end Provision

end SmartDevice
