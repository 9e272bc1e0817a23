import SmartDevice.World
import SmartDevice.Proofs.Action.Apply
import SmartDevice.Proofs.Uuid.Layout

/-! # What is made of random bytes

Each success takes its bytes from the start of the source, and leaves the others to the next. -/

namespace SmartDevice

open Apply

variable {n : ℕ} {before after : Generator}

theorem RandomSource.draw_eq_ok {source left : RandomSource}
    {bytes : { bytes : List UInt8 // bytes.length = n }} (h : source.draw n = (.ok bytes, left)) :
    source.bytes = bytes.val ++ left.bytes := by
  unfold draw at h
  split at h
  · obtain ⟨hbytes, rfl⟩ := Prod.mk.inj h
    cases hbytes
    rfl
  · split at h
    · exact absurd (congrArg Prod.fst h) nofun
    · split at h
      · obtain ⟨hbytes, rfl⟩ := Prod.mk.inj h
        cases hbytes
        exact (List.take_append_drop n source.bytes).symm
      · exact absurd (congrArg Prod.fst h) nofun

namespace Generator

/-- The time that the clock of a generator shows next. -/
def shown (generator : Generator) : Except ClockError ℤ :=
  (generator.clock.read generator.time).1

theorem draw_apply (n : ℕ) (generator : Generator) :
    draw n generator =
      match generator.source.draw n with
      | (.ok bytes, source) => .ok bytes { generator with source }
      | (.error fault, source) => .error (.random fault) { generator with source } := by
  unfold draw
  cases hdraw : generator.source.draw n with
  | mk result source => cases result <;> rfl

theorem draw_eq_ok {bytes : { bytes : List UInt8 // bytes.length = n }}
    (h : draw n before = .ok bytes after) :
    before.source.bytes = bytes.val ++ after.source.bytes ∧ after.shown = before.shown := by
  unfold draw at h
  cases hdraw : before.source.draw n with
  | mk result left =>
      rw [hdraw] at h
      cases result with
      | error fault => cases h
      | ok drawn =>
          cases h
          exact ⟨RandomSource.draw_eq_ok hdraw, rfl⟩

/-- The generator with other bytes to draw. -/
def withBytes (bytes : List UInt8) (generator : Generator) : Generator :=
  { generator with source := { generator.source with bytes } }

/-- Bytes are drawn unless a fault waits or there are too few. -/
theorem draw_cases (hn : n ≠ 0) (generator : Generator) :
    (∃ fault after, generator.source.fault = some fault ∧
        draw n generator = .error (.random fault) after) ∨
      generator.source.fault = none ∧ generator.source.bytes.length < n ∧
        draw n generator = .error (.random .exhausted) generator ∨
      generator.source.fault = none ∧ n ≤ generator.source.bytes.length ∧
        ∃ bytes, draw n generator =
          .ok bytes (generator.withBytes (generator.source.bytes.drop n)) := by
  obtain ⟨⟨bytes, fault⟩, clock, time⟩ := generator
  rw [draw_apply]
  unfold RandomSource.draw
  rw [dif_neg hn]
  cases fault with
  | some fault => exact .inl ⟨_, _, rfl, rfl⟩
  | none =>
      by_cases henough : n ≤ bytes.length
      · simp only [dif_pos henough]
        exact .inr (.inr ⟨trivial, henough, _, rfl⟩)
      · simp only [dif_neg henough]
        exact .inr (.inl ⟨trivial, Nat.lt_of_not_le henough, trivial⟩)

theorem readClock_apply (generator : Generator) :
    readClock generator =
      match generator.shown with
      | .ok time => .ok time { generator with clock := (generator.clock.read generator.time).2 }
      | .error e => .error (.clock e)
          { generator with clock := (generator.clock.read generator.time).2 } :=
  rfl

theorem readClock_eq_ok {time : ℤ} (h : readClock before = .ok time after) :
    before.shown = .ok time ∧ after.source = before.source := by
  rw [readClock_apply] at h
  cases hshown : before.shown with
  | error e =>
      rw [hshown] at h
      cases h
  | ok shown =>
      rw [hshown] at h
      cases h
      exact ⟨rfl, rfl⟩

theorem key_apply (generator : Generator) :
    key generator =
      match generator.source.draw 32 with
      | (.ok bytes, source) => .ok ⟨bytes.val, bytes.property⟩ { generator with source }
      | (.error fault, source) => .error (.random fault) { generator with source } := by
  unfold key
  rw [bind_apply, draw_apply]
  cases generator.source.draw 32 with
  | mk result source => cases result <;> rfl

theorem key_eq_ok {made : Key} (h : key before = .ok made after) :
    before.source.bytes = made.bytes ++ after.source.bytes ∧ after.shown = before.shown := by
  unfold key at h
  rw [bind_apply] at h
  cases hdraw : draw 32 before with
  | error e left =>
      rw [hdraw] at h
      cases h
  | ok bytes left =>
      rw [hdraw] at h
      cases h
      exact draw_eq_ok hdraw

/-- An identifier is made of the time that the clock shows and of the next 10 bytes. -/
theorem uuid_eq_ok {made : Uuid} (h : uuid before = .ok made after) :
    ∃ time random, before.shown = .ok time ∧ random.length = 10 ∧
      before.source.bytes = random ++ after.source.bytes ∧
      made.Carries time (BitVec.ofNat 80 (Key.natOfBytes random)) := by
  unfold uuid at h
  rw [bind_apply] at h
  cases hclock : readClock before with
  | error e left =>
      rw [hclock] at h
      cases h
  | ok time timed =>
      obtain ⟨hshown, hsource⟩ := readClock_eq_ok hclock
      rw [hclock] at h
      simp only [bind_apply] at h
      cases hdraw : draw 10 timed with
      | error e left =>
          rw [hdraw] at h
          cases h
      | ok bytes left =>
          rw [hdraw] at h
          cases h
          exact ⟨time, bytes.val, hshown, bytes.property, hsource ▸ (draw_eq_ok hdraw).1,
            Uuid.carries_ofTime _ _⟩

end Generator

theorem World.onGenerator_apply {α : Type} (x : EStateM GenerationError Generator α)
    (world : World) :
    onGenerator x world =
      match x world.generator with
      | .ok a generator => .ok a { world with generator }
      | .error e generator => .error (.generation e) { world with generator } :=
  rfl

end SmartDevice
