import SmartDevice.Proofs.Action.Apply

/-! # The failures that an action can end with -/

namespace SmartDevice

open Apply

variable {ε σ α β : Type} {P Q : ε → Prop}

/-- Every failure of the action is of a kind. -/
def Raises (P : ε → Prop) (x : EStateM ε σ α) : Prop :=
  ∀ s e t, x s = .error e t → P e

namespace Raises

theorem mono {x : EStateM ε σ α} (h : Raises P x) (hPQ : ∀ e, P e → Q e) : Raises Q x :=
  fun s e t hx => hPQ e (h s e t hx)

theorem pure (a : α) : Raises P (pure a : EStateM ε σ α) :=
  fun _ _ _ h => by cases h

theorem throw {e : ε} (h : P e) : Raises P (throw e : EStateM ε σ α) := by
  rintro s e' t ⟨⟩
  exact h

theorem modify (f : σ → σ) : Raises P (modify f : EStateM ε σ PUnit) :=
  fun _ _ _ h => by cases h

theorem get : Raises P (get : EStateM ε σ σ) :=
  fun _ _ _ h => by cases h

theorem bind {x : EStateM ε σ α} {f : α → EStateM ε σ β} (h : Raises P x)
    (hf : ∀ a, Raises P (f a)) : Raises P (x >>= f) := by
  intro s e t hx
  rw [bind_apply] at hx
  cases hs : x s with
  | ok a s' =>
      rw [hs] at hx
      exact hf a s' e t hx
  | error e' s' =>
      rw [hs] at hx
      cases hx
      exact h s e t hs

/-- What is caught may be of another kind than what is raised in the end. -/
theorem catching {x : EStateM ε σ α} {f : ε → EStateM ε σ α} (h : Raises P x)
    (hf : ∀ e, P e → Raises Q (f e)) : Raises Q (tryCatch x f) := by
  intro s e t hx
  rw [tryCatch_apply] at hx
  cases hs : x s with
  | ok a s' =>
      rw [hs] at hx
      cases hx
  | error e' s' =>
      rw [hs] at hx
      exact hf e' (h s e' s' hs) s' e t hx

theorem tryCatch {x : EStateM ε σ α} {f : ε → EStateM ε σ α} (h : Raises P x)
    (hf : ∀ e, P e → Raises P (f e)) : Raises P (tryCatch x f) :=
  h.catching hf

theorem ite {c : Prop} [Decidable c] {x y : EStateM ε σ α} (h : Raises P x) (h' : Raises P y) :
    Raises P (if c then x else y) := by
  split
  · exact h
  · exact h'

end Raises

/-! ## Around a device -/

theorem World.raises_onDisk {P : Failure → Prop} (h : ∀ e, P (.file e)) (x : Disk.Action α) :
    Raises P (World.onDisk x) := by
  intro world e after hx
  rw [World.onDisk_apply] at hx
  cases hd : x world.disk with
  | ok a disk =>
      rw [hd] at hx
      cases hx
  | error e disk =>
      rw [hd] at hx
      cases hx
      exact h e

theorem World.raises_say {P : Failure → Prop} (write : Console → Console) :
    Raises P (World.say write) :=
  .modify _

theorem Running.raises_around {P : Failure → Prop} {x : SmartDevice.Action α} (h : Raises P x) :
    Raises P (Running.around x) := by
  intro running e after hx
  rw [Running.around_apply] at hx
  cases hw : x running.world with
  | ok a world =>
      rw [hw] at hx
      cases hx
  | error e' world =>
      rw [hw] at hx
      cases hx
      exact h _ _ _ hw

end SmartDevice
