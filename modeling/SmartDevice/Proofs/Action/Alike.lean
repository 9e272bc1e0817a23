import SmartDevice.Proofs.Action.Apply

/-! # Actions that run alike from related states

Two runs are alike if they end in the same way, with the same answer or failure, and leave related
states behind. A relation that ignores a part of the state shows that nothing depends on it. -/

namespace SmartDevice

open Apply

variable {ε σ α β : Type} {R : σ → σ → Prop}

/-- The same ending in related states. -/
inductive EndsAlike (R : σ → σ → Prop) : EStateM.Result ε σ α → EStateM.Result ε σ α → Prop where
  | ok {a s t} : R s t → EndsAlike R (.ok a s) (.ok a t)
  | error {e s t} : R s t → EndsAlike R (.error e s) (.error e t)

theorem EndsAlike.cases {p q : EStateM.Result ε σ α} (h : EndsAlike R p q) :
    (∃ a s t, p = .ok a s ∧ q = .ok a t ∧ R s t) ∨
      ∃ e s t, p = .error e s ∧ q = .error e t ∧ R s t := by
  cases h with
  | ok hst => exact .inl ⟨_, _, _, rfl, rfl, hst⟩
  | error hst => exact .inr ⟨_, _, _, rfl, rfl, hst⟩

theorem EndsAlike.mono {R' : σ → σ → Prop} {p q : EStateM.Result ε σ α} (h : EndsAlike R p q)
    (hR : ∀ s t, R s t → R' s t) : EndsAlike R' p q := by
  cases h with
  | ok hst => exact .ok (hR _ _ hst)
  | error hst => exact .error (hR _ _ hst)

def Alike (R : σ → σ → Prop) (x y : EStateM ε σ α) : Prop :=
  ∀ s t, R s t → EndsAlike R (x s) (y t)

namespace Alike

theorem eq (x : EStateM ε σ α) : Alike Eq x x := by
  rintro s - rfl
  cases x s with
  | ok a t => exact .ok rfl
  | error e t => exact .error rfl

theorem pure (a : α) : Alike R (pure a : EStateM ε σ α) (pure a) :=
  fun _ _ h => .ok h

theorem throw (e : ε) : Alike R (throw e : EStateM ε σ α) (throw e) :=
  fun _ _ h => .error h

theorem ofExcept (result : Except ε α) :
    Alike R (MonadExcept.ofExcept result : EStateM ε σ α) (MonadExcept.ofExcept result) := by
  cases result with
  | ok a => exact .pure a
  | error e => exact .throw e

theorem bind {x y : EStateM ε σ α} {f g : α → EStateM ε σ β} (h : Alike R x y)
    (hf : ∀ a, Alike R (f a) (g a)) : Alike R (x >>= f) (y >>= g) := by
  intro s t hst
  rcases (h s t hst).cases with ⟨a, s', t', hx, hy, hst⟩ | ⟨e, s', t', hx, hy, hst⟩
  · simpa only [bind_apply, hx, hy] using hf a s' t' hst
  · simpa only [bind_apply, hx, hy] using EndsAlike.error hst

theorem tryCatch {x y : EStateM ε σ α} {f g : ε → EStateM ε σ α} (h : Alike R x y)
    (hf : ∀ e, Alike R (f e) (g e)) : Alike R (tryCatch x f) (tryCatch y g) := by
  intro s t hst
  rcases (h s t hst).cases with ⟨a, s', t', hx, hy, hst⟩ | ⟨e, s', t', hx, hy, hst⟩
  · simpa only [tryCatch_apply, hx, hy] using EndsAlike.ok hst
  · simpa only [tryCatch_apply, hx, hy] using hf e s' t' hst

theorem modify {f g : σ → σ} (h : ∀ s t, R s t → R (f s) (g t)) :
    Alike R (modify f : EStateM ε σ PUnit) (modify g) :=
  fun s t hst => .ok (h s t hst)

theorem ite {c : Prop} [Decidable c] {x x' y y' : EStateM ε σ α} (h : c → Alike R x x')
    (h' : ¬ c → Alike R y y') : Alike R (if c then x else y) (if c then x' else y') := by
  split
  · next hc => exact h hc
  · next hc => exact h' hc

end Alike

end SmartDevice
