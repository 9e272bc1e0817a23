import SmartDevice.Proofs.Action.Apply

/-! # Parts of the state that an action leaves alone -/

namespace SmartDevice

open Apply

variable {ε σ τ α β γ : Type} {view : σ → γ}

/-- The state that an action leaves behind, however it ends. -/
def left (x : EStateM ε σ α) (s : σ) : σ :=
  match x s with
  | .ok _ t => t
  | .error _ t => t

theorem left_of_ok {x : EStateM ε σ α} {s t : σ} {a : α} (h : x s = .ok a t) : left x s = t := by
  simp only [left, h]

theorem left_of_error {x : EStateM ε σ α} {s t : σ} {e : ε} (h : x s = .error e t) :
    left x s = t := by
  simp only [left, h]

/-- The answer or the failure that an action ends with. -/
def answer (x : EStateM ε σ α) (s : σ) : Except ε α :=
  match x s with
  | .ok a _ => .ok a
  | .error e _ => .error e

/-- A part of the state is the same after the action as before, however the action ends. -/
def Keeps (view : σ → γ) (x : EStateM ε σ α) : Prop :=
  ∀ s, view (left x s) = view s

namespace Keeps

theorem ok {x : EStateM ε σ α} (h : Keeps view x) {s t : σ} {a : α} (hx : x s = .ok a t) :
    view t = view s :=
  left_of_ok hx ▸ h s

theorem error {x : EStateM ε σ α} (h : Keeps view x) {s t : σ} {e : ε} (hx : x s = .error e t) :
    view t = view s :=
  left_of_error hx ▸ h s

theorem pure (a : α) : Keeps view (pure a : EStateM ε σ α) :=
  fun _ => rfl

theorem throw (e : ε) : Keeps view (throw e : EStateM ε σ α) :=
  fun _ => rfl

theorem ofExcept (result : Except ε α) :
    Keeps view (MonadExcept.ofExcept result : EStateM ε σ α) := by
  cases result with
  | ok a => exact .pure a
  | error e => exact .throw e

theorem get : Keeps view (get : EStateM ε σ σ) :=
  fun _ => rfl

theorem modify {f : σ → σ} (h : ∀ s, view (f s) = view s) :
    Keeps view (modify f : EStateM ε σ PUnit) :=
  h

theorem bind {x : EStateM ε σ α} {f : α → EStateM ε σ β} (h : Keeps view x)
    (hf : ∀ a, Keeps view (f a)) : Keeps view (x >>= f) := by
  intro s
  cases hx : x s with
  | ok a t =>
      rw [left, bind_apply, hx]
      exact (hf a t).trans (h.ok hx)
  | error e t =>
      rw [left, bind_apply, hx]
      exact h.error hx

theorem tryCatch {x : EStateM ε σ α} {f : ε → EStateM ε σ α} (h : Keeps view x)
    (hf : ∀ e, Keeps view (f e)) : Keeps view (tryCatch x f) := by
  intro s
  cases hx : x s with
  | ok a t =>
      rw [left, tryCatch_apply, hx]
      exact h.ok hx
  | error e t =>
      rw [left, tryCatch_apply, hx]
      exact (hf e t).trans (h.error hx)

theorem ite {c : Prop} [Decidable c] {x y : EStateM ε σ α} (h : c → Keeps view x)
    (h' : ¬ c → Keeps view y) : Keeps view (if c then x else y) := by
  split
  · next hc => exact h hc
  · next hc => exact h' hc

/-- What is kept of a part is kept of any view of that part. -/
theorem comp {x : EStateM ε σ α} (h : Keeps view x) {δ : Type} (f : γ → δ) :
    Keeps (fun s => f (view s)) x :=
  fun s => congrArg f (h s)

end Keeps

/-! ## Relations between the states before and after -/

/-- However the action ends, it leads to a state that is related to the one before. -/
def Moves (R : σ → σ → Prop) (x : EStateM ε σ α) : Prop :=
  ∀ s, R s (left x s)

namespace Moves

variable {R : σ → σ → Prop}

theorem of_keeps {x : EStateM ε σ α} (hrefl : ∀ s, R s s) (h : Keeps id x) : Moves R x := by
  intro s
  rw [show left x s = s from h s]
  exact hrefl s

theorem bind (htrans : ∀ s t u, R s t → R t u → R s u) {x : EStateM ε σ α}
    {f : α → EStateM ε σ β} (h : Moves R x) (hf : ∀ a, Moves R (f a)) : Moves R (x >>= f) := by
  intro s
  have hfirst := h s
  unfold left at hfirst ⊢
  rw [bind_apply]
  cases hx : x s with
  | error e t =>
      rw [hx] at hfirst
      exact hfirst
  | ok a t =>
      rw [hx] at hfirst
      exact htrans _ _ _ hfirst (hf a t)

theorem tryCatch (htrans : ∀ s t u, R s t → R t u → R s u) {x : EStateM ε σ α}
    {f : ε → EStateM ε σ α} (h : Moves R x) (hf : ∀ e, Moves R (f e)) :
    Moves R (tryCatch x f) := by
  intro s
  have hfirst := h s
  unfold left at hfirst ⊢
  rw [tryCatch_apply]
  cases hx : x s with
  | ok a t =>
      rw [hx] at hfirst
      exact hfirst
  | error e t =>
      rw [hx] at hfirst
      exact htrans _ _ _ hfirst (hf e t)

theorem ite {c : Prop} [Decidable c] {x y : EStateM ε σ α} (h : Moves R x) (h' : Moves R y) :
    Moves R (if c then x else y) := by
  split
  · exact h
  · exact h'

end Moves

/-! ## Around a device -/

namespace World

theorem keeps_onDisk {view : World → γ} (x : Disk.Action α)
    (h : ∀ (world : World) (disk : Disk), view { world with disk } = view world) :
    Keeps view (onDisk x) := by
  intro world
  unfold left
  rw [onDisk_apply]
  cases x world.disk <;> exact h _ _

theorem keeps_say {view : World → γ} (write : Console → Console)
    (h : ∀ (world : World) (console : Console), view { world with console } = view world) :
    Keeps view (say write) :=
  fun _ => h _ _

end World

theorem Running.keeps_around {view : Running → γ} {x : SmartDevice.Action α}
    (h : ∀ running : Running, view { running with world := left x running.world } = view running) :
    Keeps view (around x) := by
  intro running
  refine Eq.trans (congrArg view ?_) (h running)
  unfold left
  rw [around_apply]
  cases x running.world <;> rfl

end SmartDevice
