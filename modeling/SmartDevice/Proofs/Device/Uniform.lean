import SmartDevice.Http.Service
import SmartDevice.Proofs.Action.Alike

/-! # What the endpoints of a device are made of

Where the parts that commands are made of run alike from related states, so does every endpoint. -/

namespace SmartDevice

open Apply Running

variable {R : Running → Running → Prop}

/-- What commands are made of runs alike from related states. -/
structure Uniform (R : Running → Running → Prop) : Prop where
  say : ∀ write, Alike R (Running.say write) (Running.say write)
  isBusyWith : Alike R Device.isBusyWith Device.isBusyWith
  getConfig : Alike R Device.getConfig Device.getConfig
  acquire : ∀ reason, Alike R (Device.acquire reason) (Device.acquire reason)
  giveBack : ∀ r s guard, R r s → R (r.giveBack guard) (s.giveBack guard)
  setConfig : ∀ config, Alike R (Device.setConfig config) (Device.setConfig config)
  runScript : ∀ name timeout busy,
    Alike R (around (Command.runScript name timeout busy))
      (around (Command.runScript name timeout busy))
  identityAnswer : ∀ r s, R r s →
    Http.identityAnswer r.device.identity = Http.identityAnswer s.device.identity

namespace Uniform

variable (hR : Uniform R)

include hR

/-! ## Commands -/

theorem exclusively {α : Type} (reason : String) {operation : Running.Action α}
    (h : Alike R operation operation) :
    Alike R (Device.exclusively reason operation) (Device.exclusively reason operation) := by
  intro r s hrs
  rcases (hR.acquire reason r s hrs).cases with
    ⟨guard, r', s', hr, hs, hrs⟩ | ⟨e, r', s', hr, hs, hrs⟩
  · simp only [Device.exclusively_apply, hr, hs]
    rcases (h r' s' hrs).cases with ⟨a, r', s', hr, hs, hrs⟩ | ⟨e, r', s', hr, hs, hrs⟩
    · simpa only [hr, hs] using EndsAlike.ok (hR.giveBack _ _ guard hrs)
    · simpa only [hr, hs] using EndsAlike.error (hR.giveBack _ _ guard hrs)
  · simpa only [Device.exclusively_apply, hr, hs] using EndsAlike.error hrs

theorem runOwnScript (name : String) :
    Alike R (Command.runOwnScript name) (Command.runOwnScript name) :=
  .bind hR.isBusyWith fun busy => .bind (hR.runScript name _ busy) fun _ => .pure _

theorem factoryReset (confirm : Option String) :
    Alike R (Command.factoryReset confirm) (Command.factoryReset confirm) := by
  unfold Command.factoryReset
  refine .ite (fun _ => .bind (.throw _) fun _ => ?_) fun _ => ?_
  all_goals
    refine .bind (hR.exclusively _ ?_) fun _ => .pure _
    exact .bind (hR.say _) fun _ => .bind (hR.setConfig none) fun _ => hR.runOwnScript _

/-! ## Endpoints -/

theorem serve (endpoint : Http.Endpoint) (request : Http.Request) (body : Http.Body) :
    Alike R (endpoint.serve request body) (endpoint.serve request body) := by
  cases endpoint with
  | showIdentity =>
      intro r s h
      simp only [Http.Endpoint.serve, bind_apply, get_apply, hR.identityAnswer r s h]
      exact Alike.ofExcept _ r s h
  | showConfiguration => exact .bind hR.getConfig fun _ => .ofExcept _
  | storeConfiguration =>
      unfold Http.Endpoint.serve Http.storeAnswer
      dsimp only
      split
      · exact .pure _
      · split
        · exact .pure _
        · exact .bind (.bind (hR.exclusively _ (hR.setConfig _)) fun _ => .pure _) fun _ => .pure _
  | factoryReset => exact .bind (hR.factoryReset _) fun _ => .pure _
  | restart =>
      exact .bind (.bind (hR.exclusively _ (hR.runOwnScript _)) fun _ => .pure _) fun _ => .pure _
  | shutdown =>
      exact .bind (.bind (hR.exclusively _ (hR.runOwnScript _)) fun _ => .pure _) fun _ => .pure _

end Uniform

end SmartDevice
