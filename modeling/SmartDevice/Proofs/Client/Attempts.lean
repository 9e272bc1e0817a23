import SmartDevice.Client.Basic
import SmartDevice.Proofs.Action.Keeps

/-! # The attempts that a call consists of

A call passes through the transport once or several times. It ends where its last attempt ends. -/

namespace SmartDevice.Client

open Apply

variable {σ : Type} {transport : Transport σ} {client : Client} {call : Call}

/-- One passage through a transport. -/
structure Attempt (σ : Type) where
  before : σ
  outcome : Except TransportFault Reply
  after : σ

/-- What comes of sending something once. -/
def attempt (transport : Transport σ) (sent : Sent) (state : σ) : Attempt σ :=
  match transport sent state with
  | .ok reply after => { before := state, outcome := .ok reply, after }
  | .error fault after => { before := state, outcome := .error fault, after }

/-- Whether a call is sent again after an attempt with this outcome, while attempts are left. -/
def Call.repeats (call : Call) : Except TransportFault Reply → Bool
  | .ok _ => false
  | .error fault => call.repeatsAfter fault

/-- The attempts of a call that may be sent once and so many times more. -/
def historyFrom (client : Client) (transport : Transport σ) (call : Call) :
    ℕ → σ → List (Attempt σ)
  | more, state =>
    let first := attempt transport (client.request call) state
    first :: match more with
      | 0 => []
      | more + 1 =>
        if call.repeats first.outcome then historyFrom client transport call more first.after
        else []

/-- The attempts of a call. -/
def history (client : Client) (transport : Transport σ) (call : Call) (state : σ) :
    List (Attempt σ) :=
  client.historyFrom transport call (client.attempts - 1).toNat state

/-- The state that attempts lead to. -/
def endOf (history : List (Attempt σ)) (state : σ) : σ :=
  history.foldl (fun _ attempt => attempt.after) state

theorem trySend_eq (transport : Transport σ) (sent : Sent) (session : Session σ) :
    trySend transport sent session =
      ((attempt transport sent session.transport).outcome,
        { session with transport := (attempt transport sent session.transport).after }) := by
  unfold trySend attempt
  cases transport sent session.transport <;> rfl

/-- Sending goes through the attempts of its history, by induction on how many may follow. -/
theorem transport_sendFrom (client : Client) (transport : Transport σ) (call : Call)
    (number more : ℕ) (session : Session σ) :
    (left (client.sendFrom transport call number more) session).transport =
      endOf (client.historyFrom transport call more session.transport) session.transport := by
  induction more generalizing number session with
  | zero =>
      unfold left sendFrom historyFrom
      simp only [trySend_eq]
      cases (attempt transport (client.request call) session.transport).outcome with
      | ok reply => rfl
      | error fault =>
          simp only
          cases call.repeatsAfter fault <;> rfl
  | succ more ih =>
      unfold left sendFrom historyFrom
      simp only [trySend_eq]
      cases houtcome : (attempt transport (client.request call) session.transport).outcome with
      | ok reply => rfl
      | error fault =>
          cases hrepeats : call.repeatsAfter fault with
          | false =>
              simp only [Call.repeats, hrepeats]
              rfl
          | true =>
              simp only [Call.repeats, hrepeats]
              exact ih _ _

/-- Reading the answer adds nothing to a session. -/
theorem left_perform (client : Client) (transport : Transport σ) (call : Call)
    (session : Session σ) :
    left (client.perform transport call) session = left (client.send transport call) session := by
  unfold left perform
  rw [bind_apply]
  cases client.send transport call session with
  | error e after => rfl
  | ok reply after =>
      simp only
      cases interpret call reply <;> rfl

theorem transport_perform (client : Client) (transport : Transport σ) (call : Call)
    (session : Session σ) :
    (left (client.perform transport call) session).transport =
      endOf (client.history transport call session.transport) session.transport := by
  rw [left_perform, history, ← client.transport_sendFrom transport call 1]
  rfl

/-- Every attempt but the last asks for another one. -/
theorem repeats_of_append_cons {more : ℕ} {state : σ} {earlier later : List (Attempt σ)}
    {attempt : Attempt σ}
    (h : client.historyFrom transport call more state = earlier ++ attempt :: later)
    (hlater : later ≠ []) : call.repeats attempt.outcome = true := by
  induction more generalizing state earlier with
  | zero =>
      rw [historyFrom] at h
      cases earlier with
      | nil => exact absurd (List.cons.inj h).2.symm hlater
      | cons first earlier => simp at h
  | succ more ih =>
      rw [historyFrom] at h
      cases earlier with
      | nil =>
          obtain ⟨rfl, hrest⟩ := List.cons.inj h
          split at hrest
          · next hrepeats => exact hrepeats
          · exact absurd hrest.symm hlater
      | cons first earlier =>
          obtain ⟨rfl, hrest⟩ := List.cons.inj h
          split at hrest
          · exact ih hrest
          · simp at hrest

end SmartDevice.Client
