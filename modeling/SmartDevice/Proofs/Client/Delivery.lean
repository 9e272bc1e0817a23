import SmartDevice.Proofs.Client.Attempts

/-! # How often a device receives a command

A command is sent again only after a report that the device was not reached. A report of a lost
connection that comes after the device was reached makes the device receive the command once
more. -/

namespace SmartDevice.Client

open Apply

variable {σ : Type} {transport : Transport σ} {received : σ → List Sent} {client : Client}
  {call : Call}

/-! ## Transports to a device -/

/-- An outcome that tells that the device was not reached. -/
def SaysUnreached (outcome : Except TransportFault Reply) : Prop :=
  ∃ kind text, outcome = .error (.unreachable kind text)

/-- Each attempt reaches the device once, whatever is reported then, or it is lost and reported as
one that did not reach the device. -/
def Conveys (transport : Transport σ) (received : σ → List Sent) : Prop :=
  ∀ sent state,
    received (attempt transport sent state).after = received state ++ [sent] ∨
      received (attempt transport sent state).after = received state ∧
        SaysUnreached (attempt transport sent state).outcome

/-- The device has received something in an attempt. -/
def Attempt.reaches (received : σ → List Sent) (attempt : Attempt σ) : Bool :=
  (received attempt.before).length < (received attempt.after).length

@[simp] theorem before_attempt (transport : Transport σ) (sent : Sent) (state : σ) :
    (attempt transport sent state).before = state := by
  unfold attempt
  cases transport sent state <;> rfl

theorem received_attempt (h : Conveys transport received) (sent : Sent) (state : σ) :
    received (attempt transport sent state).after =
      received state ++
        List.replicate ((attempt transport sent state).reaches received).toNat sent := by
  unfold Attempt.reaches
  rcases h sent state with hreached | ⟨hlost, -⟩
  · simp [hreached]
  · simp [hlost]

/-! ## Calls -/

/-- What the device has received after a call, by induction on the attempts that may follow. -/
theorem received_endOf (h : Conveys transport received) (more : ℕ) (state : σ) :
    received (endOf (client.historyFrom transport call more state) state) =
      received state ++ List.replicate
        ((client.historyFrom transport call more state).countP (·.reaches received))
        (client.request call) := by
  induction more generalizing state with
  | zero =>
      rw [historyFrom, endOf, List.foldl_cons, List.foldl_nil, received_attempt h,
        List.countP_singleton]
      cases (attempt transport (client.request call) state).reaches received <;> rfl
  | succ more ih =>
      rw [historyFrom, endOf, List.foldl_cons, List.countP_cons]
      cases call.repeats (attempt transport (client.request call) state).outcome with
      | false =>
          simp only [Bool.false_eq_true, if_false, List.foldl_nil, List.countP_nil, Nat.zero_add]
          rw [received_attempt h]
          cases (attempt transport (client.request call) state).reaches received <;> rfl
      | true =>
          have hrest := ih (attempt transport (client.request call) state).after
          rw [endOf] at hrest
          simp only [if_true]
          rw [hrest, received_attempt h, List.append_assoc, List.replicate_append_replicate]
          cases (attempt transport (client.request call) state).reaches received <;>
            simp [Nat.add_comm]

theorem received_perform (h : Conveys transport received) (client : Client) (call : Call)
    (session : Session σ) :
    received (left (client.perform transport call) session).transport =
      received session.transport ++ List.replicate
        ((client.history transport call session.transport).countP (·.reaches received))
        (client.request call) := by
  rw [transport_perform]
  exact received_endOf h _ _

/-- What does not only read is sent again only if the device is said not to have been reached. -/
theorem saysUnreached_of_repeats (hcommand : call.isReading = false)
    {outcome : Except TransportFault Reply} (h : call.repeats outcome = true) :
    SaysUnreached outcome := by
  cases outcome with
  | ok reply => cases h
  | error fault =>
      cases fault with
      | unreachable kind text => exact ⟨kind, text, rfl⟩
      | broken kind text => exact absurd (hcommand.symm.trans h) nofun
      | foreign kind text => cases h
      | noReply => cases h

/-- More than one entry of a list has a property if one has it and a later one has it too. -/
theorem one_lt_countP_iff {α : Type} (p : α → Bool) (xs : List α) :
    1 < xs.countP p ↔
      ∃ earlier x later, xs = earlier ++ x :: later ∧ p x ∧ ∃ y ∈ later, p y := by
  constructor
  · intro h
    induction xs with
    | nil => simp at h
    | cons x xs ih =>
        by_cases hx : p x
        · rw [List.countP_cons_of_pos hx] at h
          exact ⟨[], x, xs, rfl, hx, List.countP_pos_iff.mp (by omega)⟩
        · rw [List.countP_cons_of_neg hx] at h
          obtain ⟨earlier, y, later, rfl, hy, hlater⟩ := ih h
          exact ⟨x :: earlier, y, later, rfl, hy, hlater⟩
  · rintro ⟨earlier, x, later, rfl, hx, hlater⟩
    have hpos := List.countP_pos_iff.mpr hlater
    rw [List.countP_append, List.countP_cons_of_pos hx]
    omega

/-- A device receives a command more than once exactly if an attempt that reaches it is reported as
one that does not, and a later attempt of the same call reaches it too. -/
theorem received_again_iff (h : Conveys transport received) (client : Client)
    (hcommand : call.isReading = false) (session : Session σ) :
    ∃ times,
      received (left (client.perform transport call) session).transport =
        received session.transport ++ List.replicate times (client.request call) ∧
      (1 < times ↔
        ∃ earlier cut later,
          client.history transport call session.transport = earlier ++ cut :: later ∧
          cut.reaches received ∧ SaysUnreached cut.outcome ∧
          ∃ attempt ∈ later, attempt.reaches received) := by
  refine ⟨_, received_perform h client call session, ?_⟩
  rw [one_lt_countP_iff]
  constructor
  · rintro ⟨earlier, cut, later, hsplit, hcut, attempt, hmem, hattempt⟩
    have hrepeats := repeats_of_append_cons hsplit (List.ne_nil_of_mem hmem)
    exact ⟨earlier, cut, later, hsplit, hcut, saysUnreached_of_repeats hcommand hrepeats,
      attempt, hmem, hattempt⟩
  · rintro ⟨earlier, cut, later, hsplit, hcut, -, hlater⟩
    exact ⟨earlier, cut, later, hsplit, hcut, hlater⟩

/-! ## A line that loses what it carries -/

/-- What becomes of an attempt. -/
inductive Fate where
  /-- It does not reach the device. -/
  | lost (kind text : String)
  /-- It reaches the device, and is reported like this. -/
  | reached (outcome : Except TransportFault Reply)

/-- A line with the fates of the attempts to come, and what the device has received over it. -/
structure Line where
  fates : List Fate
  received : List Sent := []

/-- Whatever comes after the last fate is lost. -/
def Line.carry : Transport Line := fun sent line =>
  match line.fates with
  | [] => .error (.unreachable "ConnectionError" "no route to host") line
  | .lost kind text :: fates => .error (.unreachable kind text) { line with fates }
  | .reached (.ok reply) :: fates => .ok reply { fates, received := line.received ++ [sent] }
  | .reached (.error fault) :: fates =>
    .error fault { fates, received := line.received ++ [sent] }

theorem Line.conveys : Conveys Line.carry Line.received := by
  intro sent line
  obtain ⟨fates, received⟩ := line
  unfold attempt carry
  cases fates with
  | nil => exact .inr ⟨rfl, _, _, rfl⟩
  | cons fate fates =>
      cases fate with
      | lost kind text => exact .inr ⟨rfl, kind, text, rfl⟩
      | reached outcome => cases outcome <;> exact .inl rfl

/-- The client of a lamp. -/
def lampClient : Client where
  baseUrl := "http://lamp.local:8000"
  key := ⟨List.replicate 32 7, List.length_replicate⟩

/-- The first attempt is lost, the second one is answered too late. -/
def slowLine : Line where
  fates := [.lost "ConnectTimeout" "connect timed out",
    .reached (.error (.broken "ReadTimeout" "read timed out"))]

/-- The device restarts before it has answered. -/
def cutLine : Line where
  fates := [
    .reached (.error (.unreachable "ConnectionError" "Connection aborted.")),
    .reached (.ok { status := 200, body := [] })]

theorem restart_over_slowLine :
    let session : Session Line := { transport := slowLine }
    let after := (left (lampClient.perform Line.carry .restart) session).transport
    Conveys Line.carry Line.received ∧ Call.restart.isReading = false ∧
      after.received = [lampClient.request .restart] ∧
      ∃ times, after.received = [] ++ List.replicate times (lampClient.request .restart) ∧
        (1 < times ↔
          ∃ earlier cut later,
            lampClient.history Line.carry .restart slowLine = earlier ++ cut :: later ∧
            cut.reaches Line.received ∧ SaysUnreached cut.outcome ∧
            ∃ attempt ∈ later, attempt.reaches Line.received) :=
  ⟨Line.conveys, rfl, rfl, received_again_iff Line.conveys lampClient rfl { transport := slowLine }⟩

theorem restart_received_twice :
    let session : Session Line := { transport := cutLine }
    Conveys Line.carry Line.received ∧ Call.restart.isReading = false ∧
      (left (lampClient.perform Line.carry .restart) session).transport.received =
        [lampClient.request .restart, lampClient.request .restart] :=
  ⟨Line.conveys, rfl, rfl⟩

end SmartDevice.Client
