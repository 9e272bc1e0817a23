import SmartDevice.Proofs.Client.Attempts
import SmartDevice.Proofs.Client.Shapes
import Mathlib.Order.Nat

/-! # What sending again comes to

A call is sent until an outcome does not ask for another attempt, or until it has been sent as often
as it may be. Between two attempts stand a warning and a pause, each pause a second longer than the
one before it. -/

namespace SmartDevice.Client

open Apply

/-! ## Kinds of reports -/

/-- The kinds of what is reported instead of an answer, from narrow to wide. Whoever heeds a kind
heeds all narrower ones. A connection that takes too long is a fault of the connection, and an answer
that takes too long is not. -/
structure Kinds (κ : Type) [Preorder κ] where
  name : κ → String
  /-- Something is wrong with the exchange. -/
  exchange : κ
  /-- Something is wrong with the connection. -/
  connection : κ
  connectTimeout : κ
  readTimeout : κ
  connection_le : connection ≤ exchange
  connectTimeout_le : connectTimeout ≤ connection
  readTimeout_le : readTimeout ≤ exchange
  not_readTimeout_le : ¬ readTimeout ≤ connection

structure Report (κ : Type) where
  kind : κ
  text : String

/-- What comes of an attempt. -/
abbrev Outcome (κ : Type) := Except (Report κ) Reply

namespace Kinds

variable {κ : Type} [Preorder κ]

/-- The widest kind of reports after which a call is sent again. -/
def heeded (kinds : Kinds κ) : Call → κ
  | .deviceInfo | .configuration => kinds.exchange
  | .setConfiguration _ | .factoryReset _ | .restart | .shutdown => kinds.connection

/-- Whether an outcome asks for another attempt. -/
def Retries (kinds : Kinds κ) (call : Call) : Outcome κ → Prop
  | .ok _ => False
  | .error report => report.kind ≤ kinds.heeded call

end Kinds

/-! ## The last attempt -/

section Last

variable {κ : Type} [Preorder κ] {kinds : Kinds κ} {client : Client} {call : Call}
  {script : ℕ → Outcome κ} {number : ℕ}

/-- The numbers of attempts that no other one follows: the attempt uses up what is allowed, or its
outcome does not ask for another one. -/
def stops (client : Client) (kinds : Kinds κ) (call : Call) (script : ℕ → Outcome κ) : Set ℕ :=
  {number | 1 ≤ number ∧
    ((number : ℤ) = max 1 client.attempts ∨ ¬ kinds.Retries call (script number))}

end Last

/-! ## Scripts -/

namespace Kinds

variable {κ : Type} [Preorder κ] [DecidableLE κ]

/-- The report as a client takes it. -/
def fault (kinds : Kinds κ) (report : Report κ) : TransportFault :=
  if report.kind ≤ kinds.connection then .unreachable (kinds.name report.kind) report.text
  else if report.kind ≤ kinds.exchange then .broken (kinds.name report.kind) report.text
  else .foreign (kinds.name report.kind) report.text

end Kinds

/-! ## One attempt -/

section Attempts

variable {κ : Type} [Preorder κ] [DecidableLE κ] {kinds : Kinds κ} {client : Client} {call : Call}
  {script : ℕ → Outcome κ} {number more : ℕ} {session : Session (List Sent)} {reply : Reply}
  {report : Report κ}

/-- A conversation in which nothing has been sent yet. -/
def opened (console : Console) : Session (List Sent) where
  transport := []
  console := console

end Attempts

/-! ## Kinds of a line -/

/-- What can be wrong with a line to a device. -/
inductive LineKind where
  | exchange
  | connection
  | timeout
  | connectTimeout
  | readTimeout
  deriving DecidableEq

namespace LineKind

/-- The kind and all wider ones. -/
def wider : LineKind → Finset LineKind
  | exchange => {exchange}
  | connection => {connection, exchange}
  | timeout => {timeout, exchange}
  | connectTimeout => {connectTimeout, connection, timeout, exchange}
  | readTimeout => {readTimeout, timeout, exchange}

instance : Preorder LineKind := Preorder.lift fun kind => OrderDual.toDual kind.wider

instance : DecidableLE LineKind := fun narrow wide =>
  inferInstanceAs (Decidable (wide.wider ⊆ narrow.wider))

def kinds : Kinds LineKind where
  name
    | exchange => "RequestException"
    | connection => "ConnectionError"
    | timeout => "Timeout"
    | connectTimeout => "ConnectTimeout"
    | readTimeout => "ReadTimeout"
  exchange := exchange
  connection := connection
  connectTimeout := connectTimeout
  readTimeout := readTimeout
  connection_le := by decide
  connectTimeout_le := by decide
  readTimeout_le := by decide
  not_readTimeout_le := by decide

end LineKind

end SmartDevice.Client
