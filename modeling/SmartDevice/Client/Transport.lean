import SmartDevice.Json.Basic

/-! What a client sends and what comes back, over a transport that may lose either. -/

namespace SmartDevice.Client

/-- A request as it is handed to the transport. -/
structure Sent where
  method : String
  url : String
  parameters : Option Json := none
  body : Option Json := none
  /-- Seconds to wait for the answer. -/
  timeout : Option Int

structure Reply where
  status : Int
  body : List UInt8

/-- What a transport reports instead of an answer. Each report has a kind of its own and a text. -/
inductive TransportFault where
  /-- The device was not reached, as far as the transport can tell. -/
  | unreachable (kind text : String)
  /-- The exchange failed at some other point. -/
  | broken (kind text : String)
  /-- The report is not about the exchange. -/
  | foreign (kind text : String)
  /-- There is nothing left to answer with. -/
  | noReply
  deriving DecidableEq, Repr

def TransportFault.message : TransportFault → String
  | unreachable _ text | broken _ text | foreign _ text => text
  | noReply => "no scripted response"

/-- A transport with a state of its own. -/
abbrev Transport (σ : Type) := Sent → EStateM TransportFault σ Reply

/-! ## A transport that plays a script -/

structure Scripted where
  outcomes : List (Except TransportFault Reply)
  sent : List Sent := []

/-- Gives each outcome once, in order. -/
def Scripted.transport : Transport Scripted := fun request script =>
  let sent := script.sent ++ [request]
  match script.outcomes with
  | [] => .error .noReply { script with sent }
  | .ok reply :: outcomes => .ok reply { outcomes, sent }
  | .error fault :: outcomes => .error fault { outcomes, sent }

end SmartDevice.Client
