import SmartDevice.Http.Service
import SmartDevice.Json.Display

/-! Families of errors. An error is of its own family and of all wider ones, so that a handler may
name any of them. -/

namespace SmartDevice

inductive Family where
  | device
  | random
  | clock
  | value
  | key
  | keyLength
  | keyDigit
  | busy
  | storage
  | identity
  | command
  | credential
  | badCredential
  | wrongCredential
  | confirmation
  | response
  deriving DecidableEq, Repr

namespace Family

/-- The family and all wider ones, the narrowest first. -/
def ancestors : Family → List Family
  | device => [device]
  | value => [value]
  | key => [key, device, value]
  | keyLength => [keyLength, key, device, value]
  | keyDigit => [keyDigit, key, device, value]
  | badCredential => [badCredential, credential, device]
  | wrongCredential => [wrongCredential, credential, device]
  | family => [family, device]

/-- An error of a family as a handler sees it. -/
structure Report where
  message : WideText
  status : Option Json := none
  description : Option Json := none
  reason : Option Json := none

/-- The status that goes with a bad credential. -/
def status? : Family → Option Nat
  | credential | badCredential => some (Http.credentialStatus .missing).code
  | wrongCredential => some (Http.credentialStatus .wrongKey).code
  | _ => none

/-- The message of an error that was given none. -/
def defaultMessage? : Family → Option String
  | key => some (KeyError.message (.unsuitable .wrongLength))
  | keyLength => some (KeyError.message .wrongLength)
  | keyDigit => some (KeyError.message .invalidDigit)
  | _ => none

/-- Several parts of a message are shown in a list. -/
def joined : List Json → WideText
  | [] => ""
  | [part] => part.display
  | parts =>
    let texts := parts.map fun part => String.ofList (Json.displayInner part)
    ↑("(" ++ ", ".intercalate texts ++ ")")

/-- An error of a family, made from parts of the right number. -/
def report? (family : Family) (parts : List Json) : Option Report :=
  match family, parts with
  | response, [status, description] =>
    some {
      message := status.display ++ ↑": " ++ description.display
      status := some status, description := some description }
  | response, _ => none
  | busy, [reason] => some { message := reason.display, reason := some reason }
  | busy, _ => none
  | _, _ =>
    match family.status?, family.defaultMessage?, parts with
    | some status, _, [description] =>
      some {
        message := description.display
        status := some (.integer status), description := some description }
    | some _, _, _ => none
    | none, some message, [] => some { message }
    | none, some _, [part] => some { message := part.display }
    | none, some _, _ => none
    | none, none, parts => some { message := joined parts }

end Family

end SmartDevice
