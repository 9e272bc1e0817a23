import SmartDevice.Key
import SmartDevice.Text.Lower

/-! Who may use a device: the text presented with a request has to spell the device's own key. -/

namespace SmartDevice

/-- Why a credential is turned down. -/
inductive CredentialError where
  | missing
  | malformed (cause : KeyError)
  | wrongKey
  deriving DecidableEq, Repr

namespace CredentialError

/-- The header that carries the credential. -/
def headerName : String := "x-api-key"

def message : CredentialError → String
  | missing => s!"Missing `{headerName}` header."
  | malformed _ => "Invalid API key"
  | wrongKey => "The request requires user authentication."

end CredentialError

namespace Credential

/-- The key that was presented, if it is the given one in any spelling. -/
def check (key : Key) : Option (List Char) → Except CredentialError Key
  | none => .error .missing
  | some text =>
    match Key.ofText text with
    | .error e => .error (.malformed e)
    | .ok presented => if key.sameBytes presented then .ok presented else .error .wrongKey

def isAccepted (key : Key) (presented : Option (List Char)) : Bool :=
  (check key presented).isOk

/-- The value of the first header of a name, whatever the case of its letters. -/
def header? (name : String) (headers : List (String × String)) : Option String :=
  let wanted := Text.lower name.toList
  (headers.find? fun (other, _) => Text.lower other.toList == wanted).map (·.2)

end Credential

end SmartDevice
