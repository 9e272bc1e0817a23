/-! What a command line says about a value that need not be given. -/

namespace SmartDevice

inductive Choice (α : Type) where
  /-- It is not mentioned, so that something else decides. -/
  | unmade
  /-- It is mentioned, but two dashes stand where it should be. -/
  | blank
  | made (value : α)
  deriving DecidableEq, Repr

namespace Choice

def ofOption : Option α → Choice α
  | none => unmade
  | some value => made value

/-- What an option chooses by its value; there is none where two dashes stand for it. -/
def ofValue : Option α → Choice α
  | none => blank
  | some value => made value

def made? : Choice α → Option α
  | made value => some value
  | _ => none

end Choice

end SmartDevice
