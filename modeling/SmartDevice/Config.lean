import SmartDevice.Record
import SmartDevice.Json.Printer

/-! What the owner has set: a name for the device and the key that its network shares. -/

namespace SmartDevice

structure Config where
  /-- Any text that JSON can tell: one in which half of a pair stands alone can be stored, but it
  cannot be answered. -/
  name : WideText
  sharedKey : Key
  deriving DecidableEq

namespace Config

def toJson (config : Config) : Json :=
  .object [("name", .string config.name), ("dht_shared_key", config.sharedKey.toJson)]

/-- Both fields are looked for before either is looked at. -/
def ofJson (value : Json) : Except RecordError Config := do
  let name ← Record.require "name" value
  let key ← Record.require "dht_shared_key" value
  match name with
  | .string name => return { name, sharedKey := ← Record.requireKey key }
  | _ => throw (.notText "name")

/-- The text that is kept in a file. -/
def toText (config : Config) : String := config.toJson.renderLines

end Config

end SmartDevice
