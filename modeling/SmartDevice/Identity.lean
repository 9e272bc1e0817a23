import SmartDevice.Record
import SmartDevice.Json.Printer
import SmartDevice.WidePath

/-! What a device is from the factory on: its product name, the key that grants access to it, the
file of its private key and its identifier. -/

namespace SmartDevice

structure Identity where
  productName : WideText
  authorizationKey : Key
  privateKeyFile : WidePath
  uuid : Uuid
  deriving DecidableEq

namespace Identity

def toJson (identity : Identity) : Json :=
  .object
    [("product_name", .string identity.productName),
      ("authorization_key", identity.authorizationKey.toJson),
      ("private_key_file", .string identity.privateKeyFile.toText),
      ("uuid", .string identity.uuid.toText)]

/-- Only identifiers of version 7 tell when they were made. -/
def uuidOfText (text : WideText) : Except RecordError Uuid := do
  let uuid ← (Uuid.ofText text.toList).mapError .uuid
  if uuid.version? ≠ some 7 then throw (.wrongVersion uuid.version?)
  return uuid

/-- All fields are looked for before any is looked at, and the key is looked at last. -/
def ofJson (value : Json) : Except RecordError Identity := do
  let productName ← Record.require "product_name" value
  let key ← Record.require "authorization_key" value
  let file ← Record.require "private_key_file" value
  let uuid ← Record.require "uuid" value
  match productName, file with
  | .string productName, .string file =>
    match uuid with
    | .string text =>
      let uuid ← uuidOfText text
      return {
        productName, uuid
        authorizationKey := ← Record.requireKey key
        privateKeyFile := WidePath.ofText file }
    | _ => throw (.notText "uuid")
  | _, _ => throw (.notTexts "product_name" "private_key_file")

/-- The text that is kept in a file. -/
def toText (identity : Identity) : String := identity.toJson.renderLines

end Identity

end SmartDevice
