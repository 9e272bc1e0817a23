import SmartDevice.RecordFile
import SmartDevice.Proofs.Disk.Effects
import SmartDevice.Proofs.Json.RoundTrip
import SmartDevice.Proofs.Text.Stored

/-! # What is read from a file depends on its bytes only -/

namespace SmartDevice

open Apply Disk World

variable {α : Type} {world : World}

namespace RecordFile

/-- The failure to read a file; that it is missing is left to the caller. -/
def unread (file : String) : FileError → Failure
  | .system e => if e.isNotFound then .file (.system e) else .storage (.read file e)
  | e => .file e

/-- The object that bytes spell. -/
def objectOf (file : String) (bytes : List UInt8) : Except Failure Json :=
  match Text.Utf8.decode bytes with
  | .error e => .error (.storage (.undecodable file e))
  | .ok text =>
    match Json.read (Text.unifyLineEnds text) with
    | .error (.malformed e) => .error (.storage (.malformed file e))
    | .error (.excess excess) => .error (.excess excess)
    | .ok (.object fields) => .ok (.object fields)
    | .ok _ => .error (.storage (.notAnObject file))

/-- What a file of the disk holds. -/
def stored (file : String) (disk : Disk) : Except Failure Json :=
  match disk.content (Path.ofString file) with
  | .error e => .error (unread file e)
  | .ok bytes => objectOf file bytes

theorem readText_apply (h : Calm .read world.disk) (file : String) :
    readText file world =
      match world.disk.content (Path.ofString file) with
      | .error e => .error (unread file e) world
      | .ok bytes =>
        match Text.Utf8.decode bytes with
        | .error e => .error (.storage (.undecodable file e)) world
        | .ok text => .ok (Text.unifyLineEnds text) world := by
  unfold readText
  simp only [bind_apply, tryCatch_apply, onDisk_apply, read_apply h]
  cases world.disk.content (Path.ofString file) with
  | ok bytes =>
      simp only
      cases Text.Utf8.decode bytes <;> rfl
  | error e =>
      cases e with
      | embeddedNull => rfl
      | nameless path => rfl
      | system cause =>
          simp only [unread]
          cases cause.isNotFound <;> rfl

theorem readObject_apply (h : Calm .read world.disk) (file : String) :
    readObject file world =
      match stored file world.disk with
      | .error e => .error e world
      | .ok value => .ok value world := by
  unfold readObject stored objectOf
  simp only [bind_apply, readText_apply h]
  cases world.disk.content (Path.ofString file) with
  | error e => rfl
  | ok bytes =>
      simp only
      cases Text.Utf8.decode bytes with
      | error e => rfl
      | ok text =>
          simp only
          cases Json.read (Text.unifyLineEnds text) with
          | error e => cases e <;> rfl
          | ok value => cases value <;> rfl

/-- An object that was written is read again. -/
theorem objectOf_printed (file : String) (spacing : Json.Spacing) {fields : List (WideText × Json)}
    (h : Json.Lossless (.object fields)) :
    objectOf file (Text.Utf8.encode (Json.print spacing (.object fields))) =
      .ok (.object fields) := by
  have hreturn : '\r' ∉ Json.print spacing (.object fields) :=
    fun hmem => Json.not_isPlain_return (Json.isPlain_print h spacing _ hmem)
  simp only [objectOf, Text.Utf8.decode_encode, Text.unifyLineEnds_of_not_mem hreturn,
    Json.read_print h spacing]

/-- A file with an object that was written to it holds that object. -/
theorem stored_of_printed {file : String} {disk : Disk} {fields : List (WideText × Json)}
    (hlossless : Json.Lossless (.object fields))
    (h : disk.content (Path.ofString file) =
      .ok (Text.Utf8.encode (Json.object fields).renderLines.toList)) :
    stored file disk = .ok (.object fields) := by
  rw [Json.renderLines, String.toList_ofList] at h
  simp only [stored, h, objectOf_printed file _ hlossless]

end RecordFile

/-- A key is read as it was written. -/
theorem Record.requireKey_toJson (key : Key) : requireKey key.toJson = .ok key := by
  rw [requireKey, Key.ofJson_toJson]
  rfl

/-! ## Configurations -/

namespace Config

open RecordFile

/-- The configuration that a file of the disk holds. -/
def stored (file : String) (disk : Disk) : Except Failure Config := do
  (ofJson (← RecordFile.stored file disk)).mapError fun e => .storage (.badConfig file e)

theorem load_apply (h : Calm .read world.disk) (file : String) :
    load file world =
      match stored file world.disk with
      | .error e => .error e world
      | .ok config => .ok config world := by
  unfold load stored
  simp only [bind_apply, readObject_apply h]
  cases RecordFile.stored file world.disk with
  | error e => rfl
  | ok value =>
      simp only [bind, Except.bind]
      cases ofJson value <;> rfl

theorem lossless_toJson (config : Config) : config.toJson.Lossless :=
  .object (by simp) (by simp [Key.toJson])

theorem ofJson_toJson (config : Config) : ofJson config.toJson = .ok config := by
  obtain ⟨name, key⟩ := config
  have hname : Record.require "name" (toJson ⟨name, key⟩) = .ok (.string name) := rfl
  have hfield : Record.require "dht_shared_key" (toJson ⟨name, key⟩) = .ok key.toJson := rfl
  simp only [ofJson, hname, hfield, Record.requireKey_toJson, bind, Except.bind, pure,
    Except.pure]

/-- A file with the text of a configuration holds that configuration. -/
theorem stored_of_content {file : String} {disk : Disk} (config : Config)
    (h : disk.content (Path.ofString file) = .ok (Text.Utf8.encode config.toText.toList)) :
    stored file disk = .ok config := by
  have hobject : RecordFile.stored file disk = .ok config.toJson :=
    stored_of_printed config.lossless_toJson h
  rw [stored, hobject]
  simp only [bind, Except.bind, ofJson_toJson]
  rfl

end Config

end SmartDevice
