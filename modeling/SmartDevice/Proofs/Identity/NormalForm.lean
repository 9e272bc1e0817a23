import SmartDevice.Proofs.Device.Loading
import SmartDevice.Proofs.Record.Reading
import SmartDevice.Proofs.RecordFile.Atomicity
import SmartDevice.Proofs.Uuid.Layout
import SmartDevice.Proofs.Uuid.Reading

/-! # The one form of an identity

Objects may spell the identifier, the key and the path of an identity in many ways. Whatever is
accepted is written in one form, which is read back and written the same again. -/

namespace SmartDevice

open Apply Disk World RecordFile

variable {identity : Identity} {fields : List (WideText × Json)} {file : String}
  {world saved : World}

namespace Identity

/-! ## Objects -/

theorem uuidOfText_eq_ok_iff {text : WideText} {id : Uuid} :
    uuidOfText text = .ok id ↔ Uuid.ofText text.toList = .ok id ∧ id.version? = some 7 := by
  unfold uuidOfText
  cases Uuid.ofText text.toList with
  | error e => simp [Except.mapError, bind, Except.bind]
  | ok read =>
      simp only [Except.mapError, bind, Except.bind, ne_eq, ite_not]
      split
      · next hversion =>
          simp only [pure, Except.pure, Except.ok.injEq, iff_self_and]
          rintro rfl
          exact hversion
      · next hversion =>
          simp only [throw, throwThe, MonadExceptOf.throw, Except.ok.injEq, reduceCtorEq, false_iff,
            not_and]
          rintro rfl
          exact hversion

/-- The fields spell an identity. -/
structure Spelled (identity : Identity) (fields : List (WideText × Json)) : Prop where
  name : fields.lookup ↑"product_name" = some (.string identity.productName)
  key : ∃ text, fields.lookup ↑"authorization_key" = some (.string text) ∧
    identity.authorizationKey.SpelledHex text.toList
  file : ∃ text, fields.lookup ↑"private_key_file" = some (.string text) ∧
    identity.privateKeyFile = WidePath.ofText text
  uuid : ∃ text, fields.lookup ↑"uuid" = some (.string text) ∧
    Uuid.ofText text.toList = .ok identity.uuid ∧ identity.uuid.version? = some 7

theorem ofJson_eq_ok_iff : ofJson (.object fields) = .ok identity ↔ identity.Spelled fields := by
  constructor
  · intro h
    obtain ⟨name, hname, h⟩ := Json.bind_eq_ok.mp h
    obtain ⟨value, hkey, h⟩ := Json.bind_eq_ok.mp h
    obtain ⟨file, hfile, h⟩ := Json.bind_eq_ok.mp h
    obtain ⟨uuid, huuid, h⟩ := Json.bind_eq_ok.mp h
    rw [Record.require_eq_ok_iff] at hname hkey hfile huuid
    split at h
    · split at h
      · obtain ⟨id, hid, h⟩ := Json.bind_eq_ok.mp h
        obtain ⟨key, hread, h⟩ := Json.bind_eq_ok.mp h
        cases h
        obtain ⟨text, rfl, hspelled⟩ := Record.requireKey_eq_ok_iff.mp hread
        exact ⟨hname, ⟨text, hkey, hspelled⟩, ⟨_, hfile, rfl⟩, _, huuid,
          uuidOfText_eq_ok_iff.mp hid⟩
      · cases h
    · cases h
  · rintro ⟨hname, ⟨key, hkey, hspelled⟩, ⟨file, hfile, hpath⟩, uuid, huuid, hread, hversion⟩
    have hreadKey : Record.requireKey (.string key) = .ok identity.authorizationKey :=
      Record.requireKey_eq_ok_iff.mpr ⟨key, rfl, hspelled⟩
    have hreadUuid : uuidOfText uuid = .ok identity.uuid :=
      uuidOfText_eq_ok_iff.mpr ⟨hread, hversion⟩
    rw [ofJson, Record.require_eq_ok_iff.mpr hname, Record.require_eq_ok_iff.mpr hkey,
      Record.require_eq_ok_iff.mpr hfile, Record.require_eq_ok_iff.mpr huuid]
    simp only [hreadKey, hreadUuid, bind, Except.bind, pure, Except.pure, ← hpath]

/-- What an object has to have. -/
structure Acceptable (fields : List (WideText × Json)) : Prop where
  name : ∃ text, fields.lookup ↑"product_name" = some (.string text)
  key : ∃ text, fields.lookup ↑"authorization_key" = some (.string text) ∧
    text.toList.length = 64 ∧ ∀ c ∈ text.toList, c ∈ Hex.digits
  file : ∃ text, fields.lookup ↑"private_key_file" = some (.string text)
  uuid : ∃ text id, fields.lookup ↑"uuid" = some (.string text) ∧ Uuid.ofText text.toList = .ok id ∧
    id.bits.extractLsb' 62 2 = 2#2 ∧ id.bits.extractLsb' 76 4 = 7#4

theorem acceptable_iff :
    Acceptable fields ↔ ∃ identity, ofJson (.object fields) = .ok identity := by
  constructor
  · rintro ⟨⟨name, hname⟩, ⟨key, hkey, hlength, hdigits⟩, ⟨file, hfile⟩, uuid, id, huuid, hread,
      hversion⟩
    obtain ⟨made, hspelled⟩ := Key.exists_spelledHex hlength hdigits
    have hseven : id.version? = some 7 := id.version?_eq_seven_iff.mpr hversion
    refine ⟨⟨name, made, WidePath.ofText file, id⟩, ofJson_eq_ok_iff.mpr ?_⟩
    exact ⟨hname, ⟨key, hkey, hspelled⟩, ⟨file, hfile, rfl⟩, uuid, huuid, hread, hseven⟩
  · rintro ⟨identity, h⟩
    obtain ⟨hname, ⟨key, hkey, hspelled⟩, ⟨file, hfile, -⟩, uuid, huuid, hread, hversion⟩ :=
      ofJson_eq_ok_iff.mp h
    have hbits := identity.uuid.version?_eq_seven_iff.mp hversion
    exact ⟨⟨_, hname⟩, ⟨key, hkey, hspelled.length_eq, hspelled.digits⟩, ⟨file, hfile⟩, uuid, _,
      huuid, hread, hbits⟩

theorem refusesValues_ofJson (fields : List (WideText × Json)) :
    RefusesValues (ofJson (.object fields)) := by
  refine .bind (.require _ _) fun name => .bind (.require _ _) fun key =>
    .bind (.require _ _) fun file => .bind (.require _ _) fun uuid => ?_
  split
  · split
    · refine .bind ?_ fun id => .bind (.requireKey _) fun key => .ok _
      refine .bind ?_ fun id => ?_
      · cases Uuid.ofText _ with
        | error e => exact .error (.of_family rfl)
        | ok id => exact .ok id
      · split
        · exact .error (.of_family rfl)
        · exact .ok id
    · exact .error (.of_family rfl)
  · exact .error (.of_family rfl)

/-! ## The form that is written -/

/-- Lowercase digits in the key, a path without detours and dashes in the identifier. -/
structure IsNormal (fields : List (WideText × Json)) : Prop where
  key : ∃ text, fields.lookup ↑"authorization_key" = some (.string text) ∧
    text.toList.length = 64 ∧ ∀ c ∈ text.toList, c ∈ Hex.lowerDigits
  file : ∃ text, fields.lookup ↑"private_key_file" = some (.string text) ∧
    (WidePath.ofText text).toText = text
  uuid : ∃ text, fields.lookup ↑"uuid" = some (.string text) ∧ text.toList.length = 36 ∧
    Uuid.Grouped text.toList

/-- An identity that is written in its normal form, and read back from there as it was. -/
structure Settled (identity : Identity) : Prop where
  variant : identity.uuid.bits.extractLsb' 62 2 = 2#2
  version : identity.uuid.bits.extractLsb' 76 4 = 7#4
  normal : ∃ fields, identity.toJson = .object fields ∧ IsNormal fields
  restored : ofJson identity.toJson = .ok identity
  conveyed : ∀ text ∈ [identity.toJson.render, identity.toJson.renderLines],
    Record.Conveys ofJson identity text
  loaded : ∀ file world saved, identity.save (Path.ofString file) world = .ok ⟨⟩ saved →
    Calm .read saved.disk → load file saved = .ok identity saved
  saved : ∀ file world, Ready (Path.ofString file) world.disk →
    ∃ saved, identity.save (Path.ofString file) world = .ok ⟨⟩ saved ∧
      load file saved = .ok identity saved

theorem isNormal_toJson (hpath : identity.privateKeyFile.Normal) :
    ∃ fields, identity.toJson = .object fields ∧ IsNormal fields := by
  refine ⟨_, rfl, ⟨_, rfl, ?_, ?_⟩, ⟨_, rfl, ?_⟩, ⟨_, rfl, ?_, ?_⟩⟩
  · rw [WideText.toList_ofString, Key.hex, String.toList_ofList, Hex.length_encode, Key.length_eq]
  · intro c hc
    rw [WideText.toList_ofString, Key.hex, String.toList_ofList] at hc
    exact Hex.mem_lowerDigits_of_mem_encode hc
  · rw [WidePath.ofText_toText hpath]
  · rw [WideText.toList_ofString]
    exact identity.uuid.grouped_toText.length_eq
  · rw [WideText.toList_ofString]
    exact identity.uuid.grouped_toText

theorem Spelled.normal (h : identity.Spelled fields) : identity.privateKeyFile.Normal := by
  obtain ⟨text, -, hfile⟩ := h.file
  rw [hfile]
  exact WidePath.normal_ofText text

theorem Spelled.version (h : identity.Spelled fields) : identity.uuid.version? = some 7 := by
  obtain ⟨text, -, -, hversion⟩ := h.uuid
  exact hversion

theorem Spelled.settled (h : identity.Spelled fields) : identity.Settled := by
  obtain ⟨hvariant, hversion⟩ := identity.uuid.version?_eq_seven_iff.mp h.version
  have hrestored := ofJson_toJson h.version h.normal
  have hloaded {file : String} {world saved : World}
      (hsave : identity.save (Path.ofString file) world = .ok ⟨⟩ saved)
      (hcalm : Calm .read saved.disk) : load file saved = .ok identity saved := by
    rw [load_apply hcalm, stored_of_content h.version h.normal (content_of_replace hsave)]
  refine ⟨hvariant, hversion, isNormal_toJson h.normal, hrestored,
    Record.conveys_layouts identity.lossless_toJson hrestored, fun _ _ _ => hloaded, ?_⟩
  intro file world hready
  obtain ⟨disk, hsave, hready'⟩ := replace_of_ready hready identity.toText
  exact ⟨_, hsave, hloaded hsave (hready'.calm .read)⟩

/-- Objects with the four fields are accepted, and all others are refused for a bad value. The
identifier of an accepted one is the number that its text spells, and what is written of it is in
normal form. -/
theorem identity_has_normal_form (fields : List (WideText × Json)) :
    (Acceptable fields ↔ ∃ identity, ofJson (.object fields) = .ok identity) ∧
    (¬ Acceptable fields → ∃ e, ofJson (.object fields) = .error e ∧ e.IsValue) ∧
    ∀ identity, ofJson (.object fields) = .ok identity →
      identity.Spelled fields ∧ identity.Settled ∧
      ∃ (text : WideText) (n : ℕ), n < 2 ^ 128 ∧ identity.uuid.bits.toNat = n ∧
        fields.lookup ↑"uuid" = some (.string text) ∧
        Text.Integer.read? 16 (Uuid.bareDigits text.toList) = some (n : ℤ) := by
  refine ⟨acceptable_iff, fun hrefused => ?_, fun identity h => ?_⟩
  · cases h : ofJson (.object fields) with
    | ok identity => exact absurd (acceptable_iff.mpr ⟨identity, h⟩) hrefused
    | error e => exact ⟨e, rfl, refusesValues_ofJson fields e h⟩
  · have hspelled := ofJson_eq_ok_iff.mp h
    obtain ⟨text, huuid, hread, -⟩ := hspelled.uuid
    obtain ⟨-, hlt, hnumber⟩ := Uuid.ofText_eq_ok_iff.mp hread
    exact ⟨hspelled, hspelled.settled, text, _, hlt, rfl, huuid, hnumber⟩

/-- An object in which nothing but the name is in normal form. -/
def looseFields : List (WideText × Json) :=
  [("uuid", .string "{0189-0A5DAC96774BBCCEB302099A8057}"),
    ("private_key_file", .string "///keys/./dht/"),
    ("authorization_key", .string (String.ofList (List.replicate 64 'A'))),
    ("product_name", .string "Lamp")]

theorem loose_identity_settles :
    ∃ identity, ofJson (.object looseFields) = .ok identity ∧ identity.Settled ∧
      identity.uuid.bits.toNat = 0x01890A5DAC96774BBCCEB302099A8057 := by
  have hbare : Uuid.bareDigits "{0189-0A5DAC96774BBCCEB302099A8057}".toList =
      "01890A5DAC96774BBCCEB302099A8057".toList := by
    have hmark : 'u' ∉ "{0189-0A5DAC96774BBCCEB302099A8057}".toList := by decide
    rw [Uuid.bareDigits, show "urn:".toList = 'u' :: "rn:".toList from rfl,
      Uuid.without_of_not_mem hmark, show "uuid:".toList = 'u' :: "uid:".toList from rfl,
      Uuid.without_of_not_mem hmark]
    decide +kernel
  have hread : Text.Integer.read? 16 "01890A5DAC96774BBCCEB302099A8057".toList =
      some 0x01890A5DAC96774BBCCEB302099A8057 := by
    decide +kernel
  have hacceptable : Acceptable looseFields := by
    refine ⟨⟨_, rfl⟩, ⟨_, rfl, by simp, fun c hc => ?_⟩, ⟨_, rfl⟩, _,
      ⟨0x01890A5DAC96774BBCCEB302099A8057⟩, rfl, Uuid.ofText_eq_ok_iff.mpr ⟨?_, by decide, ?_⟩,
      by decide, by decide⟩
    · rw [WideText.toList_ofString, String.toList_ofList] at hc
      rw [List.eq_of_mem_replicate hc]
      decide
    · rw [WideText.toList_ofString, hbare]
      decide
    · rw [WideText.toList_ofString, hbare, hread]
      rfl
  obtain ⟨haccepted, -, hnormal⟩ := identity_has_normal_form looseFields
  obtain ⟨identity, h⟩ := haccepted.mp hacceptable
  obtain ⟨-, hsettled, text, n, -, hn, huuid, hnumber⟩ := hnormal identity h
  obtain rfl : WideText.ofString "{0189-0A5DAC96774BBCCEB302099A8057}" = text := by
    simpa [looseFields] using huuid
  rw [WideText.toList_ofString, hbare, hread, Option.some.injEq] at hnumber
  exact ⟨identity, h, hsettled, by omega⟩

end Identity

end SmartDevice
