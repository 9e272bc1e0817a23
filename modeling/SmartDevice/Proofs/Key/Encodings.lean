import SmartDevice.Proofs.Credential.Decision
import SmartDevice.Proofs.Hex.Numerals

/-! # No encoding of a key loses anything, and none is taken for the other

Every way of writing a key is read back. No text is a key in both encodings, so it makes no
difference which of them is tried first. -/

namespace SmartDevice.Key

/-! ## Writing and reading back -/

theorem natOfBytes_half_lt {bytes : List UInt8} (h : bytes.length = 16) :
    natOfBytes bytes < 2 ^ 128 := by
  have hlt := Hex.natOfBytes_lt bytes
  rwa [h, show 256 ^ 16 = 2 ^ 128 from rfl] at hlt

/-- The digits of half a key, with zeros in front where the number is short. -/
theorem encode_half {bytes : List UInt8} (h : bytes.length = 16) :
    Hex.encode .lower bytes = List.leftpad 32 '0' (Nat.toDigits 16 (natOfBytes bytes)) := by
  rw [Hex.encode_eq_ofNat, h]
  exact Hex.ofNat_eq_leftpad 31 (natOfBytes_half_lt h)

theorem hex_eq_halves (key : Key) :
    key.hex.toList = List.leftpad 32 '0' (Nat.toDigits 16 key.halves.1) ++
      List.leftpad 32 '0' (Nat.toDigits 16 key.halves.2) := by
  have hfront : (key.bytes.take 16).length = 16 := by simp [key.length_eq]
  have hback : (key.bytes.drop 16).length = 16 := by simp [key.length_eq]
  have hsplit : Hex.encode .lower key.bytes =
      Hex.encode .lower (key.bytes.take 16) ++ Hex.encode .lower (key.bytes.drop 16) := by
    rw [Hex.encode, ← List.take_append_drop 16 key.bytes, List.flatMap_append]
    simp [Hex.encode]
  rw [hex, String.toList_ofList, hsplit, encode_half hfront, encode_half hback]
  rfl

/-- Whatever is written for a key is read back as the key. -/
structure Lossless (key : Key) : Prop where
  ofHex : ofHex key.hex.toList = .ok key
  ofHex_upper : Key.ofHex (key.hex .upper).toList = .ok key
  ofBase64 : ofBase64 key.base64.toList = .ok key
  ofText_hex : ofText key.hex.toList = .ok key
  ofText_upper : ofText (key.hex .upper).toList = .ok key
  ofText_base64 : ofText key.base64.toList = .ok key
  ofJson : ofJson key.toJson = .ok key
  ofBytes : ofBytes key.bytes = .ok key
  /-- The hexadecimal text shows the two halves as numbers of 128 bits. -/
  halves : key.hex.toList = List.leftpad 32 '0' (Nat.toDigits 16 key.halves.1) ++
    List.leftpad 32 '0' (Nat.toDigits 16 key.halves.2)
  halves_lt : key.halves.1 < 2 ^ 128 ∧ key.halves.2 < 2 ^ 128
  length_base64 : key.base64.length = 44

theorem lossless (key : Key) : key.Lossless := by
  have hhex (letters : Hex.Letters) : Key.ofHex (key.hex letters).toList = .ok key :=
    ofHex_hex key letters
  have hbase64 : Key.ofBase64 key.base64.toList = .ok key :=
    (ofBase64_eq_ok_iff _ key).mpr key.spelledBase64_base64
  have htext (letters : Hex.Letters) : ofText (key.hex letters).toList = .ok key :=
    (ofText_eq_ok_iff _ key).mpr (.inl ((ofHex_eq_ok_iff _ key).mp (hhex letters)))
  exact {
    ofHex := hhex .lower
    ofHex_upper := hhex .upper
    ofBase64 := hbase64
    ofText_hex := htext .lower
    ofText_upper := htext .upper
    ofText_base64 := (ofText_eq_ok_iff _ key).mpr (.inr key.spelledBase64_base64)
    ofJson := ofJson_toJson key
    ofBytes := ofBytes_bytes key
    halves := hex_eq_halves key
    halves_lt := ⟨natOfBytes_half_lt (by simp [key.length_eq]),
      natOfBytes_half_lt (by simp [key.length_eq])⟩
    length_base64 := key.spelledBase64_base64.length_eq }

/-! ## One text, one encoding -/

/-- Tries base64 first, and hexadecimal digits only where that fails. -/
def ofBase64OrHex (text : List Char) : Except KeyError Key :=
  match ofBase64 text with
  | .ok key => .ok key
  | .error _ => ofHex text

/-- No text is a key in both encodings. -/
theorem not_ofHex_and_ofBase64 (text : List Char) :
    ¬ ((∃ key, ofHex text = .ok key) ∧ ∃ key, ofBase64 text = .ok key) := by
  rintro ⟨⟨key, hkey⟩, other, hother⟩
  have hlength := ((ofHex_eq_ok_iff text key).mp hkey).length_eq
  rw [((ofBase64_eq_ok_iff text other).mp hother).length_eq] at hlength
  exact absurd hlength (by decide)

theorem ofText_eq_ok_iff_or (text : List Char) (key : Key) :
    ofText text = .ok key ↔ ofHex text = .ok key ∨ ofBase64 text = .ok key := by
  rw [ofText_eq_ok_iff, ofHex_eq_ok_iff, ofBase64_eq_ok_iff]
  rfl

theorem ofBase64OrHex_eq_ok_iff (text : List Char) (key : Key) :
    ofBase64OrHex text = .ok key ↔ ofHex text = .ok key ∨ ofBase64 text = .ok key := by
  unfold ofBase64OrHex
  cases hbase64 : ofBase64 text with
  | error e => simp
  | ok other =>
      have hhex : ofHex text ≠ .ok key := fun hhex =>
        not_ofHex_and_ofBase64 text ⟨⟨key, hhex⟩, other, hbase64⟩
      simp [hhex]

/-- What a text is as a key does not hang on the encoding that is tried first. -/
structure Unambiguous (text : List Char) : Prop where
  not_both : ¬ ((∃ key, ofHex text = .ok key) ∧ ∃ key, ofBase64 text = .ok key)
  either : ∀ key, ofText text = .ok key ↔ ofHex text = .ok key ∨ ofBase64 text = .ok key
  base64First : ∀ key, ofBase64OrHex text = .ok key ↔ ofText text = .ok key
  /-- Texts of the length of a hexadecimal key are no keys in base64. -/
  not_base64 : ¬ (text.length = 64 ∧ ∃ key, ofBase64 text = .ok key)
  /-- A device grants access to its key in base64. -/
  granted : ∀ key, ofBase64 text = .ok key → Credential.check key (some text) = .ok key

theorem unambiguous (text : List Char) : Unambiguous text where
  not_both := not_ofHex_and_ofBase64 text
  either := ofText_eq_ok_iff_or text
  base64First key := by rw [ofBase64OrHex_eq_ok_iff, ofText_eq_ok_iff_or]
  not_base64 := by
    rintro ⟨hlength, key, hkey⟩
    rw [((ofBase64_eq_ok_iff text key).mp hkey).length_eq] at hlength
    exact absurd hlength (by decide)
  granted key hkey := by
    rw [Credential.check_eq_ok_iff]
    exact ⟨rfl, text, rfl, .inr ((ofBase64_eq_ok_iff text key).mp hkey)⟩

/-- What is written for a key is read as that key, and no text is a key in both encodings. -/
theorem encodings_lose_nothing (key : Key) (text : List Char) :
    key.Lossless ∧ Unambiguous text :=
  ⟨key.lossless, unambiguous text⟩

end SmartDevice.Key
