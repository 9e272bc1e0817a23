import SmartDevice.Key
import SmartDevice.Proofs.Hex.Reading
import SmartDevice.Proofs.Base64.Packing
import Mathlib.Data.Set.Card

/-! # The texts that spell a key

A key has the spellings with sixty-four digits, and four with forty-three letters and one mark of
padding. The readers of keys accept exactly these. -/

namespace SmartDevice.Key

/-- Sixty-four digits of either case that are those of the key. -/
structure SpelledHex (key : Key) (text : List Char) : Prop where
  length_eq : text.length = 64
  digits : ∀ c ∈ text, c ∈ Hex.digits
  lower_eq : text.map Char.toLower = key.hex.toList

/-- Forty-three letters and one mark of padding. The letters are those of the key, but of the last
one only the upper four of its six bits count. -/
structure SpelledBase64 (key : Key) (text : List Char) : Prop where
  letters : ∃ letters, text = letters ++ ['='] ∧ letters.length = 43 ∧
    ∀ c ∈ letters, c ∈ Base64.alphabet
  front : text.take 42 = key.base64.toList.take 42
  last : text[42]?.map Base64.upperBits = key.base64.toList[42]?.map Base64.upperBits

def Spelled (key : Key) (text : List Char) : Prop :=
  key.SpelledHex text ∨ key.SpelledBase64 text

/-! ## Hexadecimal spellings -/

theorem ofBytes_eq_ok_iff (bytes : List UInt8) (key : Key) :
    ofBytes bytes = .ok key ↔ bytes = key.bytes := by
  unfold ofBytes
  constructor
  · intro h
    split at h
    · cases h
      rfl
    · simp at h
  · rintro rfl
    rw [dif_pos key.length_eq]

theorem ofHex_eq_ok_iff (text : List Char) (key : Key) :
    ofHex text = .ok key ↔ key.SpelledHex text := by
  have hhex : key.hex.toList = Hex.encode .lower key.bytes := String.toList_ofList
  unfold ofHex
  constructor
  · intro h
    split at h
    · simp at h
    · next hlen =>
        split at h
        · simp at h
        · next bytes hbytes =>
            rw [(ofBytes_eq_ok_iff bytes key).mp h] at hbytes
            obtain ⟨hdigits, hlower⟩ := (Hex.decode?_eq_some_iff _ _).mp hbytes
            exact ⟨not_not.mp hlen, hdigits, hhex ▸ hlower⟩
  · rintro ⟨hlen, hdigits, hlower⟩
    rw [if_neg (not_not.mpr hlen)]
    rw [(Hex.decode?_eq_some_iff text key.bytes).mpr ⟨hdigits, hhex ▸ hlower⟩]
    exact (ofBytes_eq_ok_iff _ _).mpr rfl

/-- Any sixty-four digits spell a key. -/
theorem exists_spelledHex {text : List Char} (hlength : text.length = 64)
    (h : ∀ c ∈ text, c ∈ Hex.digits) : ∃ key : Key, key.SpelledHex text := by
  obtain ⟨bytes, hbytes, hcount⟩ := Hex.exists_decode? text (by omega) h
  refine ⟨⟨bytes, by omega⟩, (ofHex_eq_ok_iff _ _).mp ?_⟩
  rw [ofHex, if_neg (not_not.mpr hlength), hbytes]
  exact (ofBytes_eq_ok_iff _ _).mpr rfl

/-! ## Base64 spellings -/

theorem ofBase64_eq_ok_iff (text : List Char) (key : Key) :
    ofBase64 text = .ok key ↔ key.SpelledBase64 text := by
  have hkey : key.base64.toList = Base64.encode key.bytes := String.toList_ofList
  have hdecode : ofBase64 text = .ok key ↔ Base64.decode text = .ok key.bytes := by
    unfold ofBase64
    cases Base64.decode text with
    | error e => simp [ofDecoded]
    | ok bytes => simp [ofDecoded, ofBytes_eq_ok_iff]
  rw [hdecode, Base64.decode_eq_ok_iff]
  constructor
  · rintro ⟨letters, pads, rfl, hl, hc, hbytes⟩
    have hlen := congrArg List.length hbytes
    rw [key.length_eq, Base64.length_pack, List.length_map] at hlen
    have hletters : letters.length = 43 := by
      unfold Base64.Closes at hc
      omega
    obtain rfl : pads = 1 := by
      unfold Base64.Closes at hc
      omega
    obtain ⟨hfront, hlast⟩ := (Base64.pack_eq_iff 10 letters key.bytes hl hletters
      key.length_eq).mp hbytes.symm
    refine ⟨⟨letters, rfl, hletters, hl⟩, ?_, ?_⟩
    · rw [hkey, ← hfront, List.take_append_of_le_length (by omega)]
    · rw [hkey, ← hlast, List.getElem?_append_left (by omega)]
  · rintro ⟨⟨letters, rfl, hletters, hl⟩, hfront, hlast⟩
    rw [hkey, List.take_append_of_le_length (by omega)] at hfront
    rw [hkey, List.getElem?_append_left (by omega)] at hlast
    refine ⟨letters, 1, rfl, hl, .inr ?_, ?_⟩
    · rw [hletters]
      decide
    · exact ((Base64.pack_eq_iff 10 letters key.bytes hl hletters key.length_eq).mpr
        ⟨hfront, hlast⟩).symm

theorem SpelledBase64.length_eq {key : Key} {text : List Char} (h : key.SpelledBase64 text) :
    text.length = 44 := by
  obtain ⟨letters, rfl, hlen, -⟩ := h.letters
  simp [hlen]

theorem spelledBase64_base64 (key : Key) : key.SpelledBase64 key.base64.toList := by
  refine ⟨?_, rfl, rfl⟩
  rw [base64, String.toList_ofList]
  exact Base64.encode_eq_append 10 key.bytes key.length_eq

/-- The spelling that differs from the written one only in the two bits that no byte uses. -/
def base64Variant (key : Key) (bits : Fin 4) : List Char :=
  key.base64.toList.take 42 ++
    [Base64.letter (4 * (key.base64.toList[42]?.map Base64.upperBits).getD 0 + bits), '=']

/-- The parts of a spelling in base64. -/
theorem SpelledBase64.split {key : Key} {text : List Char} (h : key.SpelledBase64 text) :
    ∃ last ∈ Base64.alphabet, text = text.take 42 ++ [last, '='] ∧ text[42]? = some last := by
  obtain ⟨letters, rfl, hlen, hl⟩ := h.letters
  have hdrop : (letters.drop 42).length = 1 := by simp [hlen]
  obtain ⟨last, hlast⟩ := List.length_eq_one_iff.mp hdrop
  have hsplit : letters = letters.take 42 ++ [last] := by
    rw [← hlast, List.take_append_drop]
  have htake : (letters.take 42).length = 42 := by simp [hlen]
  refine ⟨last, hl last ?_, ?_, ?_⟩
  · rw [hsplit]
    simp
  · rw [List.take_append_of_le_length (by omega)]
    nth_rewrite 1 [hsplit]
    simp
  · rw [hsplit, List.append_assoc, List.getElem?_append_right (by omega)]
    simp [htake]

theorem base64Variant_injective (key : Key) : Function.Injective key.base64Variant := by
  obtain ⟨own, hown, -, hget⟩ := key.spelledBase64_base64.split
  have hlt := Base64.upperBits_lt hown
  intro a b h
  simp only [base64Variant, hget, Option.map_some, Option.getD_some, List.append_cancel_left_eq,
    List.cons.injEq, and_true] at h
  have hvalue := congrArg Base64.value h
  rw [Base64.value_letter (by omega), Base64.value_letter (by omega)] at hvalue
  omega

theorem spelledBase64_iff_exists_variant (key : Key) (text : List Char) :
    key.SpelledBase64 text ↔ ∃ bits, key.base64Variant bits = text := by
  obtain ⟨own, hown, hbase, hget⟩ := key.spelledBase64_base64.split
  have hlt := Base64.upperBits_lt hown
  have hfrontLength : (key.base64.toList.take 42).length = 42 := by
    have := key.spelledBase64_base64.length_eq
    simp [this]
  constructor
  · intro h
    obtain ⟨last, hmem, htext, hlast⟩ := h.split
    have hbits := h.last
    rw [hlast, hget, Option.map_some, Option.map_some, Option.some.injEq] at hbits
    refine ⟨⟨Base64.value last % 4, Nat.mod_lt _ (by decide)⟩, ?_⟩
    have hvalue : 4 * Base64.upperBits own + Base64.value last % 4 = Base64.value last := by
      rw [← hbits, Base64.upperBits, Nat.div_add_mod]
    rw [base64Variant, hget, Option.map_some, Option.getD_some, hvalue,
      (Base64.letter_value hmem).2, ← h.front, ← htext]
  · rintro ⟨bits, rfl⟩
    have hbits := bits.isLt
    have hmem : Base64.letter (4 * Base64.upperBits own + bits) ∈ Base64.alphabet :=
      Base64.letter_mem (by omega)
    have hupper : Base64.upperBits (Base64.letter (4 * Base64.upperBits own + bits)) =
        Base64.upperBits own := by
      rw [Base64.upperBits, Base64.value_letter (by omega)]
      omega
    simp only [base64Variant, hget, Option.map_some, Option.getD_some]
    generalize Base64.letter (4 * Base64.upperBits own + bits) = last at hmem hupper ⊢
    generalize hfront : key.base64.toList.take 42 = front at hfrontLength
    refine ⟨⟨front ++ [last], by simp, by simp [hfrontLength], ?_⟩, ?_, ?_⟩
    · intro c hc
      rcases List.mem_append.mp hc with hc | hc
      · obtain ⟨letters, hletters, hlen, hl⟩ := key.spelledBase64_base64.letters
        apply hl
        rw [← hfront, hletters, List.take_append_of_le_length (by omega)] at hc
        exact List.mem_of_mem_take hc
      · rw [List.mem_singleton.mp hc]
        exact hmem
    · rw [List.take_append_of_le_length (by omega), List.take_of_length_le (by omega), hfront]
    · rw [List.getElem?_append_right (by omega), hget, hfrontLength]
      simp [hupper]

/-- Every key has exactly four spellings in base64. -/
theorem ncard_spelledBase64 (key : Key) : {text | key.SpelledBase64 text}.ncard = 4 := by
  have hrange : {text | key.SpelledBase64 text} = key.base64Variant '' Set.univ := by
    ext text
    simp [spelledBase64_iff_exists_variant]
  rw [hrange, Set.ncard_image_of_injective _ key.base64Variant_injective, Set.ncard_univ,
    Nat.card_eq_fintype_card, Fintype.card_fin]

/-! ## Both -/

theorem SpelledHex.detect_eq {key : Key} {text : List Char} (h : key.SpelledHex text) :
    KeyEncoding.detect text = .hex := by
  have hdigits : text.all Hex.isDigit = true :=
    List.all_eq_true.mpr fun c hc => (Hex.isDigit_iff c).mpr (h.digits c hc)
  simp [KeyEncoding.detect, h.length_eq, hdigits]

theorem SpelledBase64.detect_eq {key : Key} {text : List Char} (h : key.SpelledBase64 text) :
    KeyEncoding.detect text = .base64 := by
  simp [KeyEncoding.detect, h.length_eq]

/-- The reader that chooses the encoding by itself accepts both kinds of spellings, and nothing
else. -/
theorem ofText_eq_ok_iff (text : List Char) (key : Key) :
    ofText text = .ok key ↔ key.Spelled text := by
  have hmap : ∀ result : Except KeyError Key,
      result.mapError KeyError.unsuitable = .ok key ↔ result = .ok key := by
    intro result
    cases result <;> simp [Except.mapError]
  unfold ofText
  rw [hmap]
  cases hd : KeyEncoding.detect text with
  | hex =>
      rw [ofHex_eq_ok_iff]
      refine ⟨.inl, ?_⟩
      rintro (h | h)
      · exact h
      · simp [h.detect_eq] at hd
  | base64 =>
      rw [ofBase64_eq_ok_iff]
      refine ⟨.inr, ?_⟩
      rintro (h | h)
      · simp [h.detect_eq] at hd
      · exact h

/-- No text spells two keys. -/
theorem Spelled.unique {key other : Key} {text : List Char} (h : key.Spelled text)
    (ho : other.Spelled text) : key = other := by
  have hk := (ofText_eq_ok_iff text key).mpr h
  rw [(ofText_eq_ok_iff text other).mpr ho] at hk
  exact (Except.ok.inj hk).symm

end SmartDevice.Key
