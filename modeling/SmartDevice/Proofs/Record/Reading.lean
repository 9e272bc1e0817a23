import SmartDevice.Family
import SmartDevice.Json.Progress
import SmartDevice.Proofs.Json.RoundTrip
import SmartDevice.Proofs.Key.Spelling

/-! # How records are read

A field holds what is asked of it, or else the object is refused for a bad value. A record that is
written is read again from either layout of its text. -/

namespace SmartDevice

variable {α β : Type} {fields : List (WideText × Json)} {field : String} {value : Json} {key : Key}

/-! ## Fields that are accepted -/

theorem Record.require_eq_ok_iff :
    require field (.object fields) = .ok value ↔ fields.lookup ↑field = some value := by
  rw [require]
  cases fields.lookup ↑field <;> simp

theorem Record.requireKey_eq_ok_iff :
    requireKey value = .ok key ↔ ∃ text, value = .string text ∧ key.SpelledHex text.toList := by
  unfold requireKey
  cases value with
  | string text =>
      rw [Key.ofJson]
      cases h : Key.ofHex text.toList with
      | error e => simp [Except.mapError, ← Key.ofHex_eq_ok_iff, h]
      | ok read => simp [Except.mapError, ← Key.ofHex_eq_ok_iff, h]
  | _ => simp [Key.ofJson, Except.mapError]

/-! ## Families of errors -/

/-- A text that is missing and a key that never changes are no matter of any family. -/
def KeyError.family? : KeyError → Option Family
  | .wrongLength => some .keyLength
  | .invalidDigit => some .keyDigit
  | .notText | .immutable => none
  | _ => some .key

/-- That a value has no fields is no matter of any family either. -/
def RecordError.family? : RecordError → Option Family
  | .noFields => none
  | .key e => e.family?
  | _ => some .value

/-- A handler of bad values handles the error. -/
def RecordError.IsValue (e : RecordError) : Prop :=
  ∃ family, e.family? = some family ∧ Family.value ∈ family.ancestors

theorem RecordError.IsValue.of_family {e : RecordError} (h : e.family? = some .value) :
    e.IsValue :=
  ⟨.value, h, by decide⟩

/-- Whatever is refused is refused for a bad value. -/
def RefusesValues (x : Except RecordError α) : Prop := ∀ e, x = .error e → e.IsValue

namespace RefusesValues

theorem ok (a : α) : RefusesValues (.ok a) := nofun

theorem error {e : RecordError} (h : e.IsValue) : RefusesValues (.error e : Except _ α) := by
  rintro _ ⟨⟩
  exact h

theorem bind {x : Except RecordError α} {f : α → Except RecordError β} (h : RefusesValues x)
    (hf : ∀ a, RefusesValues (f a)) : RefusesValues (x >>= f) := by
  cases x with
  | error e => exact .error (h e rfl)
  | ok a => exact hf a

theorem require (field : String) (fields : List (WideText × Json)) :
    RefusesValues (Record.require field (.object fields)) := by
  rw [Record.require]
  cases fields.lookup ↑field with
  | none => exact .error (.of_family rfl)
  | some value => exact .ok value

theorem requireKey (value : Json) : RefusesValues (Record.requireKey value) := by
  have hlength : RecordError.IsValue (.key .wrongLength) := ⟨.keyLength, rfl, by decide⟩
  unfold Record.requireKey
  cases value with
  | string text =>
      rw [Key.ofJson, Key.ofHex]
      split
      · exact .error hlength
      · cases Hex.decode? text.toList with
        | none => exact .error ⟨.keyDigit, rfl, by decide⟩
        | some bytes =>
            simp only [Key.ofBytes]
            split
            · exact .ok _
            · exact .error hlength
  | _ => exact .error ⟨.key, rfl, by decide⟩

end RefusesValues

/-! ## Texts -/

/-- A text of ASCII characters that a record is read from. -/
structure Record.Conveys (ofJson : Json → Except RecordError α) (record : α) (text : String) :
    Prop where
  ascii : ∀ c ∈ text.toList, c.toNat < 128
  read : ∃ value, Json.read text.toList = .ok value ∧ ofJson value = .ok record

theorem Record.conveys_print {ofJson : Json → Except RecordError α} {record : α} {value : Json}
    (h : value.Lossless) (hread : ofJson value = .ok record) (spacing : Json.Spacing) :
    Conveys ofJson record (String.ofList (Json.print spacing value)) where
  ascii c hc := by
    rw [String.toList_ofList] at hc
    exact (Json.isPlain_print h spacing c hc).toNat_lt
  read := by
    refine ⟨value, ?_, hread⟩
    rw [String.toList_ofList]
    exact Json.read_print h spacing

/-- A record is read again from one line and from several. -/
theorem Record.conveys_layouts {ofJson : Json → Except RecordError α} {record : α} {value : Json}
    (h : value.Lossless) (hread : ofJson value = .ok record) :
    ∀ text ∈ [value.render, value.renderLines], Conveys ofJson record text := by
  intro text htext
  rcases List.mem_pair.mp htext with rfl | rfl
  · exact conveys_print h hread .oneLine
  · exact conveys_print h hread (.lines 0)

end SmartDevice
