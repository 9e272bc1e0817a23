import SmartDevice.Json.Printer
import SmartDevice.Json.Reader
import SmartDevice.Proofs.Text.Ascii
import SmartDevice.Proofs.Text.Stored

/-! # Texts in JSON are read as they were written

A unit is written as the character that it is, as a short escape or with four digits; each of these
is read back as the unit, whatever follows. -/

namespace SmartDevice.Json

/-! ## Digits -/

theorem hex_four (n : ℕ) :
    Hex.ofNat 4 n = [Hex.digit .lower (n / 4096 % 16), Hex.digit .lower (n / 256 % 16),
      Hex.digit .lower (n / 16 % 16), Hex.digit .lower (n % 16)] := by
  simp [Hex.ofNat, List.range_succ, Nat.shiftRight_eq_div_pow]

/-- A digit of a unit that is not the last one. -/
theorem readText_unit_digit (opening left missing value d : ℕ) (tail : List Char)
    (hd : d < 16) (hm : missing ≠ 1) :
    readText opening (.unit left missing value) (Hex.digit .lower d :: tail) =
      readText opening (.unit left (missing - 1) (16 * value + d)) tail := by
  rw [readText]
  simp only [Hex.digitValue?_digit .lower hd, ne_eq, hm, not_false_eq_true, ↓reduceIte]

theorem readText_unit_last (opening left value d : ℕ) (tail : List Char)
    (hd : d < 16) (ht : tail ≠ []) :
    readText opening (.unit left 1 value) (Hex.digit .lower d :: tail) =
      prepend [UInt16.ofNat (16 * value + d)] (readText opening .plain tail) := by
  rw [readText]
  simp only [Hex.digitValue?_digit .lower hd, ne_eq, not_true_eq_false, ↓reduceIte,
    List.isEmpty_iff, ht]

theorem readText_digits (opening : ℕ) (unit : UInt16) {tail : List Char} (ht : tail ≠ []) :
    readText opening .plain (['\\', 'u'] ++ Hex.ofNat 4 unit.toNat ++ tail) =
      prepend [unit] (readText opening .plain tail) := by
  have hlt := unit.toNat_lt
  have hvalue : 16 * (16 * (16 * (16 * 0 + unit.toNat / 4096 % 16) + unit.toNat / 256 % 16) +
      unit.toNat / 16 % 16) + unit.toNat % 16 = unit.toNat := by omega
  rw [hex_four]
  simp only [List.cons_append, List.nil_append]
  rw [readText, if_neg (by decide), if_pos rfl, readText, if_pos rfl,
    readText_unit_digit _ _ _ _ _ _ (Nat.mod_lt _ (by decide)) (by decide),
    readText_unit_digit _ _ _ _ _ _ (Nat.mod_lt _ (by decide)) (by decide),
    readText_unit_digit _ _ _ _ _ _ (Nat.mod_lt _ (by decide)) (by decide),
    readText_unit_last _ _ _ _ _ (Nat.mod_lt _ (by decide)) ht, hvalue, UInt16.ofNat_toNat]

/-! ## Units -/

theorem toNat_ofNat_of_ascii {n : ℕ} (h : n ≤ '~'.toNat) : (Char.ofNat n).toNat = n := by
  rw [Char.ofNat, dif_pos (.inl (Nat.lt_of_le_of_lt h (by decide)))]
  rfl

/-- A short escape: a backslash and one letter. -/
theorem readText_short (opening : ℕ) {letter c : Char} (tail : List Char)
    (hu : letter ≠ 'u') (hc : escaped? letter = some c) :
    readText opening .plain ('\\' :: letter :: tail) =
      prepend (WideText.unitsOf c) (readText opening .plain tail) := by
  rw [readText, if_neg (by decide), if_pos rfl, readText, if_neg hu]
  simp only [hc]

/-- The letter of a short escape is read as the unit that it stands for. -/
theorem escaped?_of_shortEscape? {unit : UInt16} {letter : Char}
    (h : shortEscape? unit = some letter) :
    letter ≠ 'u' ∧ ∃ c, escaped? letter = some c ∧ WideText.unitsOf c = [unit] := by
  have hunit (n : ℕ) (hn : unit.toNat = n) : unit = UInt16.ofNat n := by
    rw [← hn, UInt16.ofNat_toNat]
  unfold shortEscape? at h
  split at h
  case h_8 => cases h
  all_goals
    next hn =>
      rw [hunit _ hn]
      cases h
      exact ⟨by decide, _, rfl, by decide⟩

theorem readText_escapeUnit (opening : ℕ) (unit : UInt16) {tail : List Char} (ht : tail ≠ []) :
    readText opening .plain (escapeUnit unit ++ tail) =
      prepend [unit] (readText opening .plain tail) := by
  unfold escapeUnit
  split
  · next letter hletter =>
      obtain ⟨hu, c, hc, hunits⟩ := escaped?_of_shortEscape? hletter
      rw [List.cons_append, List.cons_append, List.nil_append,
        readText_short opening tail hu hc, hunits]
  · next hnone =>
      split
      · next hprintable =>
          have hnat := toNat_ofNat_of_ascii hprintable.2
          have hne (c : Char) (h : shortEscape? (UInt16.ofNat c.toNat) ≠ none) :
              Char.ofNat unit.toNat ≠ c := by
            rintro rfl
            rw [hnat, UInt16.ofNat_toNat] at h
            exact h hnone
          have hcontrol : ¬ unit.toNat < 32 := Nat.not_lt.mpr hprintable.1
          have hunits : WideText.unitsOf (Char.ofNat unit.toNat) = [unit] := by
            rw [WideText.unitsOf, hnat, if_pos unit.toNat_lt, UInt16.ofNat_toNat]
          rw [List.singleton_append, readText, if_neg (hne '"' (by decide)),
            if_neg (hne '\\' (by decide)), hnat, if_neg hcontrol, hunits]
      · exact readText_digits opening unit ht

/-! ## Whole texts -/

theorem readText_escaped (opening : ℕ) (units : List UInt16) (rest : List Char) :
    readText opening .plain (units.flatMap escapeUnit ++ '"' :: rest) = .ok (units, rest) := by
  induction units with
  | nil =>
      rw [List.flatMap_nil, List.nil_append, readText, if_pos rfl]
  | cons unit units ih =>
      rw [List.flatMap_cons, List.append_assoc, readText_escapeUnit opening unit (by simp), ih]
      rfl

theorem printText_append (text : WideText) (rest : List Char) :
    printText text ++ rest = '"' :: (text.units.flatMap escapeUnit ++ '"' :: rest) := by
  simp [printText]

/-! ## What texts are written with -/

theorem escapeUnit_ascii (unit : UInt16) : ∀ c ∈ escapeUnit unit, ' ' ≤ c ∧ c ≤ '~' := by
  unfold escapeUnit
  split
  · next letter hletter =>
      intro c hc
      simp only [List.mem_cons, List.not_mem_nil, or_false] at hc
      rcases hc with rfl | rfl
      · decide
      · unfold shortEscape? at hletter
        split at hletter <;> cases hletter <;> decide
  · split
    · next hprintable =>
        intro c hc
        rw [List.mem_singleton.mp hc, Text.char_le_iff, Text.char_le_iff,
          toNat_ofNat_of_ascii hprintable.2]
        exact hprintable
    · have hall : ∀ d < 16, ' ' ≤ Hex.digit .lower d ∧ Hex.digit .lower d ≤ '~' := by decide
      have hdigit (m : ℕ) := hall (m % 16) (Nat.mod_lt _ (by decide))
      rw [hex_four]
      intro c hc
      simp only [List.cons_append, List.nil_append, List.mem_cons, List.not_mem_nil,
        or_false] at hc
      rcases hc with rfl | rfl | rfl | rfl | rfl | rfl
      · decide
      · decide
      · exact hdigit _
      · exact hdigit _
      · exact hdigit _
      · exact hdigit _

/-- A written text holds printable characters of ASCII only. -/
theorem printText_ascii (text : WideText) : ∀ c ∈ printText text, ' ' ≤ c ∧ c ≤ '~' := by
  intro c hc
  simp only [printText, List.mem_append, List.mem_singleton, List.mem_flatMap] at hc
  rcases hc with (rfl | ⟨unit, _, hc⟩) | rfl
  · decide
  · exact escapeUnit_ascii unit c hc
  · decide

end SmartDevice.Json
