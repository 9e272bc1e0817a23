import SmartDevice.Proofs.Json.Numeral
import Mathlib.Data.List.TakeWhile

/-! # Texts that are too much for the reader

Their numerals are too long, or their containers are nested too deep. -/

namespace SmartDevice.Json

/-- A text of nothing but digits is refused if they are too many. -/
theorem read_digits {text : List Char} (hdigits : ∀ c ∈ text, c.isDigit = true)
    (hhead : text.head? ≠ some '0') (hlong : maxIntegerDigits < text.length) :
    read text = .error (.excess (.digits text.length)) := by
  obtain ⟨c, tail, rfl⟩ : ∃ c tail, text = c :: tail :=
    List.exists_cons_of_ne_nil (List.length_pos_iff.mp (Nat.lt_of_le_of_lt (Nat.zero_le _) hlong))
  have hdigit : c.isDigit = true := hdigits c List.mem_cons_self
  have hne (d : Char) (hd : d.isDigit = false) : c ≠ d := (ne_of_isDigit hdigit hd).symm
  have hwhole : wholeDigits (c :: tail) = c :: tail := by
    rw [wholeDigits, if_neg hhead]
    exact List.takeWhile_eq_self_iff.mpr hdigits
  have hnumber : readNumber (c :: tail) = .error (.excess (.digits (c :: tail).length)) := by
    have hsign : ((c :: tail).head? == some '-') = false := by simpa using hne '-' rfl
    simp only [readNumber, Numeral.scan, hsign, Bool.toNat_false, List.drop_zero, hwhole,
      List.drop_length]
    rw [if_neg (by simp), if_pos (by simp [fractionDigits, exponentPart]), if_pos hlong]
  have hvalue (fuel : ℕ) :
      readValue (fuel + 1) maxNesting (c :: tail) = readNumber (c :: tail) :=
    readValue_of_digit fuel maxNesting false hdigit
  have hblank : skipBlank (c :: tail) = c :: tail := by
    refine List.dropWhile_cons_of_neg ?_
    simp [isBlank, hne ' ' rfl, hne '\t' rfl, hne '\n' rfl, hne '\r' rfl]
  have hmark : (c :: tail).head? ≠ some (Char.ofNat 0xfeff) := by
    simpa using hne (Char.ofNat 0xfeff) (by decide)
  rw [read, if_neg hmark, readDecoded, readDocument, hblank, hvalue, hnumber]
  rfl

/-- Each level is used up by one bracket, and the bracket after the last one is refused. -/
theorem readValue_brackets {levels : ℕ} : ∀ {n fuel : ℕ}, levels < n → 2 * levels < fuel →
    readValue fuel levels (List.replicate n '[') = .error (.excess (.nesting "array")) := by
  induction levels with
  | zero =>
      intro n fuel hn hfuel
      obtain ⟨n, rfl⟩ := Nat.exists_eq_succ_of_ne_zero (Nat.ne_of_gt hn)
      obtain ⟨fuel, rfl⟩ := Nat.exists_eq_succ_of_ne_zero (Nat.ne_of_gt hfuel)
      rfl
  | succ levels ih =>
      intro n fuel hn hfuel
      obtain ⟨n, rfl⟩ : ∃ m, n = m + 2 := ⟨n - 2, by omega⟩
      obtain ⟨fuel, rfl⟩ : ∃ m, fuel = m + 2 := ⟨fuel - 2, by omega⟩
      have hinner : readValue fuel levels (List.replicate (n + 1) '[') =
          .error (.excess (.nesting "array")) := ih (by omega) (by omega)
      have houter : readValue (fuel + 2) (levels + 1) (List.replicate (n + 2) '[') =
          readItems (fuel + 1) levels [] (List.replicate (n + 1) '[') := rfl
      rw [houter, readItems, hinner]
      rfl

/-- A text of nothing but brackets is refused if they are too many. -/
theorem read_brackets {n : ℕ} (hdeep : maxNesting < n) :
    read (List.replicate n '[') = .error (.excess (.nesting "array")) := by
  obtain ⟨m, rfl⟩ := Nat.exists_eq_succ_of_ne_zero (Nat.ne_zero_of_lt hdeep)
  have hblank : skipBlank (List.replicate (m + 1) '[') = List.replicate (m + 1) '[' := rfl
  have hmark : (List.replicate (m + 1) '[').head? ≠ some (Char.ofNat 0xfeff) := by
    simp only [List.replicate_succ, List.head?_cons, ne_eq, Option.some.injEq]
    decide
  rw [read, if_neg hmark, readDecoded, readDocument, hblank,
    readValue_brackets hdeep (by rw [List.length_replicate]; omega)]
  rfl

end SmartDevice.Json
