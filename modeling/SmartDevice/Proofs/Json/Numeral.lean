import SmartDevice.Json.Printer
import SmartDevice.Json.Reader
import Mathlib.Data.Int.Notation
import Mathlib.Data.List.Basic

/-! # Integers in JSON are read as they were written -/

namespace SmartDevice.Json

/-! ## Digits -/

/-- What may follow a value: nothing, or a mark that no numeral goes on with. -/
def Closes (rest : List Char) : Prop :=
  ∀ c, rest.head? = some c → c = ',' ∨ c = ']' ∨ c = '}' ∨ c = '\n'

theorem exists_toDigits (n : ℕ) :
    ∃ c digits, Nat.toDigits 10 n = c :: digits ∧ c.isDigit = true := by
  have hne : Nat.toDigits 10 n ≠ [] := Nat.toDigits_ne_nil
  obtain ⟨c, digits, h⟩ := List.exists_cons_of_ne_nil hne
  have hmem : c ∈ Nat.toDigits 10 n := by
    rw [h]
    exact List.mem_cons_self
  exact ⟨c, digits, h, Nat.isDigit_of_mem_toDigits (by decide) (by decide) hmem⟩

/-- Only zero starts with a zero. -/
theorem eq_zero_of_head?_toDigits {n : ℕ} (h : (Nat.toDigits 10 n).head? = some '0') : n = 0 := by
  induction n using Nat.strongRecOn with
  | _ n ih =>
      by_cases hsmall : n < 10
      · have hall : ∀ d < 10, Nat.digitChar d = '0' → d = 0 := by decide
        rw [Nat.toDigits_of_lt_base hsmall] at h
        exact hall n hsmall (Option.some.inj h)
      · rw [Nat.toDigits_of_base_le (by decide) (by omega),
          List.head?_append_of_ne_nil _ Nat.toDigits_ne_nil] at h
        have hzero := ih (n / 10) (by omega) h
        omega

theorem wholeDigits_toDigits (n : ℕ) {rest : List Char} (hrest : Closes rest) :
    wholeDigits (Nat.toDigits 10 n ++ rest) = Nat.toDigits 10 n := by
  unfold wholeDigits
  rw [List.head?_append_of_ne_nil _ Nat.toDigits_ne_nil]
  split
  · next hzero =>
      rw [eq_zero_of_head?_toDigits hzero]
      rfl
  · have hdigits : ∀ c ∈ Nat.toDigits 10 n, c.isDigit = true :=
      fun c hc => Nat.isDigit_of_mem_toDigits (by decide) (by decide) hc
    have hend : rest.takeWhile Char.isDigit = [] := by
      cases rest with
      | nil => rfl
      | cons c rest =>
          have hc : c.isDigit = false := by
            rcases hrest c rfl with rfl | rfl | rfl | rfl <;> rfl
          rw [List.takeWhile_cons_of_neg (by simp [hc])]
    rw [List.takeWhile_append_of_pos hdigits, hend, List.append_nil]

theorem fractionDigits_of_closes {rest : List Char} (hrest : Closes rest) :
    fractionDigits rest = [] := by
  cases rest with
  | nil => rfl
  | cons c rest => rcases hrest c rfl with rfl | rfl | rfl | rfl <;> rfl

theorem exponentPart_of_closes {rest : List Char} (hrest : Closes rest) :
    exponentPart rest = [] := by
  cases rest with
  | nil => rfl
  | cons c rest => rcases hrest c rfl with rfl | rfl | rfl | rfl <;> rfl

/-! ## Numerals -/

/-- A sign, the digits of a number and what closes it. -/
theorem scan_digits (negative : Bool) (n : ℕ) {rest : List Char} (hrest : Closes rest) :
    Numeral.scan ((if negative then ['-'] else []) ++ Nat.toDigits 10 n ++ rest) =
      { negative, whole := Nat.toDigits 10 n, fraction := [], exponent := [], rest } := by
  have hsign : (((if negative then ['-'] else []) ++ Nat.toDigits 10 n ++ rest).head? ==
      some '-') = negative := by
    obtain ⟨c, digits, hcons, hdigit⟩ := exists_toDigits n
    cases negative with
    | true => rfl
    | false =>
        have hne : c ≠ '-' := by
          rintro rfl
          cases hdigit
        rw [hcons]
        simpa using hne
  have hdrop : ((if negative then ['-'] else []) ++ Nat.toDigits 10 n ++ rest).drop
      negative.toNat = Nat.toDigits 10 n ++ rest := by
    cases negative <;> rfl
  simp only [Numeral.scan, hsign, hdrop, wholeDigits_toDigits n hrest, List.drop_left,
    fractionDigits_of_closes hrest, exponentPart_of_closes hrest, List.isEmpty_nil, if_true,
    List.length_nil, List.drop_zero]

theorem readNumber_digits (negative : Bool) {n : ℕ}
    (hn : (Nat.toDigits 10 n).length ≤ maxIntegerDigits) {rest : List Char} (hrest : Closes rest) :
    readNumber ((if negative then ['-'] else []) ++ Nat.toDigits 10 n ++ rest) =
      .ok (.integer (if negative then -n else n), rest) := by
  have hvalue : Decimal.digitsValue (Nat.toDigits 10 n) = n := Nat.ofDigitChars_ten_toDigits
  have hsome : (Nat.toDigits 10 n).isEmpty = false := by
    simp
  simp only [readNumber, scan_digits negative n hrest, hsome, Bool.false_eq_true, if_false,
    List.isEmpty_nil, Bool.and_self, if_true, if_neg (Nat.not_lt.mpr hn), hvalue]

theorem readValue_number (fuel levels : ℕ) {text : List Char} (hword : readWord? text = none)
    (hhead : ∀ c, text.head? = some c → c ≠ '"' ∧ c ≠ '{' ∧ c ≠ '[') :
    readValue (fuel + 1) levels text = readNumber text := by
  rw [readValue]
  · simp only [hword]
  · rintro rest rfl
    exact (hhead '"' rfl).1 rfl
  · rintro rest rfl
    exact (hhead '{' rfl).2.1 rfl
  · rintro rest rfl
    exact (hhead '[' rfl).2.2 rfl

theorem ne_of_isDigit {c d : Char} (hc : c.isDigit = true) (hd : d.isDigit = false) : d ≠ c := by
  rintro rfl
  rw [hd] at hc
  cases hc

/-- A numeral begins like no text, container or word does. -/
theorem readValue_of_digit (fuel levels : ℕ) (negative : Bool) {c : Char} {tail : List Char}
    (h : c.isDigit = true) :
    readValue (fuel + 1) levels ((if negative then ['-'] else []) ++ c :: tail) =
      readNumber ((if negative then ['-'] else []) ++ c :: tail) := by
  cases negative with
  | false =>
      refine readValue_number fuel levels (by simp [readWord?, words, ne_of_isDigit h]) ?_
      rintro d ⟨⟩
      exact ⟨(ne_of_isDigit h rfl).symm, (ne_of_isDigit h rfl).symm, (ne_of_isDigit h rfl).symm⟩
  | true =>
      refine readValue_number fuel levels (by simp [readWord?, words, ne_of_isDigit h]) ?_
      rintro d ⟨⟩
      exact ⟨by decide, by decide, by decide⟩

theorem readValue_digits (fuel levels : ℕ) (negative : Bool) {n : ℕ}
    (hn : (Nat.toDigits 10 n).length ≤ maxIntegerDigits) {rest : List Char} (hrest : Closes rest) :
    readValue (fuel + 1) levels ((if negative then ['-'] else []) ++ Nat.toDigits 10 n ++ rest) =
      .ok (.integer (if negative then -n else n), rest) := by
  rw [← readNumber_digits negative hn hrest]
  obtain ⟨c, digits, hcons, hdigit⟩ := exists_toDigits n
  rw [hcons, List.append_assoc, List.cons_append]
  exact readValue_of_digit fuel levels negative hdigit

/-- How an integer is written. -/
theorem toList_toString (n : ℤ) :
    ∃ negative : Bool, n = (if negative then -(n.natAbs : ℤ) else n.natAbs) ∧
      (toString n).toList =
        (if negative then ['-'] else []) ++ Nat.toDigits 10 n.natAbs := by
  cases n with
  | ofNat m =>
      refine ⟨false, rfl, ?_⟩
      rw [Int.toString_eq_repr, Int.repr, Nat.repr_eq_ofList_toDigits, String.toList_ofList]
      rfl
  | negSucc m =>
      refine ⟨true, rfl, ?_⟩
      rw [Int.toString_eq_repr, Int.repr, Nat.repr_eq_ofList_toDigits, String.toList_append]
      simp only [String.toList_ofList]
      rfl

theorem exists_toString (n : ℤ) :
    ∃ c text, (toString n).toList = c :: text ∧ (c = '-' ∨ c.isDigit = true) := by
  obtain ⟨negative, -, htext⟩ := toList_toString n
  obtain ⟨c, digits, hcons, hdigit⟩ := exists_toDigits n.natAbs
  rw [htext, hcons]
  cases negative with
  | false => exact ⟨c, digits, rfl, .inr hdigit⟩
  | true => exact ⟨'-', c :: digits, rfl, .inl rfl⟩

/-- An integer whose numeral is not too long is read as it was written. -/
theorem readValue_integer (fuel levels : ℕ) {n : ℤ}
    (hn : (Nat.toDigits 10 n.natAbs).length ≤ maxIntegerDigits) {rest : List Char}
    (hrest : Closes rest) :
    readValue (fuel + 1) levels ((toString n).toList ++ rest) = .ok (.integer n, rest) := by
  obtain ⟨negative, hvalue, htext⟩ := toList_toString n
  rw [htext, readValue_digits fuel levels negative hn hrest, ← hvalue]

end SmartDevice.Json
