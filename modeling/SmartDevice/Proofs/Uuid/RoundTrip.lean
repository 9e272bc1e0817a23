import SmartDevice.Uuid
import Mathlib.Data.List.Basic
import Mathlib.Data.Nat.Notation
import Mathlib.Tactic.Ring

/-! # Identifiers are read as they were written -/

namespace SmartDevice

/-! ## Hexadecimal numbers -/

namespace Hex

/-- The digits of a number, the most significant first. -/
def values (width n : ℕ) : List ℕ := (List.range width).reverse.map fun i => (n >>> (4 * i)) % 16

theorem ofNat_eq (width n : ℕ) : ofNat width n = (values width n).map (digit .lower) := by
  simp [ofNat, values, Function.comp_def]

theorem values_lt (width n : ℕ) : ∀ d ∈ values width n, d < 16 := by
  intro d hd
  obtain ⟨i, -, rfl⟩ := List.mem_map.mp hd
  exact Nat.mod_lt _ (by decide)

theorem foldl_values (width n start : ℕ) :
    (values width n).foldl (fun n d => n * 16 + d) start = start * 16 ^ width + n % 16 ^ width := by
  induction width generalizing start with
  | zero => simp [values, Nat.mod_one]
  | succ width ih =>
      have hvalues : values (width + 1) n = (n >>> (4 * width)) % 16 :: values width n := by
        simp [values, List.range_succ]
      have hshift : n >>> (4 * width) = n / 16 ^ width := by
        rw [Nat.shiftRight_eq_div_pow, Nat.pow_mul]
      have hsplit : n % 16 ^ (width + 1) = n % 16 ^ width + 16 ^ width * (n / 16 ^ width % 16) :=
        Nat.mod_mul
      rw [hvalues, List.foldl_cons, ih, hshift, hsplit, Nat.add_mul, Nat.pow_succ]
      ring

end Hex

namespace Text.Integer

/-- The digits that numbers are written with are neither blank nor a mark. -/
theorem digit_facts : ∀ d < 16, digitValue? 16 (Hex.digit .lower d) = some d ∧
    isBlankAround (Hex.digit .lower d) = false ∧
    Hex.digit .lower d ∉ ['_', '-', '+', 'x', 'X', 'u', '{', '}'] := by
  decide

theorem readDigits_digits {values : List ℕ} (h : ∀ d ∈ values, d < 16) (afterDigit : Bool)
    (before : List ℕ) (hne : afterDigit = true ∨ values ≠ []) :
    readDigits 16 afterDigit (values.map (Hex.digit .lower)) before =
      some (before.reverse ++ values) := by
  induction values generalizing afterDigit before with
  | nil =>
      obtain rfl : afterDigit = true := by simpa using hne
      simp [readDigits]
  | cons d values ih =>
      rw [List.forall_mem_cons] at h
      obtain ⟨hvalue, -, hmark⟩ := digit_facts d h.1
      have hunderscore : Hex.digit .lower d ≠ '_' := by
        rintro heq
        simp [heq] at hmark
      rw [List.map_cons, readDigits, if_neg hunderscore, hvalue]
      simp only
      rw [ih h.2 true _ (.inl rfl), List.reverse_cons, List.append_assoc, List.singleton_append]

theorem stripWhere_of_forall {p : Char → Bool} {text : List Char} (h : ∀ c ∈ text, p c = false) :
    stripWhere p text = text := by
  have hkeep (text : List Char) (h : ∀ c ∈ text, p c = false) : text.dropWhile p = text := by
    cases text with
    | nil => rfl
    | cons c text =>
        rw [List.dropWhile_cons_of_neg]
        simp [h c List.mem_cons_self]
  rw [stripWhere, hkeep text h, hkeep text.reverse (by simpa using h), List.reverse_reverse]

theorem dropPrefix_digits {values : List ℕ} (h : ∀ d ∈ values, d < 16) :
    dropPrefix 16 (values.map (Hex.digit .lower)) = values.map (Hex.digit .lower) := by
  unfold dropPrefix
  split
  · next zero x rest hdigits =>
      have hx : x ∈ values.map (Hex.digit .lower) := by simp [hdigits]
      obtain ⟨d, hd, rfl⟩ := List.mem_map.mp hx
      have hmark := (digit_facts d (h d hd)).2.2
      rw [if_neg]
      rintro ⟨-, -, heq | heq⟩
      · simp [heq] at hmark
      · simp [heq] at hmark
  · rfl

/-- Digits alone are read as the number that they spell. -/
theorem read?_digits {values : List ℕ} (h : ∀ d ∈ values, d < 16) (hne : values ≠ []) :
    read? 16 (values.map (Hex.digit .lower)) =
      some ((values.foldl (fun n d => n * 16 + d) 0 : ℕ) : ℤ) := by
  have hstrip : stripWhere isBlankAround (values.map (Hex.digit .lower)) =
      values.map (Hex.digit .lower) := by
    refine stripWhere_of_forall fun c hc => ?_
    obtain ⟨d, hd, rfl⟩ := List.mem_map.mp hc
    exact (digit_facts d (h d hd)).2.1
  have hdigits := readDigits_digits h false [] (.inr hne)
  obtain ⟨d, rest, rfl⟩ := List.exists_cons_of_ne_nil hne
  have hmark := (digit_facts d (h d List.mem_cons_self)).2.2
  have hminus : Hex.digit .lower d ≠ '-' := by
    intro heq
    simp [heq] at hmark
  have hplus : Hex.digit .lower d ≠ '+' := by
    intro heq
    simp [heq] at hmark
  unfold read?
  simp only [hstrip]
  split
  · next heq => exact absurd (List.cons.inj heq).1 hminus
  · next heq => exact absurd (List.cons.inj heq).1 hplus
  · simp only [dropPrefix_digits h, hdigits, List.reverse_nil, List.nil_append, Option.bind_eq_bind,
      Option.bind_some]
    rfl

end Text.Integer

/-! ## Identifiers -/

namespace Uuid

open Text.Integer

theorem without_of_not_mem {c : Char} {piece text : List Char} (h : c ∉ text) :
    without (c :: piece) text = text := by
  induction text with
  | nil => rw [without]
  | cons d text ih =>
      rw [List.mem_cons, not_or] at h
      rw [without, if_neg, ih h.2]
      simp [h.1]

/-- Digits in the groups of an identifier. -/
def grouped (digits : List Char) : List Char :=
  (digits.drop 0).take 8 ++ ['-'] ++ (digits.drop 8).take 4 ++ ['-'] ++
    (digits.drop 12).take 4 ++ ['-'] ++ (digits.drop 16).take 4 ++ ['-'] ++
    (digits.drop 20).take 12

theorem toList_toText (id : Uuid) : id.toText.toList = grouped (Hex.ofNat 32 id.bits.toNat) :=
  String.toList_ofList

theorem mem_of_mem_group {digits : List Char} {start size : ℕ} {c : Char}
    (h : c ∈ (digits.drop start).take size) : c ∈ digits :=
  List.mem_of_mem_drop (List.mem_of_mem_take h)

theorem mem_grouped {digits : List Char} {c : Char} (h : c ∈ grouped digits) :
    c ∈ digits ∨ c = '-' := by
  simp only [grouped, List.mem_append, List.mem_singleton] at h
  rcases h with (((((((h | h) | h) | h) | h) | h) | h) | h) | h
  all_goals first | exact .inr h | exact .inl (mem_of_mem_group h)

/-- Without the dashes the groups are the digits again. -/
theorem filter_grouped {digits : List Char} (hlength : digits.length = 32) (h : '-' ∉ digits) :
    (grouped digits).filter (· != '-') = digits := by
  have hfilter (start size : ℕ) :
      ((digits.drop start).take size).filter (· != '-') = (digits.drop start).take size := by
    rw [List.filter_eq_self]
    intro c hc
    have : c ≠ '-' := by
      rintro rfl
      exact h (mem_of_mem_group hc)
    simpa using this
  have hjoin (start size : ℕ) :
      (digits.drop start).take size ++ digits.drop (start + size) = digits.drop start := by
    rw [← List.drop_drop, List.take_append_drop]
  have hlast : (digits.drop 20).take 12 = digits.drop 20 :=
    List.take_of_length_le (by simp [hlength])
  have hdash : ['-'].filter (· != '-') = [] := rfl
  simp only [grouped, List.filter_append, hfilter, hdash, List.append_assoc, List.nil_append]
  rw [hlast, hjoin 16 4, hjoin 12 4, hjoin 8 4, hjoin 0 8, List.drop_zero]

theorem bareDigits_toText (id : Uuid) :
    bareDigits id.toText.toList = Hex.ofNat 32 id.bits.toNat := by
  have hlength : (Hex.ofNat 32 id.bits.toNat).length = 32 := by simp [Hex.ofNat]
  have hdigit : ∀ c ∈ Hex.ofNat 32 id.bits.toNat,
      c ∉ ['_', '-', '+', 'x', 'X', 'u', '{', '}'] := by
    rw [Hex.ofNat_eq]
    intro c hc
    obtain ⟨d, hd, rfl⟩ := List.mem_map.mp hc
    exact (digit_facts d (Hex.values_lt _ _ d hd)).2.2
  rw [toList_toText]
  generalize Hex.ofNat 32 id.bits.toNat = digits at hlength hdigit
  have hplain : ∀ c ∈ grouped digits, c ≠ 'u' ∧ c ≠ '{' ∧ c ≠ '}' := by
    intro c hc
    rcases mem_grouped hc with hmem | rfl
    · have := hdigit c hmem
      simp_all
    · decide
  have hmark : 'u' ∉ grouped digits := fun hu => (hplain 'u' hu).1 rfl
  have hdash : '-' ∉ digits := fun hc => hdigit '-' hc (by decide)
  rw [bareDigits, show "urn:".toList = 'u' :: "rn:".toList from rfl, without_of_not_mem hmark,
    show "uuid:".toList = 'u' :: "uid:".toList from rfl, without_of_not_mem hmark,
    stripWhere_of_forall, filter_grouped hlength hdash]
  intro c hc
  obtain ⟨-, hopen, hclose⟩ := hplain c hc
  simp [hopen, hclose]

theorem ofText_toText (id : Uuid) : ofText id.toText.toList = .ok id := by
  have hlength : (Hex.ofNat 32 id.bits.toNat).length = 32 := by simp [Hex.ofNat]
  have hne : Hex.values 32 id.bits.toNat ≠ [] := by simp [Hex.values]
  have hbits : 0 * 16 ^ 32 + id.bits.toNat % 16 ^ 32 = id.bits.toNat := by
    rw [Nat.zero_mul, Nat.zero_add]
    exact Nat.mod_eq_of_lt id.bits.isLt
  unfold ofText
  simp only [bareDigits_toText, hlength, ne_eq, not_true_eq_false, if_false]
  rw [Hex.ofNat_eq, read?_digits (Hex.values_lt _ _) hne, Hex.foldl_values, hbits]
  simp

end Uuid

end SmartDevice
