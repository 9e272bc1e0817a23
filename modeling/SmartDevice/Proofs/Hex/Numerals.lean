import SmartDevice.Key
import SmartDevice.Proofs.Uuid.RoundTrip
import Mathlib.Data.List.Induction

/-! # Numbers of a fixed width in hexadecimal digits

They are padded with zeros, ordered as texts just as they are as numbers, and the bytes of a number
have the digits of the number. -/

namespace SmartDevice.Hex

/-! ## The first and the last digit -/

theorem ofNat_eq_map (width n : ℕ) :
    ofNat width n = (List.range width).reverse.map fun i => digit .lower (n / 16 ^ i % 16) := by
  have hshift (i : ℕ) : n >>> (4 * i) = n / 16 ^ i := by
    rw [Nat.shiftRight_eq_div_pow, Nat.pow_mul]
  simp only [ofNat, hshift]

theorem ofNat_succ_eq_cons (width n : ℕ) :
    ofNat (width + 1) n = digit .lower (n / 16 ^ width % 16) :: ofNat width n := by
  rw [ofNat_eq_map, ofNat_eq_map, List.range_succ, List.reverse_concat, List.map_cons]

theorem ofNat_succ_eq_concat (width n : ℕ) :
    ofNat (width + 1) n = ofNat width (n / 16) ++ [digit .lower (n % 16)] := by
  simp [ofNat_eq_map, List.range_succ_eq_map, Nat.pow_succ', Nat.div_div_eq_div_mul]

/-! ## Padding -/

theorem digit_eq_digitChar : ∀ n < 16, digit .lower n = n.digitChar := by
  decide

theorem leftpad_concat {α : Type} (n : ℕ) (a b : α) (l : List α) :
    List.leftpad (n + 1) a (l ++ [b]) = List.leftpad n a l ++ [b] := by
  simp [List.leftpad]

theorem ofNat_zero (width : ℕ) : ofNat width 0 = List.replicate width '0' := by
  induction width with
  | zero => rfl
  | succ width ih =>
      rw [ofNat_succ_eq_cons, ih, Nat.zero_div, List.replicate_succ]
      rfl

/-- A number that the width has room for is padded with zeros. -/
theorem ofNat_eq_leftpad (width : ℕ) {n : ℕ} (h : n < 16 ^ (width + 1)) :
    ofNat (width + 1) n = List.leftpad (width + 1) '0' (Nat.toDigits 16 n) := by
  induction width generalizing n with
  | zero =>
      rw [Nat.toDigits_of_lt_base (by simpa using h), ofNat_succ_eq_cons,
        digit_eq_digitChar _ (Nat.mod_lt _ (by decide))]
      simp [ofNat, List.leftpad, Nat.mod_eq_of_lt (show n < 16 by simpa using h)]
  | succ width ih =>
      have hlast := digit_eq_digitChar (n % 16) (Nat.mod_lt _ (by decide))
      rw [ofNat_succ_eq_concat, hlast]
      by_cases hn : n < 16
      · rw [Nat.toDigits_of_lt_base hn, Nat.div_eq_of_lt hn, Nat.mod_eq_of_lt hn, ofNat_zero]
        rfl
      · rw [Nat.toDigits_of_base_le (by decide) (by omega), leftpad_concat, ih]
        rw [pow_succ] at h
        omega

/-! ## Order -/

theorem digit_lt_digit : ∀ n < 16, ∀ m < n, digit .lower m < digit .lower n := by
  decide

/-- The smaller number comes first in the order of texts. -/
theorem ofNat_lt_ofNat (width : ℕ) {m n : ℕ} (h : m % 16 ^ width < n % 16 ^ width) :
    ofNat width m < ofNat width n := by
  induction width with
  | zero => simp [Nat.mod_one] at h
  | succ width ih =>
      rw [ofNat_succ_eq_cons, ofNat_succ_eq_cons, List.cons_lt_cons_iff]
      rw [pow_succ, Nat.mod_mul, Nat.mod_mul] at h
      have hm : m / 16 ^ width % 16 < 16 := Nat.mod_lt _ (by decide)
      have hn : n / 16 ^ width % 16 < 16 := Nat.mod_lt _ (by decide)
      rcases lt_trichotomy (m / 16 ^ width % 16) (n / 16 ^ width % 16) with hlt | heq | hgt
      · exact .inl (digit_lt_digit _ hn _ hlt)
      · rw [heq] at h
        exact .inr ⟨by rw [heq], ih (by omega)⟩
      · have hlow : m % 16 ^ width < 16 ^ width := Nat.mod_lt _ (Nat.pow_pos (by decide))
        have hlow' : n % 16 ^ width < 16 ^ width := Nat.mod_lt _ (Nat.pow_pos (by decide))
        have hhigh := Nat.mul_le_mul_left (16 ^ width) hgt
        rw [Nat.succ_eq_add_one, Nat.mul_add, Nat.mul_one] at hhigh
        omega

/-! ## Bytes -/

theorem natOfBytes_concat (bytes : List UInt8) (byte : UInt8) :
    Key.natOfBytes (bytes ++ [byte]) = 256 * Key.natOfBytes bytes + byte.toNat := by
  simp [Key.natOfBytes]

theorem natOfBytes_lt (bytes : List UInt8) : Key.natOfBytes bytes < 256 ^ bytes.length := by
  induction bytes using List.reverseRecOn with
  | nil => simp [Key.natOfBytes]
  | append_singleton bytes byte ih =>
      have hbyte := byte.toNat_lt
      rw [natOfBytes_concat, List.length_append, List.length_singleton, pow_succ]
      omega

/-- The digits of bytes are those of the number that they make up. -/
theorem encode_eq_ofNat (bytes : List UInt8) :
    encode .lower bytes = ofNat (2 * bytes.length) (Key.natOfBytes bytes) := by
  induction bytes using List.reverseRecOn with
  | nil => rfl
  | append_singleton bytes byte ih =>
      have hbyte := byte.toNat_lt
      have hwidth : 2 * (bytes ++ [byte]).length = 2 * bytes.length + 1 + 1 := by
        rw [List.length_append, List.length_singleton]
        omega
      have hpair : encode .lower (bytes ++ [byte]) = encode .lower bytes ++
          [digit .lower (byte.toNat / 16), digit .lower (byte.toNat % 16)] := by
        simp [encode]
      have hfront : (256 * Key.natOfBytes bytes + byte.toNat) / 16 / 16 = Key.natOfBytes bytes := by
        omega
      have hhigh : (256 * Key.natOfBytes bytes + byte.toNat) / 16 % 16 = byte.toNat / 16 := by
        omega
      have hlow : (256 * Key.natOfBytes bytes + byte.toNat) % 16 = byte.toNat % 16 := by
        omega
      rw [hpair, ih, hwidth, natOfBytes_concat, ofNat_succ_eq_concat, ofNat_succ_eq_concat, hfront,
        hhigh, hlow, List.append_assoc, List.singleton_append]

end SmartDevice.Hex
