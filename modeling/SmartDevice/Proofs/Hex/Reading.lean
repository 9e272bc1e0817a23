import SmartDevice.Hex
import SmartDevice.Proofs.Text.Ascii
import Mathlib.Data.List.Basic

/-! # Exactly what the hexadecimal reader accepts -/

namespace SmartDevice.Hex

open Text

/-! ## Digits -/

/-- The digits of both cases. -/
def digits : List Char := "0123456789abcdefABCDEF".toList

theorem toNat_lt_of_digitValue? {c : Char} {n : ℕ} (h : digitValue? c = some n) :
    c.toNat < 128 := by
  unfold digitValue? at h
  split at h
  · next hc => exact toNat_lt_of_le hc.2
  · split at h
    · next hc => exact toNat_lt_of_le hc.2
    · split at h
      · next hc => exact toNat_lt_of_le hc.2
      · simp at h

theorem isDigit_iff (c : Char) : isDigit c = true ↔ c ∈ digits := by
  constructor
  · intro h
    obtain ⟨n, hn⟩ := Option.isSome_iff_exists.mp h
    revert h
    exact of_forall_ascii (P := fun c => isDigit c = true → c ∈ digits) (by decide) c
      (toNat_lt_of_digitValue? hn)
  · intro h
    have hall : digits.all isDigit = true := by decide
    exact List.all_eq_true.mp hall c h

/-- A digit in lower case is the one that is written for its value. -/
theorem digit_of_digitValue? {c : Char} {n : ℕ} (h : digitValue? c = some n) :
    n < 16 ∧ digit .lower n = c.toLower := by
  have hall := of_forall_ascii
    (P := fun c => ∀ m ∈ digitValue? c, m < 16 ∧ digit .lower m = c.toLower) (by decide) c
    (toNat_lt_of_digitValue? h)
  exact hall n h

theorem digit_lower_inj {m n : ℕ} (hm : m < 16) (hn : n < 16)
    (h : digit .lower m = digit .lower n) : m = n := by
  have := congrArg digitValue? h
  simpa [digitValue?_digit .lower hm, digitValue?_digit .lower hn] using this

/-! ## Texts -/

theorem encode_cons (letters : Letters) (b : UInt8) (bytes : List UInt8) :
    encode letters (b :: bytes) =
      digit letters (b.toNat / 16) :: digit letters (b.toNat % 16) :: encode letters bytes :=
  rfl

/-- The first digits are those of the first bytes. -/
theorem take_encode (letters : Letters) (n : ℕ) (bytes : List UInt8) :
    (encode letters bytes).take (2 * n) = encode letters (bytes.take n) := by
  induction n generalizing bytes with
  | zero => rfl
  | succ n ih =>
      cases bytes with
      | nil => rfl
      | cons b bytes =>
          rw [List.take_succ_cons, encode_cons, encode_cons, Nat.mul_succ, List.take_succ_cons,
            List.take_succ_cons, ih]

/-- Two digits are read as the byte whose two digits they are. -/
theorem pair_eq_iff {high low : Char} {h l : ℕ} (hh : digitValue? high = some h)
    (hl : digitValue? low = some l) (b : UInt8) :
    UInt8.ofNat (16 * h + l) = b ↔
      high.toLower = digit .lower (b.toNat / 16) ∧ low.toLower = digit .lower (b.toNat % 16) := by
  obtain ⟨hlt, hdigit⟩ := digit_of_digitValue? hh
  obtain ⟨llt, ldigit⟩ := digit_of_digitValue? hl
  have hb := b.toNat_lt
  rw [← hdigit, ← ldigit]
  constructor
  · rintro rfl
    have hn : (UInt8.ofNat (16 * h + l)).toNat = 16 * h + l := by
      rw [UInt8.toNat_ofNat']
      omega
    rw [hn, show (16 * h + l) / 16 = h by omega, show (16 * h + l) % 16 = l by omega]
    exact ⟨rfl, rfl⟩
  · rintro ⟨h1, h2⟩
    have e1 := digit_lower_inj hlt (by omega) h1
    have e2 := digit_lower_inj llt (by omega) h2
    rw [e1, e2, Nat.div_add_mod, UInt8.ofNat_toNat]

/-- A text is read as the bytes whose digits it has, in letters of either case. -/
theorem decode?_eq_some_iff (text : List Char) (bytes : List UInt8) :
    decode? text = some bytes ↔
      (∀ c ∈ text, c ∈ digits) ∧ text.map Char.toLower = encode .lower bytes := by
  fun_induction decode? text generalizing bytes with
  | case1 => cases bytes <;> simp [encode]
  | case2 c => cases bytes <;> simp [encode]
  | case3 high low rest ih =>
      simp only [Option.bind_eq_bind, Option.bind_eq_some_iff, Option.pure_def,
        Option.some.injEq, List.forall_mem_cons, List.map_cons]
      constructor
      · rintro ⟨h, hh, l, hl, tail, ht, rfl⟩
        obtain ⟨hdigits, hlower⟩ := (ih tail).mp ht
        have hpair := (pair_eq_iff hh hl _).mp rfl
        refine ⟨⟨(isDigit_iff high).mp ?_, (isDigit_iff low).mp ?_, hdigits⟩, ?_⟩
        · simp [isDigit, hh]
        · simp [isDigit, hl]
        · rw [encode_cons, hlower, hpair.1, hpair.2]
      · rintro ⟨⟨hhigh, hlow, hrest⟩, hlower⟩
        obtain ⟨h, hh⟩ := Option.isSome_iff_exists.mp ((isDigit_iff high).mpr hhigh)
        obtain ⟨l, hl⟩ := Option.isSome_iff_exists.mp ((isDigit_iff low).mpr hlow)
        cases bytes with
        | nil => simp [encode] at hlower
        | cons b bytes =>
            rw [encode_cons, List.cons.injEq, List.cons.injEq] at hlower
            obtain ⟨h1, h2, hlower⟩ := hlower
            have hb := (pair_eq_iff hh hl b).mpr ⟨h1, h2⟩
            exact ⟨h, hh, l, hl, bytes, (ih bytes).mpr ⟨hrest, hlower⟩, by rw [hb]⟩

/-! ## What is written -/

def lowerDigits : List Char := "0123456789abcdef".toList

theorem digit_mem_lowerDigits : ∀ n < 16, digit .lower n ∈ lowerDigits := by
  decide

theorem mem_lowerDigits_of_mem_ofNat {width n : ℕ} {c : Char} (h : c ∈ ofNat width n) :
    c ∈ lowerDigits := by
  obtain ⟨i, -, rfl⟩ := List.mem_map.mp h
  exact digit_mem_lowerDigits _ (Nat.mod_lt _ (by decide))

theorem mem_lowerDigits_of_mem_encode {bytes : List UInt8} {c : Char}
    (h : c ∈ encode .lower bytes) : c ∈ lowerDigits := by
  obtain ⟨b, -, hc⟩ := List.mem_flatMap.mp h
  have hb := b.toNat_lt
  rcases List.mem_pair.mp hc with rfl | rfl
  · exact digit_mem_lowerDigits _ (by omega)
  · exact digit_mem_lowerDigits _ (by omega)

/-! ## Texts that are read -/

/-- Digits that come in pairs are read. -/
theorem exists_decode? (text : List Char) (heven : text.length % 2 = 0)
    (h : ∀ c ∈ text, c ∈ digits) :
    ∃ bytes, decode? text = some bytes ∧ 2 * bytes.length = text.length := by
  fun_induction decode? text with
  | case1 => exact ⟨[], rfl, rfl⟩
  | case2 c => simp at heven
  | case3 high low rest ih =>
      rw [List.forall_mem_cons, List.forall_mem_cons] at h
      obtain ⟨hhigh, hlow, hrest⟩ := h
      rw [List.length_cons, List.length_cons] at heven
      obtain ⟨bytes, hbytes, hlength⟩ := ih (by omega) hrest
      obtain ⟨h, hh⟩ := Option.isSome_iff_exists.mp ((isDigit_iff high).mpr hhigh)
      obtain ⟨l, hl⟩ := Option.isSome_iff_exists.mp ((isDigit_iff low).mpr hlow)
      refine ⟨UInt8.ofNat (16 * h + l) :: bytes, ?_, ?_⟩
      · simp only [hh, hl, hbytes, Option.bind_eq_bind, Option.bind_some, Option.pure_def]
      · simp only [List.length_cons]
        omega

end SmartDevice.Hex
