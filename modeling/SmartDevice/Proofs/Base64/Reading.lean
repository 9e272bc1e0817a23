import SmartDevice.Base64
import SmartDevice.Proofs.Text.Ascii
import Mathlib.Data.List.TakeWhile

/-! # Exactly which texts are read as base64, and as which bytes -/

namespace SmartDevice.Base64

open Text

/-! ## Letters -/

/-- The sixty-four letters, each at the place of the number it stands for. -/
def alphabet : List Char :=
  "ABCDEFGHIJKLMNOPQRSTUVWXYZabcdefghijklmnopqrstuvwxyz0123456789+/".toList

theorem toNat_lt_of_sextet? {c : Char} {n : ℕ} (h : sextet? c = some n) : c.toNat < 128 := by
  unfold sextet? at h
  split at h
  · next hc => exact toNat_lt_of_le hc.2
  · split at h
    · next hc => exact toNat_lt_of_le hc.2
    · split at h
      · next hc => exact toNat_lt_of_le hc.2
      · split at h
        · next hc => simp [hc]
        · split at h
          · next hc => simp [hc]
          · simp at h

theorem sextet?_letter {n : ℕ} (h : n < 64) : sextet? (letter n) = some n := by
  revert n
  decide

theorem letter_of_sextet? {c : Char} {n : ℕ} (h : sextet? c = some n) :
    n < 64 ∧ letter n = c :=
  of_forall_ascii (P := fun c => ∀ m ∈ sextet? c, m < 64 ∧ letter m = c) (by decide) c
    (toNat_lt_of_sextet? h) n h

theorem isSome_sextet?_iff (c : Char) : (sextet? c).isSome = true ↔ c ∈ alphabet := by
  constructor
  · intro h
    obtain ⟨n, hn⟩ := Option.isSome_iff_exists.mp h
    exact of_forall_ascii (P := fun c => (sextet? c).isSome = true → c ∈ alphabet)
      (by decide +kernel) c (toNat_lt_of_sextet? hn) h
  · intro h
    have hall : alphabet.all (fun c => (sextet? c).isSome) = true := by decide +kernel
    exact List.all_eq_true.mp hall c h

/-- The number that a letter stands for. -/
def value (c : Char) : ℕ := alphabet.idxOf c

theorem value_letter {n : ℕ} (h : n < 64) : value (letter n) = n := by
  revert n
  decide +kernel

theorem sextet?_of_mem {c : Char} (h : c ∈ alphabet) : sextet? c = some (value c) := by
  obtain ⟨n, hn⟩ := Option.isSome_iff_exists.mp ((isSome_sextet?_iff c).mpr h)
  obtain ⟨hlt, rfl⟩ := letter_of_sextet? hn
  rw [hn, value_letter hlt]

/-! ## Padding -/

/-- How many letters may come before how many marks of padding: after whole groups any number, a
group of two or three is filled up to four, and padding needs a letter before it. -/
def Closes (letters pads : ℕ) : Prop :=
  (letters % 4 = 0 ∧ (letters = 0 → pads = 0)) ∨ (2 ≤ letters % 4 ∧ letters % 4 + pads = 4)

theorem finish_eq_ok_iff (sextets : List ℕ) (bytes : List UInt8) :
    finish sextets = .ok bytes ↔ bytes = pack sextets ∧ sextets.length % 4 = 0 := by
  unfold finish
  split
  · next h => simp [h, eq_comm]
  · next h => simp [h]
  · next h0 _ =>
      simp only [reduceCtorEq, false_iff, not_and]
      exact fun _ => h0

/-- Nothing but padding may follow padding, and a group cut short is filled up exactly. -/
theorem readPadding_eq_ok_iff (sextets : List ℕ) (pads : ℕ) (text : List Char)
    (bytes : List UInt8) (hopen : 2 ≤ sextets.length % 4 → sextets.length % 4 + pads < 4) :
    readPadding sextets pads text = .ok bytes ↔
      bytes = pack sextets ∧ ∃ n, text = List.replicate n '=' ∧
        (sextets.length % 4 = 0 ∨ (2 ≤ sextets.length % 4 ∧ sextets.length % 4 + pads + n = 4)) := by
  induction text generalizing pads with
  | nil =>
      rw [readPadding, finish_eq_ok_iff]
      refine and_congr_right fun _ => ⟨fun h => ⟨0, rfl, .inl h⟩, ?_⟩
      rintro ⟨n, hn, h | ⟨hgroup, hsum⟩⟩
      · exact h
      · have hlen := congrArg List.length hn
        simp only [List.length_nil, List.length_replicate] at hlen
        have := hopen hgroup
        omega
  | cons c rest ih =>
      unfold readPadding
      by_cases hc : c = '='
      · subst hc
        simp only [↓reduceIte]
        by_cases hfull : 2 ≤ sextets.length % 4 ∧ 4 ≤ sextets.length % 4 + pads + 1
        · rw [if_pos hfull]
          cases rest with
          | nil =>
              simp only [List.isEmpty_nil, ↓reduceIte, Except.ok.injEq]
              constructor
              · rintro rfl
                have := hopen hfull.1
                exact ⟨rfl, 1, rfl, .inr ⟨hfull.1, by omega⟩⟩
              · rintro ⟨rfl, -⟩
                rfl
          | cons d rest =>
              simp only [List.isEmpty_cons, Bool.false_eq_true, ↓reduceIte, reduceCtorEq,
                false_iff]
              rintro ⟨-, n, hn, h⟩
              have hlen := congrArg List.length hn
              simp only [List.length_cons, List.length_replicate] at hlen
              omega
        · rw [if_neg hfull, ih (pads + 1) (by omega)]
          refine and_congr_right fun _ => ⟨?_, ?_⟩
          · rintro ⟨n, rfl, h⟩
            exact ⟨n + 1, rfl, by omega⟩
          · rintro ⟨n, hn, h⟩
            cases n with
            | zero => simp at hn
            | succ n =>
                rw [List.replicate_succ, List.cons.injEq] at hn
                exact ⟨n, hn.2, by omega⟩
      · rw [if_neg hc]
        have hno : ∀ n, c :: rest ≠ List.replicate n '=' := by
          rintro (_ | n) hn
          · simp at hn
          · rw [List.replicate_succ, List.cons.injEq] at hn
            exact hc hn.1
        split <;> simp [hno]

/-! ## Texts -/

theorem takeWhile_dropWhile_append {p : Char → Bool} {front rest : List Char}
    (hf : ∀ c ∈ front, p c = true) (hr : ∀ c ∈ rest.head?, p c = false) :
    (front ++ rest).takeWhile p = front ∧ (front ++ rest).dropWhile p = rest := by
  rw [List.takeWhile_append_of_pos hf, List.dropWhile_append_of_pos hf]
  cases rest with
  | nil => simp
  | cons c rest => simp [hr c rfl]

theorem filterMap_sextet? {letters : List Char} (h : ∀ c ∈ letters, c ∈ alphabet) :
    letters.filterMap sextet? = letters.map value := by
  induction letters with
  | nil => rfl
  | cons c rest ih =>
      rw [List.forall_mem_cons] at h
      rw [List.filterMap_cons, sextet?_of_mem h.1, ih h.2]
      rfl

/-- Letters and then padding are read as the bytes that the letters make up. -/
theorem decodeSextets_append_replicate {letters : List Char} (pads : ℕ)
    (hl : ∀ c ∈ letters, c ∈ alphabet) (hc : Closes letters.length pads) :
    decodeSextets (letters ++ List.replicate pads '=') = .ok (pack (letters.map value)) := by
  have hrest : ∀ c ∈ (List.replicate pads '=').head?, (sextet? c).isSome = false := by
    intro c hmem
    have hc : c = '=' := List.eq_of_mem_replicate (List.mem_of_mem_head? hmem)
    rw [hc]
    decide
  obtain ⟨htake, hdrop⟩ := takeWhile_dropWhile_append
    (fun c h => (isSome_sextet?_iff c).mpr (hl c h)) hrest
  unfold decodeSextets
  simp only [htake, hdrop, filterMap_sextet? hl]
  cases pads with
  | zero =>
      refine (finish_eq_ok_iff _ _).mpr ⟨rfl, ?_⟩
      rw [List.length_map]
      unfold Closes at hc
      omega
  | succ pads =>
      have hne : letters ≠ [] := by
        rintro rfl
        simp [Closes] at hc
      have hlen : (letters.map value).length = letters.length := List.length_map _
      simp only [List.replicate_succ, ne_eq, not_true_eq_false, ↓reduceIte,
        List.isEmpty_map, List.isEmpty_iff, hne]
      refine (readPadding_eq_ok_iff _ _ _ _ (by omega)).mpr ⟨rfl, pads + 1, rfl, ?_⟩
      unfold Closes at hc
      omega

/-- Whatever is read consists of letters and padding. -/
theorem eq_append_of_decodeSextets {text : List Char} {bytes : List UInt8}
    (h : decodeSextets text = .ok bytes) :
    ∃ letters pads, text = letters ++ List.replicate pads '=' ∧ (∀ c ∈ letters, c ∈ alphabet) ∧
      Closes letters.length pads ∧ bytes = pack (letters.map value) := by
  have htext := List.takeWhile_append_dropWhile (p := fun c => (sextet? c).isSome) (l := text)
  have hl : ∀ c ∈ text.takeWhile (fun c => (sextet? c).isSome), c ∈ alphabet := fun c hc =>
    (isSome_sextet?_iff c).mp (List.mem_takeWhile_imp (p := fun c => (sextet? c).isSome) hc)
  unfold decodeSextets at h
  simp only [filterMap_sextet? hl] at h
  generalize text.takeWhile (fun c => (sextet? c).isSome) = letters at htext hl h
  generalize text.dropWhile (fun c => (sextet? c).isSome) = rest at htext h
  have hlen : (letters.map value).length = letters.length := List.length_map _
  cases rest with
  | nil =>
      obtain ⟨rfl, hgroup⟩ := (finish_eq_ok_iff _ _).mp h
      refine ⟨letters, 0, by simpa using htext.symm, hl, .inl ⟨by omega, fun _ => rfl⟩, rfl⟩
  | cons c rest =>
      simp only at h
      split at h
      · simp at h
      · split at h
        · simp at h
        · next hc hne =>
            obtain ⟨rfl, n, hn, hgroup⟩ := (readPadding_eq_ok_iff _ _ _ _ (by omega)).mp h
            refine ⟨letters, n, by rw [← htext, hn], hl, ?_, rfl⟩
            have hpos : letters.length ≠ 0 := by simpa using hne
            rw [hlen] at hgroup
            rcases hgroup with hzero | ⟨htwo, hsum⟩
            · exact .inl ⟨hzero, fun h => absurd h hpos⟩
            · exact .inr ⟨htwo, by omega⟩

theorem decode_eq_ok_iff (text : List Char) (bytes : List UInt8) :
    decode text = .ok bytes ↔
      ∃ letters pads, text = letters ++ List.replicate pads '=' ∧ (∀ c ∈ letters, c ∈ alphabet) ∧
        Closes letters.length pads ∧ bytes = pack (letters.map value) := by
  unfold decode
  constructor
  · intro h
    split at h
    · simp at h
    · exact eq_append_of_decodeSextets h
  · rintro ⟨letters, pads, rfl, hl, hc, rfl⟩
    have hascii : ¬ ((letters ++ List.replicate pads '=').any fun c => 128 ≤ c.toNat) := by
      rw [List.any_eq_true]
      rintro ⟨c, hmem, hc⟩
      rcases List.mem_append.mp hmem with hmem | hmem
      · have := toNat_lt_of_sextet? (sextet?_of_mem (hl c hmem))
        simp at hc
        omega
      · rw [List.eq_of_mem_replicate hmem] at hc
        exact absurd hc (by decide)
    rw [if_neg hascii]
    exact decodeSextets_append_replicate pads hl hc

end SmartDevice.Base64
