import SmartDevice.Text.LineEnds
import SmartDevice.Text.Utf8
import Mathlib.Data.List.Basic

/-! # Text is the same after it was kept in bytes -/

namespace SmartDevice.Text

namespace Utf8

/-! ## Code points -/

theorem toNat_lt (c : Char) : c.toNat < 0x110000 := by
  rcases c.valid with h | h
  · have : c.toNat < 0xd800 := h
    omega
  · exact h.2

theorem not_surrogate (c : Char) : c.toNat < 0xd800 ∨ 0xdfff < c.toNat := by
  rcases c.valid with h | h
  · exact .inl h
  · exact .inr h.1

theorem charOf_toNat (c : Char) : charOf c.toNat = c := by
  have hvalid := not_surrogate c
  rw [charOf, if_neg (by omega), Char.ofNat_toNat]

/-! ## The bytes of a character -/

theorem toNat_ofNat {n : ℕ} (h : n < 256) : (UInt8.ofNat n).toNat = n := by
  rw [UInt8.toNat_ofNat']
  omega

/-- A byte that a character begun can go on with. -/
theorem piecesFrom_next (surrogates : Bool) {begun : Begun} {n : ℕ} (hlow : begun.low ≤ n)
    (hhigh : n ≤ begun.high) (hn : n < 256) (hmissing : begun.missing ≠ 1) (rest : List UInt8) :
    piecesFrom surrogates (some begun) (UInt8.ofNat n :: rest) =
      piecesFrom surrogates
        (some { bytes := begun.bytes ++ [UInt8.ofNat n]
                value := begun.value * 64 + (n - 0x80)
                missing := begun.missing - 1 }) rest := by
  rw [piecesFrom, step, next, toNat_ofNat hn, if_pos ⟨hlow, hhigh⟩]
  simp only [hmissing, if_false, List.nil_append]

/-- The byte that completes a character. -/
theorem piecesFrom_last (surrogates : Bool) {begun : Begun} {n : ℕ} (hlow : begun.low ≤ n)
    (hhigh : n ≤ begun.high) (hn : n < 256) (hmissing : begun.missing = 1) (rest : List UInt8) :
    piecesFrom surrogates (some begun) (UInt8.ofNat n :: rest) =
      .char (charOf (begun.value * 64 + (n - 0x80))) (begun.bytes.length + 1) ::
        piecesFrom surrogates none rest := by
  rw [piecesFrom, step, next, toNat_ofNat hn, if_pos ⟨hlow, hhigh⟩]
  simp only [hmissing, if_true, List.length_append, List.length_singleton, List.singleton_append]

/-- A character is begun: how much of its value its first byte holds, how many bytes follow, and
that the next one is let through. -/
structure Begins (surrogates : Bool) (lead second value missing : ℕ) (begun : Begun) : Prop where
  first_eq : first surrogates (UInt8.ofNat lead) = ([], some begun)
  value_eq : begun.value = value
  missing_eq : begun.missing = missing
  length_eq : begun.bytes.length = 1
  low_le : begun.low ≤ second
  le_high : second ≤ begun.high

theorem exists_begins_two (surrogates : Bool) {n : ℕ} (hlow : 0x80 ≤ n) (hhigh : n < 0x800) :
    ∃ begun, Begins surrogates (0xc0 + n / 64) (0x80 + n % 64) (n / 64) 1 begun := by
  refine ⟨{ bytes := [UInt8.ofNat (0xc0 + n / 64)], value := n / 64, missing := 1 },
    ?_, rfl, rfl, rfl, ?_, ?_⟩
  · rw [first, toNat_ofNat (by omega), if_neg (by omega), if_pos (by omega),
      Nat.add_sub_cancel_left]
  all_goals
    dsimp only
    omega

/-- The second byte has bounds of its own where the first one leaves room for values that are
written in fewer bytes, and for surrogates. -/
theorem exists_begins_three (surrogates : Bool) {n : ℕ} (hlow : 0x800 ≤ n) (hhigh : n < 0x10000)
    (hvalid : n < 0xd800 ∨ 0xdfff < n) :
    ∃ begun, Begins surrogates (0xe0 + n / 4096) (0x80 + n / 64 % 64) (n / 4096) 2 begun := by
  by_cases hleast : n / 4096 = 0
  · refine ⟨{ bytes := [UInt8.ofNat (0xe0 + n / 4096)], value := 0, missing := 2, low := 0xa0 },
      ?_, hleast.symm, rfl, rfl, ?_, ?_⟩
    · rw [first, toNat_ofNat (by omega), if_neg (by omega), if_neg (by omega), if_pos (by omega)]
    all_goals
      dsimp only
      omega
  by_cases hlast : n / 4096 = 13
  · refine ⟨{ bytes := [UInt8.ofNat (0xe0 + n / 4096)], value := 13, missing := 2,
              high := if surrogates then 0xbf else 0x9f }, ?_, hlast.symm, rfl, rfl, ?_, ?_⟩
    · rw [first, toNat_ofNat (by omega), if_neg (by omega), if_neg (by omega), if_neg (by omega),
        if_pos (by omega)]
    · dsimp only
      omega
    · dsimp only
      split <;> omega
  · refine ⟨{ bytes := [UInt8.ofNat (0xe0 + n / 4096)], value := n / 4096, missing := 2 },
      ?_, rfl, rfl, rfl, ?_, ?_⟩
    · rw [first, toNat_ofNat (by omega), if_neg (by omega), if_neg (by omega), if_neg (by omega),
        if_neg (by omega), if_pos (by omega), Nat.add_sub_cancel_left]
    all_goals
      dsimp only
      omega

/-- Likewise for values that are written in fewer bytes, and for those that no character has. -/
theorem exists_begins_four (surrogates : Bool) {n : ℕ} (hlow : 0x10000 ≤ n)
    (hhigh : n < 0x110000) :
    ∃ begun, Begins surrogates (0xf0 + n / 262144) (0x80 + n / 4096 % 64) (n / 262144) 3 begun := by
  by_cases hleast : n / 262144 = 0
  · refine ⟨{ bytes := [UInt8.ofNat (0xf0 + n / 262144)], value := 0, missing := 3, low := 0x90 },
      ?_, hleast.symm, rfl, rfl, ?_, ?_⟩
    · rw [first, toNat_ofNat (by omega), if_neg (by omega), if_neg (by omega), if_neg (by omega),
        if_neg (by omega), if_neg (by omega), if_pos (by omega)]
    all_goals
      dsimp only
      omega
  by_cases hlast : n / 262144 = 4
  · refine ⟨{ bytes := [UInt8.ofNat (0xf0 + n / 262144)], value := 4, missing := 3, high := 0x8f },
      ?_, hlast.symm, rfl, rfl, ?_, ?_⟩
    · rw [first, toNat_ofNat (by omega), if_neg (by omega), if_neg (by omega), if_neg (by omega),
        if_neg (by omega), if_neg (by omega), if_neg (by omega), if_neg (by omega),
        if_pos (by omega)]
    all_goals
      dsimp only
      omega
  · refine ⟨{ bytes := [UInt8.ofNat (0xf0 + n / 262144)], value := n / 262144, missing := 3 },
      ?_, rfl, rfl, rfl, ?_, ?_⟩
    · rw [first, toNat_ofNat (by omega), if_neg (by omega), if_neg (by omega), if_neg (by omega),
        if_neg (by omega), if_neg (by omega), if_neg (by omega), if_pos (by omega),
        Nat.add_sub_cancel_left]
    all_goals
      dsimp only
      omega

theorem Begins.piecesFrom {surrogates : Bool} {lead second value missing : ℕ} {begun : Begun}
    (h : Begins surrogates lead second value missing begun) (rest : List UInt8) :
    Utf8.piecesFrom surrogates none (UInt8.ofNat lead :: rest) =
      Utf8.piecesFrom surrogates (some begun) rest := by
  rw [Utf8.piecesFrom, step, h.first_eq]
  rfl

/-- The bytes of a character are read as that character, whatever follows. -/
theorem piecesFrom_encodeChar (surrogates : Bool) (c : Char) (rest : List UInt8) :
    piecesFrom surrogates none (encodeChar c ++ rest) =
      .char c (encodeChar c).length :: piecesFrom surrogates none rest := by
  have hmax := toNat_lt c
  have hvalid := not_surrogate c
  have hchar := charOf_toNat c
  unfold encodeChar
  generalize c.toNat = n at hmax hvalid hchar
  dsimp only
  split
  · next hone =>
      have hfirst : first surrogates (UInt8.ofNat n) = ([.char c 1], none) := by
        rw [first, toNat_ofNat (by omega), if_pos hone, ← hchar, charOf, if_neg (by omega)]
      rw [List.singleton_append, piecesFrom, step, hfirst]
      rfl
  split
  · next htwo =>
      obtain ⟨begun, h⟩ := exists_begins_two surrogates (by omega) htwo
      have hvalue : begun.value * 64 + (0x80 + n % 64 - 0x80) = n := by
        rw [h.value_eq]
        omega
      simp only [List.cons_append, List.nil_append]
      rw [h.piecesFrom, piecesFrom_last surrogates h.low_le h.le_high (by omega) h.missing_eq,
        hvalue, hchar, h.length_eq]
      rfl
  split
  · next hthree =>
      obtain ⟨begun, h⟩ := exists_begins_three surrogates (by omega) hthree hvalid
      have hmissing : begun.missing = 2 := h.missing_eq
      have hvalue : (begun.value * 64 + (0x80 + n / 64 % 64 - 0x80)) * 64 +
          (0x80 + n % 64 - 0x80) = n := by
        rw [h.value_eq]
        omega
      simp only [List.cons_append, List.nil_append]
      rw [h.piecesFrom, piecesFrom_next surrogates h.low_le h.le_high (by omega) (by omega),
        piecesFrom_last surrogates (by dsimp only; omega) (by dsimp only; omega) (by omega)
          (by dsimp only; omega)]
      simp only [hvalue, hchar, List.length_append, h.length_eq]
      rfl
  · next hfour =>
      obtain ⟨begun, h⟩ := exists_begins_four surrogates (by omega) hmax
      have hmissing : begun.missing = 3 := h.missing_eq
      have hvalue : ((begun.value * 64 + (0x80 + n / 4096 % 64 - 0x80)) * 64 +
          (0x80 + n / 64 % 64 - 0x80)) * 64 + (0x80 + n % 64 - 0x80) = n := by
        rw [h.value_eq]
        omega
      simp only [List.cons_append, List.nil_append]
      rw [h.piecesFrom, piecesFrom_next surrogates h.low_le h.le_high (by omega) (by omega),
        piecesFrom_next surrogates (by dsimp only; omega) (by dsimp only; omega) (by omega)
          (by dsimp only; omega),
        piecesFrom_last surrogates (by dsimp only; omega) (by dsimp only; omega) (by omega)
          (by dsimp only; omega)]
      simp only [hvalue, hchar, List.length_append, h.length_eq]
      rfl

/-! ## Whole texts -/

theorem pieces_encode (surrogates : Bool) (text : List Char) :
    pieces surrogates (encode text) = text.map fun c => .char c (encodeChar c).length := by
  unfold pieces
  induction text with
  | nil => rfl
  | cons c text ih =>
      rw [encode, List.flatMap_cons, piecesFrom_encodeChar]
      exact congrArg _ ih

theorem collect_char (position : ℕ) (text : List Char) :
    collect position (text.map fun c => .char c (encodeChar c).length) = .ok text := by
  induction text generalizing position with
  | nil => rfl
  | cons c text ih =>
      rw [List.map_cons, collect, ih]
      rfl

/-- Every text is read as it was written, however the reader takes what is no text. -/
theorem decode_encode (text : List Char) : decode (encode text) = .ok text := by
  rw [decode, pieces_encode, collect_char]

theorem decodePassingSurrogates_encode (text : List Char) :
    decodePassingSurrogates (encode text) = .ok text := by
  rw [decodePassingSurrogates, pieces_encode, collect_char]

theorem decodeLossy_encode (text : List Char) : decodeLossy (encode text) = text := by
  rw [decodeLossy, pieces_encode, List.map_map]
  exact List.map_id text

end Utf8

/-! ## Ends of lines -/

theorem unifyLineEnds_of_not_mem {text : List Char} (h : '\r' ∉ text) :
    unifyLineEnds text = text := by
  fun_induction unifyLineEnds text with
  | case1 => rfl
  | case2 rest ih => simp at h
  | case3 rest _ ih => simp at h
  | case4 c rest _ _ ih =>
      rw [List.mem_cons, not_or] at h
      rw [ih h.2]

end SmartDevice.Text
