import SmartDevice.Proofs.Base64.Reading

/-! # Which letters make up given bytes

Whole groups of four letters and of three bytes determine each other. Of the last letter of a group
of three, two bits belong to no byte. -/

namespace SmartDevice.Base64

theorem letter_value {c : Char} (h : c ∈ alphabet) : value c < 64 ∧ letter (value c) = c :=
  letter_of_sextet? (sextet?_of_mem h)

theorem letter_mem {n : ℕ} (h : n < 64) : letter n ∈ alphabet :=
  (isSome_sextet?_iff _).mp (by simp [sextet?_letter h])

theorem value_eq_iff {c : Char} (hc : c ∈ alphabet) {n : ℕ} (hn : n < 64) :
    value c = n ↔ c = letter n := by
  constructor
  · rintro rfl
    exact (letter_value hc).2.symm
  · rintro rfl
    exact value_letter hn

theorem length_pack (sextets : List ℕ) : (pack sextets).length = sextets.length * 6 / 8 := by
  fun_induction pack sextets with
  | case1 a b c d rest ih =>
      simp only [List.length_cons, ih]
      omega
  | case2 => simp
  | case3 => simp
  | case4 sextets h4 h3 h2 =>
      match sextets, h4, h3, h2 with
      | [], _, _, _ => simp
      | [_], _, _, _ => simp
      | [a, b], _, _, h2 => exact absurd rfl (h2 a b)
      | [a, b, c], _, h3, _ => exact absurd rfl (h3 a b c)
      | a :: b :: c :: d :: rest, h4, _, _ => exact absurd rfl (h4 a b c d rest)

/-- Bytes are equal if they are as numbers. -/
theorem ofNat_eq_iff {n : ℕ} (hn : n < 256) (b : UInt8) : UInt8.ofNat n = b ↔ n = b.toNat := by
  rw [← UInt8.toNat_inj, UInt8.toNat_ofNat', Nat.mod_eq_of_lt hn]

theorem group_eq_iff {a b c d : ℕ} (ha : a < 64) (hb : b < 64) (hc : c < 64) (hd : d < 64)
    (x y z : UInt8) :
    (UInt8.ofNat (a * 4 + b / 16) = x ∧ UInt8.ofNat (b % 16 * 16 + c / 4) = y ∧
        UInt8.ofNat (c % 4 * 64 + d) = z) ↔
      a = x.toNat / 4 ∧ b = x.toNat % 4 * 16 + y.toNat / 16 ∧
        c = y.toNat % 16 * 4 + z.toNat / 64 ∧ d = z.toNat % 64 := by
  have hx := x.toNat_lt
  have hy := y.toNat_lt
  have hz := z.toNat_lt
  rw [ofNat_eq_iff (by omega), ofNat_eq_iff (by omega), ofNat_eq_iff (by omega)]
  omega

theorem shortGroup_eq_iff {a b c : ℕ} (ha : a < 64) (hb : b < 64) (hc : c < 64) (x y : UInt8) :
    (UInt8.ofNat (a * 4 + b / 16) = x ∧ UInt8.ofNat (b % 16 * 16 + c / 4) = y) ↔
      a = x.toNat / 4 ∧ b = x.toNat % 4 * 16 + y.toNat / 16 ∧ c / 4 = y.toNat % 16 := by
  have hx := x.toNat_lt
  have hy := y.toNat_lt
  rw [ofNat_eq_iff (by omega), ofNat_eq_iff (by omega)]
  omega

/-- What is written for bytes that fill no last group: letters, and then one mark of padding. -/
theorem encode_eq_append (n : ℕ) (bytes : List UInt8) (hbytes : bytes.length = 3 * n + 2) :
    ∃ letters, encode bytes = letters ++ ['='] ∧ letters.length = 4 * n + 3 ∧
      ∀ c ∈ letters, c ∈ alphabet := by
  induction n generalizing bytes with
  | zero =>
      match bytes, hbytes with
      | [x, y], _ =>
        have hx := x.toNat_lt
        have hy := y.toNat_lt
        refine ⟨[letter (x.toNat / 4), letter (x.toNat % 4 * 16 + y.toNat / 16),
          letter (y.toNat % 16 * 4)], rfl, rfl, ?_⟩
        simp only [List.forall_mem_cons, List.not_mem_nil, false_implies, implies_true, and_true]
        exact ⟨letter_mem (by omega), letter_mem (by omega), letter_mem (by omega)⟩
  | succ n ih =>
      match bytes, hbytes with
      | x :: y :: z :: bytes, hbytes =>
        have hx := x.toNat_lt
        have hy := y.toNat_lt
        have hz := z.toNat_lt
        simp only [List.length_cons] at hbytes
        obtain ⟨letters, hencode, hlength, hl⟩ := ih bytes (by omega)
        refine ⟨letter (x.toNat / 4) :: letter (x.toNat % 4 * 16 + y.toNat / 16) ::
          letter (y.toNat % 16 * 4 + z.toNat / 64) :: letter (z.toNat % 64) :: letters, ?_, ?_, ?_⟩
        · rw [encode, hencode]
          rfl
        · simp only [List.length_cons, hlength]
          omega
        · simp only [List.forall_mem_cons]
          exact ⟨letter_mem (by omega), letter_mem (by omega), letter_mem (by omega),
            letter_mem (by omega), hl⟩

/-- The upper four of the six bits that a letter stands for. -/
def upperBits (c : Char) : ℕ := value c / 4

theorem upperBits_lt {c : Char} (h : c ∈ alphabet) : upperBits c < 16 := by
  have := (letter_value h).1
  unfold upperBits
  omega

/-- Letters that end in a group of three make up given bytes if they are those that are written for
them, but for the two low bits of the last one. -/
theorem pack_eq_iff (n : ℕ) (letters : List Char) (bytes : List UInt8)
    (hl : ∀ c ∈ letters, c ∈ alphabet) (hletters : letters.length = 4 * n + 3)
    (hbytes : bytes.length = 3 * n + 2) :
    pack (letters.map value) = bytes ↔
      letters.take (4 * n + 2) = (encode bytes).take (4 * n + 2) ∧
        letters[4 * n + 2]?.map upperBits = (encode bytes)[4 * n + 2]?.map upperBits := by
  induction n generalizing letters bytes with
  | zero =>
      match letters, bytes, hletters, hbytes with
      | [a, b, c], [x, y], _, _ =>
        simp only [List.forall_mem_cons] at hl
        obtain ⟨ha, hb, hc, -⟩ := hl
        have hx := x.toNat_lt
        have hy := y.toNat_lt
        have hown : value (letter (y.toNat % 16 * 4)) = y.toNat % 16 * 4 := value_letter (by omega)
        simp only [List.map_cons, List.map_nil, pack, List.cons.injEq, and_true, encode,
          shortGroup_eq_iff (letter_value ha).1 (letter_value hb).1 (letter_value hc).1,
          value_eq_iff ha (show x.toNat / 4 < 64 by omega),
          value_eq_iff hb (show x.toNat % 4 * 16 + y.toNat / 16 < 64 by omega)]
        simp [upperBits, hown, and_assoc]
  | succ n ih =>
      match letters, bytes, hletters, hbytes with
      | a :: b :: c :: d :: letters, x :: y :: z :: bytes, hletters, hbytes =>
        simp only [List.forall_mem_cons] at hl
        obtain ⟨ha, hb, hc, hd, hl⟩ := hl
        have hx := x.toNat_lt
        have hy := y.toNat_lt
        have hz := z.toNat_lt
        simp only [List.length_cons] at hletters hbytes
        have hrest := ih letters bytes hl (by omega) (by omega)
        have hgroup := group_eq_iff (letter_value ha).1 (letter_value hb).1 (letter_value hc).1
          (letter_value hd).1 x y z
        rw [value_eq_iff ha (by omega), value_eq_iff hb (by omega), value_eq_iff hc (by omega),
          value_eq_iff hd (by omega)] at hgroup
        have hcount : 4 * (n + 1) + 2 = 4 * n + 2 + 1 + 1 + 1 + 1 := by omega
        simp only [List.map_cons, pack, encode, List.cons.injEq, hcount, List.take_succ_cons,
          List.getElem?_cons_succ, hrest]
        constructor
        · rintro ⟨h1, h2, h3, htake, hlast⟩
          obtain ⟨e1, e2, e3, e4⟩ := hgroup.mp ⟨h1, h2, h3⟩
          exact ⟨⟨e1, e2, e3, e4, htake⟩, hlast⟩
        · rintro ⟨⟨e1, e2, e3, e4, htake⟩, hlast⟩
          obtain ⟨h1, h2, h3⟩ := hgroup.mpr ⟨e1, e2, e3, e4⟩
          exact ⟨h1, h2, h3, htake, hlast⟩

end SmartDevice.Base64
