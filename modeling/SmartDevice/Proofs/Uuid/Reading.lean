import SmartDevice.Proofs.Hex.Reading
import SmartDevice.Proofs.Uuid.RoundTrip

/-! # The number that an identifier is read as

An identifier can be spelled in many ways, but all of them come down to thirty-two characters
without a dash. What is read from these is never negative and never too large for 128 bits. -/

namespace SmartDevice

namespace Text

theorem stripWhere_sublist (p : Char → Bool) (text : List Char) :
    (stripWhere p text).Sublist text := by
  rw [stripWhere, ← List.reverse_sublist, List.reverse_reverse]
  exact (List.dropWhile_sublist p).trans (List.dropWhile_sublist p).reverse

namespace Integer

variable {base : ℕ} {afterDigit : Bool} {text : List Char} {before digits : List ℕ}

/-! ## Digits -/

theorem decimalValue?_lt {c : Char} {d : ℕ} (h : decimalValue? c = some d) : d < 10 := by
  obtain ⟨first, hfirst, rfl⟩ := Option.map_eq_some_iff.mp h
  have hrange := List.find?_some hfirst
  simp only [Bool.and_eq_true, decide_eq_true_eq] at hrange
  omega

theorem digitValue?_lt {c : Char} {d : ℕ} (hbase : 10 ≤ base) (h : digitValue? base c = some d) :
    d < base := by
  unfold digitValue? at h
  split at h
  · exact of_decide_eq_true (Option.filter_eq_some_iff.mp h).2
  · exact (decimalValue?_lt h).trans_le hbase

/-- Every digit is one character at least, and stands for less than the base. -/
theorem readDigits_bounds (hbase : 10 ≤ base)
    (h : readDigits base afterDigit text before = some digits) (hbefore : ∀ d ∈ before, d < base) :
    digits.length ≤ before.length + text.length ∧ ∀ d ∈ digits, d < base := by
  induction text generalizing afterDigit before with
  | nil =>
      rw [readDigits] at h
      split at h
      · cases h
        simpa using hbefore
      · cases h
  | cons c text ih =>
      rw [readDigits] at h
      split at h
      · split at h
        · obtain ⟨hlength, hall⟩ := ih h hbefore
          exact ⟨by rw [List.length_cons]; omega, hall⟩
        · cases h
      · cases hd : digitValue? base c with
        | none =>
            rw [hd] at h
            cases h
        | some d =>
            rw [hd] at h
            obtain ⟨hlength, hall⟩ :=
              ih h (List.forall_mem_cons.mpr ⟨digitValue?_lt hbase hd, hbefore⟩)
            rw [List.length_cons] at hlength
            exact ⟨by rw [List.length_cons]; omega, hall⟩

theorem foldl_digits_lt (hdigits : ∀ d ∈ digits, d < base) (start : ℕ) :
    digits.foldl (fun n d => n * base + d) start < (start + 1) * base ^ digits.length := by
  induction digits generalizing start with
  | nil => simp
  | cons d digits ih =>
      rw [List.forall_mem_cons] at hdigits
      have hstep : start * base + d + 1 ≤ (start + 1) * base := by
        rw [Nat.add_one_mul]
        omega
      calc digits.foldl (fun n d => n * base + d) (start * base + d)
          < (start * base + d + 1) * base ^ digits.length := ih hdigits.2 _
        _ ≤ (start + 1) * base * base ^ digits.length := Nat.mul_le_mul_right _ hstep
        _ = (start + 1) * base ^ (d :: digits).length := by
            rw [List.length_cons, Nat.pow_succ, Nat.mul_assoc, Nat.mul_comm base]

/-! ## Numbers -/

theorem dropPrefix_sublist (base : ℕ) (text : List Char) : (dropPrefix base text).Sublist text := by
  unfold dropPrefix
  split
  · next zero x rest =>
      split
      · split
        · exact (((List.Sublist.refl _).cons _).cons _).cons _
        · exact ((List.Sublist.refl _).cons _).cons _
      · exact .refl _
  · exact .refl _

/-- Without a dash a text is read as the number that its digits spell. -/
theorem exists_of_read? {n : ℤ} (hdash : '-' ∉ text) (h : read? base text = some n) :
    ∃ unsigned digits, unsigned.Sublist text ∧
      readDigits base false (dropPrefix base unsigned) [] = some digits ∧
      n = (digits.foldl (fun n d => n * base + d) 0 : ℕ) := by
  have hstrip := stripWhere_sublist isBlankAround text
  unfold read? at h
  generalize stripWhere isBlankAround text = bare at h hstrip
  have hbare : '-' ∉ bare := fun hmem => hdash (hstrip.subset hmem)
  have hnumber {unsigned : List Char} (hunsigned : unsigned.Sublist bare)
      (h : (do
        let digits ← readDigits base false (dropPrefix base unsigned) []
        if base = 10 ∧ maxDecimalDigits < digits.length then none
        else return ((digits.foldl (fun n d => n * base + d) 0 : ℕ) : ℤ)) = some n) :
      ∃ unsigned digits, unsigned.Sublist text ∧
        readDigits base false (dropPrefix base unsigned) [] = some digits ∧
        n = (digits.foldl (fun n d => n * base + d) 0 : ℕ) := by
    obtain ⟨digits, hdigits, h⟩ := Option.bind_eq_some_iff.mp h
    split at h
    · cases h
    · exact ⟨unsigned, digits, hunsigned.trans hstrip, hdigits, (Option.some.inj h).symm⟩
  dsimp only at h
  split at h
  · exact absurd List.mem_cons_self hbare
  · exact hnumber ((List.Sublist.refl _).cons _) h
  · exact hnumber (.refl _) h

/-- Such a number is not negative, and no digit counts for more than its place. -/
theorem read?_bounds {n : ℤ} (hbase : 10 ≤ base) (hdash : '-' ∉ text)
    (h : read? base text = some n) : 0 ≤ n ∧ n < (base : ℤ) ^ text.length := by
  obtain ⟨unsigned, digits, hunsigned, hdigits, rfl⟩ := exists_of_read? hdash h
  obtain ⟨hlength, hall⟩ := readDigits_bounds hbase hdigits nofun
  have hshort : digits.length ≤ text.length := by
    have := ((dropPrefix_sublist base unsigned).trans hunsigned).length_le
    rw [List.length_nil] at hlength
    omega
  have hlt : digits.foldl (fun n d => n * base + d) 0 < base ^ text.length := by
    refine (foldl_digits_lt hall 0).trans_le ?_
    rw [Nat.zero_add, Nat.one_mul]
    exact Nat.pow_le_pow_right (by omega) hshort
  exact ⟨Int.natCast_nonneg _, by exact_mod_cast hlt⟩

end Integer

end Text

/-! ## Identifiers -/

namespace Uuid

theorem dash_not_mem_bareDigits (text : List Char) : '-' ∉ bareDigits text := by
  simp [bareDigits]

/-- An identifier is the number that its thirty-two characters spell, and none of its bits is
lost. -/
theorem ofText_eq_ok_iff {text : List Char} {id : Uuid} :
    ofText text = .ok id ↔ (bareDigits text).length = 32 ∧ id.bits.toNat < 2 ^ 128 ∧
      Text.Integer.read? 16 (bareDigits text) = some (id.bits.toNat : ℤ) := by
  unfold ofText
  by_cases hlength : (bareDigits text).length = 32
  · simp only [hlength, ne_eq, not_true_eq_false, if_false, id.bits.isLt, true_and]
    cases hread : Text.Integer.read? 16 (bareDigits text) with
    | none => simp
    | some n =>
        obtain ⟨hnonneg, hlt⟩ :=
          Text.Integer.read?_bounds (by decide) (dash_not_mem_bareDigits text) hread
        rw [hlength] at hlt
        have hbits : ((BitVec.ofInt 128 n).toNat : ℤ) = n := by
          rw [BitVec.toNat_ofInt]
          norm_num at hlt ⊢
          omega
        simp only [Except.ok.injEq, Option.some.injEq]
        constructor
        · rintro rfl
          exact hbits.symm
        · intro h
          obtain ⟨bits⟩ := id
          congr 1
          refine BitVec.eq_of_toNat_eq ?_
          simp only at h
          omega
  · simp [hlength]

/-! ## The text that is written -/

/-- Groups of 8, 4, 4, 4 and 12 lowercase digits with dashes between them. -/
def Grouped (text : List Char) : Prop :=
  ∃ groups : List (List Char), groups.map List.length = [8, 4, 4, 4, 12] ∧
    (∀ group ∈ groups, ∀ c ∈ group, c ∈ Hex.lowerDigits) ∧ text = ['-'].intercalate groups

theorem grouped_toText (id : Uuid) : Grouped id.toText.toList := by
  have hlength : (Hex.ofNat 32 id.bits.toNat).length = 32 := by simp [Hex.ofNat]
  have hdigits (c : Char) (hc : c ∈ Hex.ofNat 32 id.bits.toNat) : c ∈ Hex.lowerDigits :=
    Hex.mem_lowerDigits_of_mem_ofNat hc
  rw [toList_toText]
  generalize Hex.ofNat 32 id.bits.toNat = digits at hlength hdigits
  refine ⟨[(digits.drop 0).take 8, (digits.drop 8).take 4, (digits.drop 12).take 4,
    (digits.drop 16).take 4, (digits.drop 20).take 12], by simp [hlength], ?_,
    by simp [grouped, List.intercalate]⟩
  intro group hgroup c hc
  simp only [List.mem_cons, List.not_mem_nil, or_false] at hgroup
  rcases hgroup with rfl | rfl | rfl | rfl | rfl
  all_goals exact hdigits c (mem_of_mem_group hc)

theorem Grouped.length_eq {text : List Char} (h : Grouped text) : text.length = 36 := by
  obtain ⟨groups, hlengths, -, rfl⟩ := h
  match groups with
  | [a, b, c, d, e] =>
      simp only [List.map_cons, List.map_nil, List.cons.injEq, and_true] at hlengths
      simp [List.intercalate, hlengths]
  | [] | [_] | [_, _] | [_, _, _] | [_, _, _, _] | _ :: _ :: _ :: _ :: _ :: _ :: _ =>
      simp at hlengths

end Uuid

end SmartDevice
