import SmartDevice.Proofs.Hex.Numerals
import SmartDevice.Proofs.Uuid.Layout

/-! # The order of identifiers

The identifier with the later time is the greater one, as a number and as a text. -/

namespace SmartDevice.Uuid

/-! ## Texts in groups -/

/-- Texts are first compared by as many characters as both begin with. -/
theorem append_lt_append_iff {front other rest tail : List Char}
    (h : front.length = other.length) :
    front ++ rest < other ++ tail ↔ front < other ∨ front = other ∧ rest < tail := by
  induction front generalizing other with
  | nil =>
      obtain rfl := List.length_eq_zero_iff.mp h.symm
      simp
  | cons c front ih =>
      cases other with
      | nil => simp at h
      | cons d other =>
          rw [List.length_cons, List.length_cons, Nat.add_right_cancel_iff] at h
          rw [List.cons_append, List.cons_append, List.cons_lt_cons_iff, ih h,
            List.cons_lt_cons_iff, List.cons.injEq]
          tauto

/-- A dash behind a group keeps the order, if what comes after it does. -/
theorem group_lt_group {digits other rest tail : List Char} (start size : ℕ)
    (hlength : digits.length = other.length) (h : digits.drop start < other.drop start)
    (hrest : digits.drop (start + size) < other.drop (start + size) → rest < tail) :
    (digits.drop start).take size ++ (['-'] ++ rest) <
      (other.drop start).take size ++ (['-'] ++ tail) := by
  have hgroup : ((digits.drop start).take size).length = ((other.drop start).take size).length := by
    simp only [List.length_take, List.length_drop, hlength]
  rw [← List.take_append_drop size (digits.drop start),
    ← List.take_append_drop size (other.drop start), append_lt_append_iff hgroup, List.drop_drop,
    List.drop_drop] at h
  rw [append_lt_append_iff hgroup, append_lt_append_iff rfl]
  rcases h with hlt | ⟨heq, hlt⟩
  · exact .inl hlt
  · exact .inr ⟨heq, .inr ⟨rfl, hrest hlt⟩⟩

theorem grouped_lt_grouped {digits other : List Char} (hdigits : digits.length = 32)
    (hother : other.length = 32) (h : digits < other) : grouped digits < grouped other := by
  have hlength : digits.length = other.length := hdigits.trans hother.symm
  have hlast : (digits.drop 20).take 12 = digits.drop 20 :=
    List.take_of_length_le (by simp [hdigits])
  have hlast' : (other.drop 20).take 12 = other.drop 20 :=
    List.take_of_length_le (by simp [hother])
  simp only [grouped, List.append_assoc, hlast, hlast']
  apply group_lt_group 0 8 hlength h
  intro h
  apply group_lt_group 8 4 hlength h
  intro h
  apply group_lt_group 12 4 hlength h
  intro h
  exact group_lt_group 16 4 hlength h id

/-! ## Identifiers -/

variable {id other : Uuid}

theorem toText_lt_toText (h : id.bits.toNat < other.bits.toNat) : id.toText < other.toText := by
  have hsize (n : ℕ) : (Hex.ofNat 32 n).length = 32 := by simp [Hex.ofNat]
  have hmod (bits : BitVec 128) : bits.toNat % 16 ^ 32 = bits.toNat := Nat.mod_eq_of_lt bits.isLt
  rw [String.lt_iff, toList_toText, toList_toText]
  apply grouped_lt_grouped (hsize _) (hsize _)
  apply Hex.ofNat_lt_ofNat
  rwa [hmod, hmod]

/-- The time outweighs all bits that come after it. -/
theorem toNat_lt_toNat (h : id.timestamp < other.timestamp) :
    id.bits.toNat < other.bits.toNat := by
  rw [timestamp, timestamp, BitVec.toNat_ushiftRight, BitVec.toNat_ushiftRight,
    Nat.shiftRight_eq_div_pow, Nat.shiftRight_eq_div_pow] at h
  exact Nat.lt_of_div_lt_div h

end SmartDevice.Uuid
