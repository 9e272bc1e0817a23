/-! # Facts about the ASCII characters, settled by looking at each of them -/

namespace SmartDevice.Text

theorem char_le_iff (a b : Char) : a ≤ b ↔ a.toNat ≤ b.toNat := by
  rw [Char.le_def, UInt32.le_iff_toNat_le]
  rfl

theorem of_forall_ascii {P : Char → Prop} (h : ∀ n < 128, P (Char.ofNat n)) (c : Char)
    (hc : c.toNat < 128) : P c := by
  rw [← Char.ofNat_toNat c]
  exact h c.toNat hc

/-- A character between two others is ASCII if the upper one is. -/
theorem toNat_lt_of_le {c upper : Char} (h : c ≤ upper) (hu : upper.toNat < 128 := by decide) :
    c.toNat < 128 :=
  Nat.lt_of_le_of_lt ((char_le_iff c upper).mp h) hu

end SmartDevice.Text
