import SmartDevice.Text.Utf8

/-! Texts as JSON has them: code units of UTF-16, in which half of a pair may stand alone. Such a
half is no character, so that a text with one cannot be encoded in UTF-8. -/

namespace SmartDevice

structure WideText where
  units : List UInt16
  deriving DecidableEq, Repr, Inhabited

namespace WideText

/-! ## Characters -/

/-- What stands at a place of a text. -/
inductive Mark where
  | char (c : Char)
  /-- Half of a pair, without the other half. -/
  | half (unit : UInt16)
  deriving DecidableEq, Repr

def isHighHalf (unit : UInt16) : Bool := 0xd800 ≤ unit && unit < 0xdc00

def isLowHalf (unit : UInt16) : Bool := 0xdc00 ≤ unit && unit < 0xe000

/-- The units of a character: one, or a pair. -/
def unitsOf (c : Char) : List UInt16 :=
  if c.toNat < 0x10000 then [UInt16.ofNat c.toNat]
  else
    let n := c.toNat - 0x10000
    [UInt16.ofNat (0xd800 + n / 0x400), UInt16.ofNat (0xdc00 + n % 0x400)]

/-- The character of a pair. -/
def charOfPair (high low : UInt16) : Char :=
  Char.ofNat (0x10000 + (high.toNat - 0xd800) * 0x400 + (low.toNat - 0xdc00))

def Mark.ofUnit (unit : UInt16) : Mark :=
  if isHighHalf unit || isLowHalf unit then half unit else char (Char.ofNat unit.toNat)

/-- Puts a unit before the marks that follow it; it may be the other half of the first one. -/
def push (unit : UInt16) : List Mark → List Mark
  | .half low :: rest =>
    if isHighHalf unit && isLowHalf low then .char (charOfPair unit low) :: rest
    else .ofUnit unit :: .half low :: rest
  | rest => .ofUnit unit :: rest

def marks (text : WideText) : List Mark := text.units.foldr push []

def Mark.shown : Mark → Char
  | char c => c
  | half _ => Text.Utf8.replacement

/-- The characters, with one replacement for each half that stands alone. -/
def toList (text : WideText) : List Char := text.marks.map Mark.shown

def toString (text : WideText) : String := String.ofList text.toList

/-! ## Whole texts -/

def ofString (text : String) : WideText := ⟨text.toList.flatMap unitsOf⟩

instance : Coe String WideText := ⟨ofString⟩

/-- No half stands alone. -/
def IsWhole (text : WideText) : Prop := text.toString = text

instance (text : WideText) : Decidable text.IsWhole :=
  inferInstanceAs (Decidable (ofString text.toString = text))

instance : Append WideText := ⟨fun a b => ⟨a.units ++ b.units⟩⟩

/-! ## Reading what was written -/

theorem isHighHalf_eq_true_iff {unit : UInt16} :
    isHighHalf unit = true ↔ 0xd800 ≤ unit.toNat ∧ unit.toNat < 0xdc00 := by
  simp [isHighHalf, UInt16.le_iff_toNat_le, UInt16.lt_iff_toNat_lt]

theorem isLowHalf_eq_true_iff {unit : UInt16} :
    isLowHalf unit = true ↔ 0xdc00 ≤ unit.toNat ∧ unit.toNat < 0xe000 := by
  simp [isLowHalf, UInt16.le_iff_toNat_le, UInt16.lt_iff_toNat_lt]

theorem push_of_notHigh {unit : UInt16} (h : isHighHalf unit = false) (rest : List Mark) :
    push unit rest = .ofUnit unit :: rest := by
  rw [push.eq_def]
  split <;> simp [h]

theorem push_pair {high low : UInt16} (hhigh : isHighHalf high = true)
    (hlow : isLowHalf low = true) (rest : List Mark) :
    push high (push low rest) = .char (charOfPair high low) :: rest := by
  have hnotHigh : isHighHalf low = false := by
    rw [isLowHalf_eq_true_iff] at hlow
    rw [← Bool.not_eq_true, isHighHalf_eq_true_iff]
    omega
  have hhalf : Mark.ofUnit low = .half low := by simp [Mark.ofUnit, hlow]
  rw [push_of_notHigh hnotHigh, hhalf, push]
  simp only [hhigh, hlow, Bool.and_self, if_true]

/-- The units of a character make that character again, whatever follows them. -/
theorem foldr_push_unitsOf (c : Char) (rest : List Mark) :
    (unitsOf c).foldr push rest = .char c :: rest := by
  have hvalid : c.toNat < 0xd800 ∨ 0xdfff < c.toNat ∧ c.toNat < 0x110000 := c.valid
  unfold unitsOf
  split
  · next hsmall =>
    have hnat : (UInt16.ofNat c.toNat).toNat = c.toNat := UInt16.toNat_ofNat_of_lt' hsmall
    have hhigh : isHighHalf (UInt16.ofNat c.toNat) = false := by
      rw [← Bool.not_eq_true, isHighHalf_eq_true_iff]
      omega
    have hlow : isLowHalf (UInt16.ofNat c.toNat) = false := by
      rw [← Bool.not_eq_true, isLowHalf_eq_true_iff]
      omega
    rw [List.foldr_cons, List.foldr_nil, push_of_notHigh hhigh]
    simp only [Mark.ofUnit, hhigh, hlow, hnat, Bool.or_self, Bool.false_eq_true, if_false,
      Char.ofNat_toNat]
  · next hlarge =>
    have hhigh : (UInt16.ofNat (0xd800 + (c.toNat - 0x10000) / 0x400)).toNat =
        0xd800 + (c.toNat - 0x10000) / 0x400 :=
      UInt16.toNat_ofNat_of_lt' (show _ < 0x10000 by omega)
    have hlow : (UInt16.ofNat (0xdc00 + (c.toNat - 0x10000) % 0x400)).toNat =
        0xdc00 + (c.toNat - 0x10000) % 0x400 :=
      UInt16.toNat_ofNat_of_lt' (show _ < 0x10000 by omega)
    rw [List.foldr_cons, List.foldr_cons, List.foldr_nil,
      push_pair (isHighHalf_eq_true_iff.mpr (by omega)) (isLowHalf_eq_true_iff.mpr (by omega)),
      charOfPair, hhigh, hlow]
    have hnat : 0x10000 + (0xd800 + (c.toNat - 0x10000) / 0x400 - 0xd800) * 0x400 +
        (0xdc00 + (c.toNat - 0x10000) % 0x400 - 0xdc00) = c.toNat := by
      omega
    rw [hnat, Char.ofNat_toNat]

theorem marks_ofString (text : String) : (ofString text).marks = text.toList.map .char := by
  unfold marks ofString
  induction text.toList with
  | nil => rfl
  | cons c rest ih =>
    rw [List.flatMap_cons, List.foldr_append, ih, foldr_push_unitsOf, List.map_cons]

@[simp] theorem toList_ofString (text : String) : (ofString text).toList = text.toList := by
  rw [toList, marks_ofString, List.map_map]
  exact List.map_id _

@[simp] theorem toString_ofString (text : String) : (ofString text).toString = text := by
  rw [toString, toList_ofString, String.ofList_toList]

@[simp] theorem ofString_inj {a b : String} : ofString a = ofString b ↔ a = b := by
  refine ⟨fun h => ?_, congrArg ofString⟩
  rw [← toString_ofString a, h, toString_ofString]

theorem isWhole_iff {text : WideText} : text.IsWhole ↔ ∃ whole : String, text = whole := by
  refine ⟨fun h => ⟨text.toString, Eq.symm h⟩, ?_⟩
  rintro ⟨whole, rfl⟩
  rw [IsWhole, toString_ofString]

@[simp] theorem isWhole_ofString (text : String) : (ofString text).IsWhole :=
  isWhole_iff.mpr ⟨text, rfl⟩

end WideText

end SmartDevice
