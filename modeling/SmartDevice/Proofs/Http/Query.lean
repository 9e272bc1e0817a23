import SmartDevice.Http.Query
import SmartDevice.Proofs.Text.Ascii
import SmartDevice.Proofs.Text.Split
import SmartDevice.Proofs.Text.Stored

/-! # Query texts carry names and values without loss

Everything but letters and digits is written with percent signs, so that nothing in a name or a
value is taken for a mark between them. -/

namespace SmartDevice.Http

namespace Percent

/-- The text with everything but letters and digits as bytes. -/
def escape (text : String) : List Char := encode Char.isAlphanum text.toList

theorem isAlphanum_digit {n : ℕ} (h : n < 16) : (Hex.digit .upper n).isAlphanum = true := by
  have hall : ∀ d < 16, (Hex.digit .upper d).isAlphanum = true := by decide
  exact hall n h

theorem toNat_lt_of_isAlphanum {c : Char} (h : c.isAlphanum = true) : c.toNat < 128 := by
  have hmax (last : Char) (hlast : last.toNat < 128) (hle : c.val ≤ last.val) : c.toNat < 128 :=
    Nat.lt_of_le_of_lt (UInt32.le_iff_toNat_le.mp hle) hlast
  rcases Bool.or_eq_true_iff.mp h with halpha | hdigit
  · rcases Bool.or_eq_true_iff.mp halpha with hupper | hlower
    · exact hmax 'Z' (by decide) (of_decide_eq_true hupper).2
    · exact hmax 'z' (by decide) (of_decide_eq_true (Bool.and_eq_true_iff.mp hlower).2)
  · exact hmax '9' (by decide) (of_decide_eq_true (Bool.and_eq_true_iff.mp hdigit).2)

theorem encodeByte_eq (b : UInt8) :
    encodeByte b = ['%', Hex.digit .upper (b.toNat / 16), Hex.digit .upper (b.toNat % 16)] :=
  rfl

/-- Only letters, digits and percent signs are left. -/
theorem of_mem_escape {text : String} {c : Char} (h : c ∈ escape text) :
    c.isAlphanum = true ∨ c = '%' := by
  obtain ⟨b, -, hc⟩ := List.mem_flatMap.mp h
  dsimp only at hc
  have hb := b.toNat_lt
  split at hc
  · next hkept =>
      rw [List.mem_singleton.mp hc]
      exact .inl hkept
  · simp only [encodeByte_eq, List.mem_cons, List.not_mem_nil, or_false] at hc
    rcases hc with rfl | rfl | rfl
    · exact .inr rfl
    · exact .inl (isAlphanum_digit (by omega))
    · exact .inl (isAlphanum_digit (by omega))

theorem decodeBytes_encodeByte (b : UInt8) (rest : List Char) :
    decodeBytes (encodeByte b ++ rest) = b :: decodeBytes rest := by
  have hb := b.toNat_lt
  have hvalue : UInt8.ofNat (16 * (b.toNat / 16) + b.toNat % 16) = b := by
    rw [Nat.div_add_mod, UInt8.ofNat_toNat]
  simp only [encodeByte_eq, List.cons_append, List.nil_append]
  rw [decodeBytes]
  simp only [Hex.digitValue?_digit .upper (show b.toNat / 16 < 16 by omega),
    Hex.digitValue?_digit .upper (show b.toNat % 16 < 16 by omega), hvalue]

theorem decodeBytes_kept {c : Char} (h : c.isAlphanum = true) (rest : List Char) :
    decodeBytes (c :: rest) = UInt8.ofNat c.toNat :: decodeBytes rest := by
  rw [decodeBytes, Text.Utf8.encodeChar, if_pos (toNat_lt_of_isAlphanum h), List.singleton_append]
  rintro high low after ⟨⟩
  cases h

theorem decodeBytes_escape (text : String) :
    decodeBytes (escape text) = Text.Utf8.encode text.toList := by
  unfold escape encode
  induction Text.Utf8.encode text.toList with
  | nil => rfl
  | cons b bytes ih =>
      rw [List.flatMap_cons]
      dsimp only
      split
      · next hkept =>
          have hb := b.toNat_lt
          have hvalue : (Char.ofNat b.toNat).toNat = b.toNat := by
            rw [Char.ofNat, dif_pos (.inl (by omega))]
            rfl
          rw [List.singleton_append, decodeBytes_kept hkept, hvalue, UInt8.ofNat_toNat, ih]
      · rw [decodeBytes_encodeByte, ih]

theorem decode_escape (text : String) : decode (escape text) = text.toList := by
  rw [decode, decodeBytes_escape, Text.Utf8.decodeLossy_encode]

end Percent

namespace Query

/-- A name and a value as a part of a query. -/
def part (pair : String × String) : List Char :=
  Percent.escape pair.1 ++ '=' :: Percent.escape pair.2

def ofPairs (pairs : List (String × String)) : String :=
  String.ofList (['&'].intercalate (pairs.map part))

theorem not_mem_escape {mark : Char} (hmark : mark.isAlphanum = false) (hpercent : mark ≠ '%')
    (text : String) : mark ∉ Percent.escape text := by
  intro hmem
  rcases Percent.of_mem_escape hmem with h | h
  · rw [hmark] at h
    cases h
  · exact hpercent h

theorem decodePart_escape (text : String) : decodePart (Percent.escape text) = text.toList := by
  have hmap : (Percent.escape text).map (fun c => if c = '+' then ' ' else c) =
      Percent.escape text := by
    refine (List.map_congr_left fun c hc => ?_).trans (List.map_id _)
    rw [if_neg]
    · rfl
    · rintro rfl
      exact not_mem_escape rfl (by decide) text hc
  rw [decodePart, hmap, Percent.decode_escape]

theorem not_mem_part (pair : String × String) : '&' ∉ part pair := by
  simp only [part, List.mem_append, List.mem_cons, not_or]
  exact ⟨not_mem_escape rfl (by decide) pair.1, by decide, not_mem_escape rfl (by decide) pair.2⟩

/-- Names and values are found again, in their order. -/
theorem parameters_ofPairs (pairs : List (String × String)) :
    parameters (ofPairs pairs).toList = pairs.map fun pair => (pair.1.toList, pair.2.toList) := by
  cases pairs with
  | nil => rfl
  | cons pair pairs =>
      have hsplit : Text.split '&' (ofPairs (pair :: pairs)).toList =
          (pair :: pairs).map part := by
        rw [ofPairs, String.toList_ofList, Text.split_intercalate (by simp)]
        intro piece hpiece
        obtain ⟨found, -, rfl⟩ := List.mem_map.mp hpiece
        exact not_mem_part found
      have hfilter : ((pair :: pairs).map part).filter (!·.isEmpty) =
          (pair :: pairs).map part := by
        refine List.filter_eq_self.mpr fun piece hpiece => ?_
        obtain ⟨found, -, rfl⟩ := List.mem_map.mp hpiece
        simp [part]
      rw [parameters, hsplit, hfilter, List.map_map]
      refine List.map_congr_left fun found _ => ?_
      have hcut : Text.cut '=' (part found) =
          (Percent.escape found.1, some (Percent.escape found.2)) :=
        Text.cut_append (not_mem_escape rfl (by decide) found.1) _
      simp only [Function.comp_apply, hcut, Option.getD_some, decodePart_escape]

/-- The last value of a name is found again. -/
theorem last?_ofPairs (name : String) (pairs : List (String × String)) :
    last? name (ofPairs pairs) = ((pairs.filter (·.1 = name)).getLast?).map (·.2) := by
  have hfilter : ((pairs.map fun pair => (pair.1.toList, pair.2.toList)).filter
      (·.1 = name.toList)) = (pairs.filter (·.1 = name)).map fun pair =>
        (pair.1.toList, pair.2.toList) := by
    rw [List.filter_map]
    refine congrArg _ (List.filter_congr fun pair _ => ?_)
    simp [String.toList_inj]
  rw [last?, parameters_ofPairs]
  dsimp only
  rw [hfilter, List.getLast?_map, Option.map_map]
  refine congrArg (Option.map · _) (funext fun pair => ?_)
  simp

end Query

end SmartDevice.Http
