import SmartDevice.Json.Reader

/-! What is left of a text after reading is always shorter, so the fuel that `readDocument` starts
with never runs out: any more fuel gives the same answer. -/

namespace SmartDevice.Json

theorem length_skipBlank_le (text : List Char) : (skipBlank text).length ≤ text.length :=
  (List.dropWhile_sublist isBlank).length_le

/-! ## Texts, words and numbers -/

theorem length_rest_of_prepend {units : List UInt16} {result : Read (List UInt16)} {n : Nat}
    (h : ∀ text rest, result = .ok (text, rest) → rest.length < n) :
    ∀ text rest, prepend units result = .ok (text, rest) → rest.length < n := by
  intro text rest hr
  match result, h with
  | .ok (found, left), h =>
    obtain ⟨-, rfl⟩ : units ++ found = text ∧ left = rest := by simpa [prepend] using hr
    exact h found left rfl
  | .error stop, _ => simp [prepend] at hr

theorem length_rest_of_readText (opening : Nat) (mode : Mode) (text : List Char) :
    ∀ units rest, readText opening mode text = .ok (units, rest) →
      rest.length < text.length := by
  induction text generalizing mode with
  | nil => cases mode <;> simp [readText]
  | cons c tail ih =>
    have next (mode : Mode) (units : List UInt16) (rest : List Char)
        (h : readText opening mode tail = .ok (units, rest)) :
        rest.length < (c :: tail).length := Nat.lt_succ_of_lt (ih mode units rest h)
    intro units rest h
    cases mode with
    | plain =>
      rw [readText] at h
      split at h
      · simp_all
      · split at h
        · exact next _ _ _ h
        · split at h
          · simp [expected] at h
          · exact length_rest_of_prepend (next _) _ _ h
    | escape =>
      rw [readText] at h
      split at h
      · exact next _ _ _ h
      · split at h
        · exact length_rest_of_prepend (next _) _ _ h
        · simp at h
    | unit left missing value =>
      rw [readText] at h
      split at h
      · simp at h
      · dsimp only at h
        split at h
        · exact next _ _ _ h
        · split at h
          · simp at h
          · exact length_rest_of_prepend (next _) _ _ h

theorem length_pos_of_mem_words : ∀ entry ∈ words, 0 < entry.1.length := by decide

theorem length_rest_of_readWord? {text rest : List Char} {value : Json}
    (h : readWord? text = some (value, rest)) : rest.length < text.length := by
  obtain ⟨⟨word, read⟩, member, found⟩ := List.exists_of_findSome?_eq_some h
  have positive := length_pos_of_mem_words (word, read) member
  simp only [Option.ite_none_right_eq_some] at found
  obtain ⟨isStart, same⟩ := found
  have atMost := (List.isPrefixOf_iff_prefix.mp isStart).length_le
  obtain ⟨-, rfl⟩ : read = value ∧ text.drop word.length = rest := by simpa using same
  grind

theorem length_wholeDigits_le (text : List Char) :
    (wholeDigits text).length ≤ text.length := by
  unfold wholeDigits
  split
  · next h => cases text <;> simp_all
  · exact (List.takeWhile_sublist _).length_le

theorem length_rest_scan_le (text : List Char) :
    (Numeral.scan text).rest.length + (Numeral.scan text).whole.length ≤ text.length := by
  have := length_wholeDigits_le (text.drop (text.head? == some '-').toNat)
  simp only [Numeral.scan]
  grind

theorem length_rest_of_readNumber {text rest : List Char} {value : Json}
    (h : readNumber text = .ok (value, rest)) : rest.length < text.length := by
  have := length_rest_scan_le text
  simp only [readNumber] at h
  split at h
  · simp [expected] at h
  · next whole =>
    have : 0 < (Numeral.scan text).whole.length := by simpa [List.length_pos_iff] using whole
    split at h
    · split at h
      · simp at h
      · grind
    · grind

/-! ## Values -/

theorem bind_eq_ok {x : Except ε α} {f : α → Except ε β} {b : β} :
    (x >>= f) = .ok b ↔ ∃ a, x = .ok a ∧ f a = .ok b := by
  cases x <;> simp [bind, Except.bind]

/-- Each of the three readers leaves less than it was given. -/
def Shortens (fuel : Nat) : Prop :=
  (∀ levels text value rest, readValue fuel levels text = .ok (value, rest) →
    rest.length < text.length) ∧
  (∀ levels items text value rest, readItems fuel levels items text = .ok (value, rest) →
    rest.length < text.length) ∧
  (∀ levels fields text value rest, readFields fuel levels fields text = .ok (value, rest) →
    rest.length < text.length)

theorem length_rest_of_readValue_succ {fuel levels : Nat} (ih : Shortens fuel)
    {text rest : List Char} {value : Json}
    (h : readValue (fuel + 1) levels text = .ok (value, rest)) :
    rest.length < text.length := by
  obtain ⟨-, items, fields⟩ := ih
  unfold readValue at h
  split at h
  · next tail =>
    obtain ⟨⟨units, left⟩, ht, hv⟩ := bind_eq_ok.mp h
    have := length_rest_of_readText _ _ _ _ _ ht
    obtain ⟨-, rfl⟩ : .string ⟨units⟩ = value ∧ left = rest := by
      simpa [pure, Except.pure] using hv
    exact Nat.lt_succ_of_lt this
  · next tail =>
    have := length_skipBlank_le tail
    cases levels with
    | zero => simp at h
    | succ levels =>
      dsimp only at h
      split at h
      · grind
      · have := fields _ _ _ _ _ h
        grind
  · next tail =>
    have := length_skipBlank_le tail
    cases levels with
    | zero => simp at h
    | succ levels =>
      dsimp only at h
      split at h
      · grind
      · have := items _ _ _ _ _ h
        grind
  · split at h
    · next found hw =>
      obtain rfl : found = (value, rest) := by simpa using h
      exact length_rest_of_readWord? hw
    · exact length_rest_of_readNumber h

theorem length_rest_of_readItems_succ {fuel levels : Nat} (ih : Shortens fuel)
    {items : List Json} {text rest : List Char} {value : Json}
    (h : readItems (fuel + 1) levels items text = .ok (value, rest)) :
    rest.length < text.length := by
  obtain ⟨values, more, -⟩ := ih
  unfold readItems at h
  obtain ⟨⟨item, left⟩, hv, h⟩ := bind_eq_ok.mp h
  have := values _ _ _ _ hv
  have := length_skipBlank_le left
  dsimp only at h
  split at h
  · simp only [pure, Except.pure, Except.ok.injEq, Prod.mk.injEq] at h
    grind
  · next tail _ =>
    have := length_skipBlank_le tail
    have := more _ _ _ _ _ h
    grind
  · simp [expected] at h

theorem length_rest_of_readFields_succ {fuel levels : Nat} (ih : Shortens fuel)
    {fields : List (WideText × Json)} {text rest : List Char} {value : Json}
    (h : readFields (fuel + 1) levels fields text = .ok (value, rest)) :
    rest.length < text.length := by
  obtain ⟨values, -, more⟩ := ih
  unfold readFields at h
  split at h
  · next tail =>
    obtain ⟨⟨name, afterName⟩, hn, h⟩ := bind_eq_ok.mp h
    have := length_rest_of_readText _ _ _ _ _ hn
    have := length_skipBlank_le afterName
    dsimp only at h
    split at h
    · next afterColon _ =>
      obtain ⟨⟨field, afterValue⟩, hv, h⟩ := bind_eq_ok.mp h
      have := values _ _ _ _ hv
      have := length_skipBlank_le afterColon
      have := length_skipBlank_le afterValue
      dsimp only at h
      split at h
      · simp only [pure, Except.pure, Except.ok.injEq, Prod.mk.injEq] at h
        grind
      · next tail _ =>
        have := length_skipBlank_le tail
        have := more _ _ _ _ _ h
        grind
      · simp [expected] at h
    · simp [expected] at h
  · simp [expected] at h

theorem shortens (fuel : Nat) : Shortens fuel := by
  induction fuel with
  | zero => simp [Shortens, readValue, readItems, readFields, expected]
  | succ fuel ih =>
    exact ⟨fun _ _ _ _ => length_rest_of_readValue_succ ih,
      fun _ _ _ _ _ => length_rest_of_readItems_succ ih,
      fun _ _ _ _ _ => length_rest_of_readFields_succ ih⟩

theorem length_rest_of_readValue {fuel levels : Nat} {text rest : List Char} {value : Json}
    (h : readValue fuel levels text = .ok (value, rest)) : rest.length < text.length :=
  (shortens fuel).1 levels text value rest h

/-! ## Enough fuel -/

/-- Whether one more call's fuel changes nothing for texts short enough. -/
def Settles (fuel : Nat) : Prop :=
  (∀ levels (text : List Char), 2 * text.length + 1 ≤ fuel →
    readValue (fuel + 1) levels text = readValue fuel levels text) ∧
  (∀ levels items (text : List Char), 2 * text.length + 2 ≤ fuel →
    readItems (fuel + 1) levels items text = readItems fuel levels items text) ∧
  (∀ levels fields (text : List Char), 2 * text.length + 2 ≤ fuel →
    readFields (fuel + 1) levels fields text = readFields fuel levels fields text)

/-- Two steps that go on from the same result agree if they agree after what it can be. -/
theorem bind_congr_ok {x : Except ε α} {f g : α → Except ε β}
    (h : ∀ a, x = .ok a → f a = g a) : (x >>= f) = (x >>= g) := by
  cases x with
  | error e => rfl
  | ok a => exact h a rfl

theorem readValue_settles {fuel : Nat} (ih : Settles fuel) (levels : Nat) (text : List Char)
    (enough : 2 * text.length + 1 ≤ fuel + 1) :
    readValue (fuel + 2) levels text = readValue (fuel + 1) levels text := by
  obtain ⟨-, items, fields⟩ := ih
  unfold readValue
  split
  · rfl
  · next tail =>
    have := length_skipBlank_le tail
    cases levels with
    | zero => rfl
    | succ levels =>
      dsimp only
      split
      · rfl
      · exact fields _ _ _ (by grind)
  · next tail =>
    have := length_skipBlank_le tail
    cases levels with
    | zero => rfl
    | succ levels =>
      dsimp only
      split
      · rfl
      · exact items _ _ _ (by grind)
  · rfl

theorem readItems_settles {fuel : Nat} (ih : Settles fuel) (levels : Nat) (items : List Json)
    (text : List Char) (enough : 2 * text.length + 2 ≤ fuel + 1) :
    readItems (fuel + 2) levels items text = readItems (fuel + 1) levels items text := by
  obtain ⟨values, more, -⟩ := ih
  unfold readItems
  rw [values levels text (by omega)]
  refine bind_congr_ok fun ⟨item, left⟩ hv => ?_
  have := length_rest_of_readValue hv
  have := length_skipBlank_le left
  dsimp only
  split
  · rfl
  · next tail _ =>
    have := length_skipBlank_le tail
    exact more _ _ _ (by grind)
  · rfl

theorem readFields_settles {fuel : Nat} (ih : Settles fuel) (levels : Nat)
    (fields : List (WideText × Json)) (text : List Char)
    (enough : 2 * text.length + 2 ≤ fuel + 1) :
    readFields (fuel + 2) levels fields text = readFields (fuel + 1) levels fields text := by
  obtain ⟨values, -, more⟩ := ih
  unfold readFields
  split
  · next tail =>
    refine bind_congr_ok fun ⟨name, afterName⟩ hn => ?_
    have := length_rest_of_readText _ _ _ _ _ hn
    have := length_skipBlank_le afterName
    dsimp only
    split
    · next afterColon _ =>
      have := length_skipBlank_le afterColon
      rw [values _ _ (by grind)]
      refine bind_congr_ok fun ⟨field, afterValue⟩ hv => ?_
      have := length_rest_of_readValue hv
      have := length_skipBlank_le afterValue
      dsimp only
      split
      · rfl
      · next tail _ =>
        have := length_skipBlank_le tail
        exact more _ _ _ (by grind)
      · rfl
    · rfl
  · rfl

theorem settles (fuel : Nat) : Settles fuel := by
  induction fuel with
  | zero => exact ⟨fun _ _ h => by omega, fun _ _ _ h => by omega, fun _ _ _ h => by omega⟩
  | succ fuel ih =>
    exact ⟨readValue_settles ih, readItems_settles ih, readFields_settles ih⟩

theorem readValue_add {fuel levels : Nat} {text : List Char}
    (enough : 2 * text.length + 1 ≤ fuel) (more : Nat) :
    readValue (fuel + more) levels text = readValue fuel levels text := by
  induction more with
  | zero => rfl
  | succ more ih => rw [← ih]; exact (settles (fuel + more)).1 levels text (by omega)

/-- Two amounts of fuel that are enough give the same answer. -/
theorem readValue_eq_of_le {text : List Char} {levels m n : Nat}
    (hm : 2 * text.length + 1 ≤ m) (hn : 2 * text.length + 1 ≤ n) :
    readValue m levels text = readValue n levels text := by
  rcases Nat.le_total m n with h | h
  · obtain ⟨more, rfl⟩ := Nat.exists_eq_add_of_le h
    exact (readValue_add hm more).symm
  · obtain ⟨more, rfl⟩ := Nat.exists_eq_add_of_le h
    exact readValue_add hn more

end SmartDevice.Json
