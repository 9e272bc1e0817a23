import SmartDevice.Json.Bytes
import SmartDevice.Proofs.Json.Numeral
import SmartDevice.Proofs.Json.Text

/-! # Values are read as they were written, on one line or on many

Only some values survive: two fields of one name become one, a numeral that is too long is not read,
nor are containers that are nested too deep, and other numbers are read as digits and a power. -/

namespace SmartDevice.Json

/-! ## Blanks -/

theorem skipBlank_append {blanks : List Char} (h : ∀ c ∈ blanks, isBlank c = true)
    (rest : List Char) : skipBlank (blanks ++ rest) = skipBlank rest := by
  induction blanks with
  | nil => rfl
  | cons c blanks ih =>
      rw [List.forall_mem_cons] at h
      rw [List.cons_append, skipBlank, List.dropWhile_cons_of_pos h.1]
      exact ih h.2

theorem skipBlank_space (rest : List Char) : skipBlank (' ' :: rest) = skipBlank rest :=
  rfl

theorem skipBlank_cons {c : Char} (h : isBlank c = false) (rest : List Char) :
    skipBlank (c :: rest) = c :: rest := by
  rw [skipBlank, List.dropWhile_cons_of_neg]
  simp [h]

theorem isBlank_margin {margin : ℕ} : ∀ c ∈ List.replicate margin ' ', isBlank c = true := by
  intro c hc
  rw [List.eq_of_mem_replicate hc]
  rfl

theorem isBlank_edge (spacing : Spacing) : ∀ c ∈ spacing.edge, isBlank c = true := by
  cases spacing with
  | oneLine => simp [Spacing.edge]
  | lines margin => exact List.forall_mem_cons.mpr ⟨rfl, isBlank_margin⟩

/-- What is set between two items is a comma and blanks. -/
theorem skipBlank_between (spacing : Spacing) (rest : List Char) :
    ∃ after, spacing.between ++ rest = ',' :: after ∧ skipBlank after = skipBlank rest := by
  cases spacing with
  | oneLine => exact ⟨' ' :: rest, rfl, skipBlank_space rest⟩
  | lines margin =>
      refine ⟨'\n' :: List.replicate margin ' ' ++ rest, rfl, skipBlank_append ?_ rest⟩
      exact List.forall_mem_cons.mpr ⟨rfl, isBlank_margin⟩

/-! ## Values that survive -/

/-- A value that is written without loss where containers may be nested as deep as there are
levels. -/
inductive LosslessIn : ℕ → Json → Prop
  | null {levels : ℕ} : LosslessIn levels .null
  | bool {levels : ℕ} (value : Bool) : LosslessIn levels (.bool value)
  | integer {levels : ℕ} {n : ℤ} (h : (Nat.toDigits 10 n.natAbs).length ≤ maxIntegerDigits) :
    LosslessIn levels (.integer n)
  | string {levels : ℕ} (text : WideText) : LosslessIn levels (.string text)
  | array {levels : ℕ} {items : List Json} (h : ∀ item ∈ items, LosslessIn levels item) :
    LosslessIn (levels + 1) (.array items)
  | object {levels : ℕ} {fields : List (WideText × Json)} (hnames : (fields.map (·.1)).Nodup)
    (h : ∀ field ∈ fields, LosslessIn levels field.2) : LosslessIn (levels + 1) (.object fields)

attribute [simp] LosslessIn.null LosslessIn.bool LosslessIn.string

/-- A value that is written without loss. -/
abbrev Lossless (value : Json) : Prop := LosslessIn maxNesting value

/-- A value is read wherever it was written, with fuel for each of its characters and levels enough
for its containers. -/
structure ReadBack (levels : ℕ) (value : Json) : Prop where
  head : ∀ spacing, ∃ c text, print spacing value = c :: text ∧ isBlank c = false ∧ c ≠ ']'
  read : ∀ (spacing : Spacing) (rest : List Char) (fuel : ℕ), Closes rest →
    (print spacing value).length ≤ fuel →
      readValue (fuel + 1) levels (print spacing value ++ rest) = .ok (value, rest)

theorem ReadBack.skipBlank {levels : ℕ} {value : Json} (h : ReadBack levels value)
    (spacing : Spacing) (rest : List Char) :
    Json.skipBlank (print spacing value ++ rest) = print spacing value ++ rest := by
  obtain ⟨c, text, hprint, hblank, -⟩ := h.head spacing
  rw [hprint]
  exact skipBlank_cons hblank _

/-! ## What follows an item -/

theorem closes_between (spacing : Spacing) (rest : List Char) :
    Closes (spacing.between ++ rest) := by
  rintro c hc
  cases spacing <;>
  · cases hc
    exact .inl rfl

theorem length_between (spacing : Spacing) : 2 ≤ spacing.between.length := by
  cases spacing <;> simp [Spacing.between]

theorem closes_end {mark : Char} (hmark : mark = ']' ∨ mark = '}') (spacing : Spacing)
    (rest : List Char) : Closes (spacing.edge ++ mark :: rest) := by
  rintro c hc
  cases spacing with
  | oneLine =>
      cases hc
      exact .inr (hmark.imp id .inl)
  | lines margin =>
      cases hc
      exact .inr (.inr (.inr rfl))

theorem skipBlank_end {mark : Char} (hmark : mark = ']' ∨ mark = '}') (spacing : Spacing)
    (rest : List Char) : skipBlank (spacing.edge ++ mark :: rest) = mark :: rest := by
  rw [skipBlank_append (isBlank_edge spacing)]
  rcases hmark with rfl | rfl <;> exact skipBlank_cons rfl rest

/-! ## Arrays -/

variable {spacing outer : Spacing} {levels : ℕ}

theorem closes_items (spacing outer : Spacing) (items : List Json) (rest : List Char) :
    Closes (printItems spacing items ++ (outer.edge ++ ']' :: rest)) := by
  cases items with
  | nil => exact closes_end (.inl rfl) outer rest
  | cons item items =>
      simp only [printItems, List.append_assoc]
      exact closes_between spacing _

/-- The items from one on, after those that were read before. -/
theorem readItems_print {item : Json} {items : List Json}
    (h : ∀ other ∈ item :: items, ReadBack levels other) (before : List Json) (rest : List Char)
    {fuel : ℕ} (hfuel : (print spacing item).length + (printItems spacing items).length ≤ fuel) :
    readItems (fuel + 2) levels before
        (print spacing item ++ (printItems spacing items ++ (outer.edge ++ ']' :: rest))) =
      .ok (.array (before.reverse ++ item :: items), rest) := by
  induction items generalizing item before fuel with
  | nil =>
      have hitem := (h item List.mem_cons_self).read spacing _ fuel
        (closes_items spacing outer [] rest) (by omega)
      rw [readItems]
      simp only [hitem, bind, Except.bind]
      simp only [printItems, List.nil_append, skipBlank_end (.inl rfl), List.reverse_cons]
      rfl
  | cons next items ih =>
      have hitem := (h item List.mem_cons_self).read spacing _ fuel
        (closes_items spacing outer (next :: items) rest) (by omega)
      obtain ⟨after, hafter, hskip⟩ := skipBlank_between spacing
        (print spacing next ++ (printItems spacing items ++ (outer.edge ++ ']' :: rest)))
      have hnext : skipBlank after =
          print spacing next ++ (printItems spacing items ++ (outer.edge ++ ']' :: rest)) := by
        rw [hskip, (h next (by simp)).skipBlank]
      have hprinted : printItems spacing (next :: items) ++ (outer.edge ++ ']' :: rest) =
          ',' :: after := by
        rw [← hafter]
        simp only [printItems, List.append_assoc]
      simp only [printItems, List.length_append] at hfuel
      have hcomma := length_between spacing
      obtain ⟨fuel, rfl⟩ := Nat.exists_eq_add_of_le' (show 1 ≤ fuel by omega)
      rw [readItems]
      rw [hprinted] at hitem ⊢
      simp only [hitem, bind, Except.bind, skipBlank_cons (c := ',') rfl, hnext]
      rw [ih (fun other hother => h other (List.mem_cons_of_mem _ hother)) (item :: before)]
      · simp
      · omega

theorem readValue_array (fuel levels : ℕ) {body text : List Char} {c : Char}
    (h : skipBlank body = c :: text) (hc : c ≠ ']') :
    readValue (fuel + 1) (levels + 1) ('[' :: body) = readItems fuel levels [] (c :: text) := by
  rw [readValue]
  simp only [h]
  split
  · next heq => exact absurd (List.cons.inj heq).1 hc
  · rfl

theorem readBack_array {items : List Json} (h : ∀ item ∈ items, ReadBack levels item) :
    ReadBack (levels + 1) (.array items) := by
  refine ⟨fun spacing => ?_, fun spacing rest fuel _ hfuel => ?_⟩
  · cases items <;> exact ⟨'[', _, rfl, rfl, by decide⟩
  cases items with
  | nil => rfl
  | cons item items =>
      obtain ⟨c, text, hhead, hblank, hbracket⟩ := (h item List.mem_cons_self).head spacing.deeper
      set end' := printItems spacing.deeper items ++ (spacing.edge ++ ']' :: rest) with hend
      have hprinted : print spacing (.array (item :: items)) ++ rest =
          '[' :: (spacing.deeper.edge ++ (print spacing.deeper item ++ end')) := by
        simp only [print, hend, List.append_assoc, List.cons_append, List.nil_append]
      have hskip : skipBlank (spacing.deeper.edge ++ (print spacing.deeper item ++ end')) =
          c :: (text ++ end') := by
        rw [skipBlank_append (isBlank_edge _), (h item List.mem_cons_self).skipBlank, hhead]
        rfl
      simp only [print, List.length_append, List.length_cons, List.length_nil] at hfuel
      obtain ⟨fuel, rfl⟩ := Nat.exists_eq_add_of_le' (show 2 ≤ fuel by omega)
      have hitems : (print spacing.deeper item).length +
          (printItems spacing.deeper items).length ≤ fuel := by omega
      rw [hprinted, readValue_array _ _ hskip hbracket, ← List.cons_append, ← hhead, hend,
        readItems_print h [] rest hitems]
      rfl

/-! ## Objects -/

theorem insertField_append {name : WideText} {fields : List (WideText × Json)}
    (h : name ∉ fields.map (·.1)) (value : Json) :
    insertField name value fields = fields ++ [(name, value)] := by
  induction fields with
  | nil => rfl
  | cons field fields ih =>
      rw [List.map_cons, List.mem_cons, not_or] at h
      rw [insertField, if_neg (Ne.symm h.1), ih h.2, List.cons_append]

theorem closes_fields (spacing outer : Spacing) (fields : List (WideText × Json))
    (rest : List Char) : Closes (printFields spacing fields ++ (outer.edge ++ '}' :: rest)) := by
  cases fields with
  | nil => exact closes_end (.inr rfl) outer rest
  | cons field fields =>
      simp only [printFields, List.append_assoc]
      exact closes_between spacing _

/-- One field and what follows it: the end of the object or the next field. -/
theorem readFields_field {name : WideText} {value : Json} (h : ReadBack levels value)
    (before : List (WideText × Json)) {rest : List Char} (hrest : Closes rest) {fuel : ℕ}
    (hfuel : (print spacing value).length ≤ fuel) :
    readFields (fuel + 2) levels before
        (printText name ++ ':' :: ' ' :: (print spacing value ++ rest)) =
      match skipBlank rest with
      | '}' :: rest => .ok (.object (insertField name value before), rest)
      | ',' :: rest =>
        readFields (fuel + 1) levels (insertField name value before) (skipBlank rest)
      | rest => expected .comma rest := by
  have hvalue := h.read spacing rest fuel hrest hfuel
  have hblank : skipBlank (' ' :: (print spacing value ++ rest)) = print spacing value ++ rest := by
    rw [skipBlank_space, h.skipBlank]
  rw [printText_append, readFields]
  simp only [readText_escaped, bind, Except.bind, skipBlank_cons (c := ':') rfl, hblank, hvalue]
  rfl

/-- The fields from one on, after those that were read before. -/
theorem readFields_print {name : WideText} {value : Json} {fields : List (WideText × Json)}
    (h : ∀ field ∈ (name, value) :: fields, ReadBack levels field.2)
    (before : List (WideText × Json))
    (hnames : (before.map (·.1) ++ name :: fields.map (·.1)).Nodup) (rest : List Char) {fuel : ℕ}
    (hfuel : (print spacing value).length + (printFields spacing fields).length ≤ fuel) :
    readFields (fuel + 2) levels before (printText name ++ ':' :: ' ' :: (print spacing value ++
        (printFields spacing fields ++ (outer.edge ++ '}' :: rest)))) =
      .ok (.object (before ++ (name, value) :: fields), rest) := by
  have hname : name ∉ before.map (·.1) := by
    intro hmem
    exact (List.nodup_append.mp hnames).2.2 _ hmem _ List.mem_cons_self rfl
  have hvalue : ReadBack levels value := h _ List.mem_cons_self
  induction fields generalizing before name value fuel with
  | nil =>
      rw [readFields_field hvalue before (closes_fields spacing outer [] rest) (by omega),
        insertField_append hname]
      simp only [printFields, List.nil_append, skipBlank_end (.inr rfl)]
  | cons field fields ih =>
      obtain ⟨next, nextValue⟩ := field
      obtain ⟨after, hafter, hskip⟩ := skipBlank_between spacing (printText next ++ ':' :: ' ' ::
        (print spacing nextValue ++ (printFields spacing fields ++ (outer.edge ++ '}' :: rest))))
      have hnext : skipBlank after = printText next ++ ':' :: ' ' :: (print spacing nextValue ++
          (printFields spacing fields ++ (outer.edge ++ '}' :: rest))) := by
        rw [hskip, printText_append, skipBlank_cons rfl]
      have hprinted : printFields spacing ((next, nextValue) :: fields) ++
          (outer.edge ++ '}' :: rest) = ',' :: after := by
        rw [← hafter]
        simp only [printFields, List.append_assoc, List.cons_append, List.nil_append]
      have hnodup : ((before ++ [(name, value)]).map (·.1) ++ next :: fields.map (·.1)).Nodup := by
        simpa using hnames
      simp only [printFields, List.length_append] at hfuel
      have hcomma := length_between spacing
      obtain ⟨fuel, rfl⟩ := Nat.exists_eq_add_of_le' (show 1 ≤ fuel by omega)
      rw [readFields_field hvalue before (closes_fields spacing outer _ rest) (by omega),
        insertField_append hname, hprinted]
      simp only [skipBlank_cons (c := ',') rfl, hnext]
      rw [ih (fun other hother => h other (List.mem_cons_of_mem _ hother)) _ hnodup (by omega)]
      · simp
      · intro hmem
        exact (List.nodup_append.mp hnodup).2.2 _ hmem _ List.mem_cons_self rfl
      · exact h (next, nextValue) (by simp)

theorem readValue_object (fuel levels : ℕ) {body rest : List Char}
    (h : skipBlank body = '"' :: rest) :
    readValue (fuel + 1) (levels + 1) ('{' :: body) =
      readFields fuel levels [] ('"' :: rest) := by
  rw [readValue]
  simp only [h]
  rfl

theorem readBack_object {fields : List (WideText × Json)} (hnames : (fields.map (·.1)).Nodup)
    (h : ∀ field ∈ fields, ReadBack levels field.2) : ReadBack (levels + 1) (.object fields) := by
  refine ⟨fun spacing => ?_, fun spacing rest fuel _ hfuel => ?_⟩
  · cases fields <;> exact ⟨'{', _, rfl, rfl, by decide⟩
  cases fields with
  | nil => rfl
  | cons field fields =>
      obtain ⟨name, value⟩ := field
      set body := ':' :: ' ' :: (print spacing.deeper value ++
        (printFields spacing.deeper fields ++ (spacing.edge ++ '}' :: rest))) with hbody
      have hprinted : print spacing (.object ((name, value) :: fields)) ++ rest =
          '{' :: (spacing.deeper.edge ++ (printText name ++ body)) := by
        simp only [print, hbody, List.append_assoc, List.cons_append, List.nil_append]
      have hskip : skipBlank (spacing.deeper.edge ++ (printText name ++ body)) =
          printText name ++ body := by
        rw [skipBlank_append (isBlank_edge _), printText_append, skipBlank_cons rfl]
      simp only [print, List.length_append, List.length_cons, List.length_nil] at hfuel
      obtain ⟨fuel, rfl⟩ := Nat.exists_eq_add_of_le' (show 2 ≤ fuel by omega)
      have hvalues : (print spacing.deeper value).length +
          (printFields spacing.deeper fields).length ≤ fuel := by omega
      rw [hprinted, readValue_object _ _ (hskip.trans (printText_append _ _)), ← printText_append,
        hbody, readFields_print h [] (by simpa using hnames) rest hvalues]
      rfl

/-! ## All values -/

theorem readBack_string (text : WideText) : ReadBack levels (.string text) := by
  refine ⟨fun _ => ⟨'"', _, rfl, rfl, by decide⟩, fun spacing rest fuel _ _ => ?_⟩
  rw [print, printText_append, readValue]
  simp only [readText_escaped, bind, Except.bind, pure, Except.pure]

theorem readBack_integer {n : ℤ} (h : (Nat.toDigits 10 n.natAbs).length ≤ maxIntegerDigits) :
    ReadBack levels (.integer n) := by
  refine ⟨fun spacing => ?_, fun spacing rest fuel hrest _ => readValue_integer fuel levels h hrest⟩
  obtain ⟨c, text, hcons, hc⟩ := exists_toString n
  have hdigit (d : Char) (hd : d.isDigit = false) (hsign : d ≠ '-') : c ≠ d := by
    rintro rfl
    rcases hc with rfl | hc
    · exact hsign rfl
    · rw [hd] at hc
      cases hc
  refine ⟨c, text, hcons, ?_, hdigit ']' rfl (by decide)⟩
  simp [isBlank, hdigit ' ' rfl (by decide), hdigit '\t' rfl (by decide),
    hdigit '\n' rfl (by decide), hdigit '\r' rfl (by decide)]

theorem LosslessIn.readBack {value : Json} (h : LosslessIn levels value) :
    ReadBack levels value := by
  induction h with
  | null => exact ⟨fun _ => ⟨'n', _, rfl, rfl, by decide⟩, fun _ _ _ _ _ => rfl⟩
  | bool value =>
      cases value with
      | false => exact ⟨fun _ => ⟨'f', _, rfl, rfl, by decide⟩, fun _ _ _ _ _ => rfl⟩
      | true => exact ⟨fun _ => ⟨'t', _, rfl, rfl, by decide⟩, fun _ _ _ _ _ => rfl⟩
  | integer h => exact readBack_integer h
  | string text => exact readBack_string text
  | array _ ih => exact readBack_array ih
  | object hnames _ ih => exact readBack_object hnames ih

/-- A document with a value is read as that value. -/
theorem readDocument_print {value : Json} (h : Lossless value) (spacing : Spacing) :
    readDocument (print spacing value) = .ok value := by
  have hskip := h.readBack.skipBlank spacing []
  have hread := h.readBack.read spacing [] (2 * (print spacing value).length) (by simp [Closes])
    (by omega)
  rw [List.append_nil] at hskip hread
  rw [readDocument, hskip, hread]
  rfl

/-! ## The characters of a document -/

/-- A line feed or a printable character of ASCII. -/
def IsPlain (c : Char) : Prop := c = '\n' ∨ ' ' ≤ c ∧ c ≤ '~'

instance : DecidablePred IsPlain := fun _ => inferInstanceAs (Decidable (_ ∨ _))

theorem IsPlain.toNat_lt {c : Char} (h : IsPlain c) : c.toNat < 128 := by
  rcases h with rfl | h
  · decide
  · exact Text.toNat_lt_of_le h.2

theorem not_isPlain_return : ¬ IsPlain '\r' := by
  decide

theorem isPlain_of_all {text : List Char} (h : text.all (IsPlain ·) = true) :
    ∀ c ∈ text, IsPlain c := by
  simpa using h

theorem isPlain_printText (text : WideText) : ∀ c ∈ printText text, IsPlain c :=
  fun c hc => .inr (printText_ascii text c hc)

theorem isPlain_toDigits (n : ℕ) : ∀ c ∈ Nat.toDigits 10 n, IsPlain c := by
  intro c hc
  have hdigit : c.isDigit = true := Nat.isDigit_of_mem_toDigits (by decide) (by decide) hc
  simp only [Char.isDigit, Bool.and_eq_true, decide_eq_true_eq] at hdigit
  exact .inr ⟨Char.le_trans (by decide : ' ' ≤ '0') hdigit.1,
    Char.le_trans hdigit.2 (by decide : '9' ≤ '~')⟩

theorem isPlain_toString (n : ℤ) : ∀ c ∈ (toString n).toList, IsPlain c := by
  obtain ⟨negative, -, htext⟩ := toList_toString n
  rw [htext, List.forall_mem_append]
  refine ⟨?_, isPlain_toDigits n.natAbs⟩
  cases negative <;> exact isPlain_of_all rfl

theorem isPlain_margin {margin : ℕ} : ∀ c ∈ List.replicate margin ' ', IsPlain c := by
  intro c hc
  rw [List.eq_of_mem_replicate hc]
  decide

theorem isPlain_edge (spacing : Spacing) : ∀ c ∈ spacing.edge, IsPlain c := by
  cases spacing with
  | oneLine => exact nofun
  | lines margin => exact List.forall_mem_cons.mpr ⟨by decide, isPlain_margin⟩

theorem isPlain_between (spacing : Spacing) : ∀ c ∈ spacing.between, IsPlain c := by
  cases spacing with
  | oneLine => exact isPlain_of_all rfl
  | lines margin =>
      exact List.forall_mem_cons.mpr
        ⟨by decide, List.forall_mem_cons.mpr ⟨by decide, isPlain_margin⟩⟩

theorem isPlain_printItems {spacing : Spacing} {items : List Json}
    (h : ∀ item ∈ items, ∀ c ∈ print spacing item, IsPlain c) :
    ∀ c ∈ printItems spacing items, IsPlain c := by
  induction items with
  | nil => exact nofun
  | cons item items ih =>
      rw [List.forall_mem_cons] at h
      simp only [printItems, List.forall_mem_append]
      exact ⟨⟨isPlain_between spacing, h.1⟩, ih h.2⟩

theorem isPlain_printFields {spacing : Spacing} {fields : List (WideText × Json)}
    (h : ∀ field ∈ fields, ∀ c ∈ print spacing field.2, IsPlain c) :
    ∀ c ∈ printFields spacing fields, IsPlain c := by
  induction fields with
  | nil => exact nofun
  | cons field fields ih =>
      rw [List.forall_mem_cons] at h
      simp only [printFields, List.forall_mem_append]
      exact ⟨⟨⟨⟨isPlain_between spacing, isPlain_printText field.1⟩, isPlain_of_all rfl⟩, h.1⟩,
        ih h.2⟩

/-- What is written for a value can be kept in any file of text. -/
theorem isPlain_print {value : Json} (h : LosslessIn levels value) :
    ∀ spacing, ∀ c ∈ print spacing value, IsPlain c := by
  induction h with
  | null => exact fun _ => isPlain_of_all (by decide : "null".toList.all (IsPlain ·) = true)
  | bool value =>
      cases value with
      | false => exact fun _ => isPlain_of_all (by decide : "false".toList.all (IsPlain ·) = true)
      | true => exact fun _ => isPlain_of_all (by decide : "true".toList.all (IsPlain ·) = true)
  | integer => exact fun _ => isPlain_toString _
  | string text => exact fun _ => isPlain_printText text
  | @array _ items _ ih =>
      intro spacing
      cases items with
      | nil => exact isPlain_of_all (by decide : ['[', ']'].all (IsPlain ·) = true)
      | cons item items =>
          rw [List.forall_mem_cons] at ih
          simp only [print, List.forall_mem_append]
          exact ⟨⟨⟨⟨⟨isPlain_of_all rfl, isPlain_edge _⟩, ih.1 _⟩,
            isPlain_printItems fun item hitem => ih.2 item hitem _⟩, isPlain_edge _⟩,
            isPlain_of_all rfl⟩
  | @object _ fields _ _ ih =>
      intro spacing
      cases fields with
      | nil => exact isPlain_of_all (by decide : ['{', '}'].all (IsPlain ·) = true)
      | cons field fields =>
          rw [List.forall_mem_cons] at ih
          simp only [print, List.forall_mem_append]
          exact ⟨⟨⟨⟨⟨⟨⟨isPlain_of_all rfl, isPlain_edge _⟩, isPlain_printText _⟩,
            isPlain_of_all rfl⟩, ih.1 _⟩,
            isPlain_printFields fun field hfield => ih.2 field hfield _⟩, isPlain_edge _⟩,
            isPlain_of_all rfl⟩

/-- The mark that encodings start with does not stand at the start of what is written. -/
theorem read_print {value : Json} (h : Lossless value) (spacing : Spacing) :
    read (print spacing value) = .ok value := by
  have hhead : (print spacing value).head? ≠ some (Char.ofNat 0xfeff) := by
    intro hmark
    have hplain := isPlain_print h spacing _ (List.mem_of_head? hmark)
    exact absurd hplain (by decide)
  rw [read, if_neg hhead, readDecoded, readDocument_print h]
  rfl

/-! ## The bytes of a document -/

/-- Bytes of ASCII without zeros are taken for UTF-8. -/
theorem guess_of_ascii {bytes : List UInt8} (h : ∀ b ∈ bytes, b ≠ 0 ∧ b < 0x80) :
    Encoding.guess bytes = .utf8 := by
  unfold Encoding.guess
  split
  · simp only [List.forall_mem_cons] at h
    rw [if_neg h.1.1, if_neg h.2.1.1]
  · simp only [List.forall_mem_cons] at h
    rw [if_neg h.1.1, if_neg h.2.1.1]
  · rfl

theorem detect_of_ascii {bytes : List UInt8} (h : ∀ b ∈ bytes, b ≠ 0 ∧ b < 0x80) :
    Encoding.detect bytes = (.utf8, bytes) := by
  have hhead (b : UInt8) (hb : ¬ (b ≠ 0 ∧ b < 0x80)) : b ∉ bytes := fun hmem => hb (h b hmem)
  unfold Encoding.detect
  split
  · exact absurd List.mem_cons_self (hhead 0x00 (by decide))
  · exact absurd List.mem_cons_self (hhead 0xff (by decide))
  · exact absurd List.mem_cons_self (hhead 0xfe (by decide))
  · exact absurd List.mem_cons_self (hhead 0xff (by decide))
  · exact absurd List.mem_cons_self (hhead 0xef (by decide))
  · rw [guess_of_ascii h]

/-- What is written for a value is read from its bytes. -/
theorem decode?_print {value : Json} (h : Lossless value) (spacing : Spacing) :
    decode? (Text.Utf8.encode (print spacing value)) = some (print spacing value) := by
  have hascii : ∀ b ∈ Text.Utf8.encode (print spacing value), b ≠ 0 ∧ b < 0x80 := by
    intro b hb
    obtain ⟨c, hc, hb⟩ := List.mem_flatMap.mp hb
    have hplain := isPlain_print h spacing c hc
    have hbytes : IsPlain c → ∀ b ∈ Text.Utf8.encodeChar c, b ≠ 0 ∧ b < 0x80 :=
      Text.of_forall_ascii
        (P := fun c => IsPlain c → ∀ b ∈ Text.Utf8.encodeChar c, b ≠ 0 ∧ b < 0x80)
        (by decide +kernel) c hplain.toNat_lt
    exact hbytes hplain b hb
  rw [decode?, detect_of_ascii hascii]
  simp only [Text.Utf8.decodePassingSurrogates_encode]
  rfl

end SmartDevice.Json
