import SmartDevice.Text.Split
import Mathlib.Data.List.Basic

/-! # Cutting a text and joining its pieces again -/

namespace SmartDevice.Text

variable {α : Type} [DecidableEq α] {mark : α}

theorem split_mark (mark : α) (rest : List α) :
    split mark (mark :: rest) = [] :: split mark rest := by
  rw [split]
  split
  · next h => exact absurd h (split_ne_nil mark rest)
  · next h => rw [if_pos rfl, h]

theorem split_of_not_mem {piece : List α} (h : mark ∉ piece) : split mark piece = [piece] := by
  induction piece with
  | nil => rfl
  | cons c piece ih =>
      rw [List.mem_cons, not_or] at h
      rw [split, ih h.2]
      exact if_neg (Ne.symm h.1)

theorem split_append_mark {piece : List α} (h : mark ∉ piece) (rest : List α) :
    split mark (piece ++ mark :: rest) = piece :: split mark rest := by
  induction piece with
  | nil => exact split_mark mark rest
  | cons c piece ih =>
      rw [List.mem_cons, not_or] at h
      rw [List.cons_append, split, ih h.2]
      exact if_neg (Ne.symm h.1)

theorem not_mem_of_mem_split (text : List α) : ∀ piece ∈ split mark text, mark ∉ piece := by
  induction text with
  | nil => simp [split]
  | cons c text ih =>
      rw [split]
      split
      · next h => exact absurd h (split_ne_nil mark text)
      · next piece pieces h =>
          rw [h, List.forall_mem_cons] at ih
          split
          · simpa using ih
          · next hc =>
              rw [List.forall_mem_cons]
              refine ⟨?_, ih.2⟩
              rw [List.mem_cons, not_or]
              exact ⟨Ne.symm hc, ih.1⟩

theorem mem_of_mem_split {c : α} (text : List α) :
    ∀ piece ∈ split mark text, c ∈ piece → c ∈ text := by
  induction text with
  | nil => simp [split]
  | cons d text ih =>
      rw [split]
      cases hsplit : split mark text with
      | nil => exact absurd hsplit (split_ne_nil mark text)
      | cons first pieces =>
          rw [hsplit] at ih
          grind

/-- Pieces without the mark are cut apart where they were joined. -/
theorem split_intercalate {pieces : List (List α)} (hne : pieces ≠ [])
    (h : ∀ piece ∈ pieces, mark ∉ piece) : split mark ([mark].intercalate pieces) = pieces := by
  induction pieces with
  | nil => exact absurd rfl hne
  | cons piece pieces ih =>
      rw [List.forall_mem_cons] at h
      cases pieces with
      | nil => simpa using split_of_not_mem h.1
      | cons next pieces =>
          rw [List.intercalate_cons_cons, List.append_assoc, List.singleton_append,
            split_append_mark h.1, ih (List.cons_ne_nil _ _) h.2]

/-- Marks at the start leave nothing between them. -/
theorem split_replicate_append (n : ℕ) (rest : List α) :
    split mark (List.replicate n mark ++ rest) = List.replicate n [] ++ split mark rest := by
  induction n with
  | zero => rfl
  | succ n ih =>
      rw [List.replicate_succ, List.cons_append, split_mark, ih, List.replicate_succ,
        List.cons_append]

omit [DecidableEq α] in
/-- A joined text starts as its first piece does. -/
theorem intercalate_eq_cons {piece : List α} (pieces : List (List α)) (hne : piece ≠ [])
    (h : mark ∉ piece) :
    ∃ c rest, [mark].intercalate (piece :: pieces) = c :: rest ∧ c ≠ mark := by
  obtain ⟨c, rest, rfl⟩ := List.exists_cons_of_ne_nil hne
  rw [List.mem_cons, not_or] at h
  refine ⟨c, ?_⟩
  cases pieces with
  | nil => exact ⟨rest, by simp, Ne.symm h.1⟩
  | cons next pieces =>
      rw [List.intercalate_cons_cons]
      exact ⟨_, rfl, Ne.symm h.1⟩

/-- A text is cut at its first mark. -/
theorem cut_append {mark : Char} {before : List Char} (h : mark ∉ before) (after : List Char) :
    cut mark (before ++ mark :: after) = (before, some after) := by
  have hkept : ∀ c ∈ before, decide (c ≠ mark) = true := by
    intro c hc
    simpa using fun heq : c = mark => h (heq ▸ hc)
  have hdrop : (before ++ mark :: after).dropWhile (· ≠ mark) = mark :: after := by
    rw [List.dropWhile_append_of_pos hkept, List.dropWhile_cons_of_neg (by simp)]
  have htake : (before ++ mark :: after).takeWhile (· ≠ mark) = before := by
    rw [List.takeWhile_append_of_pos hkept, List.takeWhile_cons_of_neg (by simp), List.append_nil]
  simp only [cut, hdrop, htake]

end SmartDevice.Text
