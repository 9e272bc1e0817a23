/-! Cutting a text at every occurrence of a character or unit. -/

namespace SmartDevice.Text

/-- The pieces between the marks; there is one more than there are marks. -/
def split [DecidableEq α] (mark : α) : List α → List (List α)
  | [] => [[]]
  | c :: rest =>
    match split mark rest with
    | [] => [[c]]
    | piece :: pieces => if c = mark then [] :: piece :: pieces else (c :: piece) :: pieces

theorem split_ne_nil [DecidableEq α] (mark : α) (text : List α) : split mark text ≠ [] := by
  cases text with
  | nil => simp [split]
  | cons c rest => unfold split; grind

/-- The pieces with the mark between them are the text. -/
theorem intercalate_split [DecidableEq α] (mark : α) (text : List α) :
    [mark].intercalate (split mark text) = text := by
  induction text with
  | nil => simp [split]
  | cons c rest ih =>
    unfold split
    split
    · next h => exact absurd h (split_ne_nil mark rest)
    · next piece pieces h =>
      rw [h] at ih
      split <;> cases pieces <;> simp_all [List.intercalate, List.intersperse]

/-- The text before the first mark, and the text after it if there is one. -/
def cut (mark : Char) (text : List Char) : List Char × Option (List Char) :=
  match text.dropWhile (· ≠ mark) with
  | [] => (text, none)
  | _ :: after => (text.takeWhile (· ≠ mark), some after)

end SmartDevice.Text
