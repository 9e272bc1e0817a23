import SmartDevice.Text.Case

/-! Texts in lower case. Two letters need more than a table: a capital sigma has another form at the
end of a word, and a dotted capital i becomes two characters. -/

namespace SmartDevice.Text

/-- Whether a word goes on at the start of the text. -/
def continuesWord (text : List Char) : Bool :=
  ((text.dropWhile isCaseIgnorable).head?.map isCased).getD false

/-- One character in lower case; `final` tells whether a word ends with it. -/
def lowerChar (final : Bool) (c : Char) : List Char :=
  if c = 'Σ' then [if final then 'ς' else 'σ']
  else if c = 'İ' then ['i', '\u0307']
  else [simpleLower c]

/-- Lower case of a text that goes on inside a word or outside. -/
def lowerFrom (insideWord : Bool) : List Char → List Char
  | [] => []
  | c :: rest =>
    lowerChar (insideWord && !continuesWord rest) c ++
      lowerFrom (if isCaseIgnorable c then insideWord else isCased c) rest

def lower (text : List Char) : List Char := lowerFrom false text

end SmartDevice.Text
