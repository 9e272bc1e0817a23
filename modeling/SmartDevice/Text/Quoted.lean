import SmartDevice.Text.Printable
import SmartDevice.Hex
import SmartDevice.WideText

/-! A text in quotes on one line: apostrophes around it unless it holds an apostrophe and no double
quote; what does not show is escaped. -/

namespace SmartDevice.Text

def quoteMark (text : List Char) : Char :=
  if text.contains '\'' && !text.contains '"' then '"' else '\''

/-- One character inside quotes of the given kind. -/
def escape (mark c : Char) : List Char :=
  if c = mark ∨ c = '\\' then ['\\', c]
  else if c = '\n' then ['\\', 'n']
  else if c = '\r' then ['\\', 'r']
  else if c = '\t' then ['\\', 't']
  else if isPrintable c then [c]
  else if c.toNat < 0x100 then ['\\', 'x'] ++ Hex.ofNat 2 c.toNat
  else if c.toNat < 0x10000 then ['\\', 'u'] ++ Hex.ofNat 4 c.toNat
  else ['\\', 'U'] ++ Hex.ofNat 8 c.toNat

/-- Half of a pair never shows. -/
def escapeMark (mark : Char) : WideText.Mark → List Char
  | .char c => escape mark c
  | .half unit => ['\\', 'u'] ++ Hex.ofNat 4 unit.toNat

def quotedMarks (marks : List WideText.Mark) : List Char :=
  let mark := quoteMark (marks.map WideText.Mark.shown)
  [mark] ++ marks.flatMap (escapeMark mark) ++ [mark]

def quoted (text : List Char) : List Char := quotedMarks (text.map .char)

end SmartDevice.Text
