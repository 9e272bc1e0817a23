/-! Blank characters, and trimming them from both ends of a text. -/

namespace SmartDevice.Text

/-- White space of every script, with the four information separators among the controls. -/
def isBlank (c : Char) : Bool :=
  let n := c.toNat
  (9 ≤ n && n ≤ 13) || (28 ≤ n && n ≤ 32) || n == 0x85 || n == 0xa0 || n == 0x1680 ||
    (0x2000 ≤ n && n ≤ 0x200a) || n == 0x2028 || n == 0x2029 || n == 0x202f || n == 0x205f ||
    n == 0x3000

/-- Drops the characters of a class from both ends. -/
def stripWhere (p : Char → Bool) (text : List Char) : List Char :=
  ((text.dropWhile p).reverse.dropWhile p).reverse

def strip (text : List Char) : List Char := stripWhere isBlank text

end SmartDevice.Text
