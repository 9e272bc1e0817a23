import SmartDevice.Decimal.Basic

/-! The text of a number that is kept in 64 bits: the fewest digits that read back as the same
number, and of those the nearest. -/

namespace SmartDevice.Decimal

/-! ## Binary values -/

/-- A positive value `mantissa · 2 ^ exponent`. -/
structure Binary where
  mantissa : Nat
  exponent : Int
  /-- The value below is only half as far away as the value above. -/
  narrowBelow : Bool

/-- The positive finite value with these bits; zero has no digits. -/
def Binary.ofBits (bits : UInt64) : Binary :=
  let field := ((bits >>> 52) &&& 0x7ff).toNat
  let fraction := (bits &&& 0xfffffffffffff).toNat
  if field = 0 then { mantissa := fraction, exponent := -1074, narrowBelow := false }
  else
    { mantissa := 0x10000000000000 + fraction, exponent := (field : Int) - 1075,
      narrowBelow := fraction == 0 && 1 < field }

/-- The power of ten with a whole exponent; a negative one counts as zero. -/
def tens (exponent : Int) : Nat := Nat.pow 10 exponent.toNat

/-- The power of two with a whole exponent; a negative one counts as zero. -/
def twos (exponent : Int) : Nat := Nat.pow 2 exponent.toNat

/-- Compares `a · 10 ^ i` with `b · 2 ^ j`. -/
def compareScaled (a : Nat) (i : Int) (b : Nat) (j : Int) : Ordering :=
  compare (a * tens i * twos (-j)) (b * twos j * tens (-i))

/-- The decimal lies among the reals that are rounded to the value; the ends count for an even
mantissa. -/
def Binary.readsBack (x : Binary) (digits : Nat) (scale : Int) : Bool :=
  let low := if x.narrowBelow then 4 * x.mantissa - 1 else 4 * x.mantissa - 2
  let high := 4 * x.mantissa + 2
  let ends := x.mantissa % 2 == 0
  let fromLow := compareScaled digits scale low (x.exponent - 2)
  let toHigh := compareScaled digits scale high (x.exponent - 2)
  (fromLow == .gt || (ends && fromLow == .eq)) && (toHigh == .lt || (ends && toHigh == .eq))

/-- The value over a power of ten, rounded down. -/
def Binary.scaledDown (x : Binary) (scale : Int) : Nat :=
  (x.mantissa * twos x.exponent * tens (-scale)) / (twos (-x.exponent) * tens scale)

/-! ## Shortest digits -/

/-- The least power of ten above the value. -/
def Binary.magnitude (x : Binary) : Int :=
  let guess := ((x.mantissa.log2 : Int) + x.exponent) * 30103 / 100000 - 1
  let above := fun (step : Nat) => compareScaled 1 (guess + step) x.mantissa x.exponent == .gt
  guess + ((List.range 4).find? above).getD 4

/-- The digits on the grid of one power of ten: of the two neighbours of the value those that read
back, the nearer one, and the even one on a tie. -/
def Binary.onGrid? (x : Binary) (scale : Int) : Option Nat :=
  let below := x.scaledDown scale
  match x.readsBack below scale, x.readsBack (below + 1) scale with
  | true, true =>
    match compareScaled (2 * below + 1) scale (2 * x.mantissa) x.exponent with
    | .gt => some below
    | .lt => some (below + 1)
    | .eq => some (if below % 2 = 0 then below else below + 1)
  | true, false => some below
  | false, true => some (below + 1)
  | false, false => none

/-- Digits and the power of ten of the last one. Seventeen digits always read back. -/
def Binary.shortest (x : Binary) : Nat × Int :=
  let withDigits := fun (count : Nat) =>
    let scale := x.magnitude - (count + 1)
    (x.onGrid? scale).map (·, scale)
  ((List.range 17).findSome? withDigits).getD (x.scaledDown x.exponent, x.exponent)

/-! ## Layout -/

/-- Digits with a point: positional from `0.0001` on and below `10 ^ 16`, else with an exponent of
two digits or more. -/
def layout (digits : List Char) (scale : Int) : List Char :=
  let point : Int := digits.length + scale
  if -4 < point ∧ point ≤ 16 then
    if point ≤ 0 then ['0', '.'] ++ List.replicate (-point).toNat '0' ++ digits
    else if 0 ≤ scale then digits ++ List.replicate scale.toNat '0' ++ ['.', '0']
    else digits.take point.toNat ++ ['.'] ++ digits.drop point.toNat
  else
    let power := (Nat.toDigits 10 (point - 1).natAbs)
    let fraction := if digits.length = 1 then [] else '.' :: digits.drop 1
    digits.take 1 ++ fraction ++ ['e', if point - 1 < 0 then '-' else '+'] ++
      List.replicate (2 - power.length) '0' ++ power

/-- Digits without the zeros at their end, and the power of ten of the last one. -/
def withoutZeros (digits : List Char) (scale : Int) : List Char × Int :=
  let zeros := (digits.reverse.takeWhile (· == '0')).length
  (digits.take (digits.length - zeros), scale + zeros)

/-- The bits of the nearest 64-bit number; past the largest one that is infinity. -/
def nearestBits (digits : Nat) (exponent : Int) : UInt64 :=
  let point := (Nat.toDigits 10 digits).length + exponent
  if digits = 0 ∨ point < -400 then 0
  else if 400 < point then (1.0 / 0.0 : Float).toBits
  else (Float.ofScientific digits (exponent < 0) exponent.natAbs).toBits

def toText : Decimal → List Char
  | finite negative digits exponent =>
    let bits := nearestBits digits exponent
    let sign := if negative then ['-'] else []
    if bits = 0 then sign ++ ['0', '.', '0']
    else if bits = (1.0 / 0.0 : Float).toBits then sign ++ ['i', 'n', 'f']
    else
      let (shortest, scale) := (Binary.ofBits bits).shortest
      let (digits, scale) := withoutZeros (Nat.toDigits 10 shortest) scale
      sign ++ layout digits scale
  | infinite negative => (if negative then ['-'] else []) ++ ['i', 'n', 'f']
  | notANumber => ['n', 'a', 'n']

end SmartDevice.Decimal
