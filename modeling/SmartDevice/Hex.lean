/-! Bytes and numbers as hexadecimal digits. -/

namespace SmartDevice.Hex

inductive Letters where
  | lower
  | upper
  deriving DecidableEq

/-- The digit of a number below sixteen. -/
def digit (letters : Letters) (n : Nat) : Char :=
  if n < 10 then Char.ofNat (48 + n)
  else match letters with
    | .lower => Char.ofNat (87 + n)
    | .upper => Char.ofNat (55 + n)

def digitValue? (c : Char) : Option Nat :=
  if '0' ≤ c ∧ c ≤ '9' then some (c.toNat - 48)
  else if 'a' ≤ c ∧ c ≤ 'f' then some (c.toNat - 87)
  else if 'A' ≤ c ∧ c ≤ 'F' then some (c.toNat - 55)
  else none

def isDigit (c : Char) : Bool := (digitValue? c).isSome

/-- Two digits a byte, the high half first. -/
def encode (letters : Letters) (bytes : List UInt8) : List Char :=
  bytes.flatMap fun b => [digit letters (b.toNat / 16), digit letters (b.toNat % 16)]

/-- Reads digits of either case; an odd digit at the end is refused. -/
def decode? : List Char → Option (List UInt8)
  | [] => some []
  | [_] => none
  | high :: low :: rest => do
    let h ← digitValue? high
    let l ← digitValue? low
    let bytes ← decode? rest
    return UInt8.ofNat (16 * h + l) :: bytes

/-- The lowest `width` digits of a number, the most significant first. -/
def ofNat (width n : Nat) : List Char :=
  (List.range width).reverse.map fun i => digit .lower ((n >>> (4 * i)) % 16)

/-! ## Reading what was written -/

theorem digitValue?_digit (letters : Letters) {n : Nat} (h : n < 16) :
    digitValue? (digit letters n) = some n := by
  revert n
  cases letters <;> decide

theorem length_encode (letters : Letters) (bytes : List UInt8) :
    (encode letters bytes).length = 2 * bytes.length := by
  induction bytes with
  | nil => rfl
  | cons b rest ih =>
    change (_ :: _ :: encode letters rest).length = _
    simp only [List.length_cons, ih]
    omega

/-- What was written in letters of either case is read back. -/
theorem decode?_encode (letters : Letters) (bytes : List UInt8) :
    decode? (encode letters bytes) = some bytes := by
  induction bytes with
  | nil => rfl
  | cons b rest ih =>
    have high : b.toNat / 16 < 16 := by have := b.toNat_lt; omega
    have low : b.toNat % 16 < 16 := Nat.mod_lt _ (by decide)
    have whole : UInt8.ofNat (16 * (b.toNat / 16) + b.toNat % 16) = b := by
      rw [Nat.div_add_mod, UInt8.ofNat_toNat]
    change decode? (_ :: _ :: encode letters rest) = _
    simp only [decode?, digitValue?_digit _ high, digitValue?_digit _ low, ih, bind, pure,
      Option.bind_some, whole]

end SmartDevice.Hex
