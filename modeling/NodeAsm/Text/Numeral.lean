import NodeAsm.Text.Basic

/-!
# Numerals

Decimal and hexadecimal numerals of integers, the values of digit runs, and the
two ways in which a value is fitted into sixty-four bits: by clamping, as for a
literal operand, and by wrapping, as for sums.
-/

namespace NodeAsm.Numeral

/-! ## Writing -/

/-- The digit of `d` in a base up to sixteen, with letters in lower case. -/
def lowerDigit (d : Nat) : UInt8 :=
  if d < 10 then UInt8.ofNat (0x30 + d) else UInt8.ofNat (0x57 + d)

/-- The digit of `d` in a base up to sixteen, with letters in upper case. -/
def upperDigit (d : Nat) : UInt8 :=
  if d < 10 then UInt8.ofNat (0x30 + d) else UInt8.ofNat (0x37 + d)

/-- Puts the decimal digits of `n` in front of `tail`, the last digit first.
The first argument bounds the number of digits. -/
def digitsOnto : Nat → Nat → Text → Text
  | 0, _, tail => tail
  | bound + 1, n, tail =>
      if n < 10 then lowerDigit n :: tail
      else digitsOnto bound (n / 10) (lowerDigit (n % 10) :: tail)

/-- The decimal numeral of a natural number, without leading zeros. -/
def ofNat (n : Nat) : Text :=
  digitsOnto (n + 1) n []

/-- The decimal numeral of an integer, with a minus sign if it is negative. -/
def ofInt (n : Int) : Text :=
  if n < 0 then 0x2D :: ofNat n.natAbs else ofNat n.natAbs

/-- The decimal numeral of an integer with its sign always written. -/
def signed (n : Int) : Text :=
  if n < 0 then ofInt n else 0x2B :: ofInt n

/-- The last `width` hexadecimal digits of `n`, each written by `digit`. -/
def hexWith (digit : Nat → UInt8) : Nat → Nat → Text
  | 0, _ => []
  | width + 1, n => hexWith digit width (n / 16) ++ [digit (n % 16)]

@[simp]
theorem length_hexWith (digit : Nat → UInt8) (width n : Nat) :
    (hexWith digit width n).length = width := by
  induction width generalizing n with
  | zero => rfl
  | succ width inductionHypothesis => simp [hexWith, inductionHypothesis]

/-- The last `width` hexadecimal digits of `n` in lower case. -/
def hex (width n : Nat) : Text :=
  hexWith lowerDigit width n

@[simp]
theorem length_hex (width n : Nat) : (hex width n).length = width :=
  length_hexWith lowerDigit width n

/-- The last `width` hexadecimal digits of `n` in upper case. -/
def upperHex (width n : Nat) : Text :=
  hexWith upperDigit width n

/-! ## Reading -/

/-- Whether a byte is an ASCII decimal digit. -/
def isDigit (b : UInt8) : Bool :=
  0x30 ≤ b && b ≤ 0x39

/-- The value of a digit in bases up to thirty-six. -/
def digitValue? (b : UInt8) : Option Nat :=
  if 0x30 ≤ b && b ≤ 0x39 then some (b.toNat - 0x30)
  else if 0x61 ≤ b && b ≤ 0x7A then some (b.toNat - 0x57)
  else if 0x41 ≤ b && b ≤ 0x5A then some (b.toNat - 0x37)
  else none

/-- The number that a run of decimal digits denotes. -/
def value (digits : Text) : Nat :=
  digits.foldl (fun v b => 10 * v + (b.toNat - 0x30)) 0

/-- The number that a nonempty run of digits of `base` denotes. -/
def valueInBase? (base : Nat) (digits : Text) : Option Nat :=
  if digits.isEmpty then none
  else
    digits.foldl
      (fun v b => do
        let v ← v
        let d ← digitValue? b
        if d < base then some (base * v + d) else none)
      (some 0)

/-! ## Sixty-four bits -/

/-- The least integer of sixty-four signed bits. -/
def minInt64 : Int := -0x8000000000000000

/-- The greatest integer of sixty-four signed bits. -/
def maxInt64 : Int := 0x7FFFFFFFFFFFFFFF

/-- The nearest integer of sixty-four signed bits. -/
def clamp64 (n : Int) : Int :=
  max minInt64 (min maxInt64 n)

/-- The integer of sixty-four signed bits congruent to `n`. -/
def wrap64 (n : Int) : Int :=
  n.bmod 0x10000000000000000

/-- Whether an integer has sixty-four signed bits. -/
def fits64 (n : Int) : Bool :=
  minInt64 ≤ n && n ≤ maxInt64

/-- Splits an optional sign from a text: whether it is a minus, and the rest. -/
def splitSign : Text → Bool × Text
  | [] => (false, [])
  | b :: rest =>
      if b = 0x2D then (true, rest)
      else if b = 0x2B then (false, rest)
      else (false, b :: rest)

/-- Reads an optional sign and digits of `base` as an integer of sixty-four
signed bits. -/
def signedInBase? (base : Nat) (t : Text) : Option Int := do
  let (negative, digits) := splitSign t
  let magnitude ← valueInBase? base digits
  let n : Int := if negative then -magnitude else magnitude
  if fits64 n then some n else none

/-- Reads an optional sign and decimal digits as an integer of sixty-four
signed bits. -/
def int64? (t : Text) : Option Int :=
  signedInBase? 10 t

end NodeAsm.Numeral
