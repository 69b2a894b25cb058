import NodeAsm.Yaml.Numeric

/-!
# Floating point numbers

Decimal texts as numbers of sixty-four bits, and the shortest decimal text that
is read as such a number. A finite number is a multiple of the least positive
one, so that all of this is arithmetic on natural numbers.
-/

namespace NodeAsm.Yaml

/-- A floating point number of sixty-four bits. -/
inductive Double where
  /-- A finite number. Its magnitude is counted in units of `2 ^ (-1074)`. -/
  | finite (negative : Bool) (units : Nat)
  | infinite (negative : Bool)
  | notNumber
  deriving DecidableEq, Repr

namespace Double

/-! ## Rounding -/

/-- The number of units in one. -/
def unitsInOne : Nat :=
  Nat.pow 2 1074

/-- The units of the number nearest to a quotient. It has at most fifty-three
binary digits; of two that are equally near the even one is taken. -/
def nearestUnits (numerator denominator : Nat) : Nat :=
  let scaled := numerator * unitsInOne
  let step := Nat.pow 2 ((scaled / denominator).log2 - 52)
  let divisor := denominator * step
  let count := scaled / divisor
  let rest := 2 * (scaled % divisor)
  if divisor < rest || (divisor = rest && count % 2 = 1) then (count + 1) * step
  else count * step

/-- The units of a decimal number. The size of its exponent is looked at first, so
that no huge power is computed. -/
def unitsOf (d : Decimal) : Nat :=
  let digits := d.digits.dropWhile (· == 0x30)
  if digits.isEmpty || digits.length + d.exponent < -330 then 0
  else if d.exponent ≥ 0 then
    nearestUnits (Numeral.value digits * Nat.pow 10 d.exponent.toNat) 1
  else nearestUnits (Numeral.value digits) (Nat.pow 10 (-d.exponent).toNat)

/-- The number nearest to an integer. -/
def ofInt (n : Int) : Double :=
  .finite (n < 0) (nearestUnits n.natAbs 1)

/-- The number that a text denotes. -/
def ofText (t : Text) : Double :=
  let (negative, rest) := Numeral.splitSign (t.filter (· != 0x5F))
  match decimal? rest with
  | some d => .finite negative (unitsOf d)
  | none => if (rest.map lowerByte) = ".inf" then .infinite negative else .notNumber

/-! ## Writing -/

/-- A power of ten that makes every positive number greater than one. -/
def magnifier : Nat :=
  Nat.pow 10 400

/-- How many decimal digits a positive number has in front of the point. It is
negative if zeros follow the point. -/
def pointPlace (units : Nat) : Int :=
  (Numeral.ofNat (units * magnifier / unitsInOne)).length - 400

/-- The units of `digits` as a decimal number with its point at `place` behind
`count` digits. -/
def readBack (place : Int) (count digits : Nat) : Nat :=
  nearestUnits (digits * Nat.pow 10 (400 + place - count).toNat) magnifier

/-- The `count` decimal digits nearest to a positive number with its point at
`place` among those that are read as that number. Of two that are equally near
the even ones are taken. -/
def digits? (units : Nat) (place : Int) (count : Nat) : Option Nat :=
  let scaled := units * Nat.pow 10 (400 + count - place).toNat
  let divisor := unitsInOne * magnifier
  let lower := scaled / divisor
  let rest := 2 * (scaled % divisor)
  let candidates :=
    if divisor < rest || (divisor = rest && lower % 2 = 1) then [lower + 1, lower]
    else [lower, lower + 1]
  candidates.find? fun n => readBack place count n = units

/-- The shortest decimal number that is read as a positive number. Seventeen digits
are always enough. -/
def shortest (units : Nat) : Decimal :=
  let place := pointPlace units
  let found := (List.range 18).findSome? fun count =>
    (digits? units place count).map fun n => (count, n)
  let (count, n) := found.getD (0, 0)
  let digits := Numeral.ofNat n
  let kept := digits.dropRightWhile (· == 0x30)
  ⟨kept, place - count + (digits.length - kept.length)⟩

/-- The exponent of a number behind its digits, of at least two digits. -/
def exponentText (n : Int) : Text :=
  let digits := Numeral.ofNat n.natAbs
  let sign : Text := if n < 0 then "e-" else "e+"
  if digits.length < 2 then sign ++ "0" ++ digits else sign ++ digits

/-- `n` zeros. -/
def zeros (n : Nat) : Text :=
  List.replicate n 0x30

/-- Digits with a point behind the first `place` of them, unless all of them stand
in front of it. -/
def pointed (digits : Text) (place : Nat) : Text :=
  let fraction := digits.drop place
  if fraction.isEmpty then digits else digits.take place ++ 0x2E :: fraction

/-- A decimal number. It has an exponent if that is less than -4 or more than
five. -/
def decimalText (d : Decimal) : Text :=
  let place := d.digits.length + d.exponent
  let exponent := place - 1
  if exponent < -4 || 6 ≤ exponent then pointed d.digits 1 ++ exponentText exponent
  else if place ≤ 0 then pointed (zeros ((-place).toNat + 1) ++ d.digits) 1
  else pointed (d.digits ++ zeros d.exponent.toNat) place.toNat

/-- A number in a message. -/
def text : Double → Text
  | finite negative units =>
      let sign : Text := if negative then "-" else []
      let magnitude : Text := if units = 0 then "0" else decimalText (shortest units)
      sign ++ magnitude
  | infinite negative => if negative then "-Inf" else "+Inf"
  | notNumber => "NaN"

/-- Whether two numbers are equal. Zero has no sign here, and what is no number
differs from everything. -/
def equal : Double → Double → Bool
  | notNumber, _ => false
  | finite m a, finite n b => a = b && (m = n || a = 0)
  | a, b => a = b

/-- Whether a number comes before another. What is no number comes first. -/
def before : Double → Double → Bool
  | notNumber, other => other ≠ notNumber
  | _, notNumber => false
  | infinite negative, other => negative && other ≠ infinite true
  | _, infinite negative => !negative
  | finite m a, finite n b =>
      (if m then -(a : Int) else a) < (if n then -(b : Int) else b)

end Double

end NodeAsm.Yaml
