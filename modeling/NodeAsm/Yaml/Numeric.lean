import NodeAsm.Text.Numeral

/-!
# Numbers in YAML scalars

Which plain texts denote integers and floating point numbers. Integers may be
decimal, binary, octal or hexadecimal and have sixty-four bits; a text that
reads as a number too large for a double is no number.
-/

namespace NodeAsm.Yaml

/-- The magnitude of the least integer of sixty-four signed bits. -/
def signBit : Nat := 0x8000000000000000

/-- The number of integers of sixty-four bits. -/
def wordSize : Nat := 0x10000000000000000

/-- A letter in lower case. -/
def lowerByte (b : UInt8) : UInt8 :=
  if 0x41 ≤ b && b ≤ 0x5A then b + 0x20 else b

/-- The magnitude of an unsigned numeral whose base is told by its first
characters: `0x`, `0o`, `0b`, a leading zero for octal, or decimal. -/
def magnitude? : Text → Option Nat
  | [] => none
  | 0x30 :: rest =>
      match rest with
      | [] => some 0
      | [_] => Numeral.valueInBase? 8 rest
      | mark :: digits =>
          if lowerByte mark = 0x78 then Numeral.valueInBase? 16 digits
          else if lowerByte mark = 0x6F then Numeral.valueInBase? 8 digits
          else if lowerByte mark = 0x62 then Numeral.valueInBase? 2 digits
          else Numeral.valueInBase? 8 rest
  | digits => Numeral.valueInBase? 10 digits

/-- The value of a numeral of sixty-four signed bits, or of sixty-four unsigned
bits without a sign. -/
def prefixedInteger? (t : Text) : Option Int := do
  let (negative, rest) := Numeral.splitSign t
  let n ← magnitude? rest
  if negative then (if n ≤ signBit then some (-n) else none)
  else if n < signBit || (rest.length = t.length && n < wordSize) then some n
  else none

/-- The value of digits of `base` behind an opening text, if it fits into
sixty-four bits. The digits may carry a sign of their own. -/
def markedInteger? (base : Nat) (opening t : Text) : Option Int :=
  if opening.isPrefixOf t then
    let digits := t.drop opening.length
    Numeral.signedInBase? base digits <|> do
      let n ← Numeral.valueInBase? base digits
      if n < wordSize then some n else none
  else none

/-- The value of digits of `base` behind a minus and an opening text, if it fits
into sixty-four bits. -/
def negativeMarkedInteger? (base : Nat) (opening t : Text) : Option Int :=
  if opening.isPrefixOf t then do
    let n ← Numeral.valueInBase? base (t.drop opening.length)
    if n ≤ signBit then some (-n) else none
  else none

/-- The integer that a text without underscores denotes by its base mark. -/
def basedInteger? (t : Text) : Option Int :=
  markedInteger? 2 "0b" t <|> negativeMarkedInteger? 2 "-0b" t
    <|> markedInteger? 8 "0o" t <|> negativeMarkedInteger? 8 "-0o" t

/-! ## Floating point numbers -/

/-- A decimal number: its digits without the point, and the power of ten of the
last one. -/
structure Decimal where
  digits : Text
  exponent : Int
  deriving DecidableEq, Repr

/-- The exponent at the end of a decimal number. An empty text stands for
none. -/
def exponent? : Text → Option Int
  | [] => some 0
  | mark :: rest =>
      if lowerByte mark = 0x65 then
        let (negative, digits) := Numeral.splitSign rest
        if digits.isEmpty || !digits.all Numeral.isDigit then none
        else
          let n : Int := Numeral.value digits
          some (if negative then -n else n)
      else none

/-- An unsigned decimal number with a digit in front of the point or behind it. -/
def decimal? (t : Text) : Option Decimal :=
  let whole := t.takeWhile Numeral.isDigit
  match t.dropWhile Numeral.isDigit with
  | 0x2E :: rest =>
      let fraction := rest.takeWhile Numeral.isDigit
      if whole.isEmpty && fraction.isEmpty then none
      else do
        let e ← exponent? (rest.dropWhile Numeral.isDigit)
        some ⟨whole ++ fraction, e - fraction.length⟩
  | rest =>
      if whole.isEmpty then none
      else do
        let e ← exponent? rest
        some ⟨whole, e⟩

/-- The least number that rounds to a value past the largest double. -/
def doubleBound : Nat :=
  Nat.pow 2 1024 - Nat.pow 2 970

/-- Whether a decimal number is small enough for a double. The size of the
exponent is looked at first, so that no huge power is computed. -/
def Decimal.fitsDouble (d : Decimal) : Bool :=
  let digits := d.digits.dropWhile (· == 0x30)
  let size : Int := digits.length + d.exponent
  if digits.isEmpty || size < 300 then true
  else if size > 320 then false
  else if d.exponent ≥ 0 then Numeral.value digits * Nat.pow 10 d.exponent.toNat < doubleBound
  else Numeral.value digits < doubleBound * Nat.pow 10 (-d.exponent).toNat

/-- Whether a text without underscores denotes a floating point number. -/
def isFloat (t : Text) : Bool :=
  match decimal? (Numeral.splitSign t).2 with
  | some d => d.fitsDouble
  | none => false

/-- Whether every underscore stands between two digits. `afterDigit` says
whether a digit stands in front of the text. -/
def underscoresBetweenDigits (afterDigit : Bool) : Text → Bool
  | [] => true
  | b :: rest =>
      if b = 0x5F then
        afterDigit && (rest.head?.map Numeral.isDigit).getD false
          && underscoresBetweenDigits false rest
      else underscoresBetweenDigits (Numeral.isDigit b) rest

/-- Whether a text that starts with a point denotes a floating point number.
Underscores may stand between digits. -/
def isPointFloat (t : Text) : Bool :=
  underscoresBetweenDigits false t && isFloat (t.filter (· != 0x5F))

/-- Drops a run of minutes or seconds in base sixty: a colon, an optional digit
up to five and a digit. The first argument bounds the number of parts. -/
def dropSexagesimal : Nat → Text → Text
  | 0, t => t
  | bound + 1, t =>
      match t with
      | 0x3A :: a :: rest =>
          if Numeral.isDigit a then
            match rest with
            | b :: rest' =>
                if a ≤ 0x35 && Numeral.isDigit b then dropSexagesimal bound rest'
                else dropSexagesimal bound (b :: rest')
            | [] => []
          else t
      | _ => t

/-- Whether a text is a number in base sixty such as `1:30`, which older readers
accept. -/
def isSexagesimal (t : Text) : Bool :=
  let number := (Numeral.splitSign t).2
  match number with
  | [] => false
  | d :: rest =>
      if Numeral.isDigit d then
        let tail := rest.dropWhile fun b => Numeral.isDigit b || b == 0x5F
        let behind := dropSexagesimal tail.length tail
        if behind.length = tail.length then false
        else
          match behind with
          | [] => true
          | 0x2E :: fraction => fraction.all fun b => Numeral.isDigit b || b == 0x5F
          | _ => false
      else false

end NodeAsm.Yaml
