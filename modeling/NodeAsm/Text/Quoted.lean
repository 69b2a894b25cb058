import NodeAsm.Text.Numeral
import NodeAsm.Text.Utf8
import NodeAsm.Unicode.Printable

/-!
# Quoted text

The form in which messages show text from the source: between quotes, on one
line, with every character that does not print written as an escape. Stray
bytes keep their value as two hexadecimal digits.
-/

namespace NodeAsm.Text

/-- The backslash. -/
def backslash : UInt8 := 0x5C

/-- The double quote. -/
def doubleQuote : UInt8 := 0x22

/-- The single quote. -/
def singleQuote : UInt8 := 0x27

/-- The letter that stands for a control character after a backslash. -/
def controlLetter? : Nat → Option UInt8
  | 0x07 => some 0x61
  | 0x08 => some 0x62
  | 0x0C => some 0x66
  | 0x0A => some 0x6E
  | 0x0D => some 0x72
  | 0x09 => some 0x74
  | 0x0B => some 0x76
  | _ => none

/-- A character as it stands between quotes of kind `mark`. -/
def escapeChar (mark : UInt8) (c : Char) : Text :=
  let n := c.toNat
  if n = mark.toNat || n = backslash.toNat then backslash :: ofChar c
  else if Unicode.isPrintable n then ofChar c
  else
    match controlLetter? n with
    | some letter => [backslash, letter]
    | none =>
        if n < 0x20 || n = 0x7F then backslash :: 0x78 :: Numeral.hex 2 n
        else if n < 0x10000 then backslash :: 0x75 :: Numeral.hex 4 n
        else backslash :: 0x55 :: Numeral.hex 8 n

/-- A glyph as it stands between quotes of kind `mark`. -/
def escapeGlyph (mark : UInt8) : Glyph → Text
  | .char c => escapeChar mark c
  | .stray b => backslash :: 0x78 :: Numeral.hex 2 b.toNat

/-- The text between double quotes. -/
def quote (t : Text) : Text :=
  doubleQuote :: t.glyphs.flatMap (escapeGlyph doubleQuote) ++ [doubleQuote]

/-- A character between single quotes. -/
def quoteChar (c : Char) : Text :=
  singleQuote :: escapeChar singleQuote c ++ [singleQuote]

end NodeAsm.Text
