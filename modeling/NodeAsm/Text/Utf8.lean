import NodeAsm.Text.Basic
import NodeAsm.Unicode.Basic

/-!
# Reading bytes as UTF-8

A text decodes to glyphs: characters, and single stray bytes wherever no valid
UTF-8 sequence starts. Decoding forgets nothing, since a character has one
encoding and a stray byte stands for itself.
-/

namespace NodeAsm.Text

/-- One unit of decoded text. -/
inductive Glyph where
  /-- A character in valid UTF-8. -/
  | char (c : Char)
  /-- A byte at which no valid sequence starts. -/
  | stray (b : UInt8)
  deriving DecidableEq, Repr

/-- The UTF-8 bytes of a character. -/
def ofChar (c : Char) : Text :=
  let n := c.toNat
  if n < 0x80 then [UInt8.ofNat n]
  else if n < 0x800 then [UInt8.ofNat (0xC0 + n / 0x40), UInt8.ofNat (0x80 + n % 0x40)]
  else if n < 0x10000 then
    [UInt8.ofNat (0xE0 + n / 0x1000), UInt8.ofNat (0x80 + n / 0x40 % 0x40),
     UInt8.ofNat (0x80 + n % 0x40)]
  else
    [UInt8.ofNat (0xF0 + n / 0x40000), UInt8.ofNat (0x80 + n / 0x1000 % 0x40),
     UInt8.ofNat (0x80 + n / 0x40 % 0x40), UInt8.ofNat (0x80 + n % 0x40)]

/-- The UTF-8 bytes of a list of characters. -/
def ofChars (cs : List Char) : Text :=
  cs.flatMap ofChar

namespace Glyph

/-- The bytes of a glyph. -/
def toText : Glyph → Text
  | char c => ofChar c
  | stray b => [b]

/-- The code point of a glyph. A stray byte counts as the replacement
character. -/
def code : Glyph → Nat
  | char c => c.toNat
  | stray _ => 0xFFFD

end Glyph

/-- The payload of a continuation byte. -/
def continuation? (b : UInt8) : Option Nat :=
  if 0x80 ≤ b && b ≤ 0xBF then some (b.toNat - 0x80) else none

/-- The character with code point `n`, if `n` lies in `low` to `high` and is no
surrogate. The bounds exclude encodings that are longer than needed. -/
def charWithin? (low high n : Nat) : Option Char :=
  if low ≤ n && n ≤ high && !(0xD800 ≤ n && n ≤ 0xDFFF) then some (Char.ofNat n) else none

/-- The character at the start of a nonempty text and what follows it, if a
valid sequence starts there. -/
def firstChar? : Text → Option (Char × Text)
  | [] => none
  | a :: rest =>
      if a < 0x80 then some (Char.ofNat a.toNat, rest)
      else if a < 0xE0 then
        match rest with
        | b :: rest => do
            let x ← continuation? b
            let c ← charWithin? 0x80 0x7FF ((a.toNat - 0xC0) * 0x40 + x)
            if a < 0xC0 then none else some (c, rest)
        | _ => none
      else if a < 0xF0 then
        match rest with
        | b :: c :: rest => do
            let x ← continuation? b
            let y ← continuation? c
            let c ← charWithin? 0x800 0xFFFF (((a.toNat - 0xE0) * 0x40 + x) * 0x40 + y)
            some (c, rest)
        | _ => none
      else if a < 0xF8 then
        match rest with
        | b :: c :: d :: rest => do
            let x ← continuation? b
            let y ← continuation? c
            let z ← continuation? d
            let c ← charWithin? 0x10000 0x10FFFF
              ((((a.toNat - 0xF0) * 0x40 + x) * 0x40 + y) * 0x40 + z)
            some (c, rest)
        | _ => none
      else none

/-- The glyphs of a text, at most as many as the first argument says. -/
def glyphsWithin : Nat → Text → List Glyph
  | 0, _ => []
  | _ + 1, [] => []
  | bound + 1, b :: rest =>
      match firstChar? (b :: rest) with
      | some (c, rest) => .char c :: glyphsWithin bound rest
      | none => .stray b :: glyphsWithin bound rest

/-- The glyphs of a text. Each has at least one byte, so the length bounds
their number. -/
def glyphs (t : Text) : List Glyph :=
  glyphsWithin t.length t

/-- Whether every byte belongs to a valid UTF-8 sequence. -/
def isUtf8 (t : Text) : Bool :=
  t.glyphs.all fun
    | .char _ => true
    | .stray _ => false

/-- Drops white space from both ends. Stray bytes are not white space. -/
def trimBlank (t : Text) : Text :=
  let blank : Glyph → Bool
    | .char c => Unicode.isWhiteSpace c.toNat
    | .stray _ => false
  let kept := t.glyphs.dropWhile blank
  (kept.reverse.dropWhile blank).reverse.flatMap Glyph.toText

end NodeAsm.Text
