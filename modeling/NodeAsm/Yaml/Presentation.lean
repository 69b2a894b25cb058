import NodeAsm.Text.Base64
import NodeAsm.Yaml.Characters
import NodeAsm.Yaml.Scalar

/-!
# Writing YAML scalars

A text is written plain where every reader gives it back, else between single
quotes, and between double quotes where it holds characters that have to be
escaped. Text of several lines is written line by line behind a bar. Bytes that
are not UTF-8 are written in base 64 with a tag.
-/

namespace NodeAsm.Yaml

/-! ## Characters -/

/-- Whether a code point may be written without an escape. -/
def isWritable (n : Nat) : Bool :=
  n = 0x0A || (0x20 ≤ n && n ≤ 0x7E) || (0xA0 ≤ n && n ≤ 0xD7FF)
    || (0xE000 ≤ n && n ≤ 0xFFFD && n ≠ 0xFEFF)

/-- The characters of a text. Bytes that are not UTF-8 are left out. -/
def charsOf (t : Text) : List Char :=
  t.glyphs.filterMap fun
    | .char c => some c
    | .stray _ => none

/-! ## Styles -/

/-- How a scalar is written. -/
inductive Style where
  | plain
  | singleQuoted
  | doubleQuoted
  | literal
  deriving DecidableEq, Repr

/-- The bytes that may not start a plain scalar. -/
def openingIndicators : Text :=
  "#,[]\x7b\x7d&*!|>'\"%@\x60"

/-- Whether a character in the middle of a plain scalar would be read as an
indicator: a colon in front of a blank, or a comment mark behind one. -/
def hasInnerIndicator : List Char → Bool
  | [] => false
  | [_] => false
  | a :: b :: rest =>
      (isBlank a.toNat && b.toNat = 0x23)
        || (b.toNat = 0x3A && (rest.head?.map fun c => isBlank c.toNat).getD true)
        || hasInnerIndicator (b :: rest)

/-- Whether a block text starts or holds something that would be read as an
indicator. -/
def hasIndicator (cs : List Char) : Bool :=
  match cs with
  | [] => false
  | c :: rest =>
      let n := c.toNat
      let alone := (rest.head?.map fun c => isBlank c.toNat).getD true
      openingIndicators.any (fun b => b.toNat = n)
        || ((n = 0x3F || n = 0x3A || n = 0x2D) && alone)
        || "---".toList.isPrefixOf cs || "...".toList.isPrefixOf cs
        || hasInnerIndicator cs

/-- Whether the text has two neighbours of which the first satisfies `p` and the
second `q`. -/
def hasPair (p q : Nat → Bool) (cs : List Char) : Bool :=
  (cs.zip cs.tail).any fun (a, b) => p a.toNat && q b.toNat

/-- Whether a text has a line end. -/
def isMultiline (cs : List Char) : Bool :=
  cs.any fun c => isBreak c.toNat

/-- Whether the first or the last character satisfies `p`. -/
def atEdge (p : Nat → Bool) (cs : List Char) : Bool :=
  (cs.head?.map fun c => p c.toNat).getD false
    || (cs.getLast?.map fun c => p c.toNat).getD false

/-- Whether a character of a text has to be escaped. -/
def hasSpecial (cs : List Char) : Bool :=
  cs.any fun c => c.toNat ≠ 0x09 && !isWritable c.toNat

/-- Whether a text may be written plain in a block. -/
def allowsPlain (cs : List Char) : Bool :=
  !isMultiline cs && !hasSpecial cs && !cs.contains '\t' && !hasIndicator cs
    && !atEdge (· == 0x20) cs

/-- Whether a text may be written between single quotes. -/
def allowsSingleQuotes (cs : List Char) : Bool :=
  !hasSpecial cs && !cs.contains '\t' && !hasPair isBreak (· == 0x20) cs
    && !hasPair (· == 0x20) isBreak cs

/-- Whether a text may be written line by line. -/
def allowsLiteral (cs : List Char) : Bool :=
  !hasSpecial cs && !hasPair (· == 0x20) isBreak cs
    && (cs.getLast?.map fun c => c.toNat != 0x20).getD false

/-- The style of a text. `asPlain` says whether a plain text would be read back
as text. -/
def styleOf (asPlain : Bool) (cs : List Char) : Style :=
  if cs.contains '\n' then (if allowsLiteral cs then .literal else .doubleQuoted)
  else if !asPlain then .doubleQuoted
  else if allowsPlain cs then .plain
  else if allowsSingleQuotes cs then .singleQuoted
  else .doubleQuoted

/-! ## Bodies -/

/-- The letter that stands for a character after a backslash. -/
def escapeLetter? : Nat → Option UInt8
  | 0x00 => some 0x30
  | 0x07 => some 0x61
  | 0x08 => some 0x62
  | 0x09 => some 0x74
  | 0x0A => some 0x6E
  | 0x0B => some 0x76
  | 0x0C => some 0x66
  | 0x0D => some 0x72
  | 0x1B => some 0x65
  | 0x22 => some 0x22
  | 0x5C => some 0x5C
  | 0x85 => some 0x4E
  | 0xA0 => some 0x5F
  | 0x2028 => some 0x4C
  | 0x2029 => some 0x50
  | _ => none

/-- A character as an escape. -/
def escapeText (n : Nat) : Text :=
  match escapeLetter? n with
  | some letter => [0x5C, letter]
  | none =>
      if n ≤ 0xFF then 0x5C :: 0x78 :: Numeral.upperHex 2 n
      else if n ≤ 0xFFFF then 0x5C :: 0x75 :: Numeral.upperHex 4 n
      else 0x5C :: 0x55 :: Numeral.upperHex 8 n

/-- Whether a character stands for itself between double quotes. -/
def standsForItself (n : Nat) : Bool :=
  isWritable n && !isBreak n && n ≠ 0x22 && n ≠ 0x5C

/-- The characters between double quotes. Behind an encoding mark at the start
every character is escaped. -/
def doubleQuotedBody (cs : List Char) : Text :=
  let marked := (cs.head?.map Char.toNat) = some 0xFEFF
  cs.flatMap fun c =>
    if !marked && standsForItself c.toNat then Text.ofChar c else escapeText c.toNat

/-- The characters between single quotes. Text behind a line end starts at the
given indent, and a line feed is doubled where it follows text. -/
def singleQuotedBody (indent : Nat) (afterBreak : Bool) : List Char → Text
  | [] => []
  | c :: rest =>
      let n := c.toNat
      if isBreak n then
        let double : Text := if n = 0x0A && !afterBreak then [Text.lf] else []
        double ++ Text.ofChar c ++ singleQuotedBody indent true rest
      else
        let lead := if afterBreak && n ≠ 0x20 then Text.spaces indent else []
        let mark : Text := if n = 0x27 then [0x27] else []
        lead ++ mark ++ Text.ofChar c ++ singleQuotedBody indent (afterBreak && n = 0x20) rest

/-- The lines behind a bar. `atStart` says whether a line end was just written,
`afterBreak` whether the next text has to be indented. -/
def literalBody (indent : Nat) (atStart afterBreak : Bool) : List Char → Text
  | [] => []
  | c :: rest =>
      if isBreak c.toNat then Text.ofChar c ++ literalBody indent true true rest
      else
        let lead : Text :=
          if afterBreak then (if atStart then [] else [Text.lf]) ++ Text.spaces indent else []
        lead ++ Text.ofChar c ++ literalBody indent false false rest

/-- The marks behind a bar: the indent if the text starts with a blank, and how
many line ends follow its last line. -/
def literalHints (cs : List Char) : Text :=
  let first := (cs.head?.map fun c => c.toNat = 0x20 || isBreak c.toNat).getD false
  let lead : Text := if first then "2" else []
  let ends := cs.reverse.takeWhile fun c => isBreak c.toNat
  let chomp : Text :=
    if ends.isEmpty then "-"
    else if ends.length = 1 && cs.length ≠ 1 then []
    else "+"
  lead ++ chomp

/-- A scalar in the given style. Further lines start at the given indent. -/
def scalarText (style : Style) (indent : Nat) (cs : List Char) : Text :=
  match style with
  | .plain => Text.ofChars cs
  | .singleQuoted => 0x27 :: singleQuotedBody indent false cs ++ [0x27]
  | .doubleQuoted => 0x22 :: doubleQuotedBody cs ++ [0x22]
  | .literal => 0x7C :: literalHints cs ++ literalBody indent false true cs

/-! ## Keys -/

/-- The number of characters on a line of base 64. -/
def base64Line : Nat := 70

/-- A text in lines of `base64Line` bytes, at most as many as the first argument
says. -/
def inLines : Nat → Text → Text
  | 0, t => t
  | bound + 1, t =>
      if t.isEmpty then [] else t.take base64Line ++ [Text.lf] ++ inLines bound (t.drop base64Line)

/-- Bytes in base 64, on several lines if they do not fit on one. -/
def base64Text (t : Text) : Text :=
  let encoded := Base64.encode t
  if encoded.length < base64Line then encoded else inLines encoded.length encoded

/-- The tag of bytes in base 64. -/
def binaryTag : Text := "!!binary"

/-- The longest key that is written on the line of its value. -/
def maxSimpleKey : Nat := 128

/-- A key and the text of its value at the given indent. A long key and a key of
several lines stand behind a question mark on lines of their own. -/
def entryText (indent : Nat) (key value : Text) : Text :=
  let isText := key.isUtf8
  let body := if isText then key else base64Text key
  let cs := charsOf body
  let style := styleOf (!isText || readsAsText key) cs
  let tag : Text := if isText then [] else binaryTag ++ [Text.space]
  let size := body.length + (if isText then 0 else binaryTag.length)
  let scalar := tag ++ scalarText style (indent + 2) cs
  if !isMultiline cs && size ≤ maxSimpleKey then
    Text.spaces indent ++ scalar ++ ": " ++ value ++ "\n"
  else
    let ended := style = .literal && (cs.getLast?.map fun c => isBreak c.toNat).getD false
    let ending : Text := if ended then [] else "\n"
    Text.spaces indent ++ "? " ++ scalar ++ ending
      ++ Text.spaces indent ++ ": " ++ value ++ "\n"

/-- A short text of one line inside a list. -/
def itemText (t : Text) : Text :=
  scalarText (if readsAsText t then .plain else .doubleQuoted) 0 (charsOf t)

/-- A list on one line. -/
def listText (ts : List Text) : Text :=
  "[" ++ Text.joinWith ", " (ts.map itemText) ++ "]"

end NodeAsm.Yaml
