import NodeAsm.Text.Utf8
import NodeAsm.Unicode.Basic

/-!
# Tables

A table is drawn with `+`, `-` and `|` around cells that are as wide as the
widest cell of their column. Widths are counted in display columns. A cell may
have several lines; a tab counts as four blanks, and text behind a carriage
return overwrites the line from its start. A terminal escape sequence takes no
columns.
-/

namespace NodeAsm.Table

/-! ## Cells -/

/-- A code point as a character, or the replacement character. -/
def shown : Text.Glyph → Char
  | .char c => c
  | .stray _ => Char.ofNat 0xFFFD

/-- A text with four blanks in place of each tab. -/
def expandTabs (t : Text) : Text :=
  t.flatMap fun b => if b = Text.tab then Text.spaces 4 else [b]

/-- A text with a line feed in place of each carriage return and line feed. -/
def joinLineEnds : Text → Text
  | [] => []
  | [b] => [b]
  | a :: b :: rest =>
      if a = Text.cr ∧ b = Text.lf then Text.lf :: joinLineEnds rest
      else a :: joinLineEnds (b :: rest)

/-- `new` written over the start of `old`. -/
def overwrite (old new : List Char) : List Char :=
  new ++ old.drop new.length

/-- What is seen of a line with carriage returns. -/
def overwritten (line : Text) : Text :=
  if line.contains Text.cr then
    let parts := line.splitAtByte Text.cr
    Text.ofChars (parts.foldl (fun old part => overwrite old (part.glyphs.map shown)) [])
  else line

/-- The text of a cell as it is laid out. -/
def cellText (t : Text) : Text :=
  let lines := (joinLineEnds (expandTabs t)).splitAtByte Text.lf
  Text.joinWith [Text.lf] (lines.map overwritten)

/-! ## Widths -/

/-- How far a terminal escape sequence has been read. -/
inductive Escape where
  /-- Outside a sequence. -/
  | outside
  /-- Behind the escape character, before the kind of sequence is known.
  `direct` says that nothing follows it yet. -/
  | opened (direct : Bool)
  /-- In a sequence that ends with `m`. -/
  | style
  /-- In a sequence that ends with a backslash, behind `read` characters of the
  opening `8;` of a link. -/
  | command (read : Nat)
  /-- In a link, which ends with a bell, or with an escape character and a
  backslash. `escaped` says that the last character is an escape character. -/
  | link (escaped : Bool)
  deriving DecidableEq, Repr

namespace Escape

/-- The state behind one more character of a command, of which `read` characters
have opened a link. -/
def nextInCommand (read code : Nat) : Escape :=
  if code = 0x5C then .outside
  else if read = 0 ∧ code = 0x38 then .command 1
  else if read = 1 ∧ code = 0x3B then .link false
  else .command 2

/-- The state behind one more character. A command that does not open with `8;`
is no link. -/
def next (s : Escape) (code : Nat) : Escape :=
  match s with
  | .outside => if code = 0x1B then .opened true else .outside
  | .opened direct =>
      if code = 0x5B then .style
      else if code = 0x5D then .command (if direct then 0 else 2)
      else .opened false
  | .style => if code = 0x6D then .outside else .style
  | .command read => nextInCommand read code
  | .link escaped =>
      if code = 0x07 ∨ (escaped ∧ code = 0x5C) then .outside else .link (code = 0x1B)

end Escape

/-- The columns of the widest line, given the state of escape sequences, the
columns of the current line and those of the widest line before it. A line feed
inside a sequence ends no line. -/
def widest (s : Escape) (current before : Nat) : List Nat → Nat
  | [] => max current before
  | code :: codes =>
      let next := s.next code
      if s ≠ .outside then widest next current before codes
      else if code = 0x0A then widest next 0 (max current before) codes
      else if next ≠ .outside then widest next current before codes
      else widest next (current + Unicode.width code) before codes

/-- The columns of the widest line of a text. -/
def columns (t : Text) : Nat :=
  widest .outside 0 0 (t.glyphs.map Text.Glyph.code)

/-! ## Rows -/

/-- The side of a column on which its cells start. -/
inductive Align where
  | left
  | right
  deriving DecidableEq, Repr

/-- A cell line filled up with blanks to the width of its column. -/
def pad (align : Align) (width : Nat) (t : Text) : Text :=
  match align with
  | .left =>
      let t := t.dropRightWhile (· == Text.space)
      t ++ Text.spaces (width - columns t)
  | .right =>
      let t := t.dropWhile (· == Text.space)
      Text.spaces (width - columns t) ++ t

/-- One line of a row. -/
def lineText (aligns : List Align) (widths : List Nat) (cells : List Text) : Text :=
  let padded := (aligns.zip (widths.zip cells)).map fun (align, width, cell) =>
    pad align width cell
  "| " ++ Text.joinWith " | " padded ++ " |\n"

/-- The lines of a row whose cells have several lines. -/
def splitRow (cells : List Text) : List (List Text) :=
  let columns := cells.map fun cell => cell.splitAtByte Text.lf
  let height := (columns.map List.length).foldl max 0
  (List.range height).map fun i => columns.map fun lines => lines.getD i []

/-- The text of a row. -/
def rowText (aligns : List Align) (widths : List Nat) (cells : List Text) : Text :=
  (splitRow cells).flatMap (lineText aligns widths)

/-! ## The whole -/

/-- `n` dashes. -/
def dashes (n : Nat) : Text :=
  List.replicate n 0x2D

/-- A rule between rows, with a mark at the border of each column. -/
def rule (widths : List Nat) : Text :=
  let bars := widths.map fun width => dashes (width + 2)
  "+" ++ Text.joinWith "+" bars ++ "+\n"

/-- The columns between the left and the right border. -/
def innerColumns (widths : List Nat) : Nat :=
  widths.foldl (fun n width => n + width + 3) 0 - 1

/-- A rule without column marks. -/
def outerRule (widths : List Nat) : Text :=
  "+" ++ dashes (innerColumns widths) ++ "+\n"

/-- The line of a title over the whole width. -/
def titleText (widths : List Nat) (title : Text) : Text :=
  "| " ++ pad .left (innerColumns widths - 2) title ++ " |\n"

/-- A table with a title and a header. Every row has one cell for each
column. -/
def render (title : Text) (aligns : List Align) (header : List Text) (rows : List (List Text)) :
    Text :=
  let rows := rows.map fun row => row.map cellText
  let widths := rows.foldl
    (fun widths row => (widths.zip row).map fun (width, cell) => max width (columns cell))
    (header.map columns)
  outerRule widths
    ++ titleText widths title
    ++ rule widths
    ++ lineText aligns widths header
    ++ rule widths
    ++ rows.flatMap (rowText aligns widths)
    ++ rule widths

end NodeAsm.Table
