import NodeAsm.Fault

/-!
# Statements

A line of code is split into an optional label, a mnemonic and up to two
operands. Words are separated by blanks and commas. The first colon ends a
label, which is the word in front of it; later colons are ordinary bytes. A
comment runs from the first `#` to the end of the line.

Names match byte for byte, so the line is read as bytes and not as characters.
-/

namespace NodeAsm

/-- One line of code. -/
structure Statement where
  /-- The word before the first colon, empty if there is none. -/
  label : Text
  /-- The mnemonic, empty on a line without code. -/
  opcode : Text
  /-- At most two operands. -/
  operands : List Text
  /-- The line without its end. -/
  raw : Text
  deriving DecidableEq, Repr

namespace Statement

/-- Whether the line occupies a slot. -/
def isCode (s : Statement) : Bool :=
  !s.opcode.isEmpty

/-- The operand at position `n`, empty if there is none. -/
def operand (s : Statement) (n : Nat) : Text :=
  s.operands.getD n []

/-- The byte that starts a comment. -/
def commentMarker : UInt8 := 0x23

/-- The byte that ends a label. -/
def labelMarker : UInt8 := 0x3A

/-- A mnemonic and two operands. -/
def maxWords : Nat := 3

/-- Whether a byte separates words. -/
def isDelimiter (b : UInt8) : Bool :=
  b == Text.space || b == Text.tab || b == 0x2C || b == Text.cr || b == Text.lf

/-- What has been read of a line. The word being read and the list of words
hold their latest part first. -/
structure Scan where
  label : Option Text
  word : Text
  words : List Text
  deriving DecidableEq, Repr

namespace Scan

/-- Before the first byte. -/
def start : Scan :=
  ⟨none, [], []⟩

/-- Ends the word being read, if there is one. -/
def endWord (s : Scan) : Scan :=
  if s.word.isEmpty then s else { s with word := [], words := s.word.reverse :: s.words }

/-- Reads one byte that belongs to no comment. -/
def step (s : Scan) (b : UInt8) : Scan :=
  if b = labelMarker ∧ s.label = none then
    { s with label := some s.word.reverse, word := [] }
  else if isDelimiter b then s.endWord
  else { s with word := b :: s.word }

/-- Reads bytes up to a comment or the end of the line. -/
def run (s : Scan) : Text → Scan
  | [] => s.endWord
  | b :: rest => if b = commentMarker then s.endWord else run (s.step b) rest

end Scan

/-- Splits a line of code. Words past the second operand are dropped and
reported. -/
def read (line : Text) : Checked Statement :=
  let scan := Scan.start.run line
  let words := scan.words.reverse
  let extra := words.drop maxWords
  ⟨{ label := scan.label.getD []
     opcode := words.headD []
     operands := (words.take maxWords).tail
     raw := line.dropLineEnd },
    if extra.isEmpty then [] else [.tooManyArguments extra]⟩

end Statement

end NodeAsm
