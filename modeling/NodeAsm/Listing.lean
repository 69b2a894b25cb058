import NodeAsm.Machine.Disassembly
import NodeAsm.Program
import NodeAsm.Table

/-!
# Listings

The listing of a program is a table with a row for each slot: the word, its
disassembly, the labels bound to the slot, and the source line it came from.
-/

namespace NodeAsm.Listing

/-- The title of a listing: the node index in decimal and its low byte in
hexadecimal. -/
def title (p : Program) : Text :=
  "Node " ++ Numeral.ofInt p.node ++ " (" ++ Numeral.hex 2 (p.node % 256).toNat ++ ")"

/-- The names of the columns. -/
def header : List Text :=
  ["SLOT", "WORD", "DISASSEMBLY", "LABEL", "LINE", "SOURCE"]

/-- Slots are numbers and stand on the right. -/
def aligns : List Table.Align :=
  [.right, .left, .left, .left, .left, .left]

/-- The row of a slot. -/
def row (p : Program) (slot : Nat) (e : Entry) : List Text :=
  [Numeral.ofNat slot,
   e.word.text,
   InstructionSet.node.disassemble e.word,
   Text.joinWith [Text.space] (p.labelsAt slot),
   if e.origin.line > 0 then Numeral.ofInt e.origin.line else [],
   e.origin.text.trimBlank]

/-- The listing of a program, with an empty line behind it. -/
def text (p : Program) : Text :=
  Table.render (title p) aligns header (p.entries.toList.mapIdx (row p)) ++ [Text.lf]

end NodeAsm.Listing
