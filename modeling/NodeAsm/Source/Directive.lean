import NodeAsm.Fault

/-!
# Directives

A line that starts with `@` begins a node. Blanks and a sign may stand before
the digits of its index, anything may follow them, and the index counts modulo
256.
-/

namespace NodeAsm.Directive

/-- The byte that starts a directive. -/
def marker : UInt8 := 0x40

/-- The number of distinct node indices. -/
def nodeCount : Nat := 256

/-- Whether a byte may stand between the marker and the index. -/
def isBlank (b : UInt8) : Bool :=
  b == Text.space || (Text.tab ≤ b && b ≤ Text.cr)

/-- The value of a digit run modulo the number of nodes, reduced at each digit. -/
def reducedValue (digits : Text) : Nat :=
  digits.foldl (fun v b => (v * 10 + (b.toNat - 0x30)) % nodeCount) 0

/-- The node index in the text behind the marker, if it has a digit. -/
def index? (t : Text) : Option Nat :=
  let (negative, rest) := Numeral.splitSign (t.dropWhile isBlank)
  let digits := rest.takeWhile Numeral.isDigit
  if digits.isEmpty then none
  else
    let v := reducedValue digits
    some (if negative then (nodeCount - v) % nodeCount else v)

/-- Reads a directive. A directive without digits selects node zero; a line
without marker is no directive. -/
def read? (line : Text) : Option (Checked Nat) :=
  match line with
  | [] => none
  | b :: rest =>
      if b = marker then
        match index? rest with
        | some n => some (.clean n)
        | none => some ⟨0, [.badNodeIndex line]⟩
      else none

end NodeAsm.Directive
