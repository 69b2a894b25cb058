import NodeAsm.Machine.Register
import NodeAsm.Machine.Word

/-!
# Source operands

A source operand is a register or a literal of eleven bits. Its field takes the
low twelve bits of a word: a register sets bit eleven and puts its code in bits
ten to eight; a literal stands in bits ten to zero in two's complement.
-/

namespace NodeAsm

/-- What an instruction reads. -/
inductive Operand where
  | register (r : Register)
  | literal (value : Int)
  deriving DecidableEq, Repr

namespace Operand

/-- The bit that marks a register. -/
def registerFlag : Word := 0x0800#16

/-- The bits of a register's code. -/
def registerMask : Word := 0x0700#16

/-- The bits of a literal. -/
def literalMask : Word := 0x07FF#16

/-- The least literal. -/
def minLiteral : Int := -1024

/-- The greatest literal. -/
def maxLiteral : Int := 1023

/-- Whether a text is a decimal numeral with an optional minus sign. -/
def isNumeric : Text → Bool
  | [] => false
  | b :: rest =>
      if b = 0x2D then !rest.isEmpty && rest.all Numeral.isDigit
      else (b :: rest).all Numeral.isDigit

/-- The integer that a numeric text denotes. -/
def numericValue : Text → Int
  | [] => 0
  | b :: rest =>
      if b = 0x2D then -(Numeral.value rest : Int) else (Numeral.value (b :: rest) : Int)

/-- The field of a register. -/
def registerField (r : Register) : Word :=
  (BitVec.ofNat 16 r.code <<< 8) ||| registerFlag

/-- The field of a literal. Bits past the eleventh are lost. -/
def literalField (value : Int) : Word :=
  BitVec.ofInt 16 value &&& literalMask

/-- Reads a source operand into its field. A numeral too large for sixty-four
bits counts as the nearest that fits. The field is usable in any case. -/
def encode (token : Text) : Checked Word :=
  if isNumeric token then
    let value := numericValue token
    ⟨literalField (Numeral.clamp64 value),
      if minLiteral ≤ value ∧ value ≤ maxLiteral then [] else [.literalRange token]⟩
  else
    let register := Register.read token
    ⟨registerField register.value, register.faults⟩

/-- The operand that a field holds. -/
def decode (field : Word) : Operand :=
  if field &&& registerFlag ≠ 0#16 then
    .register (.ofCode ((field &&& registerMask) >>> 8).toNat)
  else
    let magnitude := (field &&& literalMask).toNat
    .literal (if magnitude < 1024 then magnitude else (magnitude : Int) - 2048)

/-- The text of an operand in source. -/
def text : Operand → Text
  | register r => r.name
  | literal v => Numeral.ofInt v

end Operand

end NodeAsm
