import NodeAsm.Machine.InstructionSet

/-!
# Disassembly

The text of a word is the instruction of some opcode that could have made it,
or the word in hexadecimal where there is none. Opcodes without operands are
tried first, since they match one word each.

The opcodes of one source share their low bits with the operand. A literal
hides which of them made the word, so the first one stands for all.
-/

namespace NodeAsm.InstructionSet

/-- The bits of a source field. -/
def sourceMask : Word := 0x0FFF#16

/-- The bits of a source field that names a register. -/
def sourceRegisterMask : Word := 0x0F00#16

/-- The bits of a destination register. -/
def destinationMask : Word := 0x7000#16

/-- The operand in the source field of a word. -/
def sourceOf (w : Word) : Operand :=
  Operand.decode (w &&& sourceMask)

/-- The register in the destination field of a word. -/
def destinationOf (w : Word) : Register :=
  .ofCode ((w &&& destinationMask) >>> 12).toNat

/-- The text of `w` as an instruction of `op` with operands, if the bits
outside the operands are those of `op`. -/
def disassembleAs? (op : Opcode) (w : Word) : Option Text :=
  match op.kind with
  | .move =>
      if w &&& ~~~(destinationMask ||| sourceMask) = op.base then
        some (op.mnemonic ++ " " ++ (sourceOf w).text ++ ", " ++ (destinationOf w).name)
      else none
  | .unary =>
      let mask :=
        if w &&& Operand.registerFlag ≠ 0#16 then sourceRegisterMask else Operand.literalMask
      if w &&& ~~~mask = op.base then some (op.mnemonic ++ " " ++ (sourceOf w).text) else none
  | .jump =>
      if w &&& ~~~Word.targetMask = op.base then
        some (op.mnemonic ++ " " ++ Numeral.ofNat w.target)
      else none
  | _ => none

/-- The text of a word. -/
def disassemble (isa : InstructionSet) (w : Word) : Text :=
  match isa.opcodes.find? fun op => op.kind == .nullary && w == op.base with
  | some op => op.mnemonic
  | none =>
      match isa.opcodes.findSome? fun op => disassembleAs? op w with
      | some t => t
      | none => ".word " ++ w.text

end NodeAsm.InstructionSet
