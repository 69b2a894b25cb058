import NodeAsm.Machine.Operand

/-!
# Instruction sets

An instruction set is a table of opcodes in the order in which their mnemonics
were first registered. Registering a mnemonic again replaces its entry in
place.
-/

namespace NodeAsm

/-- How an opcode consumes its operands. -/
inductive OpcodeClass where
  /-- No operands. -/
  | nullary
  /-- A source and a destination register. -/
  | move
  /-- A source. -/
  | unary
  /-- A label, resolved once its node is complete. -/
  | jump
  /-- No known way. The operands are ignored. -/
  | other
  deriving DecidableEq, Repr

namespace OpcodeClass

/-- The name of a class. -/
def name : OpcodeClass → Text
  | nullary => "nullary"
  | move => "move"
  | unary => "unary"
  | jump => "jump"
  | other => "unknown"

end OpcodeClass

/-- One entry of an instruction set. -/
structure Opcode where
  mnemonic : Text
  kind : OpcodeClass
  base : Word
  deriving DecidableEq, Repr

/-- A named table of opcodes. -/
structure InstructionSet where
  name : Text
  opcodes : List Opcode
  deriving DecidableEq, Repr

namespace InstructionSet

/-- The instruction set without opcodes. -/
def empty (name : Text) : InstructionSet :=
  ⟨name, []⟩

/-- The entry of a mnemonic. -/
def lookup (isa : InstructionSet) (mnemonic : Text) : Option Opcode :=
  isa.opcodes.find? fun op => op.mnemonic == mnemonic

/-- Adds an opcode, in place of the one with its mnemonic if there is one. -/
def register (isa : InstructionSet) (op : Opcode) : InstructionSet :=
  match isa.lookup op.mnemonic with
  | some _ =>
      { isa with
        opcodes := isa.opcodes.map fun old => if old.mnemonic = op.mnemonic then op else old }
  | none => { isa with opcodes := isa.opcodes ++ [op] }

/-- The word of an opcode with the operands that its class consumes. The source
fills the low twelve bits and the destination the three above. -/
def assemble (op : Opcode) (first second : Text) : Checked Word :=
  match op.kind with
  | .move =>
      let source := Operand.encode first
      let destination := Register.read second
      ⟨op.base ||| (BitVec.ofNat 16 destination.value.code <<< 12) ||| source.value,
        source.faults ++ destination.faults⟩
  | .unary =>
      let source := Operand.encode first
      ⟨op.base ||| source.value, source.faults⟩
  | _ => .clean op.base

/-- The word of an instruction. No mnemonic stands for no operation, and so
does an unknown one. A jump has no target yet. -/
def encode (isa : InstructionSet) (mnemonic first second : Text) : Checked Word :=
  if mnemonic.isEmpty then .clean 0#16
  else
    match isa.lookup mnemonic with
    | some op => assemble op first second
    | none => ⟨0#16, [.unknownOpcode mnemonic]⟩

/-- The opcodes of a node. -/
def nodeOpcodes : List Opcode :=
  [⟨"NOP", .nullary, 0x0000#16⟩,
   ⟨"MOV", .move, 0x0000#16⟩,
   ⟨"ADD", .unary, 0x8000#16⟩,
   ⟨"SUB", .unary, 0x8001#16⟩,
   ⟨"JRO", .unary, 0x8002#16⟩,
   ⟨"JMP", .jump, 0xC000#16⟩,
   ⟨"JEZ", .jump, 0xC400#16⟩,
   ⟨"JNZ", .jump, 0xC800#16⟩,
   ⟨"JGZ", .jump, 0xCC00#16⟩,
   ⟨"JLZ", .jump, 0xD000#16⟩,
   ⟨"NEG", .nullary, 0xE000#16⟩,
   ⟨"SAV", .nullary, 0xE200#16⟩,
   ⟨"SWP", .nullary, 0xE400#16⟩]

/-- The instruction set of a node. -/
def node : InstructionSet :=
  ⟨"TIS node ISA", nodeOpcodes⟩

end InstructionSet

end NodeAsm
