import NodeAsm.Assembler
import NodeAsm.Proofs.Machine.Encoding

/-!
# Operands and class bits

The fields of an instruction are joined to the base of its opcode without a mask. They
keep apart all the same, whatever the operands are: a source field ends below bit twelve
and a register code has three bits, also where they stand in for text that means nothing.
So the class bits of a word are those of its mnemonic, and the assembler, which asks the
word and not the opcode whether it is a jump, gets the same answer.
-/

namespace NodeAsm

namespace Operand

theorem IsField.extractLsb'_eq_zero {field : Word} (isField : IsField field) {start : Nat}
    (past : 12 ≤ start) (length : Nat) :
    field.extractLsb' start length = BitVec.ofNat length 0 := by
  apply BitVec.eq_of_getLsbD_eq
  intro i _
  rw [BitVec.getLsbD_extractLsb', isField.getLsbD (Nat.le_add_right_of_le past), Bool.and_false,
    BitVec.getLsbD_zero]

end Operand

namespace InstructionSet

/-! ## Fields -/

/-- The bits of a move: none for its class, three for the destination, twelve for the
source. -/
theorem move_bits (r : Register) {field : Word} (isField : Operand.IsField field) :
    ((BitVec.ofNat 16 r.code <<< 12) ||| field).getLsbD 15 = false ∧
      ((BitVec.ofNat 16 r.code <<< 12) ||| field).extractLsb' 12 3 = BitVec.ofNat 3 r.code ∧
      ((BitVec.ofNat 16 r.code <<< 12) ||| field).extractLsb' 0 12 = field.setWidth 12 := by
  have middle : (BitVec.ofNat 16 r.code <<< 12).extractLsb' 12 3 = BitVec.ofNat 3 r.code := by
    cases r <;> decide
  have low : (BitVec.ofNat 16 r.code <<< 12).extractLsb' 0 12 = 0#12 := by
    cases r <;> decide
  refine ⟨?_, ?_, ?_⟩
  · rw [BitVec.getLsbD_or, getLsbD_destination, isField.getLsbD (by decide), Bool.or_false]
  · rw [BitVec.extractLsb'_or, middle, isField.extractLsb'_eq_zero (by decide), BitVec.or_zero]
  · rw [BitVec.extractLsb'_or, low, BitVec.zero_or, BitVec.setWidth_eq_extractLsb' (by decide)]

theorem unary_bits {op : Opcode} (member : op ∈ nodeOpcodes) (unary : op.kind = .unary)
    {field : Word} (isField : Operand.IsField field) :
    (op.base ||| field).extractLsb' 12 4 = 0b1000#4 := by
  have bases : ∀ op ∈ nodeOpcodes, op.kind = .unary → op.base.extractLsb' 12 4 = 0b1000#4 := by
    decide
  rw [BitVec.extractLsb'_or, bases op member unary, isField.extractLsb'_eq_zero (by decide),
    BitVec.or_zero]

/-! ## The declared class -/

theorem mem_jumpMnemonics_iff (mnemonic : Text) :
    mnemonic ∈ jumpMnemonics ↔ ∃ op, node.lookup mnemonic = some op ∧ op.kind = .jump := by
  constructor
  · intro jump
    obtain ⟨op, member, kind, rfl⟩ := exists_of_mem_jumpMnemonics jump
    exact ⟨op, lookup_node member, kind⟩
  · rintro ⟨op, found, kind⟩
    have member : op ∈ nodeOpcodes := List.mem_of_find?_eq_some found
    have named := List.find?_some found
    rw [← eq_of_beq named]
    exact (kind_eq_jump_iff member).mp kind

/-- A jump has no target before its label is resolved. -/
theorem target_encode_node {mnemonic : Text} (jump : mnemonic ∈ jumpMnemonics)
    (first second : Text) : (node.encode mnemonic first second).value.target = 0 := by
  have bases : ∀ op ∈ nodeOpcodes, op.kind = .jump → op.base.target = 0 := by decide
  obtain ⟨op, member, kind, rfl⟩ := exists_of_mem_jumpMnemonics jump
  rw [encode_node_of_bare member (by simp [kind]) (by simp [kind])]
  exact bases op member kind

theorem isPending_slotFor (w : Word) (label : Text) (origin : Origin) :
    (Assembler.slotFor w label origin).isPending = w.isJump := by
  unfold Assembler.slotFor
  split
  · rename_i jump
    exact jump.symm
  · rename_i plain
    exact (Bool.eq_false_iff.mpr plain).symm

/-! ## Bad operands -/

/-- A move with two bad operands has two faults, that of the source first. -/
theorem faults_encode_node_move {first second : Text} (source : ¬ Operand.IsSource first)
    (destination : ∀ r : Register, second ≠ r.name) :
    (∀ v, Operand.Decimal first v → (node.encode "MOV" first second).faults =
        [.literalRange first, .unknownRegister second]) ∧
      ((∀ v, ¬ Operand.Decimal first v) → (node.encode "MOV" first second).faults =
        [.unknownRegister first, .unknownRegister second]) := by
  rw [encode_node_move, Register.read_of_ne_name destination]
  constructor
  · intro v decimal
    have outside : ¬ (-1024 ≤ v ∧ v ≤ 1023) := fun within => source (Or.inr ⟨v, decimal, within⟩)
    rw [decimal.encode_eq, if_neg outside]
    rfl
  · intro verbal
    have other : ∀ r : Register, first ≠ r.name := fun r name => source (Or.inl ⟨r, name⟩)
    rw [Operand.encode_of_not_decimal verbal, Register.read_of_ne_name other]
    rfl

/-! ## Every instruction -/

/-- What the parts of an instruction have to do with its word and its faults. -/
structure Composed (mnemonic first second : Text) (c : Checked Word) : Prop where
  /-- The destination of a move has three bits of its own, and the source has twelve. -/
  move : mnemonic = Text.ofString "MOV" → c.value.getLsbD 15 = false ∧
    c.value.extractLsb' 12 3 = BitVec.ofNat 3 (Register.read second).value.code ∧
    c.value.extractLsb' 0 12 = (Operand.encode first).value.setWidth 12
  /-- A unary instruction ignores its second operand. -/
  unary : mnemonic ∈ unaryMnemonics → c.value.extractLsb' 12 4 = 0b1000#4 ∧
    ∀ other, node.encode mnemonic first other = c
  /-- The words of jumps and of instructions without operands are fixed. -/
  bare : ∀ op ∈ node.opcodes, op.mnemonic = mnemonic → op.kind = .jump ∨ op.kind = .nullary →
    c.value = op.base
  unknown : mnemonic ≠ [] → (∀ op ∈ node.opcodes, op.mnemonic ≠ mnemonic) →
    c.value = 0x0000#16
  jump : c.value.isJump ↔ mnemonic ∈ jumpMnemonics
  /-- A slot waits for a label exactly if the opcode is declared a jump. -/
  waits : ∀ label origin, (Assembler.slotFor c.value label origin).isPending ↔
    ∃ op, node.lookup mnemonic = some op ∧ op.kind = .jump
  untargeted : c.value.isJump → c.value.target = 0
  faultless : mnemonic ≠ [] → (c.faults = [] ↔ Valid mnemonic first second)
  /-- Of two bad operands the source is reported first. -/
  bothBad : mnemonic = Text.ofString "MOV" → ¬ Operand.IsSource first →
    (∀ r : Register, second ≠ r.name) →
      (∀ v, Operand.Decimal first v →
        c.faults = [.literalRange first, .unknownRegister second]) ∧
      ((∀ v, ¬ Operand.Decimal first v) →
        c.faults = [.unknownRegister first, .unknownRegister second])

/-- Every instruction of a node is composed in this way, whatever its operands. -/
theorem composed_encode_node (mnemonic first second : Text) :
    Composed mnemonic first second (node.encode mnemonic first second) where
  move mov := by
    rw [mov, encode_node_move]
    exact move_bits (Register.read second).value (Operand.isField_encode first)
  unary unary := by
    obtain ⟨op, member, kind, rfl⟩ := exists_of_mem_unaryMnemonics unary
    constructor
    · rw [encode_node_of_unary member kind]
      exact unary_bits member kind (Operand.isField_encode first)
    · intro other
      rw [encode_node_of_unary member kind, encode_node_of_unary member kind]
  bare op member named kind := by
    have bare : op.kind ≠ .move ∧ op.kind ≠ .unary := by
      rcases kind with jump | nullary
      · simp [jump]
      · simp [nullary]
    rw [← named, encode_node_of_bare member bare.1 bare.2]
    rfl
  unknown named other := by
    rw [encode_node_of_unregistered named]
    rintro ⟨op, member, equal⟩
    exact other op member equal
  jump := isJump_encode_node_iff mnemonic first second
  waits label origin := by
    rw [isPending_slotFor, isJump_encode_node_iff, mem_jumpMnemonics_iff]
  untargeted jump :=
    target_encode_node ((isJump_encode_node_iff mnemonic first second).mp jump) first second
  faultless named := faults_encode_node_eq_nil_iff named first second
  bothBad mov source destination := by
    rw [mov]
    exact faults_encode_node_move source destination

end InstructionSet

end NodeAsm
