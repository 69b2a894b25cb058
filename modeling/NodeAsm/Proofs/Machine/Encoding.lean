import Mathlib.Tactic.Common
import NodeAsm.Machine.InstructionSet

/-!
# Faultless encoding

An instruction of a node is encoded without fault exactly if its mnemonic is
registered and every operand that its class consumes is valid. The bits of an
operand, valid or not, never reach the class bits, so a word is a jump exactly if
its mnemonic is that of a jump.
-/

namespace NodeAsm

/-! ## Operands -/

namespace Operand

/-- `t` is a decimal literal of value `v`: digits with an optional minus sign. -/
def Decimal (t : Text) (v : Int) : Prop :=
  ∃ digits : Text, digits ≠ [] ∧ (∀ b ∈ digits, Numeral.isDigit b) ∧
    (t = digits ∧ v = (Numeral.value digits : Int) ∨
      t = 0x2D :: digits ∧ v = -(Numeral.value digits : Int))

/-- `t` is a register name or a decimal literal in range. -/
def IsSource (t : Text) : Prop :=
  (∃ r : Register, t = r.name) ∨ ∃ v, Decimal t v ∧ -1024 ≤ v ∧ v ≤ 1023

/-- A text is numeric exactly if it is a decimal literal of its numeric value. -/
theorem isNumeric_iff_decimal (t : Text) : isNumeric t ↔ Decimal t (numericValue t) := by
  cases t with
  | nil => simp [isNumeric, Decimal]
  | cons b rest =>
      by_cases minus : b = 0x2D
      · subst minus
        have signed : (0x2D : UInt8) :: rest ≠ [] := List.cons_ne_nil _ _
        simp only [isNumeric, numericValue, if_true, Bool.and_eq_true, Bool.not_eq_true',
          List.isEmpty_eq_false_iff, List.all_eq_true]
        constructor
        · rintro ⟨nonempty, all⟩
          exact ⟨rest, nonempty, all, Or.inr ⟨rfl, rfl⟩⟩
        · rintro ⟨digits, nonempty, all, ⟨text, _⟩ | ⟨text, _⟩⟩
          · have sign := all 0x2D (text ▸ List.mem_cons_self)
            exact absurd sign (by decide)
          · have same : rest = digits := (List.cons.inj text).2
            exact ⟨same ▸ nonempty, same ▸ all⟩
      · simp only [isNumeric, numericValue, if_neg minus, List.all_eq_true]
        constructor
        · intro all
          exact ⟨b :: rest, List.cons_ne_nil _ _, all, Or.inl ⟨rfl, rfl⟩⟩
        · rintro ⟨digits, _, all, ⟨text, _⟩ | ⟨text, _⟩⟩
          · exact text ▸ all
          · exact absurd (List.cons.inj text).1 minus

theorem Decimal.value_eq {t : Text} {v : Int} (decimal : Decimal t v) : numericValue t = v := by
  obtain ⟨digits, nonempty, all, ⟨rfl, rfl⟩ | ⟨rfl, rfl⟩⟩ := decimal
  · cases t with
    | nil => exact absurd rfl nonempty
    | cons b rest =>
        have minus : b ≠ 0x2D := by
          rintro rfl
          exact absurd (all 0x2D List.mem_cons_self) (by decide)
        simp [numericValue, minus]
  · simp [numericValue]

theorem Decimal.isNumeric {t : Text} {v : Int} (decimal : Decimal t v) : isNumeric t := by
  rw [isNumeric_iff_decimal, decimal.value_eq]
  exact decimal

/-- A decimal literal is encoded by its value. -/
theorem Decimal.encode_eq {t : Text} {v : Int} (decimal : Decimal t v) :
    encode t = ⟨literalField (Numeral.clamp64 v),
      if -1024 ≤ v ∧ v ≤ 1023 then [] else [.literalRange t]⟩ := by
  rw [encode, if_pos decimal.isNumeric, decimal.value_eq]
  rfl

/-- Any other text is taken for the name of a register. -/
theorem encode_of_not_decimal {t : Text} (verbal : ∀ v, ¬ Decimal t v) :
    encode t = ⟨registerField (Register.read t).value, (Register.read t).faults⟩ := by
  have plain : ¬ isNumeric t := fun numeric => verbal _ ((isNumeric_iff_decimal t).mp numeric)
  rw [encode, if_neg plain]

end Operand

namespace Register

theorem ofName?_eq_none_iff (t : Text) : ofName? t = none ↔ ∀ r : Register, t ≠ r.name := by
  simp only [ofName?, List.find?_eq_none, beq_iff_eq]
  constructor
  · intro other r equal
    exact other r (mem_all r) equal.symm
  · intro other r _ equal
    exact other r equal.symm

/-- Exactly the register names are read without fault. -/
theorem faults_read_eq_nil_iff (t : Text) : (read t).faults = [] ↔ ∃ r : Register, t = r.name := by
  cases found : ofName? t with
  | some r =>
      have name : t = r.name := by
        have equal := List.find?_some found
        exact (eq_of_beq equal).symm
      simp only [read, found, Checked.clean, true_iff]
      exact ⟨r, name⟩
  | none =>
      simp only [read, found, List.cons_ne_nil, false_iff, not_exists]
      exact (ofName?_eq_none_iff t).mp found

@[simp]
theorem read_name (r : Register) : read r.name = .clean r := by
  rw [read, ofName?_name]

theorem read_of_ne_name {t : Text} (other : ∀ r : Register, t ≠ r.name) :
    read t = ⟨nil, [.unknownRegister t]⟩ := by
  rw [read, (ofName?_eq_none_iff t).mpr other]

theorem not_decimal_name (r : Register) (v : Int) : ¬ Operand.Decimal r.name v := by
  intro decimal
  have verbal : Operand.isNumeric r.name = false := by cases r <;> decide
  rw [decimal.isNumeric] at verbal
  contradiction

end Register

namespace Operand

/-- Exactly the valid source operands are encoded without fault. -/
theorem faults_encode_eq_nil_iff (t : Text) : (encode t).faults = [] ↔ IsSource t := by
  by_cases numeric : ∃ v, Decimal t v
  · obtain ⟨v, decimal⟩ := numeric
    have range : (encode t).faults = [] ↔ -1024 ≤ v ∧ v ≤ 1023 := by
      rw [decimal.encode_eq]
      by_cases within : -1024 ≤ v ∧ v ≤ 1023 <;> simp [within]
    rw [range]
    constructor
    · intro within
      exact Or.inr ⟨v, decimal, within⟩
    · rintro (⟨r, rfl⟩ | ⟨w, literal, within⟩)
      · exact absurd decimal (r.not_decimal_name v)
      · rw [← decimal.value_eq, literal.value_eq]
        exact within
  · rw [encode_of_not_decimal (not_exists.mp numeric), Register.faults_read_eq_nil_iff]
    constructor
    · exact Or.inl
    · rintro (name | ⟨v, literal, _⟩)
      · exact name
      · exact absurd ⟨v, literal⟩ numeric

/-! ### Fields -/

/-- A source field: that of a register, or the eleven bits of a literal. -/
inductive IsField : Word → Prop where
  | register (r : Register) : IsField (registerField r)
  | literal (bits : BitVec 11) : IsField (bits.setWidth 16)

theorem literalField_eq (v : Int) : literalField v = (BitVec.ofInt 11 v).setWidth 16 := by
  apply BitVec.eq_of_toNat_eq
  have mask : literalMask.toNat = 2 ^ 11 - 1 := rfl
  rw [literalField, BitVec.toNat_and, mask, Nat.and_two_pow_sub_one_eq_mod]
  simp only [BitVec.toNat_ofInt, BitVec.toNat_setWidth]
  omega

/-- Every text is encoded into a source field, also one that is no source. -/
theorem isField_encode (t : Text) : IsField (encode t).value := by
  unfold encode
  split
  · simp only [literalField_eq]
    exact .literal _
  · exact .register _

theorem IsField.getLsbD {field : Word} (isField : IsField field) {i : Nat} (past : 12 ≤ i) :
    field.getLsbD i = false := by
  cases isField with
  | register r =>
      have small : (registerField r).toNat < 2 ^ i :=
        Nat.lt_of_lt_of_le (by cases r <;> decide : (registerField r).toNat < 2 ^ 12)
          (Nat.pow_le_pow_right (by decide) past)
      exact Nat.testBit_lt_two_pow small
  | literal bits =>
      rw [BitVec.getLsbD_setWidth, BitVec.getLsbD_of_ge bits i (by omega), Bool.and_false]

end Operand

/-! ## Instructions -/

namespace InstructionSet

/-- The mnemonics of jumps. -/
def jumpMnemonics : List Text :=
  ["JMP", "JEZ", "JNZ", "JGZ", "JLZ"]

/-- The mnemonics that take one source. -/
def unaryMnemonics : List Text :=
  ["ADD", "SUB", "JRO"]

/-- An instruction of a node that is encoded without fault. -/
structure Valid (mnemonic first second : Text) : Prop where
  registered : ∃ op ∈ node.opcodes, op.mnemonic = mnemonic
  move : mnemonic = Text.ofString "MOV" → Operand.IsSource first ∧ ∃ r : Register, second = r.name
  unary : mnemonic ∈ unaryMnemonics → Operand.IsSource first

/-! ### The table of a node -/

theorem lookup_node {op : Opcode} (member : op ∈ nodeOpcodes) :
    node.lookup op.mnemonic = some op := by
  have all : ∀ op ∈ nodeOpcodes, node.lookup op.mnemonic = some op := by decide
  exact all op member

theorem encode_node_of_mem {op : Opcode} (member : op ∈ nodeOpcodes) (first second : Text) :
    node.encode op.mnemonic first second = assemble op first second := by
  have all : ∀ op ∈ nodeOpcodes, op.mnemonic.isEmpty = false := by decide
  rw [encode, all op member, lookup_node member]
  rfl

theorem lookup_node_of_unregistered {mnemonic : Text}
    (unregistered : ¬ ∃ op ∈ nodeOpcodes, op.mnemonic = mnemonic) :
    node.lookup mnemonic = none := by
  apply List.find?_eq_none.mpr
  intro op member equal
  exact unregistered ⟨op, member, eq_of_beq equal⟩

theorem encode_node_of_unregistered {mnemonic : Text} (nonempty : mnemonic ≠ [])
    (unregistered : ¬ ∃ op ∈ nodeOpcodes, op.mnemonic = mnemonic) (first second : Text) :
    node.encode mnemonic first second = ⟨0#16, [.unknownOpcode mnemonic]⟩ := by
  have named : mnemonic.isEmpty = false := by simpa using nonempty
  simp [encode, named, lookup_node_of_unregistered unregistered]

theorem value_encode_node_of_unregistered {mnemonic : Text}
    (unregistered : ¬ ∃ op ∈ nodeOpcodes, op.mnemonic = mnemonic) (first second : Text) :
    (node.encode mnemonic first second).value = 0#16 := by
  by_cases empty : mnemonic = []
  · rw [empty]
    rfl
  · rw [encode_node_of_unregistered empty unregistered]

/-- The word of a move takes its upper bits from the second operand and its lower bits from
the first. -/
theorem encode_node_move (first second : Text) :
    node.encode "MOV" first second =
      ⟨(BitVec.ofNat 16 (Register.read second).value.code <<< 12) ||| (Operand.encode first).value,
        (Operand.encode first).faults ++ (Register.read second).faults⟩ := by
  have member : ⟨"MOV", .move, 0x0000#16⟩ ∈ nodeOpcodes := by decide
  rw [encode_node_of_mem member]
  simp only [assemble, BitVec.zero_or]

theorem encode_node_of_unary {op : Opcode} (member : op ∈ nodeOpcodes) (unary : op.kind = .unary)
    (first second : Text) :
    node.encode op.mnemonic first second =
      ⟨op.base ||| (Operand.encode first).value, (Operand.encode first).faults⟩ := by
  rw [encode_node_of_mem member, assemble, unary]

/-- The words of all other opcodes hold no operands. -/
theorem assemble_of_bare {op : Opcode} (move : op.kind ≠ .move) (unary : op.kind ≠ .unary)
    (first second : Text) : assemble op first second = .clean op.base := by
  unfold assemble
  split
  · contradiction
  · contradiction
  · rfl

theorem encode_node_of_bare {op : Opcode} (member : op ∈ nodeOpcodes) (move : op.kind ≠ .move)
    (unary : op.kind ≠ .unary) (first second : Text) :
    node.encode op.mnemonic first second = .clean op.base := by
  rw [encode_node_of_mem member, assemble_of_bare move unary]

theorem kind_eq_move_iff {op : Opcode} (member : op ∈ nodeOpcodes) :
    op.kind = .move ↔ op.mnemonic = Text.ofString "MOV" := by
  have all : ∀ op ∈ nodeOpcodes, op.kind = .move ↔ op.mnemonic = Text.ofString "MOV" := by
    decide
  exact all op member

theorem kind_eq_unary_iff {op : Opcode} (member : op ∈ nodeOpcodes) :
    op.kind = .unary ↔ op.mnemonic ∈ unaryMnemonics := by
  have all : ∀ op ∈ nodeOpcodes, op.kind = .unary ↔ op.mnemonic ∈ unaryMnemonics := by decide
  exact all op member

theorem kind_eq_jump_iff {op : Opcode} (member : op ∈ nodeOpcodes) :
    op.kind = .jump ↔ op.mnemonic ∈ jumpMnemonics := by
  have all : ∀ op ∈ nodeOpcodes, op.kind = .jump ↔ op.mnemonic ∈ jumpMnemonics := by decide
  exact all op member

theorem exists_of_mem_unaryMnemonics {mnemonic : Text} (unary : mnemonic ∈ unaryMnemonics) :
    ∃ op ∈ nodeOpcodes, op.kind = .unary ∧ op.mnemonic = mnemonic := by
  have all : ∀ mnemonic ∈ unaryMnemonics,
      ∃ op ∈ nodeOpcodes, op.kind = .unary ∧ op.mnemonic = mnemonic := by decide
  exact all mnemonic unary

theorem exists_of_mem_jumpMnemonics {mnemonic : Text} (jump : mnemonic ∈ jumpMnemonics) :
    ∃ op ∈ nodeOpcodes, op.kind = .jump ∧ op.mnemonic = mnemonic := by
  have all : ∀ mnemonic ∈ jumpMnemonics,
      ∃ op ∈ nodeOpcodes, op.kind = .jump ∧ op.mnemonic = mnemonic := by decide
  exact all mnemonic jump

theorem assemble_faults_eq_nil_iff (op : Opcode) (first second : Text) :
    (assemble op first second).faults = [] ↔
      (op.kind = .move → Operand.IsSource first ∧ ∃ r : Register, second = r.name) ∧
        (op.kind = .unary → Operand.IsSource first) := by
  rw [← Operand.faults_encode_eq_nil_iff, ← Register.faults_read_eq_nil_iff]
  unfold assemble
  cases op.kind <;> simp [Checked.clean]

/-- Exactly the valid instructions are encoded without fault. -/
theorem faults_encode_node_eq_nil_iff {mnemonic : Text} (nonempty : mnemonic ≠ [])
    (first second : Text) :
    (node.encode mnemonic first second).faults = [] ↔ Valid mnemonic first second := by
  by_cases registered : ∃ op ∈ nodeOpcodes, op.mnemonic = mnemonic
  · obtain ⟨op, member, rfl⟩ := registered
    rw [encode_node_of_mem member, assemble_faults_eq_nil_iff, kind_eq_move_iff member,
      kind_eq_unary_iff member]
    constructor
    · rintro ⟨move, unary⟩
      exact ⟨⟨op, member, rfl⟩, move, unary⟩
    · rintro ⟨_, move, unary⟩
      exact ⟨move, unary⟩
  · rw [encode_node_of_unregistered nonempty registered]
    constructor
    · intro clean
      exact absurd clean (List.cons_ne_nil _ _)
    · intro valid
      exact absurd valid.registered registered

/-! ### Jumps -/

theorem getLsbD_of_isJump {w : Word} (jump : w.isJump) :
    w.getLsbD 15 = true ∧ w.getLsbD 14 = true := by
  have bits : w &&& Word.classMask = Word.jumpClass := eq_of_beq jump
  have top := congrArg (fun w : Word => w.getLsbD 15) bits
  have next := congrArg (fun w : Word => w.getLsbD 14) bits
  simp [Word.classMask, Word.jumpClass] at top next
  exact ⟨top, next⟩

theorem getLsbD_destination (r : Register) :
    (BitVec.ofNat 16 r.code <<< 12).getLsbD 15 = false := by
  cases r <;> decide

theorem not_isJump_assemble_move {op : Opcode} (member : op ∈ nodeOpcodes)
    (move : op.kind = .move) (first second : Text) :
    ¬ (assemble op first second).value.isJump := by
  have base : ∀ op ∈ nodeOpcodes, op.kind = .move → op.base.getLsbD 15 = false := by decide
  intro jump
  have top := (getLsbD_of_isJump jump).1
  simp only [assemble, move, BitVec.getLsbD_or, base op member move, getLsbD_destination,
    (Operand.isField_encode first).getLsbD (by decide : 12 ≤ 15)] at top
  contradiction

theorem not_isJump_assemble_unary {op : Opcode} (member : op ∈ nodeOpcodes)
    (unary : op.kind = .unary) (first second : Text) :
    ¬ (assemble op first second).value.isJump := by
  have base : ∀ op ∈ nodeOpcodes, op.kind = .unary → op.base.getLsbD 14 = false := by decide
  intro jump
  have next := (getLsbD_of_isJump jump).2
  simp only [assemble, unary, BitVec.getLsbD_or, base op member unary,
    (Operand.isField_encode first).getLsbD (by decide : 12 ≤ 14)] at next
  contradiction

theorem isJump_assemble_iff {op : Opcode} (member : op ∈ nodeOpcodes) (first second : Text) :
    (assemble op first second).value.isJump ↔ op.kind = .jump := by
  have bases : ∀ op ∈ nodeOpcodes, op.kind ≠ .move → op.kind ≠ .unary →
      (op.base.isJump ↔ op.kind = .jump) := by decide
  by_cases move : op.kind = .move
  · simp [not_isJump_assemble_move member move, move]
  · by_cases unary : op.kind = .unary
    · simp [not_isJump_assemble_unary member unary, unary]
    · rw [assemble_of_bare move unary]
      exact bases op member move unary

/-- Exactly the jump mnemonics make words of the jump class, whatever their
operands. -/
theorem isJump_encode_node_iff (mnemonic first second : Text) :
    (node.encode mnemonic first second).value.isJump ↔ mnemonic ∈ jumpMnemonics := by
  by_cases registered : ∃ op ∈ nodeOpcodes, op.mnemonic = mnemonic
  · obtain ⟨op, member, rfl⟩ := registered
    rw [encode_node_of_mem member, isJump_assemble_iff member, kind_eq_jump_iff member]
  · rw [value_encode_node_of_unregistered registered]
    constructor
    · intro jump
      exact absurd jump (by decide)
    · intro jump
      obtain ⟨op, member, _, named⟩ := exists_of_mem_jumpMnemonics jump
      exact absurd ⟨op, member, named⟩ registered

end InstructionSet

end NodeAsm
