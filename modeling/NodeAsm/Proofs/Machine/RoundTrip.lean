import Mathlib.Tactic.IntervalCases
import NodeAsm.Machine.Disassembly
import NodeAsm.Node
import NodeAsm.Proofs.Machine.SourceOperand
import NodeAsm.Proofs.Source.Words

/-!
# Disassembled words read back

The words that a node can hold are few in kind, also where the source was faulty.
Each of them is disassembled into an instruction that is encoded into the same
word. A jump names its target by number and gets it back where that number is
bound to the slot.
-/

namespace NodeAsm

/-! ## The words of a node -/

namespace InstructionSet

/-- The words that a node can hold once its labels are resolved. A literal hides
which unary opcode it came with. -/
inductive Emitted : Word → Prop where
  | nullary {op : Opcode} (member : op ∈ nodeOpcodes) (kind : op.kind = .nullary) :
      Emitted op.base
  | move (destination : Register) {field : Word} (source : Operand.IsField field) :
      Emitted ((BitVec.ofNat 16 destination.code <<< 12) ||| field)
  | unary {op : Opcode} (member : op ∈ nodeOpcodes) (kind : op.kind = .unary)
      (source : Register) : Emitted (op.base ||| Operand.registerField source)
  | literal (bits : BitVec 11) : Emitted (0x8000#16 ||| bits.setWidth 16)
  | jump {op : Opcode} (member : op ∈ nodeOpcodes) (kind : op.kind = .jump)
      (target : Fin slotCount) : Emitted (op.base.withTarget (target : Nat))

theorem emitted_zero : Emitted 0#16 := by
  have member : ⟨"NOP", .nullary, 0x0000#16⟩ ∈ nodeOpcodes := by decide
  exact Emitted.nullary member rfl

theorem emitted_assemble_unary {op : Opcode} (member : op ∈ nodeOpcodes)
    (unary : op.kind = .unary) {field : Word} (source : Operand.IsField field) :
    Emitted (op.base ||| field) := by
  have bases : ∀ op ∈ nodeOpcodes, op.kind = .unary →
      op.base = 0x8000#16 ||| (op.base.setWidth 11).setWidth 16 := by decide
  cases source with
  | register r => exact .unary member unary r
  | literal bits =>
      rw [bases op member unary, BitVec.or_assoc, ← BitVec.setWidth_or]
      exact .literal _

/-- Every opcode but a jump is assembled into such a word, whatever its operands. -/
theorem emitted_assemble {op : Opcode} (member : op ∈ nodeOpcodes) (plain : op.kind ≠ .jump)
    (first second : Text) : Emitted (assemble op first second).value := by
  have known : ∀ op ∈ nodeOpcodes, op.kind ≠ .other := by decide
  have moves : ∀ op ∈ nodeOpcodes, op.kind = .move → op.base = 0#16 := by decide
  cases kind : op.kind with
  | nullary =>
      simp only [assemble, kind]
      exact .nullary member kind
  | move =>
      simp only [assemble, kind, moves op member kind, BitVec.zero_or]
      exact .move _ (Operand.isField_encode first)
  | unary =>
      simp only [assemble, kind]
      exact emitted_assemble_unary member kind (Operand.isField_encode first)
  | jump => contradiction
  | other => exact absurd kind (known op member)

/-- An instruction is encoded into such a word or into the base of a jump, also if
it is faulty. -/
theorem emitted_encode_node (mnemonic first second : Text) :
    (¬ (node.encode mnemonic first second).value.isJump →
        Emitted (node.encode mnemonic first second).value) ∧
      ((node.encode mnemonic first second).value.isJump →
        ∃ op ∈ nodeOpcodes, op.kind = .jump ∧
          (node.encode mnemonic first second).value = op.base) := by
  by_cases registered : ∃ op ∈ nodeOpcodes, op.mnemonic = mnemonic
  · obtain ⟨op, member, rfl⟩ := registered
    rw [encode_node_of_mem member, isJump_assemble_iff member]
    refine ⟨fun plain => emitted_assemble member plain first second, fun jump => ?_⟩
    exact ⟨op, member, jump, by simp [assemble, jump, Checked.clean]⟩
  · have zero := value_encode_node_of_unregistered registered first second
    rw [zero]
    exact ⟨fun _ => emitted_zero, fun jump => absurd jump (by decide)⟩

theorem withTarget_zero {op : Opcode} (member : op ∈ nodeOpcodes) (jump : op.kind = .jump) :
    op.base.withTarget (0 : Nat) = op.base := by
  have all : ∀ op ∈ nodeOpcodes, op.kind = .jump → op.base.withTarget (0 : Nat) = op.base := by
    decide
  exact all op member jump

/-! ## The texts of the words -/

/-- The first opcode whose bits fit gives the text, unless an opcode without
operands is the word itself. -/
theorem disassemble_eq {isa : InstructionSet} {w : Word} {op : Opcode} {t : Text}
    (before after : List Opcode) (table : isa.opcodes = before ++ op :: after)
    (operands : ∀ other ∈ isa.opcodes, other.kind = .nullary → w ≠ other.base)
    (skipped : ∀ other ∈ before, disassembleAs? other w = none)
    (found : disassembleAs? op w = some t) : isa.disassemble w = t := by
  have exact : isa.opcodes.find? (fun op => op.kind == .nullary && w == op.base) = none := by
    apply List.find?_eq_none.mpr
    intro other member
    simp only [Bool.and_eq_true, beq_iff_eq, not_and]
    exact operands other member
  have first : isa.opcodes.findSome? (fun op => disassembleAs? op w) = some t := by
    rw [table, List.findSome?_append, List.findSome?_eq_none_iff.mpr skipped, Option.none_or,
      List.findSome?_cons, found]
  simp only [disassemble, exact, first]

theorem disassemble_nullary {op : Opcode} (member : op ∈ nodeOpcodes)
    (nullary : op.kind = .nullary) : node.disassemble op.base = op.mnemonic := by
  have all : ∀ op ∈ nodeOpcodes, op.kind = .nullary → node.disassemble op.base = op.mnemonic := by
    decide
  exact all op member nullary

theorem disassemble_unary {op : Opcode} (member : op ∈ nodeOpcodes) (unary : op.kind = .unary)
    (r : Register) :
    node.disassemble (op.base ||| Operand.registerField r) = op.mnemonic ++ " " ++ r.name := by
  have all : ∀ op ∈ nodeOpcodes, op.kind = .unary → ∀ r ∈ Register.all,
      node.disassemble (op.base ||| Operand.registerField r) = op.mnemonic ++ " " ++ r.name := by
    decide +kernel
  exact all op member unary r (Register.mem_all r)

theorem disassemble_jump {op : Opcode} (member : op ∈ nodeOpcodes) (jump : op.kind = .jump)
    (target : Fin slotCount) :
    node.disassemble (op.base.withTarget (target : Nat)) =
      op.mnemonic ++ " " ++ Numeral.ofNat target := by
  have all : ∀ op ∈ nodeOpcodes, op.kind = .jump → ∀ target : Fin 16,
      node.disassemble (op.base.withTarget (target : Nat)) =
        op.mnemonic ++ " " ++ Numeral.ofNat target := by
    decide +kernel
  exact all op member jump target

/-! ### Moves -/

theorem and_sourceMask {field : Word} (isField : Operand.IsField field) :
    field &&& sourceMask = field := by
  cases isField with
  | register r => cases r <;> decide
  | literal bits =>
      ext i within
      interval_cases i <;> simp [sourceMask]

theorem and_eq_zero {field mask : Word} (isField : Operand.IsField field)
    (apart : sourceMask &&& mask = 0#16) : field &&& mask = 0#16 := by
  rw [← and_sourceMask isField, BitVec.and_assoc, apart, BitVec.and_zero]

/-- The parts of the word of a move. -/
theorem move_parts (r : Register) {field : Word} (isField : Operand.IsField field) :
    ((BitVec.ofNat 16 r.code <<< 12) ||| field) &&& ~~~(destinationMask ||| sourceMask) = 0#16 ∧
      sourceOf ((BitVec.ofNat 16 r.code <<< 12) ||| field) = Operand.decode field ∧
      destinationOf ((BitVec.ofNat 16 r.code <<< 12) ||| field) = r := by
  have outside : (BitVec.ofNat 16 r.code <<< 12) &&& ~~~(destinationMask ||| sourceMask) = 0#16 := by
    cases r <;> decide
  have source : (BitVec.ofNat 16 r.code <<< 12) &&& sourceMask = 0#16 := by
    cases r <;> decide
  have destination : .ofCode (((BitVec.ofNat 16 r.code <<< 12) &&& destinationMask) >>> 12).toNat =
      r := by
    cases r <;> decide
  refine ⟨?_, ?_, ?_⟩
  · rw [BitVec.and_or_distrib_right, outside, and_eq_zero isField (by decide), BitVec.or_zero]
  · rw [sourceOf, BitVec.and_or_distrib_right, source, and_sourceMask isField, BitVec.zero_or]
  · rw [destinationOf, BitVec.and_or_distrib_right, and_eq_zero isField (by decide),
      BitVec.or_zero, destination]

/-- A move is disassembled as such, except the one that does nothing. -/
theorem disassemble_move (r : Register) {field : Word} (isField : Operand.IsField field)
    (effective : (BitVec.ofNat 16 r.code <<< 12) ||| field ≠ 0#16) :
    node.disassemble ((BitVec.ofNat 16 r.code <<< 12) ||| field) =
      "MOV" ++ " " ++ (Operand.decode field).text ++ ", " ++ r.name := by
  obtain ⟨outside, source, destination⟩ := move_parts r isField
  have bases : ∀ op ∈ nodeOpcodes, op.kind = .nullary →
      op.base ≠ 0#16 → op.base &&& ~~~(destinationMask ||| sourceMask) ≠ 0#16 := by decide
  apply disassemble_eq [⟨"NOP", .nullary, 0x0000#16⟩] _ rfl
  · intro op member nullary equal
    rw [equal] at outside effective
    exact bases op member nullary effective outside
  · intro op member
    rw [List.mem_singleton.mp member]
    rfl
  · simp only [disassembleAs?, outside, source, destination, if_true]

/-! ### Literals -/

/-- The parts of the word of a source for the accumulator. -/
theorem unary_parts {field : Word} (isField : Operand.IsField field) :
    (0x8000#16 ||| field) &&& ~~~(destinationMask ||| sourceMask) = 0x8000#16 ∧
      (0x8000#16 ||| field) &&& ~~~sourceMask = 0x8000#16 ∧
      (0x8000#16 ||| field) &&& sourceMask = field := by
  refine ⟨?_, ?_, ?_⟩
  · rw [BitVec.and_or_distrib_right, and_eq_zero isField (by decide)]
    decide
  · rw [BitVec.and_or_distrib_right, and_eq_zero isField (by decide)]
    decide
  · rw [BitVec.and_or_distrib_right, and_sourceMask isField]
    exact BitVec.zero_or

/-- A literal is disassembled as that of the first unary opcode. -/
theorem disassemble_literal (bits : BitVec 11) :
    node.disassemble (0x8000#16 ||| bits.setWidth 16) =
      "ADD" ++ " " ++ (Operand.decode (bits.setWidth 16)).text := by
  obtain ⟨outside, _, source⟩ := unary_parts (.literal bits)
  have flag : (0x8000#16 ||| bits.setWidth 16) &&& Operand.registerFlag = 0#16 := by
    ext i within
    interval_cases i <;> simp [Operand.registerFlag]
  have base : (0x8000#16 ||| bits.setWidth 16) &&& ~~~Operand.literalMask = 0x8000#16 := by
    ext i within
    interval_cases i <;> simp [Operand.literalMask]
  have upper : (0x8000#16 ||| bits.setWidth 16) &&& 0x6000#16 = 0#16 := by
    rw [BitVec.and_or_distrib_right, and_eq_zero (.literal bits) (by decide)]
    decide
  have bases : ∀ op ∈ nodeOpcodes, op.kind = .nullary →
      op.base &&& ~~~(destinationMask ||| sourceMask) = 0x8000#16 →
      op.base &&& 0x6000#16 ≠ 0#16 := by decide
  apply disassemble_eq [⟨"NOP", .nullary, 0x0000#16⟩, ⟨"MOV", .move, 0x0000#16⟩] _ rfl
  · intro op member nullary equal
    rw [equal] at outside upper
    exact bases op member nullary outside upper
  · intro op member
    rcases List.mem_cons.mp member with rfl | member
    · rfl
    · rw [List.mem_singleton.mp member]
      simp only [disassembleAs?, outside]
      exact if_neg (by decide)
  · simp only [disassembleAs?, flag, base, sourceOf, source, ne_eq, not_true_eq_false, if_false,
      if_true]

/-! ## Reading the texts -/

/-- The word of an instruction that is split into words. -/
def encodeWords (words : List Text) : Checked Word :=
  node.encode (words.getD 0 []) (words.getD 1 []) (words.getD 2 [])

/-- The words of an instruction that is encoded into `w` without fault, up to the
target of a jump, which it gives by number. -/
structure Recovers (words : List Text) (w : Word) : Prop where
  nonempty : words ≠ []
  short : words.length ≤ 3
  faultless : (encodeWords words).faults = []
  plain : ¬ (encodeWords words).value.isJump → (encodeWords words).value = w
  jump : (encodeWords words).value.isJump → ∃ target : Fin slotCount,
    words.getD 1 [] = Numeral.ofNat target ∧ (encodeWords words).value.withTarget (target : Nat) = w

/-- An instruction that is no jump is recovered if it is encoded into the word. -/
theorem recovers_of_clean {words : List Text} {w : Word} (nonempty : words ≠ [])
    (short : words.length ≤ 3) (plain : words.getD 0 [] ∉ jumpMnemonics)
    (clean : encodeWords words = .clean w) : Recovers words w where
  nonempty := nonempty
  short := short
  faultless := by
    rw [clean]
    rfl
  plain _ := by
    rw [clean]
    rfl
  jump jump := absurd ((isJump_encode_node_iff _ _ _).mp jump) plain

theorem recovers_nullary {op : Opcode} (member : op ∈ nodeOpcodes) (nullary : op.kind = .nullary) :
    Recovers [op.mnemonic] op.base := by
  apply recovers_of_clean (by simp) (by simp)
  · rw [List.getD_cons_zero, ← kind_eq_jump_iff member, nullary]
    decide
  · rw [encodeWords, List.getD_cons_zero]
    exact encode_node_of_bare member (by simp [nullary]) (by simp [nullary]) _ _

theorem recovers_unary {op : Opcode} (member : op ∈ nodeOpcodes) (unary : op.kind = .unary)
    {field : Word} (isField : Operand.IsField field) :
    Recovers [op.mnemonic, (Operand.decode field).text] (op.base ||| field) := by
  apply recovers_of_clean (by simp) (by simp)
  · rw [List.getD_cons_zero, ← kind_eq_jump_iff member, unary]
    decide
  · rw [encodeWords, List.getD_cons_zero, List.getD_cons_succ, List.getD_cons_zero,
      encode_node_of_unary member unary, Operand.encode_text_decode isField]
    rfl

theorem recovers_move (r : Register) {field : Word} (isField : Operand.IsField field) :
    Recovers ["MOV", (Operand.decode field).text, r.name]
      ((BitVec.ofNat 16 r.code <<< 12) ||| field) := by
  apply recovers_of_clean (by simp) (by simp)
  · rw [List.getD_cons_zero]
    decide
  · simp only [encodeWords, List.getD_cons_zero, List.getD_cons_succ, encode_node_move,
      Operand.encode_text_decode isField, Register.read_name]
    rfl

theorem recovers_jump {op : Opcode} (member : op ∈ nodeOpcodes) (jump : op.kind = .jump)
    (target : Fin slotCount) :
    Recovers [op.mnemonic, Numeral.ofNat target] (op.base.withTarget (target : Nat)) := by
  have encoded : encodeWords [op.mnemonic, Numeral.ofNat target] = .clean op.base := by
    rw [encodeWords, List.getD_cons_zero]
    exact encode_node_of_bare member (by simp [jump]) (by simp [jump]) _ _
  have jumps : op.base.isJump := by
    have all : ∀ op ∈ nodeOpcodes, op.kind = .jump → op.base.isJump := by decide
    exact all op member jump
  refine ⟨by simp, by simp, ?_, ?_, ?_⟩
  · rw [encoded]
    rfl
  · rw [encoded]
    exact fun plain => absurd jumps plain
  · rw [encoded]
    exact fun _ => ⟨target, rfl, rfl⟩

/-! ### Words of the texts -/

theorem isWordByte_of_isDigit {b : UInt8} (digit : Numeral.isDigit b) :
    Statement.isWordByte b ∧ b ≠ Statement.commentMarker := by
  have other (c : UInt8) (plain : Numeral.isDigit c = false) : b ≠ c :=
    Numeral.ne_of_isDigit digit plain
  simp only [Statement.isWordByte, Statement.isDelimiter, Bool.not_eq_true', Bool.or_eq_false_iff,
    beq_eq_false_iff_ne]
  exact ⟨⟨⟨⟨⟨other _ rfl, other _ rfl⟩, other _ rfl⟩, other _ rfl⟩, other _ rfl⟩, other _ rfl⟩

theorem isWord_ofNat (n : Nat) : Statement.IsWord (Numeral.ofNat n) :=
  ⟨Numeral.ofNat_ne_nil n, fun _ member =>
    isWordByte_of_isDigit (Numeral.isDigit_of_mem_ofNat member)⟩

theorem isWord_ofInt (v : Int) : Statement.IsWord (Numeral.ofInt v) := by
  unfold Numeral.ofInt
  split
  · refine ⟨List.cons_ne_nil _ _, fun b member => ?_⟩
    rcases List.mem_cons.mp member with rfl | member
    · decide
    · exact (isWord_ofNat v.natAbs).2 b member
  · exact isWord_ofNat v.natAbs

theorem isWord_name (r : Register) : Statement.IsWord r.name := by
  cases r <;> decide

theorem isWord_text (operand : Operand) : Statement.IsWord operand.text := by
  cases operand with
  | register r => exact isWord_name r
  | literal v => exact isWord_ofInt v

theorem isWord_mnemonic {op : Opcode} (member : op ∈ nodeOpcodes) :
    Statement.IsWord op.mnemonic := by
  have all : ∀ op ∈ nodeOpcodes, Statement.IsWord op.mnemonic := by decide
  exact all op member

/-- Every word of a node is disassembled into an instruction that recovers it. -/
theorem disassemble_recovers {w : Word} (emitted : Emitted w) :
    ∃ words, Statement.Splits (node.disassemble w) words ∧ Recovers words w := by
  cases emitted with
  | @nullary op member nullary =>
      rw [disassemble_nullary member nullary]
      exact ⟨_, (isWord_mnemonic member).splits, recovers_nullary member nullary⟩
  | @move r field isField =>
      by_cases effective : (BitVec.ofNat 16 r.code <<< 12) ||| field = 0#16
      · rw [effective]
        have member : ⟨"NOP", .nullary, 0x0000#16⟩ ∈ nodeOpcodes := by decide
        rw [disassemble_nullary member rfl]
        exact ⟨_, (isWord_mnemonic member).splits, recovers_nullary member rfl⟩
      · rw [disassemble_move r isField effective]
        have mnemonic : Statement.IsWord (Text.ofString "MOV") := by decide
        exact ⟨_, (mnemonic.splits.space (isWord_text _)).comma (isWord_name r),
          recovers_move r isField⟩
  | @unary op member unary r =>
      have recovers := recovers_unary member unary (.register r)
      rw [Operand.decode_registerField] at recovers
      rw [disassemble_unary member unary r]
      exact ⟨_, (isWord_mnemonic member).splits.space (isWord_name r), recovers⟩
  | literal bits =>
      have member : ⟨"ADD", .unary, 0x8000#16⟩ ∈ nodeOpcodes := by decide
      rw [disassemble_literal bits]
      exact ⟨_, (isWord_mnemonic member).splits.space (isWord_text _),
        recovers_unary member rfl (.literal bits)⟩
  | @jump op member jump target =>
      rw [disassemble_jump member jump target]
      exact ⟨_, (isWord_mnemonic member).splits.space (isWord_ofNat _),
        recovers_jump member jump target⟩

end InstructionSet

end NodeAsm
