import Mathlib.Tactic.IntervalCases
import NodeAsm.Machine.Disassembly
import NodeAsm.Proofs.Machine.Registration
import NodeAsm.Proofs.Machine.RoundTrip
import NodeAsm.Proofs.Machine.Target

/-!
# Words that are shown as data

A word is read as an instruction if its bits outside the operands are those of some
opcode. A unary opcode and a jump make every word that is read as theirs. A move does
not: its source may name a register and have bits below it, which no operand sets, and
such a word is read as a move all the same. An opcode without mnemonic makes no word
either, since nothing stands for it in a source. Apart from these two cases, a word that
no instruction is encoded into is shown as data.
-/

namespace NodeAsm

/-! ## Bits of operands -/

theorem Register.code_ofCode (n : Nat) : (ofCode n).code = n % 8 := by
  have all : ∀ n < 8, (ofCode n).code = n := by decide
  have reduced : ofCode n = ofCode (n % 8) := by rw [ofCode, ofCode, Nat.mod_mod]
  rw [reduced]
  exact all (n % 8) (Nat.mod_lt n (by decide))

namespace InstructionSet

theorem and_not_or_and (w mask : Word) : w &&& ~~~mask ||| w &&& mask = w := by
  rw [← BitVec.and_or_distrib_left, BitVec.or_comm, BitVec.or_not_self, BitVec.and_allOnes]

theorem toNat_ushiftRight_lt (w : Word) {mask : Word} {n : Nat} (small : mask.toNat < 8 * 2 ^ n) :
    ((w &&& mask) >>> n).toNat < 8 := by
  rw [BitVec.toNat_ushiftRight, BitVec.toNat_and, Nat.shiftRight_eq_div_pow]
  apply Nat.div_lt_of_lt_mul
  rw [Nat.mul_comm]
  exact Nat.lt_of_le_of_lt Nat.and_le_right small

/-- The register that three bits of a word stand for has these bits as its code. -/
theorem shiftLeft_code_ofCode (w : Word) {mask : Word} {n : Nat} (small : mask.toNat < 8 * 2 ^ n)
    (upper : mask &&& BitVec.allOnes 16 <<< n = mask) :
    BitVec.ofNat 16 (Register.ofCode ((w &&& mask) >>> n).toNat).code <<< n = w &&& mask := by
  rw [Register.code_ofCode, Nat.mod_eq_of_lt (toNat_ushiftRight_lt w small), BitVec.ofNat_toNat,
    BitVec.setWidth_eq, BitVec.shiftLeft_ushiftRight, BitVec.and_assoc, upper]

theorem and_registerFlag_eq_zero_iff (w : Word) :
    w &&& Operand.registerFlag = 0#16 ↔ w.getLsbD 11 = false := by
  constructor
  · intro clear
    have bit := congrArg (fun w : Word => w.getLsbD 11) clear
    simpa [Operand.registerFlag] using bit
  · intro clear
    ext i within
    interval_cases i <;> simp_all [Operand.registerFlag]

theorem and_registerFlag {w : Word} (register : w.getLsbD 11 = true) :
    w &&& Operand.registerFlag = Operand.registerFlag := by
  ext i within
  interval_cases i <;> simp_all [Operand.registerFlag]

/-- The low twelve bits are a source field, unless they name a register and have bits below
it. -/
theorem isField_and_sourceMask {w : Word}
    (clear : w.getLsbD 11 = true → w &&& 0x00FF#16 = 0#16) :
    Operand.IsField (w &&& sourceMask) := by
  by_cases register : w.getLsbD 11 = true
  · have masks : sourceMask = Operand.registerMask ||| Operand.registerFlag ||| 0x00FF#16 := by
      decide
    have code := @shiftLeft_code_ofCode w Operand.registerMask 8 (by decide) (by decide)
    have parts : w &&& sourceMask =
        Operand.registerField (.ofCode ((w &&& Operand.registerMask) >>> 8).toNat) := by
      rw [masks, BitVec.and_or_distrib_left, BitVec.and_or_distrib_left, clear register,
        BitVec.or_zero, and_registerFlag register, Operand.registerField, code]
    rw [parts]
    exact .register _
  · have parts : w &&& sourceMask = (w.setWidth 11).setWidth 16 := by
      ext i within
      interval_cases i <;> simp_all [sourceMask]
    rw [parts]
    exact .literal _

/-- A part of the low twelve bits is a source field under the same condition. -/
theorem isField_and {w mask : Word} (within : mask &&& sourceMask = mask)
    (clear : (w &&& mask).getLsbD 11 = true → w &&& mask &&& 0x00FF#16 = 0#16) :
    Operand.IsField (w &&& mask) := by
  have field := isField_and_sourceMask clear
  rw [BitVec.and_assoc, within] at field
  exact field

/-! ## Words of an opcode -/

/-- An instruction of class `kind` that is encoded into `c` yields `w`: it has no fault, and
`w` is its word, for a jump with some slot as its target. -/
def Yields (kind : OpcodeClass) (c : Checked Word) (w : Word) : Prop :=
  c.faults = [] ∧
    if kind = .jump then ∃ slot < slotCount, c.value.withTarget (slot : Nat) = w else c.value = w

/-- Some registered mnemonic yields `w` with some operands. -/
def Produces (isa : InstructionSet) (w : Word) : Prop :=
  ∃ op ∈ isa.opcodes, ∃ first second, Yields op.kind (isa.encode op.mnemonic first second) w

/-- The bits of `w` that the operands of an opcode of class `kind` take. -/
def operandBits (kind : OpcodeClass) (w : Word) : Word :=
  match kind with
  | .move => 0x7FFF#16
  | .unary => if w.getLsbD 11 then 0x0F00#16 else 0x07FF#16
  | .jump => 0x03C0#16
  | _ => 0#16

/-- The bits of `w` outside the operands are those of `op`. -/
def Fits (op : Opcode) (w : Word) : Prop :=
  op.kind ≠ .other ∧ w &&& ~~~operandBits op.kind w = op.base

/-- `w` has the class bit of the move `op`, and its source names a register and has bits below
it. -/
structure Stray (op : Opcode) (w : Word) : Prop where
  move : op.kind = .move
  base : w &&& 0x8000#16 = op.base
  register : w.getLsbD 11 = true
  below : w &&& 0x00FF#16 ≠ 0#16

theorem fits_nullary_iff {op : Opcode} (nullary : op.kind = .nullary) (w : Word) :
    Fits op w ↔ w = op.base := by
  have bits : ~~~operandBits .nullary w = BitVec.allOnes 16 := by
    simp only [operandBits]
    decide
  rw [Fits, nullary, bits, BitVec.and_allOnes]
  simp

theorem fits_move_iff {op : Opcode} (move : op.kind = .move) (w : Word) :
    Fits op w ↔ w &&& 0x8000#16 = op.base := by
  have bits : ~~~operandBits .move w = 0x8000#16 := by
    simp only [operandBits]
    decide
  simp [Fits, move, bits]

theorem fits_unary_iff {op : Opcode} (unary : op.kind = .unary) (w : Word) :
    Fits op w ↔ w &&& ~~~operandBits .unary w = op.base := by
  simp [Fits, unary]

theorem fits_jump_iff {op : Opcode} (jump : op.kind = .jump) (w : Word) :
    Fits op w ↔ w &&& ~~~Word.targetMask = op.base := by
  have bits : operandBits .jump w = Word.targetMask := rfl
  simp [Fits, jump, bits]

theorem Stray.fits {op : Opcode} {w : Word} (stray : Stray op w) : Fits op w :=
  (fits_move_iff stray.move w).mpr stray.base

theorem yields_of_eq_clean {kind : OpcodeClass} {c : Checked Word} {w : Word}
    (plain : kind ≠ .jump) (clean : c = .clean w) : Yields kind c w := by
  rw [clean]
  exact ⟨rfl, by rw [if_neg plain]; rfl⟩

/-- A move makes every word that fits it, unless the word has stray bits. -/
theorem exists_yields_move {op : Opcode} {w : Word} (move : op.kind = .move) (fits : Fits op w)
    (clear : w.getLsbD 11 = true → w &&& 0x00FF#16 = 0#16) :
    ∃ first second, Yields op.kind (assemble op first second) w := by
  have base := (fits_move_iff move w).mp fits
  have masks : 0x8000#16 = ~~~(destinationMask ||| sourceMask) := by decide
  have word : op.base ||| (w &&& destinationMask) ||| (w &&& sourceMask) = w := by
    rw [← base, masks, BitVec.or_assoc, ← BitVec.and_or_distrib_left, and_not_or_and]
  have code := @shiftLeft_code_ofCode w destinationMask 12 (by decide) (by decide)
  refine ⟨(Operand.decode (w &&& sourceMask)).text, (destinationOf w).name, ?_⟩
  apply yields_of_eq_clean (by simp [move])
  simp only [assemble, move, Operand.encode_text_decode (isField_and_sourceMask clear),
    Register.read_name, Checked.clean, destinationOf, code, word, List.append_nil]

theorem isField_and_operandBits (w : Word) : Operand.IsField (w &&& operandBits .unary w) := by
  simp only [operandBits]
  split
  · apply isField_and (by decide)
    intro _
    rw [BitVec.and_assoc]
    exact BitVec.and_zero
  · apply isField_and (by decide)
    intro register
    simp at register

/-- A unary opcode makes every word that fits it. -/
theorem exists_yields_unary {op : Opcode} {w : Word} (unary : op.kind = .unary)
    (fits : Fits op w) : ∃ first second, Yields op.kind (assemble op first second) w := by
  have base := (fits_unary_iff unary w).mp fits
  have word : op.base ||| (w &&& operandBits .unary w) = w := by
    rw [← base, and_not_or_and]
  refine ⟨(Operand.decode (w &&& operandBits .unary w)).text, [], ?_⟩
  apply yields_of_eq_clean (by simp [unary])
  simp only [assemble, unary, Operand.encode_text_decode (isField_and_operandBits w),
    Checked.clean, word]

/-- So does a jump, with the target of the word. -/
theorem exists_yields_jump {op : Opcode} {w : Word} (jump : op.kind = .jump) (fits : Fits op w) :
    ∃ first second, Yields op.kind (assemble op first second) w := by
  have base := (fits_jump_iff jump w).mp fits
  refine ⟨[], [], ?_⟩
  rw [assemble_of_bare (by simp [jump]) (by simp [jump])]
  refine ⟨rfl, ?_⟩
  rw [if_pos jump]
  refine ⟨w.target, w.target_lt, ?_⟩
  rw [Checked.clean, ← base, Word.withTarget_and_not, Word.withTarget_target]

/-- An opcode makes every word that fits it, except a move whose word has stray bits. -/
theorem Fits.exists_yields_or_stray {op : Opcode} {w : Word} (fits : Fits op w) :
    (∃ first second, Yields op.kind (assemble op first second) w) ∨ Stray op w := by
  cases kind : op.kind with
  | nullary =>
      have word := (fits_nullary_iff kind w).mp fits
      refine Or.inl ⟨[], [], ?_⟩
      apply yields_of_eq_clean (by decide)
      rw [assemble_of_bare (by simp [kind]) (by simp [kind]), word]
  | move =>
      rw [← kind]
      by_cases clear : w.getLsbD 11 = true → w &&& 0x00FF#16 = 0#16
      · exact Or.inl (exists_yields_move kind fits clear)
      · obtain ⟨register, below⟩ := Classical.not_imp.mp clear
        exact Or.inr ⟨kind, (fits_move_iff kind w).mp fits, register, below⟩
  | unary =>
      rw [← kind]
      exact Or.inl (exists_yields_unary kind fits)
  | jump =>
      rw [← kind]
      exact Or.inl (exists_yields_jump kind fits)
  | other => exact absurd kind fits.1

theorem Distinct.encode_of_mem {isa : InstructionSet} (distinct : isa.Distinct) {op : Opcode}
    (member : op ∈ isa.opcodes) (named : op.mnemonic ≠ []) (first second : Text) :
    isa.encode op.mnemonic first second = assemble op first second :=
  encode_of_lookup_eq_some named (distinct.lookup_of_mem member) first second

/-- What the opcode of a mnemonic makes, some instruction is encoded into. -/
theorem Distinct.produces {isa : InstructionSet} (distinct : isa.Distinct) {op : Opcode}
    (member : op ∈ isa.opcodes) (named : op.mnemonic ≠ []) {first second : Text} {w : Word}
    (yields : Yields op.kind (assemble op first second) w) : isa.Produces w := by
  refine ⟨op, member, first, second, ?_⟩
  rw [distinct.encode_of_mem member named]
  exact yields

/-! ## Texts of words -/

/-- `t` is the text of `w` as an instruction of `op`. -/
inductive ReadsAs (op : Opcode) (w : Word) : Text → Prop where
  | nullary : op.kind = .nullary → w = op.base → ReadsAs op w op.mnemonic
  | operands {t : Text} : disassembleAs? op w = some t → ReadsAs op w t

theorem ite_registerFlag_eq (w : Word) :
    (if w &&& Operand.registerFlag ≠ 0#16 then sourceRegisterMask else Operand.literalMask) =
      operandBits .unary w := by
  simp only [ne_eq, and_registerFlag_eq_zero_iff, Bool.not_eq_false, operandBits]
  rfl

theorem exists_readsAs_iff_isSome {op : Opcode} (operands : op.kind ≠ .nullary) (w : Word) :
    (∃ t, ReadsAs op w t) ↔ (disassembleAs? op w).isSome := by
  rw [Option.isSome_iff_exists]
  constructor
  · rintro ⟨t, ⟨nullary, _⟩ | read⟩
    · exact absurd nullary operands
    · exact ⟨t, read⟩
  · rintro ⟨t, read⟩
    exact ⟨t, .operands read⟩

/-- Exactly the words that fit an opcode are read as its own. -/
theorem exists_readsAs_iff (op : Opcode) (w : Word) : (∃ t, ReadsAs op w t) ↔ Fits op w := by
  cases kind : op.kind with
  | nullary =>
      rw [fits_nullary_iff kind]
      constructor
      · rintro ⟨t, ⟨_, word⟩ | read⟩
        · exact word
        · simp [disassembleAs?, kind] at read
      · intro word
        exact ⟨_, .nullary kind word⟩
  | move =>
      have mask : ~~~(destinationMask ||| sourceMask) = 0x8000#16 := by decide
      rw [exists_readsAs_iff_isSome (by simp [kind]), fits_move_iff kind]
      simp only [disassembleAs?, kind, mask, Option.isSome_ite]
  | unary =>
      rw [exists_readsAs_iff_isSome (by simp [kind]), fits_unary_iff kind]
      simp only [disassembleAs?, kind, ite_registerFlag_eq, Option.isSome_ite]
  | jump =>
      rw [exists_readsAs_iff_isSome (by simp [kind]), fits_jump_iff kind]
      simp only [disassembleAs?, kind, Option.isSome_ite]
  | other =>
      rw [exists_readsAs_iff_isSome (by simp [kind])]
      simp [disassembleAs?, kind, Fits]

/-- A word is shown as an instruction of an opcode that it fits, or as data if there is
none. -/
theorem disassemble_cases (isa : InstructionSet) (w : Word) :
    (∃ op ∈ isa.opcodes, ReadsAs op w (isa.disassemble w)) ∨
      (∀ op ∈ isa.opcodes, ¬ Fits op w) ∧ isa.disassemble w = ".word " ++ w.text := by
  unfold disassemble
  cases exact : isa.opcodes.find? fun op => op.kind == .nullary && w == op.base with
  | some op =>
      have matched := List.find?_some exact
      simp only [Bool.and_eq_true, beq_iff_eq] at matched
      exact Or.inl ⟨op, List.mem_of_find?_eq_some exact, .nullary matched.1 matched.2⟩
  | none =>
      cases found : isa.opcodes.findSome? fun op => disassembleAs? op w with
      | some t =>
          obtain ⟨op, member, read⟩ := List.exists_of_findSome?_eq_some found
          exact Or.inl ⟨op, member, .operands read⟩
      | none =>
          refine Or.inr ⟨?_, rfl⟩
          intro op member fits
          obtain ⟨t, ⟨nullary, word⟩ | read⟩ := (exists_readsAs_iff op w).mpr fits
          · have other := List.find?_eq_none.mp exact op member
            simp [nullary, word] at other
          · rw [List.findSome?_eq_none_iff.mp found op member] at read
            contradiction

/-- The text of operands stands behind the mnemonic and a blank, and a comma parts the
operands of a move. -/
theorem exists_of_disassembleAs?_eq_some {op : Opcode} {w : Word} {t : Text}
    (read : disassembleAs? op w = some t) :
    ∃ operands, t = op.mnemonic ++ Text.space :: operands ∧
      (op.kind = .move → 0x2C ∈ operands) := by
  have blank : Text.ofString " " = [Text.space] := by decide
  have comma : Text.ofString ", " = [0x2C, Text.space] := by decide
  cases kind : op.kind with
  | move =>
      simp only [disassembleAs?, kind, Option.ite_none_right_eq_some, Option.some.injEq] at read
      refine ⟨(sourceOf w).text ++ 0x2C :: Text.space :: (destinationOf w).name, ?_, by simp⟩
      rw [← read.2, blank, comma]
      simp
  | unary =>
      simp only [disassembleAs?, kind, Option.ite_none_right_eq_some, Option.some.injEq] at read
      refine ⟨(sourceOf w).text, ?_, by simp⟩
      rw [← read.2, blank]
      simp
  | jump =>
      simp only [disassembleAs?, kind, Option.ite_none_right_eq_some, Option.some.injEq] at read
      refine ⟨Numeral.ofNat w.target, ?_, by simp⟩
      rw [← read.2, blank]
      simp
  | nullary => simp [disassembleAs?, kind] at read
  | other => simp [disassembleAs?, kind] at read

theorem comma_not_mem_data (w : Word) : 0x2C ∉ Text.ofString ".word " ++ w.text := by
  have digits : ∀ d < 16, Numeral.lowerDigit d ≠ 0x2C := by decide
  intro member
  rcases List.mem_append.mp member with mark | digit
  · exact absurd mark (by decide)
  · obtain ⟨d, small, equal⟩ := Numeral.exists_of_mem_hex digit
    exact digits d small equal.symm

/-- The text of data has no comma and begins with a dot, so neither a move nor an instruction
without mnemonic reads like it. -/
theorem ReadsAs.ne_data {op : Opcode} {w : Word} {t : Text} (reads : ReadsAs op w t)
    (invented : op.mnemonic = [] ∨ op.kind = .move) : t ≠ Text.ofString ".word " ++ w.text := by
  have dot : (Text.ofString ".word " ++ w.text).head? = some 0x2E := rfl
  cases reads with
  | nullary nullary word =>
      rcases invented with nameless | move
      · intro equal
        rw [← equal, nameless] at dot
        contradiction
      · rw [nullary] at move
        contradiction
  | operands read =>
      obtain ⟨operands, rfl, comma⟩ := exists_of_disassembleAs?_eq_some read
      rcases invented with nameless | move
      · intro equal
        rw [← equal, nameless, List.nil_append, List.head?_cons] at dot
        exact absurd (Option.some.inj dot) (by decide)
      · intro equal
        apply comma_not_mem_data w
        rw [← equal]
        exact List.mem_append_right _ (List.mem_cons_of_mem _ (comma move))

/-- `op` reads a word that no instruction is encoded into: either it has no mnemonic, or it is
a move and the word has stray bits. -/
def Invents (op : Opcode) (w : Word) : Prop :=
  op.mnemonic = [] ∧ Fits op w ∨ Stray op w

/-- A word that no instruction is encoded into is shown as data, unless some opcode invents
an instruction for it. -/
theorem disassemble_eq_data_iff (name : Text) (ops : List Opcode) {w : Word}
    (unproduced : ¬ (ofRegistrations name ops).Produces w) :
    (ofRegistrations name ops).disassemble w = ".word " ++ w.text ↔
      ∀ op ∈ (ofRegistrations name ops).opcodes, ¬ Invents op w := by
  have distinct := distinct_ofRegistrations name ops
  have invents : ∀ op ∈ (ofRegistrations name ops).opcodes, Fits op w → Invents op w := by
    intro op member fits
    rcases fits.exists_yields_or_stray with ⟨first, second, yields⟩ | stray
    · by_cases named : op.mnemonic = []
      · exact Or.inl ⟨named, fits⟩
      · exact absurd (distinct.produces member named yields) unproduced
    · exact Or.inr stray
  rcases disassemble_cases (ofRegistrations name ops) w with
    ⟨op, member, reads⟩ | ⟨none, data⟩
  · have invented := invents op member ((exists_readsAs_iff op w).mp ⟨_, reads⟩)
    have text := reads.ne_data (invented.imp And.left Stray.move)
    constructor
    · intro data
      exact absurd data text
    · intro silent
      exact absurd invented (silent op member)
  · refine ⟨fun _ op member => ?_, fun _ => data⟩
    rintro (⟨_, fits⟩ | stray)
    · exact none op member fits
    · exact none op member stray.fits

/-- A table whose move was registered a second time, with the class bit set. -/
def raisedMove : List Opcode :=
  [⟨"MOV", .move, 0x0000#16⟩, ⟨"HALT", .nullary, 0xE600#16⟩, ⟨"MOV", .move, 0x8000#16⟩]

theorem disassemble_eq_data_iff_of_raisedMove :
    ¬ (ofRegistrations "tiny" raisedMove).Produces 0x0801#16 ∧
      (ofRegistrations "tiny" raisedMove).disassemble 0x0801#16 = ".word 0801" := by
  have table : (ofRegistrations "tiny" raisedMove).opcodes =
      [⟨"MOV", .move, 0x8000#16⟩, ⟨"HALT", .nullary, 0xE600#16⟩] := by decide
  have unproduced : ¬ (ofRegistrations "tiny" raisedMove).Produces 0x0801#16 := by
    rintro ⟨op, member, first, second, _, yields⟩
    have named : ∀ op ∈ (ofRegistrations "tiny" raisedMove).opcodes, op.mnemonic ≠ [] := by decide
    rw [(distinct_ofRegistrations "tiny" raisedMove).encode_of_mem member (named op member)]
      at yields
    rw [table, List.mem_pair] at member
    rcases member with rfl | rfl
    · -- This entry makes words with the top bit set.
      have top := congrArg (fun w : Word => w.getLsbD 15) yields
      simp [assemble] at top
    · have word : 0xE600#16 = 0x0801#16 := yields
      exact absurd word (by decide)
  refine ⟨unproduced, ?_⟩
  apply (disassemble_eq_data_iff "tiny" raisedMove unproduced).mpr
  rw [table]
  intro op member
  rcases List.mem_pair.mp member with rfl | rfl
  · rintro (⟨nameless, _⟩ | stray)
    · exact absurd nameless (by decide)
    · exact absurd stray.base (by decide)
  · rintro (⟨nameless, _⟩ | stray)
    · exact absurd nameless (by decide)
    · exact absurd stray.move (by decide)

/-! ## Invented moves -/

/-- What an instruction of a node is encoded into, a node can hold. -/
theorem emitted_of_produces {w : Word} (produced : node.Produces w) : Emitted w := by
  obtain ⟨op, member, first, second, _, yields⟩ := produced
  rw [encode_node_of_mem member] at yields
  by_cases jump : op.kind = .jump
  · rw [if_pos jump, assemble_of_bare (by simp [jump]) (by simp [jump])] at yields
    obtain ⟨slot, within, rfl⟩ := yields
    exact .jump member jump ⟨slot, within⟩
  · rw [if_neg jump] at yields
    rw [← yields]
    exact emitted_assemble member jump first second

/-- A node holds no move with stray bits. -/
theorem Emitted.and_eq_zero {w : Word} (emitted : Emitted w) (plain : w.getLsbD 15 = false)
    (register : w.getLsbD 11 = true) : w &&& 0x00FF#16 = 0#16 := by
  have tops : ∀ op ∈ nodeOpcodes, op.kind = .unary ∨ op.kind = .jump →
      op.base.getLsbD 15 = true := by decide
  have nullary : ∀ op ∈ nodeOpcodes, op.kind = .nullary → op.base.getLsbD 11 = false := by decide
  cases emitted with
  | nullary member kind =>
      rw [nullary _ member kind] at register
      contradiction
  | @move destination _ source =>
      cases source with
      | register r =>
          have upper : (BitVec.ofNat 16 destination.code <<< 12) &&& 0x00FF#16 = 0#16 := by
            cases destination <;> decide
          have lower : Operand.registerField r &&& 0x00FF#16 = 0#16 := by cases r <;> decide
          rw [BitVec.and_or_distrib_right, upper, lower, BitVec.or_zero]
      | literal bits => simp at register
  | unary member kind r =>
      rw [BitVec.getLsbD_or, tops _ member (Or.inl kind)] at plain
      contradiction
  | literal bits => simp at plain
  | jump member kind target =>
      rw [Word.getLsbD_withTarget, if_neg (by decide), tops _ member (Or.inr kind)] at plain
      contradiction

/-- In the instruction set of a node, no instruction is encoded into `0801`, since its source
names a register and has a bit below it. Still the word is read as a move. -/
theorem disassemble_invents_move :
    node = ofRegistrations "TIS node ISA" nodeOpcodes ∧ ¬ node.Produces 0x0801#16 ∧
      node.disassemble 0x0801#16 = "MOV NIL, NIL" := by
  refine ⟨by decide, ?_, by decide⟩
  intro produced
  have clear := (emitted_of_produces produced).and_eq_zero (by decide) (by decide)
  exact absurd clear (by decide)

end InstructionSet

end NodeAsm
