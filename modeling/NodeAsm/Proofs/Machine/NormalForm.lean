import Mathlib.Data.Set.Function
import NodeAsm.Proofs.Machine.RoundTrip

/-!
# Normal forms of instructions

Different instructions may have the same word. The normal form of an instruction is what
its word tells about it: no operation is also a move of zero to `nil`, literals count by
their value, the literal of a unary instruction hides the mnemonic, and the operands of a
jump are not in its word at all. Faultless instructions have the same word exactly if they
have the same normal form, since the form can be read off the word.
-/

namespace NodeAsm

open InstructionSet

/-! ## Operands by their text -/

namespace Operand

/-- The operand that a text spells. -/
def ofText? (t : Text) : Option Operand :=
  if isNumeric t then
    if minLiteral ≤ numericValue t ∧ numericValue t ≤ maxLiteral then
      some (.literal (numericValue t))
    else none
  else (Register.ofName? t).map .register

theorem ofText?_eq_some_iff {t : Text} {operand : Operand} :
    ofText? t = some operand ↔ Spells t operand := by
  by_cases numeric : isNumeric t
  · have decimal := (isNumeric_iff_decimal t).mp numeric
    rw [ofText?, if_pos numeric]
    constructor
    · intro found
      split at found
      · rename_i within
        cases found
        exact .literal decimal within.1 within.2
      · contradiction
    · rintro (⟨r⟩ | ⟨literal, lower, upper⟩)
      · exact absurd decimal (r.not_decimal_name _)
      · rw [literal.value_eq]
        exact if_pos ⟨lower, upper⟩
  · rw [ofText?, if_neg numeric, Option.map_eq_some_iff]
    constructor
    · rintro ⟨r, found, rfl⟩
      have name := List.find?_some found
      rw [← eq_of_beq name]
      exact .register r
    · rintro (⟨r⟩ | ⟨literal, _, _⟩)
      · exact ⟨r, r.ofName?_name, rfl⟩
      · exact absurd literal.isNumeric numeric

theorem literalField_eq_ofNat (v : Int) :
    literalField v = (BitVec.ofNat 11 (v % 2048).toNat).setWidth 16 := by
  have bits : BitVec.ofInt 11 v = BitVec.ofNat 11 (v % 2048).toNat := by
    apply BitVec.eq_of_toNat_eq
    rw [BitVec.toNat_ofInt, BitVec.toNat_ofNat]
    omega
  rw [literalField_eq, bits]

end Operand

/-! ## Forms -/

/-- A mnemonic and two operands as they stand in a line. -/
structure Instruction where
  mnemonic : Text
  first : Text
  second : Text
  deriving DecidableEq, Repr

/-- What the word of an instruction tells about it. -/
inductive NormalForm where
  /-- No operation, also as a move of zero to `nil`. -/
  | nothing
  /-- Any other move. -/
  | move (source : Operand) (destination : Register)
  /-- A unary instruction with a register. -/
  | unary (mnemonic : Text) (source : Register)
  /-- A unary instruction with a literal, by its low eleven bits. -/
  | literal (bits : Nat)
  /-- An instruction without operands in its word. -/
  | bare (mnemonic : Text)
  deriving DecidableEq, Repr

/-- What the mnemonic of a unary instruction adds to the bits of a literal. -/
def subOperations : List (Text × Nat) :=
  [("ADD", 0), ("SUB", 1), ("JRO", 2)]

/-- The mnemonics of instructions that do something and have no operands in their words. -/
def bareMnemonics : List Text :=
  ["JMP", "JEZ", "JNZ", "JGZ", "JLZ", "NEG", "SAV", "SWP"]

namespace Instruction

/-- The word of an instruction of a node. -/
def encoded (i : Instruction) : Checked Word :=
  node.encode i.mnemonic i.first i.second

/-- The normal form of an instruction of a node, if it is faultless. -/
def normalForm? (i : Instruction) : Option NormalForm :=
  if i.mnemonic = Text.ofString "NOP" then some .nothing
  else if i.mnemonic = Text.ofString "MOV" then
    match Operand.ofText? i.first, Register.ofName? i.second with
    | some source, some destination =>
        if source = .literal 0 ∧ destination = .nil then some .nothing
        else some (.move source destination)
    | _, _ => none
  else if i.mnemonic ∈ bareMnemonics then some (.bare i.mnemonic)
  else
    match subOperations.lookup i.mnemonic, Operand.ofText? i.first with
    | some _, some (.register r) => some (.unary i.mnemonic r)
    | some code, some (.literal v) => some (.literal ((v % 2048).toNat ||| code))
    | _, _ => none

end Instruction

namespace NormalForm

/-- The base of a mnemonic of a node. -/
def base (mnemonic : Text) : Word :=
  ((node.lookup mnemonic).map Opcode.base).getD 0#16

theorem base_mnemonic {op : Opcode} (member : op ∈ nodeOpcodes) : base op.mnemonic = op.base := by
  rw [base, lookup_node member]
  rfl

/-- The word of a form. -/
def word : NormalForm → Word
  | nothing => 0#16
  | move source destination => (BitVec.ofNat 16 destination.code <<< 12) ||| source.field
  | unary mnemonic source => base mnemonic ||| Operand.registerField source
  | literal bits => 0x8000#16 ||| (BitVec.ofNat 11 bits).setWidth 16
  | bare mnemonic => base mnemonic

/-- The forms of faultless instructions. -/
inductive IsNormal : NormalForm → Prop where
  | nothing : IsNormal nothing
  | move {t : Text} {source : Operand} (spelled : Operand.Spells t source)
      {destination : Register} (effective : ¬ (source = .literal 0 ∧ destination = .nil)) :
      IsNormal (move source destination)
  | unary {op : Opcode} (member : op ∈ nodeOpcodes) (kind : op.kind = .unary)
      (source : Register) : IsNormal (unary op.mnemonic source)
  | literal {bits : Nat} (small : bits < 2048) : IsNormal (literal bits)
  | bare {mnemonic : Text} (member : mnemonic ∈ bareMnemonics) : IsNormal (bare mnemonic)

/-! ## Reading a form off its word -/

/-- The first mnemonic with the given base. -/
def mnemonicOf (w : Word) : Text :=
  ((nodeOpcodes.find? fun op => op.base == w).map Opcode.mnemonic).getD []

/-- The form that a word tells. -/
def ofWord (w : Word) : NormalForm :=
  if w = 0#16 then nothing
  else if w &&& ~~~(destinationMask ||| sourceMask) = 0#16 then
    move (sourceOf w) (destinationOf w)
  else if w &&& ~~~sourceMask = 0x8000#16 then
    match sourceOf w with
    | .register r => unary (mnemonicOf (w &&& ~~~sourceRegisterMask)) r
    | .literal _ => literal (w &&& sourceMask).toNat
  else bare (mnemonicOf w)

theorem ofWord_word_move {t : Text} {source : Operand} (spelled : Operand.Spells t source)
    {destination : Register} (effective : ¬ (source = .literal 0 ∧ destination = .nil)) :
    ofWord (move source destination).word = move source destination := by
  obtain ⟨outside, sourcePart, destinationPart⟩ := move_parts destination source.isField_field
  rw [spelled.decode_field] at sourcePart
  have nonzero : (move source destination).word ≠ 0#16 := by
    -- The parts of the word zero are the literal zero and `nil`.
    intro zero
    rw [word] at zero
    rw [zero] at sourcePart destinationPart
    exact effective ⟨sourcePart.symm, destinationPart.symm⟩
  rw [ofWord, if_neg nonzero, word, if_pos outside, sourcePart, destinationPart]

theorem ofWord_word_literal {bits : Nat} (small : bits < 2048) :
    ofWord (literal bits).word = literal bits := by
  obtain ⟨outside, upper, source⟩ := unary_parts (.literal (BitVec.ofNat 11 bits))
  have nonzero : (literal bits).word ≠ 0#16 := by
    intro zero
    rw [word] at zero
    rw [zero] at upper
    exact absurd upper (by decide)
  have sourcePart : sourceOf (literal bits).word = .literal (BitVec.ofNat 11 bits).toInt := by
    rw [word, sourceOf, source, Operand.decode_literal]
  have low : ((literal bits).word &&& sourceMask).toNat = bits := by
    rw [word, source, BitVec.toNat_setWidth, BitVec.toNat_ofNat]
    omega
  rw [ofWord, if_neg nonzero, sourcePart, low, word, outside, upper]
  rfl

/-- A form is told by its word. -/
theorem ofWord_word {form : NormalForm} (normal : form.IsNormal) : ofWord form.word = form := by
  cases normal with
  | nothing => rfl
  | move spelled effective => exact ofWord_word_move spelled effective
  | @unary op member kind source =>
      have all : ∀ op ∈ nodeOpcodes, op.kind = .unary → ∀ r ∈ Register.all,
          ofWord (unary op.mnemonic r).word = unary op.mnemonic r := by decide +kernel
      exact all op member kind source (Register.mem_all source)
  | literal small => exact ofWord_word_literal small
  | @bare mnemonic member =>
      have all : ∀ mnemonic ∈ bareMnemonics, ofWord (bare mnemonic).word = bare mnemonic := by
        decide +kernel
      exact all mnemonic member

theorem word_injOn : Set.InjOn word {form | form.IsNormal} :=
  Set.LeftInvOn.injOn fun _ normal => ofWord_word normal

end NormalForm

/-! ## Instructions -/

namespace Instruction

/-- `form` is the normal form of the instruction, and its word is that of the form. -/
structure HasForm (i : Instruction) (form : NormalForm) : Prop where
  form_eq : i.normalForm? = some form
  normal : form.IsNormal
  value_eq : i.encoded.value = form.word

theorem exists_hasForm_move {first second : Text} (source : Operand.IsSource first)
    (destination : ∃ r : Register, second = r.name) :
    ∃ form, HasForm ⟨"MOV", first, second⟩ form := by
  obtain ⟨operand, spells⟩ := Operand.isSource_iff_spells.mp source
  have spelled := Operand.ofText?_eq_some_iff.mpr spells
  obtain ⟨r, rfl⟩ := destination
  have value : (encoded ⟨"MOV", first, r.name⟩).value =
      (BitVec.ofNat 16 r.code <<< 12) ||| operand.field := by
    rw [encoded, encode_node_move, spells.encode_eq, Register.read_name]
    rfl
  have form : normalForm? ⟨"MOV", first, r.name⟩ =
      if operand = .literal 0 ∧ r = .nil then some .nothing else some (.move operand r) := by
    have other : Text.ofString "MOV" ≠ Text.ofString "NOP" := by decide
    simp only [normalForm?, if_neg other, if_true, spelled, Register.ofName?_name]
  by_cases idle : operand = .literal 0 ∧ r = .nil
  · rw [if_pos idle] at form
    obtain ⟨rfl, rfl⟩ := idle
    exact ⟨.nothing, form, .nothing, value⟩
  · rw [if_neg idle] at form
    exact ⟨.move operand r, form, .move spells idle, value⟩

theorem exists_hasForm_unary {op : Opcode} (member : op ∈ nodeOpcodes) (unary : op.kind = .unary)
    {first : Text} (source : Operand.IsSource first) (second : Text) :
    ∃ form, HasForm ⟨op.mnemonic, first, second⟩ form := by
  have table : ∀ op ∈ nodeOpcodes, op.kind = .unary →
      op.mnemonic ≠ Text.ofString "NOP" ∧ op.mnemonic ≠ Text.ofString "MOV" ∧
        op.mnemonic ∉ bareMnemonics ∧ ∃ code < 3,
          subOperations.lookup op.mnemonic = some code ∧
            op.base = 0x8000#16 ||| (BitVec.ofNat 11 code).setWidth 16 := by decide
  obtain ⟨nop, mov, bare, code, low, found, base⟩ := table op member unary
  obtain ⟨operand, spells⟩ := Operand.isSource_iff_spells.mp source
  have spelled := Operand.ofText?_eq_some_iff.mpr spells
  have value : (encoded ⟨op.mnemonic, first, second⟩).value = op.base ||| operand.field := by
    rw [encoded, encode_node_of_unary member unary, spells.encode_eq]
    rfl
  cases operand with
  | register r =>
      refine ⟨.unary op.mnemonic r, ?_, .unary member unary r, ?_⟩
      · simp only [normalForm?, if_neg nop, if_neg mov, if_neg bare, found, spelled]
      · rw [value, NormalForm.word, NormalForm.base_mnemonic member]
        rfl
  | literal v =>
      -- What the mnemonic adds lies inside the bits of the literal and cannot be told apart.
      refine ⟨.literal ((v % 2048).toNat ||| code), ?_, .literal ?_, ?_⟩
      · simp only [normalForm?, if_neg nop, if_neg mov, if_neg bare, found, spelled]
      · have bits : (v % 2048).toNat < 2 ^ 11 := by omega
        exact Nat.or_lt_two_pow bits (Nat.lt_trans low (by decide))
      · rw [value, base, Operand.field, Operand.literalField_eq_ofNat, BitVec.or_assoc,
          ← BitVec.setWidth_or, BitVec.or_comm (BitVec.ofNat 11 code), ← BitVec.ofNat_or]
        rfl

theorem exists_hasForm_bare {op : Opcode} (member : op ∈ nodeOpcodes) (move : op.kind ≠ .move)
    (unary : op.kind ≠ .unary) (first second : Text) :
    ∃ form, HasForm ⟨op.mnemonic, first, second⟩ form := by
  have table : ∀ op ∈ nodeOpcodes, op.kind ≠ .move → op.kind ≠ .unary →
      (op.mnemonic = Text.ofString "NOP" ∧ op.base = 0#16) ∨
        (op.mnemonic ≠ Text.ofString "NOP" ∧ op.mnemonic ≠ Text.ofString "MOV" ∧
          op.mnemonic ∈ bareMnemonics) := by decide
  have value : (encoded ⟨op.mnemonic, first, second⟩).value = op.base := by
    rw [encoded, encode_node_of_bare member move unary]
    rfl
  rcases table op member move unary with ⟨nop, zero⟩ | ⟨nop, mov, bare⟩
  · refine ⟨.nothing, ?_, .nothing, value.trans zero⟩
    simp only [normalForm?, if_pos nop]
  · refine ⟨.bare op.mnemonic, ?_, .bare bare, ?_⟩
    · simp only [normalForm?, if_neg nop, if_neg mov, if_pos bare]
    · rw [value, NormalForm.word, NormalForm.base_mnemonic member]

/-- Every faultless instruction has a normal form, whose word is its own. -/
theorem exists_hasForm {i : Instruction} (named : i.mnemonic ≠ [])
    (clean : i.encoded.faults = []) : ∃ form, i.HasForm form := by
  have valid := (faults_encode_node_eq_nil_iff named i.first i.second).mp clean
  obtain ⟨mnemonic, first, second⟩ := i
  obtain ⟨op, member, rfl⟩ := valid.registered
  by_cases move : op.kind = .move
  · have mnemonic := (kind_eq_move_iff member).mp move
    obtain ⟨source, destination⟩ := valid.move mnemonic
    simp only [mnemonic]
    exact exists_hasForm_move source destination
  · by_cases unary : op.kind = .unary
    · have source := valid.unary ((kind_eq_unary_iff member).mp unary)
      exact exists_hasForm_unary member unary source second
    · exact exists_hasForm_bare member move unary first second

/-- Faultless instructions have the same word exactly if they have the same normal form. -/
theorem encoded_eq_iff_normalForm_eq {i j : Instruction} (namedI : i.mnemonic ≠ [])
    (cleanI : i.encoded.faults = []) (namedJ : j.mnemonic ≠ []) (cleanJ : j.encoded.faults = []) :
    (∃ form, i.normalForm? = some form) ∧ (∃ form, j.normalForm? = some form) ∧
      (i.encoded.value = j.encoded.value ↔ i.normalForm? = j.normalForm?) := by
  obtain ⟨f, formI⟩ := exists_hasForm namedI cleanI
  obtain ⟨g, formJ⟩ := exists_hasForm namedJ cleanJ
  refine ⟨⟨f, formI.form_eq⟩, ⟨g, formJ.form_eq⟩, ?_⟩
  rw [formI.form_eq, formJ.form_eq, formI.value_eq, formJ.value_eq,
    NormalForm.word_injOn.eq_iff formI.normal formJ.normal, Option.some.injEq]

/-- The literals of two mnemonics meet in one word. -/
theorem encoded_eq_iff_normalForm_eq_of_literals :
    let i : Instruction := ⟨"SUB", "-006", []⟩
    let j : Instruction := ⟨"JRO", "-7", []⟩
    (i.encoded.faults = [] ∧ j.encoded.faults = []) ∧
      i.normalForm? = some (.literal 2043) ∧ j.normalForm? = some (.literal 2043) ∧
      i.encoded.value = j.encoded.value := by
  intro i j
  have cleanI : i.encoded.faults = [] := rfl
  have cleanJ : j.encoded.faults = [] := rfl
  have formI : i.normalForm? = some (.literal 2043) := by decide
  have formJ : j.normalForm? = some (.literal 2043) := by decide
  have same := encoded_eq_iff_normalForm_eq (i := i) (j := j) (by decide) cleanI (by decide) cleanJ
  exact ⟨⟨cleanI, cleanJ⟩, formI, formJ, same.2.2.mpr (formI.trans formJ.symm)⟩

end Instruction

end NodeAsm
