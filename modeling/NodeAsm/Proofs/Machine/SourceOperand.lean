import Mathlib.Tactic.IntervalCases
import NodeAsm.Proofs.Machine.Encoding
import NodeAsm.Proofs.Text.Numeral

/-!
# Source operands read back

A text spells an operand if it is the name of a register or a decimal literal in range.
Exactly such texts are encoded without fault, and their field is decoded into the operand
that they spell. Every other text has a field too: the low bits of the nearest integer of
sixty-four bits for a literal out of range, and the field of `nil` for an unknown name.
The text of any field is encoded into the field again.
-/

namespace NodeAsm.Operand

/-! ## Spelling -/

/-- `t` spells the operand: it names the register, or it is a literal of that value, with
any number of leading zeros, and in range. -/
inductive Spells : Text → Operand → Prop where
  | register (r : Register) : Spells r.name (.register r)
  | literal {t : Text} {v : Int} (decimal : Decimal t v) (lower : -1024 ≤ v) (upper : v ≤ 1023) :
      Spells t (.literal v)

theorem isSource_iff_spells {t : Text} : IsSource t ↔ ∃ operand, Spells t operand := by
  constructor
  · rintro (⟨r, rfl⟩ | ⟨v, decimal, lower, upper⟩)
    · exact ⟨.register r, .register r⟩
    · exact ⟨.literal v, .literal decimal lower upper⟩
  · rintro ⟨operand, ⟨r⟩ | ⟨decimal, lower, upper⟩⟩
    · exact Or.inl ⟨r, rfl⟩
    · exact Or.inr ⟨_, decimal, lower, upper⟩

/-- The field of an operand. -/
def field : Operand → Word
  | register r => registerField r
  | literal v => literalField v

theorem isField_field (operand : Operand) : IsField operand.field := by
  cases operand with
  | register r => exact .register r
  | literal v =>
      rw [field, literalField_eq]
      exact .literal _

theorem clamp64_of_range {v : Int} (lower : -1024 ≤ v) (upper : v ≤ 1023) :
    Numeral.clamp64 v = v := by
  simp only [Numeral.clamp64, Numeral.minInt64, Numeral.maxInt64]
  omega

theorem Spells.encode_eq {t : Text} {operand : Operand} (spells : Spells t operand) :
    encode t = .clean operand.field := by
  cases spells with
  | register r =>
      rw [encode_of_not_decimal r.not_decimal_name, Register.read_name]
      rfl
  | literal decimal lower upper =>
      rw [decimal.encode_eq, if_pos ⟨lower, upper⟩, clamp64_of_range lower upper]
      rfl

/-! ## Decoding -/

theorem decode_registerField (r : Register) : decode (registerField r) = .register r := by
  cases r <;> decide

theorem decode_literal (bits : BitVec 11) : decode (bits.setWidth 16) = .literal bits.toInt := by
  have flag : bits.setWidth 16 &&& registerFlag = 0#16 := by
    ext i within
    interval_cases i <;> simp [registerFlag]
  have mask : (bits.setWidth 16 &&& literalMask).toNat = bits.toNat := by
    have ones : literalMask.toNat = 2 ^ 11 - 1 := rfl
    have small := bits.isLt
    rw [BitVec.toNat_and, ones, Nat.and_two_pow_sub_one_eq_mod, BitVec.toNat_setWidth]
    omega
  have half : (bits.toNat < 1024) ↔ 2 * bits.toNat < 2 ^ 11 := by omega
  simp only [decode, flag, mask, ne_eq, not_true_eq_false, if_false, half,
    BitVec.toInt_eq_toNat_cond]
  rfl

theorem toInt_ofInt_of_range {v : Int} (lower : -1024 ≤ v) (upper : v ≤ 1023) :
    (BitVec.ofInt 11 v).toInt = v := by
  apply BitVec.toInt_ofInt_eq_self (by decide) <;> omega

/-- The field of a spelled operand is decoded into it. -/
theorem Spells.decode_field {t : Text} {operand : Operand} (spells : Spells t operand) :
    decode operand.field = operand := by
  cases spells with
  | register r => exact decode_registerField r
  | literal decimal lower upper =>
      rw [field, literalField_eq, decode_literal, toInt_ofInt_of_range lower upper]

/-! ## Texts of fields -/

theorem decimal_ofInt (v : Int) : Decimal (Numeral.ofInt v) v := by
  refine ⟨Numeral.ofNat v.natAbs, Numeral.ofNat_ne_nil _,
    fun b member => Numeral.isDigit_of_mem_ofNat member, ?_⟩
  rw [Numeral.value_ofNat, Numeral.ofInt]
  split
  · exact Or.inr ⟨rfl, by omega⟩
  · exact Or.inl ⟨rfl, by omega⟩

theorem spells_ofInt (bits : BitVec 11) : Spells (Numeral.ofInt bits.toInt) (.literal bits.toInt) := by
  have lower : -1024 ≤ bits.toInt := BitVec.le_toInt bits
  have upper : bits.toInt < 1024 := BitVec.toInt_lt
  exact .literal (decimal_ofInt bits.toInt) lower (Int.lt_add_one_iff.mp upper)

/-- The text of a source field is encoded into the field. -/
theorem encode_text_decode {field : Word} (isField : IsField field) :
    encode (decode field).text = .clean field := by
  cases isField with
  | register r =>
      rw [decode_registerField]
      exact (Spells.register r).encode_eq
  | literal bits =>
      rw [decode_literal, text, (spells_ofInt bits).encode_eq, Operand.field, literalField_eq,
        BitVec.ofInt_toInt]

/-! ## Every text -/

theorem toNat_lt_of_isField {field : Word} (isField : IsField field) : field.toNat < 0x1000 := by
  cases isField with
  | register r => cases r <;> decide
  | literal bits =>
      have small := bits.isLt
      rw [BitVec.toNat_setWidth]
      omega

theorem toNat_literalField (v : Int) : ((literalField v).toNat : Int) = v % 2 ^ 11 := by
  rw [literalField_eq, BitVec.toNat_setWidth, BitVec.toNat_ofInt]
  omega

/-- What becomes of a text as a source operand. -/
structure Encoded (t : Text) (c : Checked Word) : Prop where
  accepted : c.faults = [] ↔ ∃ operand, Spells t operand
  decoded : ∀ operand, Spells t operand → decode c.value = operand
  readBack : c.faults = [] → encode (decode c.value).text = .clean c.value
  bounded : c.value.toNat < 0x1000
  /-- A literal out of range keeps the low eleven bits of the nearest integer of sixty-four
  signed bits. -/
  outOfRange : ∀ v, Decimal t v → ¬ (-1024 ≤ v ∧ v ≤ 1023) →
    c.faults = [.literalRange t] ∧
      (c.value.toNat : Int) = max (-2 ^ 63) (min (2 ^ 63 - 1) v) % 2 ^ 11
  unknown : (∀ v, ¬ Decimal t v) → (∀ r : Register, t ≠ r.name) →
    c = ⟨0x800#16, [.unknownRegister t]⟩

/-- Every text is encoded as its spelling demands. -/
theorem encoded_encode (t : Text) : Encoded t (encode t) where
  accepted := (faults_encode_eq_nil_iff t).trans isSource_iff_spells
  decoded operand spells := by
    rw [spells.encode_eq]
    exact spells.decode_field
  readBack _ := encode_text_decode (isField_encode t)
  bounded := toNat_lt_of_isField (isField_encode t)
  outOfRange v decimal outside := by
    rw [decimal.encode_eq, if_neg outside]
    exact ⟨rfl, toNat_literalField (Numeral.clamp64 v)⟩
  unknown verbal other := by
    have nil : registerField .nil = 0x800#16 := by decide
    rw [encode_of_not_decimal verbal, Register.read_of_ne_name other, nil]

/-- Two past the greatest integer of sixty-four bits would have one as its low bits. -/
example : (encode "9223372036854775809").value = 0x7FF#16 := by decide

end NodeAsm.Operand
