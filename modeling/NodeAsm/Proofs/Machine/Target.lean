import Mathlib.Data.Int.ModEq
import Mathlib.Tactic.Common
import NodeAsm.Node

/-!
# The target field

Setting the target of a word replaces bits six to nine by the low bits of a slot and
leaves every other bit as it was. Four bits have room for every slot of a node, and a
word that gets its own target again does not change. Any integer may be given as a slot:
only its residue modulo sixteen shows, and a later target hides an earlier one.
-/

namespace NodeAsm.Word

theorem getLsbD_targetMask (i : Nat) : targetMask.getLsbD i = decide (6 ≤ i ∧ i < 10) := by
  by_cases within : i < 16
  · have all : ∀ i < 16, targetMask.getLsbD i = decide (6 ≤ i ∧ i < 10) := by decide
    exact all i within
  · rw [BitVec.getLsbD_of_ge targetMask i (Nat.not_lt.mp within), eq_comm,
      decide_eq_false_iff_not]
    omega

/-- The bits of a word with a new target. -/
theorem getLsbD_withTarget (w : Word) (slot : Int) (i : Nat) :
    (w.withTarget slot).getLsbD i =
      if 6 ≤ i ∧ i < 10 then (BitVec.ofInt 16 slot).getLsbD (i - 6) else w.getLsbD i := by
  rw [withTarget, BitVec.getLsbD_or, BitVec.getLsbD_and, BitVec.getLsbD_and, BitVec.getLsbD_not,
    BitVec.getLsbD_shiftLeft, getLsbD_targetMask]
  by_cases inside : 6 ≤ i ∧ i < 10
  · have early : i < 16 := by omega
    have late : ¬ i < 6 := by omega
    simp [inside, early, late]
  · by_cases within : i < 16
    · simp [inside, within]
    · simp [inside, within, BitVec.getLsbD_of_ge w i (Nat.not_lt.mp within)]

/-- Old target bits do not show under a new target. -/
theorem withTarget_and_not (w : Word) (slot : Int) :
    (w &&& ~~~targetMask).withTarget slot = w.withTarget slot := by
  rw [withTarget, withTarget, BitVec.and_assoc, BitVec.and_self]

theorem target_lt (w : Word) : w.target < slotCount := by
  have masked : (w &&& targetMask).toNat ≤ targetMask.toNat := by
    rw [BitVec.toNat_and]
    exact Nat.and_le_right
  have mask : targetMask.toNat = 0x3C0 := rfl
  rw [target, BitVec.toNat_ushiftRight, Nat.shiftRight_eq_div_pow, slotCount]
  omega

theorem testBit_target (w : Word) (i : Nat) :
    w.target.testBit i = (decide (i < 4) && w.getLsbD (i + 6)) := by
  have inside : (6 ≤ i + 6 ∧ i + 6 < 10) ↔ i < 4 := by omega
  rw [target, BitVec.testBit_toNat, BitVec.getLsbD_ushiftRight, BitVec.getLsbD_and,
    getLsbD_targetMask, Nat.add_comm, Bool.and_comm]
  simp only [inside]

/-- A word keeps its bits when it gets the target that it has. -/
theorem withTarget_target (w : Word) : w.withTarget w.target = w := by
  apply BitVec.eq_of_getLsbD_eq
  intro i _
  rw [getLsbD_withTarget, BitVec.ofInt_natCast, BitVec.getLsbD_ofNat, testBit_target]
  split
  next inside =>
      have early : i - 6 < 16 := by omega
      have low : i - 6 < 4 := by omega
      simp only [early, low, decide_true, Bool.true_and, Nat.sub_add_cancel inside.1]
  next => rfl

/-- A new target hides an earlier one. -/
theorem withTarget_withTarget (w : Word) (first second : Int) :
    (w.withTarget first).withTarget second = w.withTarget second := by
  apply BitVec.eq_of_getLsbD_eq
  intro i _
  rw [getLsbD_withTarget, getLsbD_withTarget, getLsbD_withTarget]
  split <;> rfl

/-- The target of a word is the residue of the slot that it was given. -/
theorem target_withTarget_eq_emod (w : Word) (slot : Int) :
    ((w.withTarget slot).target : Int) = slot % 16 := by
  have low : (w.withTarget slot).target = (BitVec.ofInt 16 slot).toNat % 2 ^ 4 := by
    apply Nat.eq_of_testBit_eq
    intro i
    rw [testBit_target, getLsbD_withTarget, Nat.testBit_mod_two_pow, BitVec.testBit_toNat,
      Nat.add_sub_cancel]
    by_cases early : i < 4
    · have inside : 6 ≤ i + 6 ∧ i + 6 < 10 := by omega
      rw [if_pos inside]
    · rw [decide_eq_false early, Bool.false_and, Bool.false_and]
  rw [low, BitVec.toNat_ofInt]
  omega

/-- The target bits have room for every slot. -/
theorem target_withTarget (w : Word) {slot : Nat} (within : slot < slotCount) :
    (w.withTarget slot).target = slot := by
  have residue := target_withTarget_eq_emod w slot
  rw [slotCount] at within
  omega

theorem withTarget_emod (w : Word) (slot : Int) : w.withTarget (slot % 16) = w.withTarget slot := by
  -- A word with the slot as its target keeps its bits when it gets that target again.
  calc
    w.withTarget (slot % 16) = (w.withTarget slot).withTarget (slot % 16) :=
      (withTarget_withTarget w slot _).symm
    _ = (w.withTarget slot).withTarget (w.withTarget slot).target := by
      rw [target_withTarget_eq_emod]
    _ = w.withTarget slot := withTarget_target _

theorem withTarget_eq_withTarget_iff (w : Word) (first second : Int) :
    w.withTarget first = w.withTarget second ↔ first ≡ second [ZMOD 16] := by
  constructor
  · intro same
    rw [Int.ModEq, ← target_withTarget_eq_emod w first, same, target_withTarget_eq_emod]
  · intro congruent
    rw [← withTarget_emod w first, congruent, withTarget_emod]

/-- No target bit is a class bit. -/
theorem isJump_withTarget (w : Word) (slot : Int) : (w.withTarget slot).isJump = w.isJump := by
  have clear : ∀ i < 16, 6 ≤ i ∧ i < 10 → classMask.getLsbD i = false := by decide
  have bits : w.withTarget slot &&& classMask = w &&& classMask := by
    apply BitVec.eq_of_getLsbD_eq
    intro i within
    rw [BitVec.getLsbD_and, BitVec.getLsbD_and, getLsbD_withTarget]
    split
    next inside => rw [clear i within inside, Bool.and_false, Bool.and_false]
    next => rfl
  rw [isJump, isJump, bits]

/-- The laws of the target field, for every word and all integers as slots: the target is
the slot modulo sixteen; the bits outside the field stay, and with them whether the word
is a jump; the last target counts; a word that gets its own target again stays as it is;
and two slots give the same word exactly if they agree modulo sixteen. -/
theorem target_field_laws (w : Word) (s t : Int) :
    ((w.withTarget s).target : Int) = s % 16 ∧ (w.withTarget s).target < 16 ∧
      (∀ i, i < 6 ∨ 9 < i → (w.withTarget s).getLsbD i = w.getLsbD i) ∧
      (w.withTarget s).isJump = w.isJump ∧
      (w.withTarget s).withTarget t = w.withTarget t ∧
      w.withTarget w.target = w ∧
      (w.withTarget s = w.withTarget t ↔ s ≡ t [ZMOD 16]) := by
  have outside : ∀ i, i < 6 ∨ 9 < i → (w.withTarget s).getLsbD i = w.getLsbD i := by
    intro i apart
    rw [getLsbD_withTarget, if_neg (by omega)]
  exact ⟨target_withTarget_eq_emod w s, target_lt _, outside, isJump_withTarget w s,
    withTarget_withTarget w s t, withTarget_target w, withTarget_eq_withTarget_iff w s t⟩

/-- The least slot of sixty-four bits that is three modulo sixteen, given to a jump that
has all its target bits set. -/
theorem target_field_laws_of_least :
    let w : Word := 0xD3FF#16
    w.isJump = true ∧ (w.withTarget (-9223372036854775805)).target = 3 ∧
      (w.withTarget (-9223372036854775805)).getLsbD 5 = true ∧
      (w.withTarget (-9223372036854775805)).isJump = true ∧
      w.withTarget (-9223372036854775805) = w.withTarget 9223372036854775795 := by
  intro w
  obtain ⟨residue, _, outside, jump, _, _, same⟩ :=
    target_field_laws w (-9223372036854775805) 9223372036854775795
  refine ⟨by decide, by omega, ?_, ?_, ?_⟩
  · rw [outside 5 (by omega)]
    decide
  · rw [jump]
    decide
  · exact same.mpr (by decide)

end NodeAsm.Word
