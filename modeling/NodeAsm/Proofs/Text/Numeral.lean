import Mathlib.Algebra.Group.Nat.Defs
import Mathlib.Data.List.Induction
import Mathlib.Data.Nat.Digits.Defs
import Mathlib.Tactic.Common
import NodeAsm.Text.Numeral

/-!
# Numerals read back

The decimal numeral of a number is a nonempty run of digits that denotes the
number, so distinct numbers have distinct numerals. A hexadecimal numeral of fixed
width denotes the number modulo a power of sixteen.
-/

namespace NodeAsm.Numeral

theorem toNat_lowerDigit {d : Nat} (small : d < 10) : (lowerDigit d).toNat - 0x30 = d := by
  have all : ∀ d < 10, (lowerDigit d).toNat - 0x30 = d := by decide
  exact all d small

theorem isDigit_lowerDigit {d : Nat} (small : d < 10) : isDigit (lowerDigit d) := by
  have all : ∀ d < 10, isDigit (lowerDigit d) := by decide
  exact all d small

theorem ne_of_isDigit {b c : UInt8} (digit : isDigit b) (other : isDigit c = false) : b ≠ c := by
  rintro rfl
  rw [other] at digit
  contradiction

/-- Reading the digits of `n` and then `tail` is reading `tail` behind `n`. -/
theorem foldl_digitsOnto {bound n : Nat} (bounded : n < bound) (tail : Text) :
    (digitsOnto bound n tail).foldl (fun v b => 10 * v + (b.toNat - 0x30)) 0 =
      tail.foldl (fun v b => 10 * v + (b.toNat - 0x30)) n := by
  induction bound generalizing n tail with
  | zero => contradiction
  | succ bound inductionHypothesis =>
      unfold digitsOnto
      split
      · rename_i small
        rw [List.foldl_cons, toNat_lowerDigit small, Nat.mul_zero, Nat.zero_add]
      · have last : n % 10 < 10 := Nat.mod_lt n (by decide)
        have split : 10 * (n / 10) + n % 10 = n := Nat.div_add_mod n 10
        rw [inductionHypothesis (by omega), List.foldl_cons, toNat_lowerDigit last, split]

theorem isDigit_of_mem_digitsOnto {bound n : Nat} {tail : Text}
    (digits : ∀ b ∈ tail, isDigit b) {b : UInt8} (member : b ∈ digitsOnto bound n tail) :
    isDigit b := by
  induction bound generalizing n tail with
  | zero => exact digits b member
  | succ bound inductionHypothesis =>
      unfold digitsOnto at member
      split at member
      · rename_i small
        rcases List.mem_cons.mp member with rfl | member
        · exact isDigit_lowerDigit small
        · exact digits b member
      · apply inductionHypothesis _ member
        intro c earlier
        rcases List.mem_cons.mp earlier with rfl | earlier
        · exact isDigit_lowerDigit (Nat.mod_lt n (by decide))
        · exact digits c earlier

/-- The numeral of a number denotes it. -/
@[simp]
theorem value_ofNat (n : Nat) : value (ofNat n) = n :=
  foldl_digitsOnto (Nat.lt_succ_self n) []

theorem isDigit_of_mem_ofNat {n : Nat} {b : UInt8} (member : b ∈ ofNat n) : isDigit b :=
  isDigit_of_mem_digitsOnto (by simp) member

/-- A run of digits denotes the number with these digits, of which the last counts once. -/
theorem value_eq_ofDigits (digits : Text) :
    value digits = Nat.ofDigits 10 (digits.reverse.map fun b => b.toNat - 0x30) := by
  induction digits using List.reverseRecOn with
  | nil => rfl
  | append_singleton digits b inductionHypothesis =>
      rw [List.reverse_append, List.reverse_singleton, List.singleton_append, List.map_cons,
        Nat.ofDigits_cons, ← inductionHypothesis, value, List.foldl_append, Nat.add_comm]
      rfl

theorem ofNat_injective : Function.Injective ofNat :=
  Function.LeftInverse.injective value_ofNat

theorem digitsOnto_ne_nil {bound n : Nat} {tail : Text} (digits : bound = 0 → tail ≠ []) :
    digitsOnto bound n tail ≠ [] := by
  induction bound generalizing n tail with
  | zero => exact digits rfl
  | succ bound inductionHypothesis =>
      unfold digitsOnto
      split
      · exact List.cons_ne_nil _ _
      · exact inductionHypothesis fun _ => List.cons_ne_nil _ _

theorem ofNat_ne_nil (n : Nat) : ofNat n ≠ [] :=
  digitsOnto_ne_nil fun absurd => Nat.noConfusion absurd

theorem ofInt_natCast (n : Nat) : ofInt n = ofNat n := by
  have nonnegative : ¬ (n : Int) < 0 := Int.not_lt.mpr (Int.natCast_nonneg n)
  rw [ofInt, if_neg nonnegative, Int.natAbs_natCast]

/-! ## Hexadecimal numerals -/

theorem digitValue?_lowerDigit {d : Nat} (small : d < 16) : digitValue? (lowerDigit d) = some d := by
  have all : ∀ d < 16, digitValue? (lowerDigit d) = some d := by decide
  exact all d small

theorem exists_of_mem_hex {width n : Nat} {b : UInt8} (member : b ∈ hex width n) :
    ∃ d < 16, b = lowerDigit d := by
  induction width generalizing n with
  | zero => contradiction
  | succ width inductionHypothesis =>
      rcases List.mem_append.mp member with earlier | last
      · exact inductionHypothesis earlier
      · exact ⟨n % 16, Nat.mod_lt n (by decide), List.mem_singleton.mp last⟩

/-- As many hexadecimal digits of a number as are asked for denote it modulo the power
of sixteen. -/
theorem valueInBase?_hex {width : Nat} (positive : 0 < width) (n : Nat) :
    valueInBase? 16 (hex width n) = some (n % 16 ^ width) := by
  have nonempty : (hex width n).isEmpty = false := by
    rw [List.isEmpty_eq_false_iff, ← List.length_pos_iff, length_hex]
    exact positive
  rw [valueInBase?, nonempty]
  clear positive nonempty
  induction width generalizing n with
  | zero => simp [hex, hexWith, Nat.mod_one]
  | succ width inductionHypothesis =>
      have last : n % 16 < 16 := Nat.mod_lt n (by decide)
      have value : 16 * (n / 16 % 16 ^ width) + n % 16 = n % 16 ^ (width + 1) := by
        rw [Nat.pow_succ', Nat.mod_mul, Nat.add_comm]
      have digits : hex (width + 1) n = hex width (n / 16) ++ [lowerDigit (n % 16)] := rfl
      rw [digits, List.foldl_append]
      simp only [Bool.false_eq_true, if_false] at inductionHypothesis ⊢
      rw [inductionHypothesis]
      simp [digitValue?_lowerDigit last, last, value]

end NodeAsm.Numeral
