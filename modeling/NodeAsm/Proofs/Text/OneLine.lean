import NodeAsm.Proofs.Text.Numeral
import NodeAsm.Text.Quoted

/-!
# Texts on one line

Numerals and quoted texts hold no line feed, whatever stands between the quotes: a line
feed does not print, and every escape is made of letters and digits.
-/

namespace NodeAsm

namespace Text

/-- A text without line feed. -/
def OneLine (t : Text) : Prop :=
  lf ∉ t

instance (t : Text) : Decidable (OneLine t) :=
  inferInstanceAs (Decidable (lf ∉ t))

theorem oneLine_nil : OneLine [] :=
  List.not_mem_nil

@[simp]
theorem oneLine_cons_iff {b : UInt8} {t : Text} : OneLine (b :: t) ↔ b ≠ lf ∧ OneLine t := by
  rw [OneLine, List.mem_cons, not_or, ne_comm]
  rfl

@[simp]
theorem oneLine_append_iff {s t : Text} : OneLine (s ++ t) ↔ OneLine s ∧ OneLine t := by
  rw [OneLine, List.mem_append, not_or]
  rfl

theorem oneLine_flatMap {α : Type} {f : α → Text} (each : ∀ a, OneLine (f a)) (as : List α) :
    OneLine (as.flatMap f) := by
  intro feed
  obtain ⟨a, _, inside⟩ := List.mem_flatMap.mp feed
  exact each a inside

theorem oneLine_joinWith {separator : Text} (between : OneLine separator) {ts : List Text}
    (each : ∀ t ∈ ts, OneLine t) : OneLine (joinWith separator ts) := by
  induction ts with
  | nil => exact oneLine_nil
  | cons t ts inductionHypothesis =>
      have first : OneLine t := each t List.mem_cons_self
      cases ts with
      | nil => exact first
      | cons next ts =>
          have rest := inductionHypothesis fun t member => each t (List.mem_cons_of_mem _ member)
          change OneLine (t ++ separator ++ joinWith separator (next :: ts))
          rw [oneLine_append_iff, oneLine_append_iff]
          exact ⟨⟨first, between⟩, rest⟩

end Text

namespace Numeral

open Text

theorem oneLine_ofNat (n : Nat) : OneLine (ofNat n) := fun feed =>
  ne_of_isDigit (isDigit_of_mem_ofNat feed) (by decide) rfl

theorem oneLine_ofInt (n : Int) : OneLine (ofInt n) := by
  unfold ofInt
  split
  · exact oneLine_cons_iff.mpr ⟨by decide, oneLine_ofNat _⟩
  · exact oneLine_ofNat _

theorem oneLine_hex (width n : Nat) : OneLine (hex width n) := by
  intro feed
  obtain ⟨d, small, digit⟩ := exists_of_mem_hex feed
  have all : ∀ d < 16, lf ≠ lowerDigit d := by decide
  exact all d small digit

end Numeral

namespace Text

open Numeral

/-! ## Quoted text -/

theorem ofNat_ne_lf {n : Nat} (small : n < 0x100) (other : n ≠ 0x0A) : UInt8.ofNat n ≠ lf := by
  intro same
  have value := congrArg UInt8.toNat same
  rw [UInt8.toNat_ofNat', Nat.mod_eq_of_lt small] at value
  exact other value

/-- The bytes of a character past ASCII have their highest bit set. -/
theorem oneLine_ofChar {c : Char} (other : c.toNat ≠ 0x0A) : OneLine (ofChar c) := by
  have bound : c.toNat < 0x110000 := by
    have valid := c.valid
    unfold UInt32.isValidChar Nat.isValidChar at valid
    change c.val.toNat < _
    omega
  unfold ofChar
  simp only
  split
  next ascii => exact oneLine_cons_iff.mpr ⟨ofNat_ne_lf (by omega) other, oneLine_nil⟩
  next =>
    split
    · simp only [oneLine_cons_iff]
      exact ⟨ofNat_ne_lf (by omega) (by omega), ofNat_ne_lf (by omega) (by omega), oneLine_nil⟩
    · split
      · simp only [oneLine_cons_iff]
        exact ⟨ofNat_ne_lf (by omega) (by omega), ofNat_ne_lf (by omega) (by omega),
          ofNat_ne_lf (by omega) (by omega), oneLine_nil⟩
      · simp only [oneLine_cons_iff]
        exact ⟨ofNat_ne_lf (by omega) (by omega), ofNat_ne_lf (by omega) (by omega),
          ofNat_ne_lf (by omega) (by omega), ofNat_ne_lf (by omega) (by omega), oneLine_nil⟩

theorem ne_lf_of_controlLetter? {n : Nat} {letter : UInt8}
    (found : controlLetter? n = some letter) : letter ≠ lf := by
  unfold controlLetter? at found
  split at found <;> cases found <;> decide

theorem oneLine_hexEscape {letter : UInt8} (other : letter ≠ lf) (width n : Nat) :
    OneLine (backslash :: letter :: hex width n) := by
  simp only [oneLine_cons_iff]
  exact ⟨by decide, other, oneLine_hex width n⟩

theorem oneLine_escapeChar {mark : UInt8} (other : mark ≠ lf) (c : Char) :
    OneLine (escapeChar mark c) := by
  unfold escapeChar
  simp only
  split
  next quoted =>
    have char : c.toNat ≠ 0x0A := by
      intro feed
      rw [feed, Bool.or_eq_true, decide_eq_true_iff, decide_eq_true_iff] at quoted
      rcases quoted with same | same
      · exact other (UInt8.toNat_inj.mp same.symm)
      · contradiction
    exact oneLine_cons_iff.mpr ⟨by decide, oneLine_ofChar char⟩
  next =>
    split
    next printable =>
      have char : c.toNat ≠ 0x0A := by
        intro feed
        rw [feed] at printable
        exact absurd printable (by decide +kernel)
      exact oneLine_ofChar char
    next =>
      split
      next letter found =>
        simp only [oneLine_cons_iff]
        exact ⟨by decide, ne_lf_of_controlLetter? found, oneLine_nil⟩
      next =>
        split
        · exact oneLine_hexEscape (by decide) 2 _
        · split
          · exact oneLine_hexEscape (by decide) 4 _
          · exact oneLine_hexEscape (by decide) 8 _

/-- Quoted text stands on one line. -/
theorem oneLine_quote (t : Text) : OneLine t.quote := by
  have glyph (g : Glyph) : OneLine (escapeGlyph doubleQuote g) := by
    cases g with
    | char c => exact oneLine_escapeChar (by decide) c
    | stray b => exact oneLine_hexEscape (by decide) 2 _
  rw [quote, oneLine_append_iff, oneLine_cons_iff]
  exact ⟨⟨by decide, oneLine_flatMap glyph _⟩, by decide⟩

end Text

end NodeAsm
