/-!
# Byte text

Source lines, names, messages and output are sequences of bytes. No operation
assumes that they are valid UTF-8, so nothing is lost or replaced on the way
from a source file to a diagnostic.
-/

namespace NodeAsm

/-- A text is a list of bytes in any or no encoding. -/
abbrev Text := List UInt8

namespace Text

/-- The UTF-8 bytes of a string. -/
def ofString (s : String) : Text :=
  s.toUTF8.data.toList

instance : Coe String Text where
  coe := ofString

/-- Line feed. -/
def lf : UInt8 := 0x0A

/-- Carriage return. -/
def cr : UInt8 := 0x0D

/-- Horizontal tab. -/
def tab : UInt8 := 0x09

/-- The ASCII space. -/
def space : UInt8 := 0x20

/-- Drops the longest run of bytes satisfying `p` from the end. -/
def dropRightWhile (p : UInt8 → Bool) (t : Text) : Text :=
  (t.reverse.dropWhile p).reverse

/-- A text without the carriage returns and line feeds at its end. -/
def dropLineEnd (t : Text) : Text :=
  t.dropRightWhile fun b => b == cr || b == lf

/-- The texts one after the other with `separator` between neighbours. -/
def joinWith (separator : Text) : List Text → Text
  | [] => []
  | [t] => t
  | t :: ts => t ++ separator ++ joinWith separator ts

theorem joinWith_eq_intercalate (separator : Text) (ts : List Text) :
    joinWith separator ts = separator.intercalate ts := by
  induction ts with
  | nil => rfl
  | cons t ts inductionHypothesis =>
      cases ts with
      | nil => simp [joinWith]
      | cons next ts =>
          rw [List.intercalate_cons_cons, ← inductionHypothesis]
          rfl

/-- The pieces between occurrences of `b`. There is always at least one. -/
def splitAtByte (b : UInt8) : Text → List Text
  | [] => [[]]
  | c :: rest =>
      if c = b then [] :: splitAtByte b rest
      else
        match splitAtByte b rest with
        | [] => [[c]]
        | piece :: pieces => (c :: piece) :: pieces

theorem splitAtByte_ne_nil (b : UInt8) (t : Text) : splitAtByte b t ≠ [] := by
  cases t with
  | nil => simp [splitAtByte]
  | cons c rest =>
      unfold splitAtByte
      split
      · simp
      · split <;> simp

/-- `n` copies of the space. -/
def spaces (n : Nat) : Text :=
  List.replicate n space

end Text

end NodeAsm
