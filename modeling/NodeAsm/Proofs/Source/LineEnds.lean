import NodeAsm.Proofs.Source.Index
import NodeAsm.Proofs.Source.Words

/-!
# The end of a line

A line is passed on with the carriage returns and line feeds that end it. This
file shows that they mean nothing: a directive or a statement is read the same
with any run of them, and with none. To a statement they are delimiters. To a
directive they are blanks in front of the index and end its digits behind it. The
texts that quote a line drop them.
-/

namespace NodeAsm

namespace Text

/-- A run of carriage returns and line feeds. -/
def LineEnd (ending : Text) : Prop :=
  ∀ b ∈ ending, b = cr ∨ b = lf

instance (ending : Text) : Decidable (LineEnd ending) :=
  List.decidableBAll (fun b => b = cr ∨ b = lf) ending

/-- What ignores one such byte at the end of a line ignores a run of them. -/
theorem LineEnd.ignored {α : Type} {reading : Text → α}
    (ignores : ∀ (t : Text) {b : UInt8}, b = cr ∨ b = lf → reading (t ++ [b]) = reading t)
    {ending : Text} (ends : LineEnd ending) (t : Text) : reading (t ++ ending) = reading t := by
  induction ending generalizing t with
  | nil => rw [List.append_nil]
  | cons b rest inductionHypothesis =>
      obtain ⟨first, others⟩ := List.forall_mem_cons.mp ends
      rw [List.append_cons, inductionHypothesis others, ignores t first]

theorem dropLineEnd_concat (t : Text) {b : UInt8} (ends : b = cr ∨ b = lf) :
    (t ++ [b]).dropLineEnd = t.dropLineEnd := by
  simp [dropLineEnd, dropRightWhile, ends]

/-- A line is what is left of it without its end, and its end. -/
theorem exists_eq_dropLineEnd_append (line : Text) :
    ∃ ending : Text, ending.LineEnd ∧ line = line.dropLineEnd ++ ending := by
  refine ⟨line.rtakeWhile fun b => b == cr || b == lf, ?_, ?_⟩
  · intro b member
    simpa using List.mem_rtakeWhile_imp member
  · exact List.rdropWhile_append_rtakeWhile.symm

end Text

namespace Statement

namespace Scan

@[simp]
theorem endWord_endWord (s : Scan) : s.endWord.endWord = s.endWord := by
  unfold endWord
  split <;> simp_all

theorem run_concat (s : Scan) (t : Text) {b : UInt8} (delimiter : isDelimiter b) :
    s.run (t ++ [b]) = s.run t := by
  induction t generalizing s with
  | nil =>
      have plain : b ≠ commentMarker := by
        rintro rfl
        exact absurd delimiter (by decide)
      simp [run, plain, step_of_isDelimiter s delimiter]
  | cons c rest inductionHypothesis => simp [run, inductionHypothesis]

end Scan

/-- The end of a line does not change the statement on it. -/
theorem read_append_lineEnd (t : Text) {ending : Text} (ends : ending.LineEnd) :
    read (t ++ ending) = read t := by
  refine ends.ignored (fun t b last => ?_) t
  have delimiter : isDelimiter b := by
    rcases last with rfl | rfl <;> rfl
  simp only [read, Scan.run_concat _ t delimiter, Text.dropLineEnd_concat t last]

end Statement

namespace Directive

/-- A byte behind the sign stays behind it. -/
theorem splitSign_append {t : Text} (nonempty : t ≠ []) (back : Text) :
    Numeral.splitSign (t ++ back) =
      ((Numeral.splitSign t).1, (Numeral.splitSign t).2 ++ back) := by
  cases t with
  | nil => exact absurd rfl nonempty
  | cons b rest =>
      simp only [List.cons_append, Numeral.splitSign]
      split
      · rfl
      · split <;> rfl

/-- A blank behind a text changes no index in it. -/
theorem index?_concat (t : Text) {b : UInt8} (blank : isBlank b) :
    index? (t ++ [b]) = index? t := by
  by_cases empty : t.dropWhile isBlank = []
  · have all : (t ++ [b]).dropWhile isBlank = [] := by
      simp [List.dropWhile_append, empty, blank]
    rw [index?, index?, all, empty]
  · have digit : ¬ Numeral.isDigit b := by
      intro digit
      simp [isBlank_eq_false_of_isDigit digit] at blank
    have digits (l : Text) :
        (l ++ [b]).takeWhile Numeral.isDigit = l.takeWhile Numeral.isDigit := by
      induction l with
      | nil => simp [digit]
      | cons c rest inductionHypothesis =>
          simp only [List.cons_append, List.takeWhile_cons, inductionHypothesis]
    simp only [index?, List.dropWhile_append, List.isEmpty_iff, if_neg empty,
      splitSign_append empty, digits]

/-- The end of a line does not change the directive on it. -/
theorem read?_append_lineEnd (t : Text) {ending : Text} (ends : ending.LineEnd) :
    read? (t ++ ending) = read? t := by
  refine ends.ignored (fun t b last => ?_) t
  have blank : isBlank b := by
    rcases last with rfl | rfl <;> rfl
  have unmarked : b ≠ marker := by
    rcases last with rfl | rfl <;> decide
  cases t with
  | nil => simp [read?, unmarked]
  | cons c rest =>
      have quoted : Fault.badNodeIndex (c :: rest ++ [b]) = Fault.badNodeIndex (c :: rest) := by
        rw [Fault.badNodeIndex, Fault.badNodeIndex, Text.dropLineEnd_concat (c :: rest) last]
      rw [List.cons_append] at quoted
      simp only [List.cons_append, read?, index?_concat rest blank, quoted]

end Directive

end NodeAsm
