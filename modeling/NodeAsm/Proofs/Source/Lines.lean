import NodeAsm.Compilation

/-!
# The lines of a text

A text is read as its complete lines and what follows the last line feed. Text that is
added behind leaves the complete lines as they are and can only go on with the last
one. So the lines of a text are, but for a cut at the end of the last one, the first
lines of every text that continues it.
-/

namespace NodeAsm.Source

/-- The lines of a text that is read to its end. -/
def lines (t : Text) : List Text :=
  (splitLines t).1 ++ if (splitLines t).2.isEmpty then [] else [(splitLines t).2]

/-- A line with the line feed that ends it. -/
def CompleteLine (line : Text) : Prop :=
  ∃ front, Text.lf ∉ front ∧ line = front ++ [Text.lf]

/-- Lines as they are read: all are complete but the last, which is not empty. -/
inductive IsLines : List Text → Prop
  | nil : IsLines []
  | tail {line : Text} (nonempty : line ≠ []) (unbroken : Text.lf ∉ line) : IsLines [line]
  | cons {line : Text} {ls : List Text} (complete : CompleteLine line) (rest : IsLines ls) :
      IsLines (line :: ls)

/-- `ls` are the first lines of `more`, the last of them possibly cut short. -/
inductive CutOf : List Text → List Text → Prop
  | nil (more : List Text) : CutOf [] more
  | cut {tail line : Text} (nonempty : tail ≠ []) (front : tail <+: line) (more : List Text) :
      CutOf [tail] (line :: more)
  | cons (line : Text) {ls more : List Text} (rest : CutOf ls more) :
      CutOf (line :: ls) (line :: more)

/-! ## Splitting -/

/-- Text without a line feed goes to the first line. -/
theorem splitLines_append_of_not_mem {front : Text} (unbroken : Text.lf ∉ front) (t : Text) :
    splitLines (front ++ t) =
      match (splitLines t).1 with
      | [] => ([], front ++ (splitLines t).2)
      | line :: ls => ((front ++ line) :: ls, (splitLines t).2) := by
  induction front with
  | nil => cases split : (splitLines t).1 <;> simp [← split]
  | cons b front inductionHypothesis =>
      obtain ⟨other, rest⟩ := not_or.mp (mt List.mem_cons.mpr unbroken)
      rw [List.cons_append, splitLines, inductionHypothesis rest]
      cases (splitLines t).1 <;> simp [Ne.symm other]

theorem splitLines_append_of_complete {line : Text} (complete : CompleteLine line) (t : Text) :
    splitLines (line ++ t) = (line :: (splitLines t).1, (splitLines t).2) := by
  obtain ⟨front, unbroken, rfl⟩ := complete
  have broken : splitLines (Text.lf :: t) = ([Text.lf] :: (splitLines t).1, (splitLines t).2) := by
    simp [splitLines]
  rw [List.append_assoc, List.singleton_append, splitLines_append_of_not_mem unbroken, broken]

theorem completeLine_of_mem_splitLines {t line : Text} (member : line ∈ (splitLines t).1) :
    CompleteLine line := by
  induction t generalizing line with
  | nil => contradiction
  | cons b t inductionHypothesis =>
      by_cases broken : b = Text.lf
      · simp only [splitLines, broken, if_true] at member
        rcases List.mem_cons.mp member with rfl | later
        · exact ⟨[], by simp, rfl⟩
        · exact inductionHypothesis later
      · simp only [splitLines, if_neg broken] at member
        cases split : (splitLines t).1 with
        | nil => simp [split] at member
        | cons first ls =>
            simp only [split] at member inductionHypothesis
            rcases List.mem_cons.mp member with rfl | later
            · obtain ⟨front, unbroken, rfl⟩ := inductionHypothesis List.mem_cons_self
              exact ⟨b :: front, by simp [unbroken, Ne.symm broken], rfl⟩
            · exact inductionHypothesis (List.mem_cons_of_mem _ later)

theorem not_mem_splitLines_tail (t : Text) : Text.lf ∉ (splitLines t).2 := by
  induction t with
  | nil => simp [splitLines]
  | cons b t inductionHypothesis =>
      by_cases broken : b = Text.lf
      · simpa [splitLines, broken] using inductionHypothesis
      · simp only [splitLines, if_neg broken]
        cases (splitLines t).1 with
        | nil => simp [inductionHypothesis, Ne.symm broken]
        | cons first ls => exact inductionHypothesis

/-! ## Lines -/

theorem flatten_lines (t : Text) : (lines t).flatten = t := by
  have whole := flatten_splitLines t
  unfold lines
  cases tail : (splitLines t).2 with
  | nil => simpa [tail] using whole
  | cons b rest => simpa [tail] using whole

theorem isLines_append {ls : List Text} (complete : ∀ line ∈ ls, CompleteLine line)
    {last : List Text} (rest : IsLines last) : IsLines (ls ++ last) := by
  induction ls with
  | nil => exact rest
  | cons line ls inductionHypothesis =>
      exact .cons (complete line List.mem_cons_self)
        (inductionHypothesis fun other member => complete other (List.mem_cons_of_mem _ member))

theorem isLines_lines (t : Text) : IsLines (lines t) := by
  apply isLines_append fun line member => completeLine_of_mem_splitLines member
  split
  · exact .nil
  next nonempty =>
    exact .tail (by simpa using nonempty) (not_mem_splitLines_tail t)

/-- The first of some lines are lines. -/
theorem IsLines.of_isPrefix {ls front : List Text} (isLines : IsLines ls) (first : front <+: ls) :
    IsLines front := by
  induction isLines generalizing front with
  | nil => exact List.prefix_nil.mp first ▸ .nil
  | tail nonempty unbroken =>
      rcases List.prefix_cons_iff.mp first with rfl | ⟨rest, rfl, none⟩
      · exact .nil
      · rw [List.prefix_nil.mp none]
        exact .tail nonempty unbroken
  | cons complete _ inductionHypothesis =>
      rcases List.prefix_cons_iff.mp first with rfl | ⟨rest, rfl, later⟩
      · exact .nil
      · exact .cons complete (inductionHypothesis later)

theorem lines_append_of_complete {line : Text} (complete : CompleteLine line) (t : Text) :
    lines (line ++ t) = line :: lines t := by
  rw [lines, splitLines_append_of_complete complete]
  rfl

/-- Text without a line feed is the front of a line, whatever follows. -/
theorem exists_lines_append {tail : Text} (nonempty : tail ≠ []) (unbroken : Text.lf ∉ tail)
    (t : Text) : ∃ line more, lines (tail ++ t) = line :: more ∧ tail <+: line := by
  rw [lines, splitLines_append_of_not_mem unbroken]
  cases (splitLines t).1 with
  | nil =>
      refine ⟨tail ++ (splitLines t).2, [], ?_, List.prefix_append _ _⟩
      simp [nonempty]
  | cons line ls => exact ⟨tail ++ line, _, List.cons_append, List.prefix_append _ _⟩

/-- Lines are, but for a cut, the first lines of every text that goes on with them. -/
theorem IsLines.cutOf_lines {ls : List Text} (isLines : IsLines ls) {t : Text}
    (front : ls.flatten <+: t) : CutOf ls (lines t) := by
  induction isLines generalizing t with
  | nil => exact .nil _
  | tail nonempty unbroken =>
      obtain ⟨rest, rfl⟩ := front
      rw [List.flatten_singleton]
      obtain ⟨line, more, split, within⟩ := exists_lines_append nonempty unbroken rest
      rw [split]
      exact .cut nonempty within more
  | cons complete _ inductionHypothesis =>
      obtain ⟨rest, rfl⟩ := front
      rw [List.flatten_cons, List.append_assoc, lines_append_of_complete complete]
      exact .cons _ (inductionHypothesis (List.prefix_append _ rest))

/-! ## Reading -/

/-- Neither a read error nor a cancellation stops the reading. What follows the last
line feed is read at once, so no cancellation is seen behind it. -/
def Uncut (source : Source) (cancelAfter : Option Nat) : Prop :=
  source.readError = none ∧ ∀ n, cancelAfter = some n → (splitLines source.text).1.length < n

theorem read_eq_of_uncut {source : Source} {cancelAfter : Option Nat}
    (uncut : source.Uncut cancelAfter) : source.read cancelAfter = (lines source.text, .ended) := by
  obtain ⟨readable, late⟩ := uncut
  cases cancelAfter with
  | none => simp only [read, readable, lines]
  | some n => simp only [read, readable, lines, if_neg (Nat.not_le.mpr (late n rfl))]

theorem uncut_of_read_eq_ended {source : Source} {cancelAfter : Option Nat}
    (ended : (source.read cancelAfter).2 = .ended) : source.Uncut cancelAfter := by
  cases error : source.readError with
  | some message =>
      cases cancelAfter with
      | none => simp [read, error] at ended
      | some n =>
          by_cases early : n ≤ (splitLines source.text).1.length
          · simp [read, early] at ended
          · simp [read, early, error] at ended
  | none =>
      refine ⟨error, ?_⟩
      rintro n rfl
      by_cases late : (splitLines source.text).1.length < n
      · exact late
      · simp [read, Nat.not_lt.mp late] at ended

theorem Stop.fault?_eq_none_iff (stop : Stop) : stop.fault? = none ↔ stop = .ended := by
  cases stop <;> simp [fault?]

/-- What is read are the first lines of the text. -/
theorem isPrefix_lines_read (source : Source) (cancelAfter : Option Nat) :
    (source.read cancelAfter).1 <+: lines source.text := by
  cases cancelAfter with
  | none => exact List.prefix_refl _
  | some n =>
      by_cases early : n ≤ (splitLines source.text).1.length
      · simp only [read, if_pos early, lines]
        exact (List.take_prefix n _).trans (List.prefix_append _ _)
      · simp only [read, if_neg early, lines]
        exact List.prefix_refl _

end NodeAsm.Source
