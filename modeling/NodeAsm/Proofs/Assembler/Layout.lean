import NodeAsm.Proofs.Assembler.Renumbering
import NodeAsm.Proofs.Source.LineEnds

/-!
# The layout of a source

A vacant line has no directive, no label and no word. Vacant lines may be put into
a source and taken out of it, and lines may end as they like: what the assembler
delivers stays the same but for line numbers, which follow the lines.

An edited source is given as a script that goes through the old and the new source
side by side. The two runs are compared line by line. Between two edits the new run
stands in the renumbered state of the old one, wherever a section is cut: a vacant
line moves one of the two line counters and leaves the slot counter, the bindings
and the report of dropped code alone.
-/

namespace NodeAsm

namespace Layout

/-- A line that is blank, a comment, or a colon without label. -/
structure Vacant (line : Text) : Prop where
  plain : ¬ Directive.Marked line
  unlabelled : Statement.labelOf line = []
  wordless : Statement.wordsOf line = []

instance (line : Text) : Decidable (Vacant line) :=
  decidable_of_iff
    (¬ Directive.Marked line ∧ Statement.labelOf line = [] ∧ Statement.wordsOf line = [])
    ⟨fun ⟨plain, unlabelled, wordless⟩ => ⟨plain, unlabelled, wordless⟩,
      fun vacant => ⟨vacant.plain, vacant.unlabelled, vacant.wordless⟩⟩

/-- What an edited source does with one line of the old or the new source. -/
inductive Edit where
  /-- A line stays, with a new run of carriage returns and line feeds at its end. -/
  | keep (line newEnd : Text) (ends : newEnd.LineEnd)
  /-- A vacant line is put in. -/
  | insert (line : Text) (vacant : Vacant line)
  /-- A vacant line is taken out. -/
  | delete (line : Text) (vacant : Vacant line)

/-- The lines of the old source. -/
def before : List Edit → List Text
  | [] => []
  | .keep line _ _ :: rest => line :: before rest
  | .insert _ _ :: rest => before rest
  | .delete line _ :: rest => line :: before rest

/-- The lines of the new source. -/
def after : List Edit → List Text
  | [] => []
  | .keep line newEnd _ :: rest => (line.dropLineEnd ++ newEnd) :: after rest
  | .insert line _ :: rest => line :: after rest
  | .delete _ _ :: rest => after rest

/-- The old and the new number of every line that stays, behind `old` lines of the
old source and `new` lines of the new one. -/
def numbers (old new : Nat) : List Edit → List (Nat × Nat)
  | [] => []
  | .keep _ _ _ :: rest => (old + 1, new + 1) :: numbers (old + 1) (new + 1) rest
  | .insert _ _ :: rest => numbers old (new + 1) rest
  | .delete _ _ :: rest => numbers (old + 1) new rest

/-- New line numbers that follow the lines that stay. -/
def Follows (r : Renumbering) (edits : List Edit) : Prop :=
  ∀ number ∈ numbers 0 0 edits, r.move number.1 = number.2

theorem lt_of_mem_numbers {old new : Nat} {edits : List Edit} {number : Nat × Nat}
    (member : number ∈ numbers old new edits) : old < number.1 := by
  induction edits generalizing old new with
  | nil => contradiction
  | cons edit rest inductionHypothesis =>
      cases edit with
      | keep line newEnd ends =>
          rcases List.mem_cons.mp member with rfl | later
          · exact Nat.lt_succ_self old
          · exact Nat.lt_of_succ_lt (inductionHypothesis later)
      | insert line vacant => exact inductionHypothesis member
      | delete line vacant => exact Nat.lt_of_succ_lt (inductionHypothesis member)

/-- No line has two new numbers. -/
theorem lookup_numbers {old new : Nat} {edits : List Edit} {number : Nat × Nat}
    (member : number ∈ numbers old new edits) :
    (numbers old new edits).lookup number.1 = some number.2 := by
  induction edits generalizing old new with
  | nil => contradiction
  | cons edit rest inductionHypothesis =>
      cases edit with
      | keep line newEnd ends =>
          rcases List.mem_cons.mp member with rfl | later
          · exact List.lookup_cons_self
          · have other : number.1 ≠ old + 1 := (lt_of_mem_numbers later).ne'
            rw [numbers, List.lookup_cons, beq_eq_false_iff_ne.mpr other]
            exact inductionHypothesis later
      | insert line vacant => exact inductionHypothesis member
      | delete line vacant => exact inductionHypothesis member

/-- The new numbers of the lines that stay. Numbers of other lines are given up. -/
def renumbering (edits : List Edit) : Renumbering where
  move line := ((numbers 0 0 edits).lookup line.toNat).getD 0
  move_zero := by
    have unnumbered : (numbers 0 0 edits).lookup 0 = none := by
      apply List.lookup_eq_none_iff.mpr
      intro number member
      exact bne_iff_ne.mpr (lt_of_mem_numbers member).ne
    rw [Int.toNat_zero, unnumbered]
    rfl

theorem follows_renumbering (edits : List Edit) : Follows (renumbering edits) edits := by
  intro number member
  simp [renumbering, lookup_numbers member]

end Layout

namespace Assembler

open Layout

/-! ## One line -/

/-- A vacant line is counted and does nothing else. -/
theorem feed_of_vacant (a : Assembler) (s : State) {line : Text} (vacant : Vacant line) :
    (a.feed s line).state = { s with line := s.line + 1 } ∧ (a.feed s line).events = [] := by
  have code : ¬ (Statement.read line).value.isCode := by
    rw [Statement.isCode_read]
    exact not_not_intro vacant.wordless
  have faults : (Statement.read line).faults = [] := by
    rw [Statement.faults_read, vacant.wordless]
    rfl
  rw [feed_of_not_marked a s vacant.plain]
  simp [feedStatement, code, faults, Statement.label_read, vacant.unlabelled, bindLabel, reportAll]

/-- A line is read the same with every end. -/
theorem feed_dropLineEnd_append (a : Assembler) (s : State) (line : Text) {newEnd : Text}
    (ends : newEnd.LineEnd) : a.feed s (line.dropLineEnd ++ newEnd) = a.feed s line := by
  obtain ⟨oldEnd, oldEnds, parts⟩ := line.exists_eq_dropLineEnd_append
  have directive : Directive.read? (line.dropLineEnd ++ newEnd) = Directive.read? line := by
    rw [Directive.read?_append_lineEnd _ ends]
    nth_rewrite 2 [parts]
    rw [Directive.read?_append_lineEnd _ oldEnds]
  have statement : Statement.read (line.dropLineEnd ++ newEnd) = Statement.read line := by
    rw [Statement.read_append_lineEnd _ ends]
    nth_rewrite 2 [parts]
    rw [Statement.read_append_lineEnd _ oldEnds]
  rw [feed, feed, directive, statement]

/-! ## Whole sources -/

/-- From the renumbered state, the new source delivers the renumbered events of the
old one. -/
theorem eventsFrom_after (a : Assembler) (r : Renumbering) (edits : List Edit) (s : State)
    (new : Nat) (follows : ∀ number ∈ numbers s.line new edits, r.move number.1 = number.2) :
    a.eventsFrom (s.renumber r new) (callsOf (after edits)) =
      (a.eventsFrom s (callsOf (before edits))).map (Event.renumber r) := by
  -- `s` and `new` are where the two runs stand, and advance independently
  induction edits generalizing s new with
  | nil => simp [after, before, callsOf, perform, finish, completion_renumber]
  | cons edit rest inductionHypothesis =>
      cases edit with
      | keep line newEnd ends =>
          obtain ⟨here, later⟩ := List.forall_mem_cons.mp follows
          have fed := feed_renumbered a r here line
          rw [← line_feed a s line] at later
          rw [after, before, callsOf_cons, callsOf_cons, eventsFrom_cons, eventsFrom_cons,
            perform, perform, feed_dropLineEnd_append a _ line ends, fed.events, fed.state,
            inductionHypothesis _ (new + 1) later, List.map_append]
      | insert line vacant =>
          obtain ⟨state, events⟩ := feed_of_vacant a (s.renumber r new) vacant
          rw [after, before, callsOf_cons, eventsFrom_cons, perform, events, state,
            List.nil_append]
          exact inductionHypothesis s (new + 1) follows
      | delete line vacant =>
          obtain ⟨state, events⟩ := feed_of_vacant a s vacant
          rw [after, before, callsOf_cons, eventsFrom_cons, perform, events, state,
            List.nil_append]
          exact inductionHypothesis { s with line := s.line + 1 } new follows

/-- Vacant lines and line ends change nothing that is delivered but line numbers, and
these follow the lines. -/
theorem layout_keeps_events (a : Assembler) (edits : List Edit) :
    Follows (renumbering edits) edits ∧
      ∀ r, Follows r edits →
        a.events (callsOf (after edits)) =
          (a.events (callsOf (before edits))).map (Event.renumber r) := by
  refine ⟨follows_renumbering edits, ?_⟩
  intro r follows
  have start : State.start.renumber r 0 = State.start := by
    simp [State.renumber, State.start, Node.renumber_idle, r.move_zero]
  rw [events_eq_eventsFrom, events_eq_eventsFrom, ← eventsFrom_after a r edits .start 0 follows,
    start]

/-- A script that adds vacant lines behind a label and between the sixteenth and the
seventeenth code line, takes one out in front of a directive without index, and
changes every line end. -/
def respaced : List Edit :=
  [.keep "@1\r\n" "\n" (by decide), .keep "here:\n" "" (by decide),
      .insert "# code" (by decide)] ++
    List.replicate 16 (.keep "JMP here\r\n" "\n" (by decide)) ++
    [.insert ":" (by decide), .insert "" (by decide), .keep "JMP there" "\r\n" (by decide),
      .delete " ,\t\r\n" (by decide), .keep "@x\n" "\n\r" (by decide)]

theorem layout_keeps_events_of_respaced :
    (renumbering respaced).move 19 = 22 ∧ (renumbering respaced).move 21 = 23 ∧
      (⟨.node, .discard⟩ : Assembler).events
          (callsOf (("@1\n" : Text) :: ("here:" : Text) :: ("# code" : Text) ::
            List.replicate 16 ("JMP here\n" : Text) ++
              [(":" : Text), ("" : Text), ("JMP there\r\n" : Text), ("@x\n\r" : Text)])) =
        ((⟨.node, .discard⟩ : Assembler).events
          (callsOf (("@1\r\n" : Text) :: ("here:\n" : Text) ::
            List.replicate 16 ("JMP here\r\n" : Text) ++
              [("JMP there" : Text), (" ,\t\r\n" : Text), ("@x\n" : Text)]))).map
          (Event.renumber (renumbering respaced)) := by
  obtain ⟨follows, keeps⟩ := layout_keeps_events ⟨.node, .discard⟩ respaced
  exact ⟨rfl, rfl, keeps (renumbering respaced) follows⟩

end Assembler

end NodeAsm
