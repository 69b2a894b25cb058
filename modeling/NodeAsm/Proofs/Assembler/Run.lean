import NodeAsm.Assembler

/-!
# Runs of the assembler

A run carries out calls one after the other from some state. This file says once
what a call does on each kind of line and what becomes of a code line, how the line
counter moves, and which programs and faults a call delivers. The laws of whole runs
are stated over `eventsFrom`, which starts at any state, and not only over fresh
runs.
-/

namespace NodeAsm

namespace Directive

/-- A line is marked as a directive by its first byte. -/
def Marked (line : Text) : Prop :=
  line.head? = some marker

instance (line : Text) : Decidable (Marked line) :=
  inferInstanceAs (Decidable (line.head? = some marker))

/-- Exactly the marked lines are read as directives. -/
theorem exists_read?_iff (line : Text) : (∃ index, read? line = some index) ↔ Marked line := by
  cases line with
  | nil => simp [read?, Marked]
  | cons b rest =>
      by_cases marked : b = marker
      · subst marked
        cases parsed : index? rest <;> simp [read?, Marked, parsed]
      · simp [read?, Marked, marked]

/-- A directive has at most one fault, that of a missing index. -/
theorem faults_eq_nil_of_read?_eq_some {line : Text} {index : Checked Nat}
    (read : read? line = some index) (indexed : Fault.hasAny .badNodeIndex index.faults = false) :
    index.faults = [] := by
  cases line with
  | nil => simp [read?] at read
  | cons b rest =>
      simp only [read?] at read
      split at read
      · split at read
        · cases read
          rfl
        · cases read
          simp [Fault.hasAny, Fault.has, Fault.badNodeIndex] at indexed
      · contradiction

theorem read?_eq_none_iff (line : Text) : read? line = none ↔ ¬ Marked line := by
  rw [← exists_read?_iff]
  cases read? line <;> simp

end Directive

namespace Assembler

/-! ## Events from any state -/

/-- The events of a sequence of calls that starts at `s`. -/
def eventsFrom (a : Assembler) (s : State) (calls : List Call) : List Event :=
  (a.steps s calls).flatMap Step.events

theorem events_eq_eventsFrom (a : Assembler) (calls : List Call) :
    a.events calls = a.eventsFrom State.start calls :=
  rfl

@[simp]
theorem eventsFrom_nil (a : Assembler) (s : State) : a.eventsFrom s [] = [] :=
  rfl

@[simp]
theorem eventsFrom_cons (a : Assembler) (s : State) (call : Call) (calls : List Call) :
    a.eventsFrom s (call :: calls) =
      (a.perform s call).events ++ a.eventsFrom (a.perform s call).state calls :=
  rfl

theorem eventsFrom_append (a : Assembler) (s : State) (first second : List Call) :
    a.eventsFrom s (first ++ second) =
      a.eventsFrom s first ++ a.eventsFrom (a.stateAfter s first) second := by
  rw [eventsFrom, steps_append, List.flatMap_append]
  rfl

theorem callsOf_cons (line : Text) (rest : List Text) :
    callsOf (line :: rest) = .feed line :: callsOf rest :=
  rfl

/-- A whole source delivers the events of its lines, then those that complete the
node it ends in. -/
theorem eventsFrom_callsOf (a : Assembler) (s : State) (lines : List Text) :
    a.eventsFrom s (callsOf lines) =
      a.eventsFrom s (lines.map .feed) ++ completion (a.stateAfter s (lines.map .feed)) := by
  rw [callsOf, eventsFrom_append]
  simp [perform, finish]

/-! ## Lines of the two kinds -/

theorem feed_of_read?_eq_some (a : Assembler) (s : State) {line : Text} {index : Checked Nat}
    (read : Directive.read? line = some index) :
    a.feed s line = a.feedDirective { s with line := s.line + 1 } index := by
  rw [feed, read]

theorem feed_of_not_marked (a : Assembler) (s : State) {line : Text}
    (plain : ¬ Directive.Marked line) :
    a.feed s line = a.feedStatement { s with line := s.line + 1 } (Statement.read line) := by
  rw [feed, (Directive.read?_eq_none_iff line).mpr plain]

/-! ## Placing code -/

/-- What becomes of a code line: it fills the next slot, or it finds the node full. Then
it is dropped, and reported if it is the first, or it fills slot zero anew. -/
theorem place_cases (a : Assembler) (s : State) (statement : Statement) :
    (∃ room : s.slot < slotCount, a.place s statement = a.fill s statement ⟨s.slot, room⟩) ∨
      (¬ s.slot < slotCount ∧ a.overflow = .discard ∧ s.discarding = true ∧
        a.place s statement = ⟨s, [], []⟩) ∨
      (¬ s.slot < slotCount ∧ a.overflow = .discard ∧ s.discarding = false ∧
        a.place s statement =
          ⟨{ s with discarding := true },
            reportAll s [overflowFault "dropping code from here on"], []⟩) ∨
      (¬ s.slot < slotCount ∧ a.overflow ≠ .discard ∧
        a.place s statement =
          { a.fill s statement ⟨0, by decide⟩ with
            events := reportAll s [overflowFault "overwriting slot 0"] ++
              (a.fill s statement ⟨0, by decide⟩).events }) := by
  by_cases room : s.slot < slotCount
  · exact Or.inl ⟨room, dif_pos room⟩
  · rw [place, dif_neg room]
    by_cases discards : a.overflow = .discard
    · rw [if_pos discards]
      cases reported : s.discarding with
      | true => exact Or.inr (Or.inl ⟨room, discards, rfl, if_pos rfl⟩)
      | false => exact Or.inr (Or.inr (Or.inl ⟨room, discards, rfl, if_neg Bool.false_ne_true⟩))
    · exact Or.inr (Or.inr (Or.inr ⟨room, discards, if_neg discards⟩))

/-! ## Policies by their effect -/

section

variable {a b : Assembler} (isa : a.isa = b.isa)
  (discards : a.overflow = .discard ↔ b.overflow = .discard)

include isa discards

theorem place_congr (s : State) (statement : Statement) :
    a.place s statement = b.place s statement := by
  simp only [place, fill, isa, discards]

theorem perform_congr (s : State) (call : Call) : a.perform s call = b.perform s call := by
  cases call with
  | finish => rfl
  | feed line =>
      simp only [perform, feed, feedDirective, feedStatement, isa, place_congr isa discards]

/-- All that counts of a policy is whether it discards. -/
theorem steps_congr (s : State) (calls : List Call) : a.steps s calls = b.steps s calls := by
  induction calls generalizing s with
  | nil => rfl
  | cons call calls inductionHypothesis =>
      rw [steps, steps, perform_congr isa discards, inductionHypothesis]

end

/-- The default in place of a policy without a name changes no step. -/
theorem steps_build (isa : Option InstructionSet) (overflow : OverflowPolicy) (s : State)
    (calls : List Call) :
    (build isa overflow).steps s calls =
      (⟨isa.getD .node, overflow⟩ : Assembler).steps s calls := by
  apply steps_congr
  · rfl
  · by_cases unnamed : overflow.name = []
    · have other : overflow ≠ .discard := by
        rintro rfl
        contradiction
      simp only [build, unnamed, List.isEmpty_nil, if_true, other, iff_false]
      decide
    · simp only [build, List.isEmpty_iff, unnamed, if_false]

/-! ## The line counter -/

@[simp]
theorem line_bindLabel (s : State) (label : Text) : (bindLabel s label).line = s.line := by
  unfold bindLabel
  split <;> rfl

@[simp]
theorem line_place (a : Assembler) (s : State) (statement : Statement) :
    (a.place s statement).state.line = s.line := by
  rcases a.place_cases s statement with
    ⟨_, placed⟩ | ⟨_, _, _, placed⟩ | ⟨_, _, _, placed⟩ | ⟨_, _, placed⟩
  all_goals exact congrArg (fun step => step.state.line) placed

@[simp]
theorem line_feedStatement (a : Assembler) (s : State) (statement : Checked Statement) :
    (a.feedStatement s statement).state.line = s.line := by
  unfold feedStatement
  simp only
  split
  · rw [line_place, line_bindLabel]
  · exact line_bindLabel s statement.value.label

@[simp]
theorem line_feed (a : Assembler) (s : State) (line : Text) :
    (a.feed s line).state.line = s.line + 1 := by
  unfold feed
  simp only
  split
  · rfl
  · rw [line_feedStatement]

/-- The lines that a sequence of calls reads. -/
def fedLines (calls : List Call) : List Text :=
  calls.filterMap fun
    | .feed line => some line
    | .finish => none

@[simp]
theorem fedLines_map_feed (lines : List Text) : fedLines (lines.map .feed) = lines := by
  induction lines with
  | nil => rfl
  | cons line lines inductionHypothesis =>
      exact congrArg (line :: ·) inductionHypothesis

theorem fedLines_callsOf (ls : List Text) : fedLines (callsOf ls) = ls := by
  rw [fedLines, callsOf, List.filterMap_append]
  exact (List.append_nil _).trans (fedLines_map_feed ls)

/-- The line counter is the number of lines read. -/
theorem line_stateAfter (a : Assembler) (s : State) (calls : List Call) :
    (a.stateAfter s calls).line = s.line + (fedLines calls).length := by
  induction calls generalizing s with
  | nil => rfl
  | cons call calls inductionHypothesis =>
      rw [stateAfter_cons, inductionHypothesis]
      cases call with
      | feed line =>
          simp only [perform, line_feed, fedLines, List.filterMap_cons, List.length_cons]
          omega
      | finish => rfl

theorem line_stateAfter_start (a : Assembler) (calls : List Call) :
    (a.stateAfter .start calls).line = (fedLines calls).length := by
  rw [line_stateAfter]
  exact Nat.zero_add _

/-! ## Programs and faults of one call -/

@[simp]
theorem programs_map_fault (fs : List Fault) : programs (fs.map .fault) = [] := by
  simp [programs]

@[simp]
theorem faults_map_fault (fs : List Fault) : faults (fs.map .fault) = fs := by
  rw [faults, List.filterMap_map]
  exact List.filterMap_some

theorem map_report_eq (s : State) (node : Int) (fs : List Fault) :
    fs.map (report s node) = (fs.map (Fault.located node s.line)).map .fault := by
  simp [report]

theorem reportAll_eq (s : State) (fs : List Fault) :
    reportAll s fs = (fs.map (Fault.located s.node.index s.line)).map .fault :=
  map_report_eq s s.node.index fs

theorem completion_eq (s : State) :
    completion s =
      if s.inNode then s.node.undefinedLabels.map .fault ++ [.program s.node.program] else [] :=
  rfl

theorem programs_completion (s : State) :
    programs (completion s) = if s.inNode then [s.node.program] else [] := by
  rw [completion_eq]
  split
  · rw [programs_append, programs_map_fault]
    rfl
  · rfl

theorem faults_completion (s : State) :
    faults (completion s) = if s.inNode then s.node.undefinedLabels else [] := by
  rw [completion_eq]
  split
  · rw [faults_append, faults_map_fault]
    exact List.append_nil _
  · rfl

/-! ## Directives -/

/-- The faults of a directive on line `line`. -/
def directiveFaults (index : Checked Nat) (line : Nat) : List Fault :=
  index.faults.map (Fault.located index.value line)

/-- The state behind a directive on line `line`. -/
def sectionStart (index : Checked Nat) (line : Nat) : State :=
  ⟨line, Node.idle index.value line, true, 0, false⟩

theorem perform_feed_of_read?_eq_some (a : Assembler) (s : State) {line : Text}
    {index : Checked Nat} (read : Directive.read? line = some index) :
    (a.perform s (.feed line)).events =
        (directiveFaults index (s.line + 1)).map .fault ++ completion s ∧
      (a.perform s (.feed line)).state = sectionStart index (s.line + 1) := by
  rw [perform, feed_of_read?_eq_some a s read]
  refine ⟨?_, rfl⟩
  simp only [feedDirective, map_report_eq]
  rfl

/-- A source up to a directive and behind it. -/
theorem eventsFrom_callsOf_directive (a : Assembler) (s : State) (before : List Text)
    {directive : Text} {index : Checked Nat} (read : Directive.read? directive = some index)
    (after : List Text) :
    a.eventsFrom s (callsOf (before ++ directive :: after)) =
      a.eventsFrom s (before.map .feed) ++
        ((directiveFaults index (s.line + before.length + 1)).map .fault ++
          completion (a.stateAfter s (before.map .feed)) ++
            a.eventsFrom (sectionStart index (s.line + before.length + 1)) (callsOf after)) := by
  have calls : callsOf (before ++ directive :: after) =
      before.map .feed ++ .feed directive :: callsOf after := by
    simp [callsOf]
  have line : (a.stateAfter s (before.map .feed)).line = s.line + before.length := by
    rw [line_stateAfter, fedLines_map_feed]
  obtain ⟨events, state⟩ :=
    perform_feed_of_read?_eq_some a (a.stateAfter s (before.map .feed)) read
  rw [calls, eventsFrom_append, eventsFrom_cons, events, state, line]

/-- A call that completes the node being read. -/
def Call.Closes : Call → Prop
  | .feed line => Directive.Marked line
  | .finish => True

instance : DecidablePred Call.Closes
  | .feed line => inferInstanceAs (Decidable (Directive.Marked line))
  | .finish => isTrue trivial

/-- A call that completes a node delivers its own faults, which are those of a
directive, before it delivers the node. -/
theorem perform_of_closes (a : Assembler) (s : State) {call : Call} (closes : call.Closes) :
    ∃ fs, (a.perform s call).events = fs.map .fault ++ completion s ∧
      (fs = [] ∨ ∃ index line text, Directive.read? text = some index ∧
        fs = directiveFaults index line) := by
  cases call with
  | finish => exact ⟨[], rfl, Or.inl rfl⟩
  | feed line =>
      obtain ⟨index, read⟩ := (Directive.exists_read?_iff line).mpr closes
      exact ⟨directiveFaults index (s.line + 1), (perform_feed_of_read?_eq_some a s read).1,
        Or.inr ⟨index, s.line + 1, line, read, rfl⟩⟩

/-! ## Invariants of nodes -/

/-- A property that new nodes have and that labels and code keep. -/
structure NodeInvariant (a : Assembler) (P : Node → Prop) : Prop where
  idle : ∀ {directive : Text} {index : Checked Nat} (line : Nat),
    Directive.read? directive = some index → P (Node.idle index.value line)
  bind : ∀ {n : Node} (name : Text) (slot line : Int), P n → P (n.bind name slot line)
  store : ∀ {n : Node} (i : Fin slotCount) (mnemonic first second label raw : Text) (line : Nat),
    P n → P (n.store i
      (slotFor (a.isa.encode mnemonic first second).value label ⟨(line + 1 : Nat), raw⟩))

namespace NodeInvariant

variable {a : Assembler} {P : Node → Prop}

theorem bindLabel (invariant : a.NodeInvariant P) {s : State} (holds : P s.node) (label : Text) :
    P (bindLabel s label).node := by
  unfold Assembler.bindLabel
  split
  · exact invariant.bind label s.slot s.line holds
  · exact holds

theorem fill (invariant : a.NodeInvariant P) {s : State} {line : Nat} (numbered : s.line = line + 1)
    (holds : P s.node) (statement : Statement) (i : Fin slotCount) :
    P (a.fill s statement i).state.node := by
  simp only [Assembler.fill, numbered]
  exact invariant.store i _ _ _ _ _ line holds

theorem place (invariant : a.NodeInvariant P) {s : State} {line : Nat} (numbered : s.line = line + 1)
    (holds : P s.node) (statement : Statement) : P (a.place s statement).state.node := by
  rcases a.place_cases s statement with
    ⟨_, placed⟩ | ⟨_, _, _, placed⟩ | ⟨_, _, _, placed⟩ | ⟨_, _, placed⟩
  · rw [placed]
    exact invariant.fill numbered holds statement _
  · rw [placed]
    exact holds
  · rw [placed]
    exact holds
  · rw [placed]
    exact invariant.fill numbered holds statement _

/-- Every call keeps an invariant of nodes. -/
theorem perform (invariant : a.NodeInvariant P) {s : State} (holds : P s.node) (call : Call) :
    P (a.perform s call).state.node := by
  cases call with
  | finish => exact holds
  | feed line =>
      simp only [Assembler.perform, feed]
      cases read : Directive.read? line with
      | some index => exact invariant.idle _ read
      | none =>
          have bound := invariant.bindLabel (s := { s with line := s.line + 1 }) holds
            (Statement.read line).value.label
          simp only [feedStatement]
          split
          · exact invariant.place (line_bindLabel _ _) bound _
          · exact bound

/-- So does every run. -/
theorem stateAfter (invariant : a.NodeInvariant P) {s : State} (holds : P s.node)
    (calls : List Call) : P (a.stateAfter s calls).node := by
  induction calls generalizing s with
  | nil => exact holds
  | cons call calls inductionHypothesis =>
      exact inductionHypothesis (invariant.perform holds call)

end NodeInvariant

/-! ## Delivered programs -/

@[simp]
theorem programs_reportAll (s : State) (fs : List Fault) : programs (reportAll s fs) = [] := by
  rw [reportAll_eq, programs_map_fault]

theorem index_bindLabel (s : State) (label : Text) :
    (bindLabel s label).node.index = s.node.index := by
  unfold bindLabel
  split
  · exact Node.index_bind _ _ _ _
  · rfl

/-- Placing code delivers faults at the current line and nothing else. -/
theorem exists_events_place (a : Assembler) (s : State) (statement : Statement) :
    ∃ fs, (a.place s statement).events = reportAll s fs := by
  rcases a.place_cases s statement with
    ⟨_, placed⟩ | ⟨_, _, _, placed⟩ | ⟨_, _, _, placed⟩ | ⟨_, _, placed⟩
  · exact ⟨_, congrArg Step.events placed⟩
  · exact ⟨[], congrArg Step.events placed⟩
  · exact ⟨_, congrArg Step.events placed⟩
  · exact ⟨_ :: _, congrArg Step.events placed⟩

/-- So does every line that is no directive. -/
theorem exists_events_feedStatement (a : Assembler) (s : State) (statement : Checked Statement) :
    ∃ fs, (a.feedStatement s statement).events = reportAll s fs := by
  simp only [feedStatement]
  split
  · obtain ⟨fs, events⟩ :=
      exists_events_place a (bindLabel s statement.value.label) statement.value
    refine ⟨statement.faults ++ fs, ?_⟩
    rw [events, reportAll_eq, reportAll_eq, reportAll_eq, line_bindLabel, index_bindLabel,
      List.map_append, List.map_append]
  · exact ⟨statement.faults, List.append_nil _⟩

theorem programs_feedStatement (a : Assembler) (s : State) (statement : Checked Statement) :
    programs (a.feedStatement s statement).events = [] := by
  obtain ⟨fs, events⟩ := exists_events_feedStatement a s statement
  rw [events, programs_reportAll]

/-- A call that completes a node delivers its program. -/
theorem programs_of_closes (a : Assembler) (s : State) {call : Call} (closes : call.Closes) :
    programs (a.perform s call).events = programs (completion s) := by
  obtain ⟨fs, events, _⟩ := perform_of_closes a s closes
  rw [events, programs_append, programs_map_fault, List.nil_append]

/-- No other call delivers a program. -/
theorem programs_perform (a : Assembler) (s : State) (call : Call) :
    programs (a.perform s call).events =
      if call.Closes ∧ s.inNode then [s.node.program] else [] := by
  by_cases closes : call.Closes
  · rw [programs_of_closes a s closes, programs_completion]
    simp [closes]
  · rw [if_neg fun both => closes both.1]
    cases call with
    | finish => exact absurd trivial closes
    | feed line => rw [perform, feed_of_not_marked a s closes, programs_feedStatement]

/-- A call delivers no program but that of the current node. -/
theorem eq_of_mem_programs_perform {a : Assembler} {s : State} {call : Call} {p : Program}
    (member : p ∈ programs (a.perform s call).events) : p = s.node.program := by
  rw [programs_perform] at member
  split at member
  · exact List.mem_singleton.mp member
  · contradiction

/-- An invariant of nodes holds of every delivered node. -/
theorem NodeInvariant.exists_of_mem_programs {a : Assembler} {P : Node → Prop}
    (invariant : a.NodeInvariant P) {s : State} (holds : P s.node) {calls : List Call} {p : Program}
    (member : p ∈ programs (a.eventsFrom s calls)) : ∃ n, P n ∧ p = n.program := by
  induction calls generalizing s with
  | nil => contradiction
  | cons call calls inductionHypothesis =>
      rw [eventsFrom_cons, programs_append] at member
      rcases List.mem_append.mp member with now | later
      · exact ⟨s.node, holds, eq_of_mem_programs_perform now⟩
      · exact inductionHypothesis (invariant.perform holds call) later

end Assembler

end NodeAsm
