import Mathlib.Data.List.DropRight
import Mathlib.Data.List.Forall2
import NodeAsm.Proofs.Assembler.Independence
import NodeAsm.Proofs.Assembler.Section
import NodeAsm.Proofs.Source.Index

/-!
# Every node is delivered once

Lines may be read on after the end of a source, and the end may be announced at any
time. Whatever the order of calls, a directive is delivered by the first call that
completes it, and never again, and its program comes from the lines between the two.
The stale node that an end leaves behind is filled further but no longer delivered,
so lines outside a node deliver their faults and nothing else.
-/

namespace NodeAsm

namespace Assembler

/-! ## Sections of a run -/

/-- A directive of a run and the lines of its node. -/
structure NodeSection where
  /-- The number of lines read before the directive. -/
  before : Nat
  directive : Text
  /-- The lines up to the next directive or the next end. -/
  body : List Text

/-- The lines that the first call to complete a node finds read. -/
def openLines (calls : List Call) : List Text :=
  fedLines (calls.takeWhile fun call => ¬ call.Closes)

/-- The directives that a later call completes, in the order of the run. The first
call finds `count` lines read. -/
def completedSections (count : Nat) : List Call → List NodeSection
  | [] => []
  | .finish :: calls => completedSections count calls
  | .feed line :: calls =>
      if Directive.Marked line ∧ ∃ call ∈ calls, call.Closes then
        ⟨count, line, openLines calls⟩ :: completedSections (count + 1) calls
      else completedSections (count + 1) calls

theorem openLines_of_closes {call : Call} (closes : call.Closes) (calls : List Call) :
    openLines (call :: calls) = [] := by
  simp [openLines, closes, fedLines]

theorem openLines_of_not_marked {line : Text} (plain : ¬ Directive.Marked line)
    (calls : List Call) : openLines (.feed line :: calls) = line :: openLines calls := by
  have unclosed : ¬ Call.Closes (.feed line) := plain
  simp [openLines, unclosed, fedLines]

theorem not_marked_of_mem_openLines {calls : List Call} {line : Text}
    (member : line ∈ openLines calls) : ¬ Directive.Marked line := by
  obtain ⟨call, callMember, fed⟩ := List.mem_filterMap.mp member
  have kept := List.mem_takeWhile_imp callMember
  have unclosed : ¬ call.Closes := of_decide_eq_true kept
  cases call with
  | finish => contradiction
  | feed text =>
      cases fed
      exact unclosed

/-- A completed section begins with a directive and has no other. -/
theorem marked_of_mem_completedSections {count : Nat} {calls : List Call} {s : NodeSection}
    (member : s ∈ completedSections count calls) :
    Directive.Marked s.directive ∧ ∀ line ∈ s.body, ¬ Directive.Marked line := by
  induction calls generalizing count with
  | nil => contradiction
  | cons call calls inductionHypothesis =>
      cases call with
      | finish => exact inductionHypothesis member
      | feed line =>
          rw [completedSections] at member
          split at member
          · rename_i completed
            rcases List.mem_cons.mp member with rfl | later
            · exact ⟨completed.1, fun _ => not_marked_of_mem_openLines⟩
            · exact inductionHypothesis later
          · exact inductionHypothesis member

/-! ## Lines keep a node open or closed -/

@[simp]
theorem inNode_bindLabel (s : State) (label : Text) : (bindLabel s label).inNode = s.inNode := by
  unfold bindLabel
  split <;> rfl

@[simp]
theorem inNode_place (a : Assembler) (s : State) (statement : Statement) :
    (a.place s statement).state.inNode = s.inNode := by
  rcases a.place_cases s statement with
    ⟨_, placed⟩ | ⟨_, _, _, placed⟩ | ⟨_, _, _, placed⟩ | ⟨_, _, placed⟩
  all_goals exact congrArg (fun step => step.state.inNode) placed

theorem inNode_feed_of_not_marked (a : Assembler) (s : State) {line : Text}
    (plain : ¬ Directive.Marked line) : (a.feed s line).state.inNode = s.inNode := by
  rw [feed_of_not_marked a s plain]
  simp only [feedStatement]
  split
  · rw [inNode_place, inNode_bindLabel]
  · exact inNode_bindLabel _ _

/-! ## The programs of a run -/

/-- A fresh state behind `count` lines. -/
def State.behind (count : Nat) : State :=
  { State.start with line := count }

/-- The program that a section makes on its own. -/
def sectionProgram (a : Assembler) (s : NodeSection) : Program :=
  (a.stateAfter (.behind s.before) ((s.directive :: s.body).map .feed)).node.program

/-- A directive forgets all of the state but the number of lines. -/
theorem perform_feed_of_marked (a : Assembler) (s : State) {line : Text}
    (marked : Directive.Marked line) :
    programs (a.perform s (.feed line)).events = programs (completion s) ∧
      (a.perform s (.feed line)).state.inNode = true ∧
      (a.perform s (.feed line)).state = (a.perform (.behind s.line) (.feed line)).state := by
  obtain ⟨index, read⟩ := (Directive.exists_read?_iff line).mpr marked
  have state := (perform_feed_of_read?_eq_some a s read).2
  refine ⟨programs_of_closes a s marked, ?_, ?_⟩
  · rw [state]
    rfl
  · rw [state, (perform_feed_of_read?_eq_some a (.behind s.line) read).2]
    rfl

/-- A run delivers the node being read, if a call completes it, and then the
completed sections. -/
theorem programs_eventsFrom (a : Assembler) (s : State) (calls : List Call) :
    programs (a.eventsFrom s calls) =
      (if s.inNode ∧ ∃ call ∈ calls, call.Closes then
        [(a.stateAfter s ((openLines calls).map .feed)).node.program] else []) ++
        (completedSections s.line calls).map a.sectionProgram := by
  induction calls generalizing s with
  | nil => simp [completedSections, programs]
  | cons call calls inductionHypothesis =>
      rw [eventsFrom_cons, programs_append, inductionHypothesis]
      cases call with
      | finish =>
          have closes : Call.Closes .finish := trivial
          rw [openLines_of_closes closes]
          simp [perform, finish, programs_completion, completedSections, closes]
      | feed line =>
          have lines : (a.perform s (.feed line)).state.line = s.line + 1 := line_feed a s line
          rw [lines]
          by_cases marked : Directive.Marked line
          · have closes : Call.Closes (.feed line) := marked
            obtain ⟨programs, inNode, state⟩ := perform_feed_of_marked a s marked
            rw [programs, inNode, programs_completion, openLines_of_closes closes,
              completedSections]
            by_cases completed : ∃ call ∈ calls, call.Closes
            · have own : a.sectionProgram ⟨s.line, line, openLines calls⟩ =
                  (a.stateAfter (a.perform s (.feed line)).state
                    ((openLines calls).map .feed)).node.program := by
                rw [state]
                rfl
              simp [completed, marked, closes, own]
            · simp [completed, closes]
          · have unclosed : ¬ Call.Closes (.feed line) := marked
            have inNode : (a.perform s (.feed line)).state.inNode = s.inNode :=
              inNode_feed_of_not_marked a s marked
            have none : programs (a.perform s (.feed line)).events = [] := by
              rw [programs_perform, if_neg fun both => unclosed both.1]
            rw [none, inNode, openLines_of_not_marked marked, completedSections]
            simp [marked, unclosed]

/-! ## The content of a program -/

/-- The program of a section in closed form. -/
theorem sectionProgram_eq (a : Assembler) (before : Nat) {directive : Text} {index : Checked Nat}
    (read : Directive.read? directive = some index) {body : List Text}
    (plain : ∀ line ∈ body, ¬ Directive.Marked line) :
    a.sectionProgram ⟨before, directive, body⟩ =
      (a.sectionNode index.value (before + 1 : Nat) (sectionLines (before + 1) body)).program := by
  have step := (perform_feed_of_read?_eq_some a (.behind before) read).2
  have state := stateAfter_section a (fresh_sectionStart index (before + 1)) plain
  simp only [sectionProgram, List.map_cons, stateAfter_cons, step]
  exact congrArg (fun s : State => s.node.program) state

/-- Without directives there are no sections. -/
theorem completedSections_eq_nil {calls : List Call}
    (plain : ∀ line, .feed line ∈ calls → ¬ Directive.Marked line) (count : Nat) :
    completedSections count calls = [] := by
  induction calls generalizing count with
  | nil => rfl
  | cons call calls inductionHypothesis =>
      have later := inductionHypothesis fun line member => plain line (List.mem_cons_of_mem _ member)
      cases call with
      | finish => exact later count
      | feed line =>
          rw [completedSections, if_neg fun both => plain line List.mem_cons_self both.1]
          exact later (count + 1)

theorem openLines_callsOf {body : List Text} (plain : ∀ line ∈ body, ¬ Directive.Marked line) :
    openLines (callsOf body) = body := by
  induction body with
  | nil => rfl
  | cons line body inductionHypothesis =>
      have later := inductionHypothesis fun other member => plain other (List.mem_cons_of_mem _ member)
      have first := openLines_of_not_marked (plain line List.mem_cons_self) (callsOf body)
      rw [later] at first
      exact first

/-- A run outside a node delivers its completed sections. -/
theorem programs_eventsFrom_of_outside (a : Assembler) {s : State} (outside : s.inNode = false)
    (calls : List Call) :
    programs (a.eventsFrom s calls) = (completedSections s.line calls).map a.sectionProgram := by
  rw [programs_eventsFrom]
  simp [outside]

/-- A source that is one section delivers the program of the section. -/
theorem programs_callsOf_section (a : Assembler) (before : Nat) {directive : Text}
    (marked : Directive.Marked directive) {body : List Text}
    (plain : ∀ line ∈ body, ¬ Directive.Marked line) :
    programs (a.eventsFrom (.behind before) (callsOf (directive :: body))) =
      [a.sectionProgram ⟨before, directive, body⟩] := by
  have completed : ∃ call ∈ callsOf body, call.Closes := ⟨.finish, by simp [callsOf], trivial⟩
  have none : ∀ line, .feed line ∈ callsOf body → ¬ Directive.Marked line := by
    intro line member
    apply plain line
    simpa [callsOf] using member
  rw [programs_eventsFrom_of_outside a rfl, callsOf_cons, completedSections,
    if_pos ⟨marked, completed⟩, openLines_callsOf plain, completedSections_eq_nil none]
  rfl

/-- Behind more lines, a fresh run delivers the same programs that many lines
later. -/
theorem programs_eventsFrom_behind (a : Assembler) (count : Nat) (calls : List Call) :
    programs (a.eventsFrom (.behind count) calls) =
      (programs (a.events calls)).map (Program.shift count) := by
  have moved : State.behind count = State.start.shift count := by
    simp [State.behind, State.start, State.shift, State.renumber, Node.renumber_idle,
      Renumbering.move_zero]
  rw [moved, eventsFrom_shift a count (Node.jumpsNumbered_idle 0 0), programs_map_shift]
  rfl

/-- A section makes the same program wherever it stands, up to its line numbers, and
only the index of the program depends on its directive. -/
theorem content_sectionProgram (a : Assembler) (before : Nat) {directive other : Text}
    (marked : Directive.Marked directive) (otherMarked : Directive.Marked other)
    {body : List Text} (plain : ∀ line ∈ body, ¬ Directive.Marked line) :
    ∃ q, programs (a.events (callsOf (other :: body))) = [q] ∧
      (a.sectionProgram ⟨before, directive, body⟩).entries = (q.shift before).entries ∧
      (a.sectionProgram ⟨before, directive, body⟩).bindings = (q.shift before).bindings := by
  obtain ⟨index, read⟩ := (Directive.exists_read?_iff directive).mpr marked
  obtain ⟨otherIndex, otherRead⟩ := (Directive.exists_read?_iff other).mpr otherMarked
  have alone : programs (a.events (callsOf (other :: body))) =
      [a.sectionProgram ⟨0, other, body⟩] :=
    programs_callsOf_section a 0 otherMarked plain
  have moved : a.sectionProgram ⟨before, other, body⟩ =
      (a.sectionProgram ⟨0, other, body⟩).shift before := by
    have shifted := programs_eventsFrom_behind a before (callsOf (other :: body))
    rw [programs_callsOf_section a before otherMarked plain, alone] at shifted
    exact (List.cons.inj shifted).1
  refine ⟨_, alone, ?_, ?_⟩
  · rw [← moved, sectionProgram_eq a before read plain, sectionProgram_eq a before otherRead plain]
    rfl
  · rw [← moved, sectionProgram_eq a before read plain, sectionProgram_eq a before otherRead plain]
    rfl

/-- `p` is the program of a section: it has the index and the position of the
directive, and the content that the lines of the section give on their own behind any
directive. -/
structure Delivers (a : Assembler) (s : NodeSection) (p : Program) : Prop where
  node : ∃ index, Directive.read? s.directive = some index ∧ p.node = (index.value : Nat) ∧
    index.value < Directive.nodeCount
  line : p.line = (s.before + 1 : Nat)
  content : ∀ directive, Directive.Marked directive →
    ∃ q, programs (a.events (callsOf (directive :: s.body))) = [q] ∧
      p.entries = (q.shift s.before).entries ∧ p.bindings = (q.shift s.before).bindings

theorem delivers_sectionProgram (a : Assembler) {s : NodeSection}
    (marked : Directive.Marked s.directive) (plain : ∀ line ∈ s.body, ¬ Directive.Marked line) :
    a.Delivers s (a.sectionProgram s) := by
  obtain ⟨index, read⟩ := (Directive.exists_read?_iff s.directive).mpr marked
  have program := sectionProgram_eq a s.before read plain
  constructor
  · refine ⟨index, read, ?_, Directive.value_lt_of_read?_eq_some read⟩
    rw [program]
    rfl
  · rw [program]
    rfl
  · intro directive otherMarked
    exact content_sectionProgram a s.before marked otherMarked plain

/-! ## Lines outside nodes -/

/-- Calls behind which no node is being read: no directive has been read since the
last end, or since the start. -/
def Outside (calls : List Call) : Prop :=
  ∃ front back, (front = [] ∨ ∃ earlier, front = earlier ++ [.finish]) ∧ calls = front ++ back ∧
    ∀ line, .feed line ∈ back → ¬ Directive.Marked line

theorem inNode_stateAfter_of_plain (a : Assembler) {s : State} (outside : s.inNode = false)
    {calls : List Call} (plain : ∀ line, .feed line ∈ calls → ¬ Directive.Marked line) :
    (a.stateAfter s calls).inNode = false := by
  induction calls generalizing s with
  | nil => exact outside
  | cons call calls inductionHypothesis =>
      rw [stateAfter_cons]
      apply inductionHypothesis
      · cases call with
        | finish => rfl
        | feed line =>
            exact (inNode_feed_of_not_marked a s (plain line List.mem_cons_self)).trans outside
      · exact fun line member => plain line (List.mem_cons_of_mem _ member)

theorem Outside.inNode_stateAfter (a : Assembler) {calls : List Call} (outside : Outside calls) :
    (a.stateAfter .start calls).inNode = false := by
  obtain ⟨front, back, ended, rfl, plain⟩ := outside
  rw [stateAfter_append]
  apply inNode_stateAfter_of_plain a _ plain
  rcases ended with rfl | ⟨earlier, rfl⟩
  · rfl
  · rw [stateAfter_append]
    rfl

theorem Outside.append {calls : List Call} (outside : Outside calls) {more : List Call}
    (plain : ∀ line, .feed line ∈ more → ¬ Directive.Marked line) : Outside (calls ++ more) := by
  obtain ⟨front, back, ended, rfl, backPlain⟩ := outside
  refine ⟨front, back ++ more, ended, List.append_assoc _ _ _, ?_⟩
  intro line member
  rcases List.mem_append.mp member with old | new
  · exact backPlain line old
  · exact plain line new

/-- Outside a node, a run delivers the programs of a fresh run, moved by the number
of lines read before. -/
theorem Outside.programs_eventsFrom (a : Assembler) {calls : List Call} (outside : Outside calls)
    (after : List Call) :
    programs (a.eventsFrom (a.stateAfter .start calls) after) =
      (programs (a.events after)).map (Program.shift (fedLines calls).length) := by
  have fresh : (State.behind (fedLines calls).length).inNode = false := rfl
  rw [programs_eventsFrom_of_outside a (outside.inNode_stateAfter a), line_stateAfter_start,
    ← programs_eventsFrom_behind, programs_eventsFrom_of_outside a fresh]
  rfl

/-- Lines outside a node move the programs that follow and change nothing else. -/
theorem Outside.programs_events_append (a : Assembler) {calls : List Call}
    (outside : Outside calls) {lines : List Text}
    (plain : ∀ line ∈ lines, ¬ Directive.Marked line) (after : List Call) :
    programs (a.events (calls ++ lines.map .feed ++ after)) =
      programs (a.events calls) ++
        (programs (a.events after)).map
          (Program.shift ((fedLines calls).length + lines.length)) := by
  have unmarked : ∀ line, .feed line ∈ lines.map Call.feed → ¬ Directive.Marked line := by
    intro line member
    apply plain line
    simpa using member
  have none : programs (a.eventsFrom (a.stateAfter .start calls) (lines.map .feed)) = [] := by
    rw [programs_eventsFrom_of_outside a (outside.inNode_stateAfter a),
      completedSections_eq_nil unmarked, List.map_nil]
  have count : (fedLines (calls ++ lines.map .feed)).length =
      (fedLines calls).length + lines.length := by
    rw [fedLines, List.filterMap_append, List.length_append]
    exact congrArg _ (congrArg List.length (fedLines_map_feed lines))
  have later := (outside.append unmarked).programs_eventsFrom a after
  rw [count] at later
  rw [events_eq_eventsFrom, eventsFrom_append, programs_append, later, eventsFrom_append,
    programs_append, none, List.append_nil]
  rfl

/-! ## Faults of lines -/

/-- The lines read since the last directive, whether or not their node has ended. -/
def linesSinceDirective (calls : List Call) : List Text :=
  (fedLines calls).rtakeWhile fun line => ¬ Directive.Marked line

theorem fedLines_concat_feed (calls : List Call) (line : Text) :
    fedLines (calls ++ [.feed line]) = fedLines calls ++ [line] :=
  List.filterMap_append

theorem fedLines_concat_finish (calls : List Call) :
    fedLines (calls ++ [.finish]) = fedLines calls := by
  rw [fedLines, List.filterMap_append]
  exact List.append_nil _

theorem linesSinceDirective_concat_finish (calls : List Call) :
    linesSinceDirective (calls ++ [.finish]) = linesSinceDirective calls := by
  rw [linesSinceDirective, fedLines_concat_finish]
  rfl

theorem linesSinceDirective_concat_of_marked (calls : List Call) {line : Text}
    (marked : Directive.Marked line) : linesSinceDirective (calls ++ [.feed line]) = [] := by
  rw [linesSinceDirective, fedLines_concat_feed]
  exact List.rtakeWhile_concat_neg _ _ _ (by simpa using marked)

theorem linesSinceDirective_concat_of_not_marked (calls : List Call) {line : Text}
    (plain : ¬ Directive.Marked line) :
    linesSinceDirective (calls ++ [.feed line]) = linesSinceDirective calls ++ [line] := by
  rw [linesSinceDirective, fedLines_concat_feed]
  exact List.rtakeWhile_concat_pos _ _ _ (by simpa using plain)

theorem sectionState_nil {a : Assembler} {s : State} (fresh : s.Fresh) :
    a.sectionState s [] = s := by
  have none : ∀ line ∈ ([] : List Text), ¬ Directive.Marked line := List.forall_mem_nil _
  exact (stateAfter_section a fresh none).symm

/-- The state of any run is that behind the lines since the last directive. An end
only marks the node as delivered. -/
theorem exists_stateAfter_eq_sectionState (a : Assembler) (calls : List Call) :
    ∃ s : State, s.Fresh ∧
      a.stateAfter .start calls = a.sectionState s (linesSinceDirective calls) := by
  -- From the right, since a directive makes the calls before it irrelevant.
  induction calls using List.reverseRecOn with
  | nil => exact ⟨.start, fresh_start, (sectionState_nil fresh_start).symm⟩
  | append_singleton calls call inductionHypothesis =>
      obtain ⟨s, fresh, state⟩ := inductionHypothesis
      rw [stateAfter_append, state]
      cases call with
      | finish =>
          rw [linesSinceDirective_concat_finish]
          exact ⟨{ s with inNode := false }, ⟨fresh.node, fresh.slot, fresh.discarding⟩, rfl⟩
      | feed line =>
          by_cases marked : Directive.Marked line
          · obtain ⟨index, read⟩ := (Directive.exists_read?_iff line).mpr marked
            rw [linesSinceDirective_concat_of_marked calls marked]
            have step := (perform_feed_of_read?_eq_some a
              (a.sectionState s (linesSinceDirective calls)) read).2
            exact ⟨_, fresh_sectionStart index _,
              step.trans (sectionState_nil (fresh_sectionStart index _)).symm⟩
          · rw [linesSinceDirective_concat_of_not_marked calls marked]
            exact ⟨s, fresh, (feed_sectionState a s _ marked).1⟩

/-- Every line delivers its faults, in a node and outside. They depend on the code
lines since the last directive only. -/
theorem events_feed_of_not_marked (a : Assembler) (calls : List Call) {line : Text}
    (plain : ¬ Directive.Marked line) :
    (a.perform (a.stateAfter .start calls) (.feed line)).events =
      (((⟨(fedLines calls).length + 1, codeCount (linesSinceDirective calls),
          Statement.read line⟩ : SectionLine).faults a).map
        (Fault.located (a.stateAfter .start calls).node.index
          ((fedLines calls).length + 1 : Nat))).map .fault := by
  obtain ⟨s, fresh, state⟩ := exists_stateAfter_eq_sectionState a calls
  have count : s.line + (linesSinceDirective calls).length = (fedLines calls).length := by
    rw [← line_stateAfter_start a calls, state]
    rfl
  have index : (a.stateAfter .start calls).node.index = s.node.index := by
    rw [state]
    simp only [sectionState, sectionNode]
  have events := (feed_sectionState a s (linesSinceDirective calls) plain).2
  rw [index, perform, state, events, nextLine, count]

/-- Every directive that a later call completes is delivered once and in order, from
the lines up to that call. A further end delivers nothing. Lines outside nodes change
no program, and their faults are delivered. -/
theorem nodes_delivered_once (a : Assembler) :
    (∀ calls : List Call,
      List.Forall₂ a.Delivers (completedSections 0 calls) (programs (a.events calls))) ∧
    (∀ calls : List Call, Outside calls →
      (a.perform (a.stateAfter .start calls) .finish).events = []) ∧
    (∀ calls : List Call, Outside calls →
      ∀ lines : List Text, (∀ line ∈ lines, ¬ Directive.Marked line) → ∀ after : List Call,
        programs (a.events (calls ++ lines.map .feed ++ after)) =
          programs (a.events calls) ++
            (programs (a.events after)).map
              (Program.shift ((fedLines calls).length + lines.length))) ∧
    (∀ (calls : List Call) (line : Text), ¬ Directive.Marked line →
      (a.perform (a.stateAfter .start calls) (.feed line)).events =
        (((⟨(fedLines calls).length + 1, codeCount (linesSinceDirective calls),
            Statement.read line⟩ : SectionLine).faults a).map
          (Fault.located (a.stateAfter .start calls).node.index
            ((fedLines calls).length + 1 : Nat))).map .fault) := by
  refine ⟨?_, ?_, ?_, ?_⟩
  · intro calls
    rw [events_eq_eventsFrom, programs_eventsFrom_of_outside a rfl, List.forall₂_map_right_iff]
    apply List.forall₂_same.mpr
    intro s member
    obtain ⟨marked, plain⟩ := marked_of_mem_completedSections member
    exact delivers_sectionProgram a marked plain
  · intro calls outside
    rw [perform, finish, completion, outside.inNode_stateAfter a]
    rfl
  · intro calls outside lines plain after
    exact outside.programs_events_append a plain after
  · intro calls line plain
    exact events_feed_of_not_marked a calls plain

/-- A run that goes on behind the end of node seven: the stale node is labelled and
filled, ended again, and followed by another node. -/
def resumedCalls : List Call :=
  [.feed "JMP x", .feed "@7", .feed "JMP x", .finish, .feed "x: FOO 1 2 3", .finish]

theorem nodes_delivered_once_of_resumed :
    List.Forall₂ (⟨.node, .wrap⟩ : Assembler).Delivers [⟨1, "@7", [("JMP x" : Text)]⟩]
        (programs ((⟨.node, .wrap⟩ : Assembler).events resumedCalls)) ∧
      ((⟨.node, .wrap⟩ : Assembler).perform
        ((⟨.node, .wrap⟩ : Assembler).stateAfter .start resumedCalls) .finish).events = [] ∧
      programs ((⟨.node, .wrap⟩ : Assembler).events
          (resumedCalls ++ [("x: NOP" : Text)].map .feed ++ [.feed "@8", .finish])) =
        programs ((⟨.node, .wrap⟩ : Assembler).events resumedCalls) ++
          (programs ((⟨.node, .wrap⟩ : Assembler).events [.feed "@8", .finish])).map
            (Program.shift 5) := by
  have outside : Outside resumedCalls :=
    ⟨resumedCalls, [], Or.inr ⟨resumedCalls.dropLast, rfl⟩, rfl, by simp⟩
  have once := nodes_delivered_once ⟨.node, .wrap⟩
  exact ⟨once.1 resumedCalls, once.2.1 resumedCalls outside,
    once.2.2.1 resumedCalls outside [("x: NOP" : Text)] (by decide) [.feed "@8", .finish]⟩

end Assembler

end NodeAsm
