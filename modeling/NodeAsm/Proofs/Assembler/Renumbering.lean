import NodeAsm.Proofs.Assembler.Run

/-!
# Renumbering the lines of a source

The assembler copies the number of the current line into slots, bindings, nodes
and faults, and never looks at the copies. This file replaces line numbers
throughout and shows that every call commutes with the replacement: on a
renumbered state it leaves the renumbered state and delivers the renumbered
events. Nothing else about the run has to be known.

The only condition is on the current line: its new number has to be the one that
the other run counts.
-/

namespace NodeAsm

/-- New numbers for the lines of a source. Zero stands for no line and stays. -/
structure Renumbering where
  move : Int → Int
  move_zero : move 0 = 0

namespace Origin

def renumber (r : Renumbering) (o : Origin) : Origin :=
  { o with line := r.move o.line }

@[simp]
theorem renumber_none (r : Renumbering) : Origin.none.renumber r = Origin.none := by
  simp [renumber, Origin.none, r.move_zero]

end Origin

namespace Slot

def renumber (r : Renumbering) : Slot → Slot
  | final word origin => final word (origin.renumber r)
  | pending word label origin => pending word label (origin.renumber r)

@[simp]
theorem renumber_idle (r : Renumbering) : Slot.idle.renumber r = Slot.idle := by
  simp [renumber, Slot.idle]

end Slot

namespace Binding

def renumber (r : Renumbering) (b : Binding) : Binding :=
  { b with line := r.move b.line }

end Binding

namespace Entry

def renumber (r : Renumbering) (e : Entry) : Entry :=
  { e with origin := e.origin.renumber r }

end Entry

namespace Program

/-- A program with new line numbers and everything else as it was. -/
def renumber (r : Renumbering) (p : Program) : Program :=
  { p with
    line := r.move p.line
    entries := p.entries.map (Entry.renumber r)
    bindings := p.bindings.map (Binding.renumber r) }

end Program

namespace Fault

/-- A located fault with a new line number. -/
def renumber (r : Renumbering) : Fault → Fault
  | located node line inner => located node (r.move line) inner
  | f => f

end Fault

/-! ## Nodes -/

namespace Node

/-- A node with new line numbers and everything else as it was. -/
def renumber (r : Renumbering) (n : Node) : Node :=
  { n with
    line := r.move n.line
    slots := n.slots.map (Slot.renumber r)
    bindings := n.bindings.map (Binding.renumber r) }

variable (r : Renumbering)

theorem renumber_idle (index line : Int) :
    (idle index line).renumber r = idle index (r.move line) := by
  simp [renumber, idle]

theorem renumber_bind (n : Node) (name : Text) (slot line : Int) :
    (n.bind name slot line).renumber r = (n.renumber r).bind name slot (r.move line) := by
  unfold bind
  split
  · rfl
  · simp [renumber, Binding.renumber]

theorem renumber_store (n : Node) (i : Fin slotCount) (s : Slot) :
    (n.store i s).renumber r = (n.renumber r).store i (s.renumber r) := by
  simp [renumber, store, Vector.map_set]

@[simp]
theorem lookup_renumber (n : Node) (name : Text) : (n.renumber r).lookup name = n.lookup name := by
  simp only [lookup, renumber, List.any_map]
  rfl

theorem resolveSlot_renumber (n : Node) (s : Slot) :
    (n.renumber r).resolveSlot (s.renumber r) = (n.resolveSlot s).renumber r := by
  cases s with
  | final word origin => rfl
  | pending word label origin =>
      simp only [Slot.renumber, resolveSlot, lookup_renumber]
      cases n.lookup label <;> rfl

theorem program_renumber (n : Node) : (n.renumber r).program = n.program.renumber r := by
  have entries : (n.slots.map (Slot.renumber r)).map (n.renumber r).resolveSlot =
      (n.slots.map n.resolveSlot).map (Entry.renumber r) := by
    simp [Vector.map_map, Function.comp_def, resolveSlot_renumber]
  simp only [program, Program.renumber, ← entries]
  rfl

theorem slotFault?_renumber (n : Node) (s : Slot) :
    (n.renumber r).slotFault? (s.renumber r) = (n.slotFault? s).map (Fault.renumber r) := by
  cases s with
  | final word origin => rfl
  | pending word label origin =>
      simp only [Slot.renumber, slotFault?, lookup_renumber]
      cases n.lookup label <;> rfl

theorem undefinedLabels_renumber (n : Node) :
    (n.renumber r).undefinedLabels = n.undefinedLabels.map (Fault.renumber r) := by
  simp only [undefinedLabels, List.map_filterMap, ← slotFault?_renumber]
  simp only [renumber, Vector.toList_map, List.filterMap_map]
  rfl

end Node

/-! ## Calls -/

namespace Assembler

namespace Event

def renumber (r : Renumbering) : Event → Event
  | fault f => fault (f.renumber r)
  | program p => program (p.renumber r)

end Event

namespace State

/-- A state after `line` lines whose copies of line numbers are new. -/
def renumber (r : Renumbering) (line : Nat) (s : State) : State :=
  { s with
    line := line
    node := s.node.renumber r }

end State

/-- `moved` does with new line numbers what `step` does, and leaves the source
after `line` lines. -/
structure Step.Renumbered (r : Renumbering) (line : Nat) (step moved : Step) : Prop where
  state : moved.state = step.state.renumber r line
  events : moved.events = step.events.map (Event.renumber r)

variable (a : Assembler) (r : Renumbering)

theorem completion_renumber (line : Nat) (s : State) :
    completion (s.renumber r line) = (completion s).map (Event.renumber r) := by
  rw [completion_eq, completion_eq]
  simp only [State.renumber, Node.undefinedLabels_renumber, Node.program_renumber]
  split
  · simp [Event.renumber]
  · rfl

section

variable {s : State} {line : Nat} (here : r.move s.line = line)

include here

theorem map_report_renumber (node : Int) (fs : List Fault) :
    fs.map (report (s.renumber r line) node) =
      (fs.map (report s node)).map (Event.renumber r) := by
  simp [report, State.renumber, Event.renumber, Fault.renumber, here]

theorem bindLabel_renumber (label : Text) :
    bindLabel (s.renumber r line) label = (bindLabel s label).renumber r line := by
  by_cases room : s.slot < slotCount
  · simp [bindLabel, State.renumber, room, Node.renumber_bind, here]
  · simp [bindLabel, State.renumber, room]

theorem slotFor_renumber (word : Word) (label raw : Text) :
    slotFor word label ⟨line, raw⟩ = (slotFor word label ⟨s.line, raw⟩).renumber r := by
  unfold slotFor
  split
  · simp [Slot.renumber, Origin.renumber, here]
  · simp [Slot.renumber, Origin.renumber, here]

theorem fill_renumbered (statement : Statement) (i : Fin slotCount) :
    (a.fill s statement i).Renumbered r line (a.fill (s.renumber r line) statement i) where
  state := by
    simp only [fill, State.renumber, Node.renumber_store, slotFor_renumber r here]
  events := map_report_renumber r here s.node.index _

theorem place_renumbered (statement : Statement) :
    (a.place s statement).Renumbered r line (a.place (s.renumber r line) statement) := by
  by_cases room : s.slot < slotCount
  · have moved : (s.renumber r line).slot < slotCount := room
    rw [place, place, dif_pos room, dif_pos moved]
    exact fill_renumbered a r here statement ⟨s.slot, room⟩
  · have moved : ¬ (s.renumber r line).slot < slotCount := room
    rw [place, place, dif_neg room, dif_neg moved]
    by_cases discards : a.overflow = .discard
    · rw [if_pos discards, if_pos discards]
      by_cases reported : s.discarding
      · have movedReported : (s.renumber r line).discarding := reported
        rw [if_pos reported, if_pos movedReported]
        exact ⟨rfl, rfl⟩
      · have movedReported : ¬ (s.renumber r line).discarding := reported
        rw [if_neg reported, if_neg movedReported]
        exact ⟨rfl, map_report_renumber r here s.node.index _⟩
    · rw [if_neg discards, if_neg discards]
      have filled := fill_renumbered a r here statement ⟨0, by decide⟩
      refine ⟨filled.state, ?_⟩
      simp only [filled.events, List.map_append]
      exact congrArg (· ++ _) (map_report_renumber r here s.node.index _)

theorem feedDirective_renumbered (index : Checked Nat) :
    (a.feedDirective s index).Renumbered r line
      (a.feedDirective (s.renumber r line) index) where
  state := by
    simp only [feedDirective, beginNode, State.renumber, Node.renumber_idle, here]
  events := by
    simp only [feedDirective, List.map_append, map_report_renumber r here, completion_renumber]

theorem feedStatement_renumbered (statement : Checked Statement) :
    (a.feedStatement s statement).Renumbered r line
      (a.feedStatement (s.renumber r line) statement) := by
  have bound := bindLabel_renumber r here statement.value.label
  have reports : reportAll (s.renumber r line) statement.faults =
      (reportAll s statement.faults).map (Event.renumber r) :=
    map_report_renumber r here s.node.index statement.faults
  by_cases code : statement.value.isCode
  · have boundHere : r.move (bindLabel s statement.value.label).line = line := by
      rw [line_bindLabel]
      exact here
    have placed := place_renumbered a r boundHere statement.value
    simp only [feedStatement, if_pos code, bound, reports]
    exact ⟨placed.state, by rw [placed.events, List.map_append]⟩
  · simp only [feedStatement, if_neg code, bound, reports]
    exact ⟨rfl, by rw [List.map_append, List.map_nil]⟩

end

/-- Reading a line commutes with renumbering if the line has the number that the
other run gives it. -/
theorem feed_renumbered {s : State} {line : Nat}
    (next : r.move ((s.line + 1 : Nat) : Int) = ((line + 1 : Nat) : Int)) (text : Text) :
    (a.feed s text).Renumbered r (line + 1) (a.feed (s.renumber r line) text) := by
  have here : r.move ({ s with line := s.line + 1 } : State).line = ((line + 1 : Nat) : Int) := next
  cases read : Directive.read? text with
  | some index =>
      rw [feed_of_read?_eq_some a s read, feed_of_read?_eq_some a _ read]
      exact feedDirective_renumbered a r here index
  | none =>
      have plain := (Directive.read?_eq_none_iff text).mp read
      rw [feed_of_not_marked a s plain, feed_of_not_marked a _ plain]
      exact feedStatement_renumbered a r here (Statement.read text)

end Assembler

end NodeAsm
