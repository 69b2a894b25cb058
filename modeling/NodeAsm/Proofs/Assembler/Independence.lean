import Mathlib.Data.List.Basic
import NodeAsm.Proofs.Assembler.Renumbering

/-!
# Independence of node sections

A directive forgets everything that the assembler has read, up to the number of
lines. To move a section is to renumber its lines, so every call commutes with the
move, and a source delivers what its parts before and from a directive deliver on
their own, the second part with its line numbers moved.

Only the order in which a directive without index is reported keeps the events of
the whole from being the concatenation: that fault precedes the completion of the
node before it.
-/

namespace NodeAsm

/-! ## Moving line numbers -/

/-- A line number moved by `k`. Zero stands for no line and stays. -/
def shiftLine (k : Nat) (line : Int) : Int :=
  if line = 0 then 0 else line + k

theorem shiftLine_of_ne_zero (k : Nat) {line : Int} (numbered : line ≠ 0) :
    shiftLine k line = line + k :=
  if_neg numbered

theorem shiftLine_natCast (k : Nat) {n : Nat} (numbered : n ≠ 0) :
    shiftLine k (n : Int) = ((n + k : Nat) : Int) := by
  rw [shiftLine_of_ne_zero k (by omega)]
  omega

/-- The renumbering that moves every line by `k`. -/
def Renumbering.shift (k : Nat) : Renumbering where
  move := shiftLine k
  move_zero := rfl

/-- A program whose section begins `k` lines later. -/
def Program.shift (k : Nat) (p : Program) : Program :=
  p.renumber (.shift k)

namespace Fault

/-- A located fault whose line is `k` lines later. -/
def shift (k : Nat) : Fault → Fault
  | located node line inner => located node (line + k) inner
  | f => f

/-- A fault that is located, if at all, on a line of the source. -/
def Numbered : Fault → Prop
  | located _ line _ => line ≠ 0
  | _ => True

theorem shift_eq_renumber (k : Nat) {f : Fault} (numbered : f.Numbered) :
    f.shift k = f.renumber (.shift k) := by
  cases f with
  | located node line inner =>
      have moved : shiftLine k line = line + k := shiftLine_of_ne_zero k numbered
      simp [shift, renumber, Renumbering.shift, moved]
  | _ => rfl

end Fault

namespace Node

/-- Every slot that waits for its label comes from a source line. -/
def JumpsNumbered (n : Node) : Prop :=
  ∀ s ∈ n.slots.toList, s.isPending → s.origin.line ≠ 0

theorem jumpsNumbered_idle (index line : Int) : (idle index line).JumpsNumbered := by
  intro s member pending
  have idle : s = Slot.idle := by
    simp only [Node.idle, Vector.toList_replicate] at member
    exact List.eq_of_mem_replicate member
  subst idle
  simp [Slot.idle, Slot.isPending] at pending

theorem jumpsNumbered_bind {n : Node} (jumps : n.JumpsNumbered) (name : Text) (slot line : Int) :
    (n.bind name slot line).JumpsNumbered := by
  rw [JumpsNumbered, slots_bind]
  exact jumps

theorem jumpsNumbered_store {n : Node} (jumps : n.JumpsNumbered) (i : Fin slotCount) {s : Slot}
    (numbered : s.origin.line ≠ 0) : (n.store i s).JumpsNumbered := by
  intro stored member pending
  rw [store, Vector.toList_set] at member
  rcases List.mem_or_eq_of_mem_set member with old | new
  · exact jumps stored old pending
  · subst new
    exact numbered

theorem numbered_of_mem_undefinedLabels {n : Node} (jumps : n.JumpsNumbered) {f : Fault}
    (member : f ∈ n.undefinedLabels) : f.Numbered := by
  obtain ⟨s, stored, fault⟩ := List.mem_filterMap.mp member
  obtain ⟨word, label, origin, rfl, _, rfl⟩ := slotFault?_eq_some_iff.mp fault
  exact jumps _ stored rfl

end Node

namespace Assembler

namespace Event

/-- An event of a section that begins `k` lines later. -/
def shift (k : Nat) : Event → Event
  | fault f => fault (f.shift k)
  | program p => program (p.shift k)

end Event

/-- A state in which `k` more lines have been read before the current node. -/
def State.shift (k : Nat) (s : State) : State :=
  s.renumber (.shift k) (s.line + k)

theorem programs_map_shift (k : Nat) (events : List Event) :
    programs (events.map (Event.shift k)) = (programs events).map (Program.shift k) := by
  simp only [programs, List.filterMap_map, List.map_filterMap]
  apply List.filterMap_congr
  intro event _
  cases event <;> rfl

theorem faults_map_shift (k : Nat) (events : List Event) :
    faults (events.map (Event.shift k)) = (faults events).map (Fault.shift k) := by
  simp only [faults, List.filterMap_map, List.map_filterMap]
  apply List.filterMap_congr
  intro event _
  cases event <;> rfl

/-! ## Every call commutes with the move -/

/-- `moved` does what `step` does, `k` lines later. -/
structure Step.Shifted (k : Nat) (step moved : Step) : Prop where
  state : moved.state = step.state.shift k
  events : moved.events = step.events.map (Event.shift k)

/-- Moving events is renumbering them, as no fault is located on line zero. -/
theorem map_shift_eq_map_renumber (k : Nat) {events : List Event}
    (numbered : ∀ f ∈ faults events, f.Numbered) :
    events.map (Event.shift k) = events.map (Event.renumber (.shift k)) := by
  apply List.map_congr_left
  intro event member
  cases event with
  | program p => rfl
  | fault f =>
      have delivered : f ∈ faults events := List.mem_filterMap.mpr ⟨.fault f, member, rfl⟩
      exact congrArg Event.fault (Fault.shift_eq_renumber k (numbered f delivered))

theorem numbered_of_mem_completion {s : State} (jumps : s.node.JumpsNumbered) {f : Fault}
    (member : f ∈ faults (completion s)) : f.Numbered := by
  rw [faults_completion] at member
  split at member
  · exact Node.numbered_of_mem_undefinedLabels jumps member
  · contradiction

theorem numbered_of_mem_perform (a : Assembler) {s : State} (jumps : s.node.JumpsNumbered)
    {call : Call} {f : Fault} (member : f ∈ faults (a.perform s call).events) : f.Numbered := by
  have current : ((s.line + 1 : Nat) : Int) ≠ 0 :=
    Int.natCast_ne_zero.mpr (Nat.succ_ne_zero s.line)
  cases call with
  | finish => exact numbered_of_mem_completion jumps member
  | feed line =>
      by_cases marked : Directive.Marked line
      · obtain ⟨index, read⟩ := (Directive.exists_read?_iff line).mpr marked
        rw [(perform_feed_of_read?_eq_some a s read).1, faults_append, faults_map_fault] at member
        rcases List.mem_append.mp member with own | ended
        · obtain ⟨inner, _, rfl⟩ := List.mem_map.mp own
          exact current
        · exact numbered_of_mem_completion jumps ended
      · obtain ⟨fs, events⟩ := exists_events_feedStatement a
          { s with line := s.line + 1 } (Statement.read line)
        rw [perform, feed_of_not_marked a s marked, events, reportAll_eq,
          faults_map_fault] at member
        obtain ⟨inner, _, rfl⟩ := List.mem_map.mp member
        exact current

theorem perform_shifted (a : Assembler) (k : Nat) {s : State} (jumps : s.node.JumpsNumbered)
    (call : Call) :
    (a.perform s call).Shifted k (a.perform (s.shift k) call) := by
  have events : (a.perform s call).events.map (Event.shift k) =
      (a.perform s call).events.map (Event.renumber (.shift k)) :=
    map_shift_eq_map_renumber k fun _ member => numbered_of_mem_perform a jumps member
  cases call with
  | finish => exact ⟨rfl, (completion_renumber (.shift k) (s.line + k) s).trans events.symm⟩
  | feed line =>
      have next : shiftLine k ((s.line + 1 : Nat) : Int) = ((s.line + k + 1 : Nat) : Int) := by
        rw [shiftLine_natCast k (Nat.succ_ne_zero s.line), Nat.add_right_comm]
      have moved := feed_renumbered a (.shift k) next line
      refine ⟨moved.state.trans ?_, moved.events.trans events.symm⟩
      rw [State.shift, perform, line_feed, Nat.add_right_comm]

/-! ## Jumps keep their line -/

theorem jumpsNumbered_invariant (a : Assembler) : a.NodeInvariant Node.JumpsNumbered where
  idle line _ := Node.jumpsNumbered_idle _ line
  bind name slot line jumps := Node.jumpsNumbered_bind jumps name slot line
  store i mnemonic first second label raw line jumps := by
    apply Node.jumpsNumbered_store jumps
    have numbered : ((line + 1 : Nat) : Int) ≠ 0 := Int.natCast_ne_zero.mpr (Nat.succ_ne_zero line)
    unfold slotFor
    split
    · exact numbered
    · exact numbered

/-- A run that starts `k` lines later delivers the same events `k` lines later. -/
theorem eventsFrom_shift (a : Assembler) (k : Nat) {s : State} (jumps : s.node.JumpsNumbered)
    (calls : List Call) :
    a.eventsFrom (s.shift k) calls = (a.eventsFrom s calls).map (Event.shift k) := by
  induction calls generalizing s with
  | nil => rfl
  | cons call calls inductionHypothesis =>
      have moved := perform_shifted a k jumps call
      rw [eventsFrom_cons, eventsFrom_cons, List.map_append, moved.events, moved.state,
        inductionHypothesis ((jumpsNumbered_invariant a).perform jumps call)]

/-! ## Sources that are cut at a directive -/

theorem sectionStart_shift (index : Checked Nat) (k : Nat) {line : Nat} (numbered : line ≠ 0) :
    (sectionStart index line).shift k = sectionStart index (line + k) := by
  have moved : (Renumbering.shift k).move (line : Int) = ((line + k : Nat) : Int) :=
    shiftLine_natCast k numbered
  simp only [sectionStart, State.shift, State.renumber, Node.renumber_idle, moved]

/-- The events of a source in parts: its lines before a directive, the faults of
the directive, the completion of the node before it, and its own section with all
that follows. -/
theorem events_append_directive (a : Assembler) (before : List Text) {directive : Text}
    (after : List Text) {index : Checked Nat} (read : Directive.read? directive = some index) :
    a.events (callsOf (before ++ directive :: after)) =
      a.eventsFrom .start (before.map .feed) ++
        ((directiveFaults index (before.length + 1)).map .fault ++
          completion (a.stateAfter .start (before.map .feed)) ++
            a.eventsFrom (sectionStart index (before.length + 1)) (callsOf after)) := by
  have line : State.start.line + before.length + 1 = before.length + 1 :=
    congrArg (· + 1) (Nat.zero_add before.length)
  rw [events_eq_eventsFrom, eventsFrom_callsOf_directive a .start before read after, line]

/-- A source that begins with a directive delivers, moved by `k` lines, what its
section and all that follows deliver from line `k + 1` on. -/
theorem map_shift_events_directive (a : Assembler) (k : Nat) {directive : Text}
    (after : List Text) {index : Checked Nat} (read : Directive.read? directive = some index) :
    (a.events (callsOf (directive :: after))).map (Event.shift k) =
      (directiveFaults index (k + 1)).map .fault ++
        a.eventsFrom (sectionStart index (k + 1)) (callsOf after) := by
  have whole := events_append_directive a [] after read
  rw [List.nil_append] at whole
  have fresh : completion (a.stateAfter .start (([] : List Text).map .feed)) = [] := rfl
  have faults : ((directiveFaults index 1).map Event.fault).map (Event.shift k) =
      (directiveFaults index (k + 1)).map .fault := by
    simp [directiveFaults, Event.shift, Fault.shift, Int.add_comm]
  have jumps : (sectionStart index 1).node.JumpsNumbered := Node.jumpsNumbered_idle _ _
  rw [whole, fresh, List.append_nil, List.map_nil, eventsFrom_nil, List.nil_append,
    List.length_nil, Nat.zero_add, List.map_append, faults, ← eventsFrom_shift a k jumps,
    sectionStart_shift index k (by decide), Nat.add_comm]

/-- The faults of a source cut at a directive, in the order of the two parts. -/
theorem faults_append_directive_perm (a : Assembler) (before : List Text) {directive : Text}
    (after : List Text) (marked : Directive.Marked directive) :
    (faults (a.events (callsOf (before ++ directive :: after)))).Perm
      (faults (a.events (callsOf before)) ++
        (faults (a.events (callsOf (directive :: after)))).map (Fault.shift before.length)) := by
  obtain ⟨index, read⟩ := (Directive.exists_read?_iff directive).mpr marked
  rw [events_append_directive a before after read, ← faults_map_shift,
    map_shift_events_directive a before.length after read, events_eq_eventsFrom,
    eventsFrom_callsOf a .start before]
  simp only [faults_append, List.append_assoc]
  refine List.Perm.append_left _ ?_
  rw [← List.append_assoc, ← List.append_assoc]
  exact List.Perm.append_right _ List.perm_append_comm

/-- The programs of a source cut at a directive are those of the two parts. -/
theorem programs_append_directive (a : Assembler) (before : List Text) {directive : Text}
    (after : List Text) (marked : Directive.Marked directive) :
    programs (a.events (callsOf (before ++ directive :: after))) =
      programs (a.events (callsOf before)) ++
        (programs (a.events (callsOf (directive :: after)))).map
          (Program.shift before.length) := by
  obtain ⟨index, read⟩ := (Directive.exists_read?_iff directive).mpr marked
  rw [events_append_directive a before after read, ← programs_map_shift,
    map_shift_events_directive a before.length after read, events_eq_eventsFrom,
    eventsFrom_callsOf a .start before]
  simp only [programs_append, programs_map_fault, List.nil_append, List.append_assoc]

/-- Node sections are assembled independently of what precedes them. -/
theorem sections_independent (a : Assembler) (before : List Text) {directive : Text}
    (after : List Text) (marked : Directive.Marked directive) :
    programs (a.events (callsOf (before ++ directive :: after))) =
        programs (a.events (callsOf before)) ++
          (programs (a.events (callsOf (directive :: after)))).map
            (Program.shift before.length) ∧
      (faults (a.events (callsOf (before ++ directive :: after)))).Perm
        (faults (a.events (callsOf before)) ++
          (faults (a.events (callsOf (directive :: after)))).map
            (Fault.shift before.length)) ∧
      ∀ index, Directive.read? directive = some index →
        Fault.hasAny .badNodeIndex index.faults = false →
        a.events (callsOf (before ++ directive :: after)) =
          a.events (callsOf before) ++
            (a.events (callsOf (directive :: after))).map (Event.shift before.length) := by
  refine ⟨programs_append_directive a before after marked,
    faults_append_directive_perm a before after marked, ?_⟩
  intro index read indexed
  have clean : index.faults = [] := Directive.faults_eq_nil_of_read?_eq_some read indexed
  have none : directiveFaults index (before.length + 1) = [] := by
    rw [directiveFaults, clean, List.map_nil]
  rw [events_append_directive a before after read,
    map_shift_events_directive a before.length after read, none, events_eq_eventsFrom,
    eventsFrom_callsOf a .start before]
  simp only [List.map_nil, List.nil_append, List.append_assoc]

/-- A node that drops its seventeenth line leaves no trace in the next one. -/
theorem sections_independent_after_overflow :
    Directive.Marked "@-1" ∧
      (⟨.node, .discard⟩ : Assembler).events
          (callsOf (("@1" : Text) :: List.replicate 17 ("a: JMP b" : Text) ++
            ("@-1" : Text) :: [("JMP a" : Text)])) =
        (⟨.node, .discard⟩ : Assembler).events
            (callsOf (("@1" : Text) :: List.replicate 17 ("a: JMP b" : Text))) ++
          ((⟨.node, .discard⟩ : Assembler).events
            (callsOf (("@-1" : Text) :: [("JMP a" : Text)]))).map (Event.shift 18) :=
  ⟨by decide, (sections_independent ⟨.node, .discard⟩
    (("@1" : Text) :: List.replicate 17 ("a: JMP b" : Text)) [("JMP a" : Text)]
    (by decide)).2.2 ⟨255, []⟩ rfl rfl⟩

end Assembler

end NodeAsm
