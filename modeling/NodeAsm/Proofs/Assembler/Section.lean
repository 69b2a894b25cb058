import Mathlib.Data.List.Induction
import NodeAsm.Proofs.Assembler.Causes

/-!
# The closed form of a node section

The lines of a section act on the assembler only through the number of code lines
before them. That number decides which slot a code line fills, which slot a label
names and whether a line overflows. This file states the state and the events
behind the lines of a section as functions of these numbers, for every overflow
policy and for sections of any length.
-/

namespace NodeAsm

namespace OverflowPolicy

/-! ## The counter of a policy -/

/-- The slot counter behind `n` code lines of a section. -/
def counter (policy : OverflowPolicy) (n : Nat) : Nat :=
  if policy = discard then min n slotCount
  else if n = 0 then 0
  else (n - 1) % slotCount + 1

/-- The slot of the code line that has `n` code lines of its section before it. -/
def slot? (policy : OverflowPolicy) (n : Nat) : Option (Fin slotCount) :=
  if policy = discard then if h : n < slotCount then some ⟨n, h⟩ else none
  else some ⟨n % slotCount, Nat.mod_lt n (by decide)⟩

/-- Whether code has been dropped behind `n` code lines of a section. -/
def dropping (policy : OverflowPolicy) (n : Nat) : Bool :=
  policy = discard ∧ slotCount < n

/-- The overflow faults of the code line that has `n` code lines of its section
before it. -/
def overflowFaults (policy : OverflowPolicy) (n : Nat) : List Fault :=
  if policy = discard then
    if n = slotCount then [Assembler.overflowFault "dropping code from here on"] else []
  else if 0 < n ∧ slotCount ∣ n then [Assembler.overflowFault "overwriting slot 0"]
  else []

@[simp]
theorem counter_discard (n : Nat) : counter discard n = min n slotCount :=
  if_pos rfl

@[simp]
theorem slot?_discard (n : Nat) :
    slot? discard n = if h : n < slotCount then some ⟨n, h⟩ else none :=
  if_pos rfl

@[simp]
theorem dropping_discard (n : Nat) : dropping discard n = decide (slotCount < n) :=
  decide_eq_decide.mpr (and_iff_right rfl)

@[simp]
theorem overflowFaults_discard (n : Nat) :
    overflowFaults discard n =
      if n = slotCount then [Assembler.overflowFault "dropping code from here on"] else [] :=
  if_pos rfl

section

variable {policy : OverflowPolicy} (wraps : policy ≠ discard) (n : Nat)

include wraps

theorem counter_of_ne_discard :
    policy.counter n = if n = 0 then 0 else (n - 1) % slotCount + 1 :=
  if_neg wraps

theorem slot?_of_ne_discard :
    policy.slot? n = some ⟨n % slotCount, Nat.mod_lt n (by decide)⟩ :=
  if_neg wraps

theorem dropping_of_ne_discard : policy.dropping n = false :=
  decide_eq_false fun dropped => wraps dropped.1

theorem overflowFaults_of_ne_discard :
    policy.overflowFaults n =
      if 0 < n ∧ slotCount ∣ n then [Assembler.overflowFault "overwriting slot 0"] else [] :=
  if_neg wraps

end

theorem eq_of_mem_overflowFaults {policy : OverflowPolicy} {n : Nat} {f : Fault}
    (member : f ∈ policy.overflowFaults n) :
    f = Assembler.overflowFault "dropping code from here on" ∨
      f = Assembler.overflowFault "overwriting slot 0" := by
  unfold overflowFaults at member
  split at member
  · split at member
    · exact Or.inl (List.mem_singleton.mp member)
    · contradiction
  · split at member
    · exact Or.inr (List.mem_singleton.mp member)
    · contradiction

@[simp]
theorem counter_zero (policy : OverflowPolicy) : policy.counter 0 = 0 := by
  unfold counter
  split <;> rfl

@[simp]
theorem dropping_zero (policy : OverflowPolicy) : policy.dropping 0 = false :=
  decide_eq_false fun dropped => Nat.not_lt_zero slotCount dropped.2

/-- Where the node has room, a code line goes to the slot of the counter. -/
theorem of_room (policy : OverflowPolicy) {n : Nat} (room : policy.counter n < slotCount) :
    policy.slot? n = some ⟨policy.counter n, room⟩ ∧ policy.overflowFaults n = [] ∧
      policy.counter (n + 1) = policy.counter n + 1 ∧
      policy.dropping n = false ∧ policy.dropping (n + 1) = false := by
  by_cases discards : policy = discard
  · subst discards
    have below : n < slotCount := by
      rw [counter_discard] at room
      omega
    have counted : counter discard n = n := by
      rw [counter_discard, Nat.min_eq_left (Nat.le_of_lt below)]
    refine ⟨?_, ?_, ?_, ?_, ?_⟩
    · simp only [slot?_discard, dif_pos below, counted]
    · rw [overflowFaults_discard, if_neg (Nat.ne_of_lt below)]
    · rw [counted, counter_discard, Nat.min_eq_left below]
    · rw [dropping_discard, decide_eq_false (Nat.not_lt.mpr (Nat.le_of_lt below))]
    · rw [dropping_discard, decide_eq_false (Nat.not_lt.mpr below)]
  · have counted : policy.counter n = n % slotCount ∧ ¬ (0 < n ∧ slotCount ∣ n) := by
      rw [counter_of_ne_discard discards] at room ⊢
      by_cases none : n = 0
      · subst none
        exact ⟨rfl, by omega⟩
      · simp only [if_neg none, slotCount] at room ⊢
        omega
    refine ⟨?_, ?_, ?_, dropping_of_ne_discard discards n, dropping_of_ne_discard discards _⟩
    · simp only [slot?_of_ne_discard discards, counted.1]
    · rw [overflowFaults_of_ne_discard discards, if_neg counted.2]
    · rw [counted.1, counter_of_ne_discard discards, if_neg (Nat.succ_ne_zero n),
        Nat.add_sub_cancel]

/-- A code line that finds a full node starts over, unless the policy discards. -/
theorem of_full_of_ne_discard {policy : OverflowPolicy} (wraps : policy ≠ discard) {n : Nat}
    (full : ¬ policy.counter n < slotCount) :
    policy.slot? n = some ⟨0, by decide⟩ ∧
      policy.overflowFaults n = [Assembler.overflowFault "overwriting slot 0"] ∧
      policy.counter (n + 1) = 1 := by
  have due : n % slotCount = 0 ∧ 0 < n ∧ slotCount ∣ n := by
    rw [counter_of_ne_discard wraps] at full
    by_cases none : n = 0
    · subst none
      exact absurd (by decide) full
    · simp only [if_neg none, slotCount] at full ⊢
      omega
  refine ⟨?_, ?_, ?_⟩
  · simp only [slot?_of_ne_discard wraps, due.1]
  · rw [overflowFaults_of_ne_discard wraps, if_pos due.2]
  · rw [counter_of_ne_discard wraps, if_neg (Nat.succ_ne_zero n), Nat.add_sub_cancel, due.1]

/-- A code line that finds a full node is dropped under discarding, and reported
if it is the first. -/
theorem discard_of_full {n : Nat} (full : ¬ counter discard n < slotCount) :
    slot? discard n = none ∧
      overflowFaults discard n =
        (if dropping discard n then []
          else [Assembler.overflowFault "dropping code from here on"]) ∧
      counter discard (n + 1) = counter discard n ∧ dropping discard (n + 1) = true := by
  have above : slotCount ≤ n := by
    rw [counter_discard] at full
    omega
  refine ⟨?_, ?_, ?_, ?_⟩
  · rw [slot?_discard, dif_neg (Nat.not_lt.mpr above)]
  · by_cases first : n = slotCount
    · simp [first]
    · have later : slotCount < n := by omega
      simp [first, later]
  · rw [counter_discard, counter_discard]
    omega
  · rw [dropping_discard, decide_eq_true_eq]
    omega

/-- Unless the policy discards, a label is bound exactly where no overflow is due. -/
theorem counter_lt_iff_of_ne_discard {policy : OverflowPolicy} (wraps : policy ≠ discard)
    (n : Nat) : policy.counter n < slotCount ↔ n = 0 ∨ ¬ slotCount ∣ n := by
  rw [counter_of_ne_discard wraps]
  by_cases none : n = 0
  · subst none
    decide
  · simp only [if_neg none, slotCount]
    omega

end OverflowPolicy

/-! ## Lines of a section -/

/-- A line of a section. -/
structure SectionLine where
  /-- The number of the line in the source. -/
  number : Nat
  /-- How many code lines of the section stand before it. -/
  codeBefore : Nat
  parts : Checked Statement

namespace SectionLine

/-- The statement of a line. -/
def statement (l : SectionLine) : Statement :=
  l.parts.value

/-- What a line is encoded to if it is code. -/
def encoded (a : Assembler) (l : SectionLine) : Checked Word :=
  a.isa.encode l.statement.opcode (l.statement.operand 0) (l.statement.operand 1)

/-- What a code line puts into its slot. -/
def content (a : Assembler) (l : SectionLine) : Slot :=
  Assembler.slotFor (l.encoded a).value (l.statement.operand 0) ⟨l.number, l.statement.raw⟩

/-- The slot that a line fills, if it is code and not dropped. -/
def slot? (policy : OverflowPolicy) (l : SectionLine) : Option (Fin slotCount) :=
  if l.statement.isCode then policy.slot? l.codeBefore else none

/-- The binding of a line, if it has a label and the node has room. -/
def binding? (policy : OverflowPolicy) (l : SectionLine) : Option Binding :=
  if l.statement.label ≠ [] ∧ policy.counter l.codeBefore < slotCount then
    some ⟨l.statement.label, policy.counter l.codeBefore, l.number⟩
  else none

/-- The faults of placing a code line. -/
def placingFaults (a : Assembler) (l : SectionLine) : List Fault :=
  a.overflow.overflowFaults l.codeBefore ++
    if (a.overflow.slot? l.codeBefore).isSome then (l.encoded a).faults else []

/-- The faults of a line before they are located. -/
def faults (a : Assembler) (l : SectionLine) : List Fault :=
  l.parts.faults ++ if l.statement.isCode then l.placingFaults a else []

end SectionLine

/-- The number of code lines among the lines of a section. -/
def codeCount (body : List Text) : Nat :=
  body.countP fun line => (Statement.read line).value.isCode

/-- The lines of a section whose directive stands on line `first`. -/
def sectionLines (first : Nat) (body : List Text) : List SectionLine :=
  body.mapIdx fun i line => ⟨first + i + 1, codeCount (body.take i), Statement.read line⟩

@[simp]
theorem codeCount_nil : codeCount [] = 0 :=
  rfl

theorem codeCount_append (first second : List Text) :
    codeCount (first ++ second) = codeCount first + codeCount second :=
  List.countP_append

theorem codeCount_singleton (line : Text) :
    codeCount [line] = if (Statement.read line).value.isCode then 1 else 0 := by
  simp [codeCount, List.countP_singleton]

@[simp]
theorem sectionLines_nil (first : Nat) : sectionLines first [] = [] :=
  rfl

theorem sectionLines_concat (first : Nat) (body : List Text) (line : Text) :
    sectionLines first (body ++ [line]) =
      sectionLines first body ++
        [⟨first + body.length + 1, codeCount body, Statement.read line⟩] := by
  rw [sectionLines, List.mapIdx_concat, List.take_left]
  congr 1
  apply List.mapIdx_eq_mapIdx_iff.mpr
  intro i within
  rw [List.take_append_of_le_length (Nat.le_of_lt within)]

/-! ## The node of a section -/

namespace Assembler

/-- The content of a slot behind some lines of a section: the last code line that
fills it counts. -/
def sectionSlot (a : Assembler) (lines : List SectionLine) (i : Fin slotCount) : Slot :=
  match (lines.filter fun l => l.slot? a.overflow = some i).getLast? with
  | some l => l.content a
  | none => Slot.idle

/-- The node behind some lines of a section. -/
def sectionNode (a : Assembler) (index line : Int) (lines : List SectionLine) : Node :=
  { index := index
    line := line
    slots := Vector.ofFn (a.sectionSlot lines)
    bindings := lines.filterMap (SectionLine.binding? a.overflow) }

theorem slots_sectionNode (a : Assembler) (index line : Int) (lines : List SectionLine)
    (i : Fin slotCount) :
    (a.sectionNode index line lines).slots.get i = a.sectionSlot lines i :=
  Vector.getElem_ofFn i.isLt

@[simp]
theorem sectionNode_nil (a : Assembler) (index line : Int) :
    a.sectionNode index line [] = Node.idle index line := by
  have slots : Vector.ofFn (a.sectionSlot []) = Vector.replicate slotCount Slot.idle := by
    ext i within
    simp [sectionSlot]
  rw [sectionNode, slots]
  rfl

theorem sectionSlot_concat (a : Assembler) (lines : List SectionLine) (l : SectionLine)
    (i : Fin slotCount) :
    a.sectionSlot (lines ++ [l]) i =
      if l.slot? a.overflow = some i then l.content a else a.sectionSlot lines i := by
  unfold sectionSlot
  by_cases filled : l.slot? a.overflow = some i
  · simp [List.filter_append, filled]
  · simp [List.filter_append, filled]

/-- A node after one more line: its label is bound first, then its code is
stored. -/
theorem sectionNode_concat (a : Assembler) (index line : Int) (lines : List SectionLine)
    (l : SectionLine) :
    a.sectionNode index line (lines ++ [l]) =
      let bound := { a.sectionNode index line lines with
        bindings := (a.sectionNode index line lines).bindings ++
          (l.binding? a.overflow).toList }
      match l.slot? a.overflow with
      | some i => bound.store i (l.content a)
      | none => bound := by
  have bindings : (lines ++ [l]).filterMap (SectionLine.binding? a.overflow) =
      lines.filterMap (SectionLine.binding? a.overflow) ++ (l.binding? a.overflow).toList := by
    rw [List.filterMap_append]
    cases found : l.binding? a.overflow <;> simp [found]
  cases filled : l.slot? a.overflow with
  | none =>
      have slots : Vector.ofFn (a.sectionSlot (lines ++ [l])) = Vector.ofFn (a.sectionSlot lines) := by
        ext i within
        simp [sectionSlot_concat, filled]
      simp only [sectionNode, slots, bindings]
  | some target =>
      have slots : Vector.ofFn (a.sectionSlot (lines ++ [l])) =
          (Vector.ofFn (a.sectionSlot lines)).set target (l.content a) := by
        ext i within
        simp [sectionSlot_concat, filled, Vector.getElem_set, Fin.ext_iff]
      simp only [sectionNode, slots, bindings, Node.store]

/-! ## One line -/

/-- The assembler stands on line `l` of a section, its label and code still
unread. -/
structure At (a : Assembler) (s : State) (l : SectionLine) : Prop where
  number : s.line = l.number
  slot : s.slot = a.overflow.counter l.codeBefore
  discarding : s.discarding = a.overflow.dropping l.codeBefore

theorem bindLabel_eq {a : Assembler} {s : State} {l : SectionLine} (here : a.At s l) :
    bindLabel s l.statement.label =
      { s with node := { s.node with
          bindings := s.node.bindings ++ (l.binding? a.overflow).toList } } := by
  have binding : l.binding? a.overflow =
      if l.statement.label ≠ [] ∧ s.slot < slotCount then
        some ⟨l.statement.label, s.slot, s.line⟩ else none := by
    rw [SectionLine.binding?, here.slot, here.number]
  rw [bindLabel, binding]
  by_cases room : s.slot < slotCount
  · by_cases named : l.statement.label = []
    · simp [room, named]
    · simp [room, named, Node.bind]
  · simp [room]

theorem fill_events (a : Assembler) (s : State) (l : SectionLine) (i : Fin slotCount) :
    (a.fill s l.statement i).events = reportAll s (l.encoded a).faults :=
  congrArg (reportAll s) (InstructionSet.split_fault?_encode _ _ _ _)

theorem fill_state {a : Assembler} {s : State} {l : SectionLine} (here : a.At s l)
    (i : Fin slotCount) :
    (a.fill s l.statement i).state =
      { s with node := s.node.store i (l.content a), slot := i + 1 } := by
  simp only [fill, here.number]
  rfl

/-- A code line that finds a full node under discarding fills no slot, and is reported
unless dropped code has been. -/
theorem At.of_full {a : Assembler} {s : State} {l : SectionLine} (here : a.At s l)
    (full : ¬ s.slot < slotCount) (policy : a.overflow = .discard) :
    a.overflow.slot? l.codeBefore = none ∧
      a.overflow.overflowFaults l.codeBefore =
        (if s.discarding then [] else [overflowFault "dropping code from here on"]) ∧
      a.overflow.counter (l.codeBefore + 1) = s.slot ∧
      a.overflow.dropping (l.codeBefore + 1) = true := by
  rw [here.slot] at full
  rw [here.slot, here.discarding]
  rw [policy] at full ⊢
  exact OverflowPolicy.discard_of_full full

/-- Placing a code line, said through the code lines before it. -/
theorem place_eq {a : Assembler} {s : State} {l : SectionLine} (here : a.At s l) :
    (a.place s l.statement).state =
        { s with
          node := match a.overflow.slot? l.codeBefore with
            | some i => s.node.store i (l.content a)
            | none => s.node
          slot := a.overflow.counter (l.codeBefore + 1)
          discarding := a.overflow.dropping (l.codeBefore + 1) } ∧
      (a.place s l.statement).events = reportAll s (l.placingFaults a) := by
  rcases a.place_cases s l.statement with
    ⟨room, placed⟩ | ⟨full, policy, reported, placed⟩ | ⟨full, policy, silent, placed⟩ |
      ⟨full, policy, placed⟩
  · have counted : a.overflow.counter l.codeBefore < slotCount := here.slot ▸ room
    obtain ⟨target, faults, next, kept, keeps⟩ := a.overflow.of_room counted
    have keeping : s.discarding = false := here.discarding.trans kept
    rw [placed, fill_state here, fill_events]
    constructor
    · simp only [target, next, keeps, here.slot, ← keeping]
    · simp only [SectionLine.placingFaults, target, faults, Option.isSome_some, if_true,
        List.nil_append]
  · obtain ⟨target, faults, next, drops⟩ := here.of_full full policy
    rw [reported, if_pos rfl] at faults
    rw [placed]
    constructor
    · simp only [target, next, drops, ← reported]
    · simp [SectionLine.placingFaults, target, faults, reportAll]
  · obtain ⟨target, faults, next, drops⟩ := here.of_full full policy
    rw [silent, if_neg Bool.false_ne_true] at faults
    rw [placed]
    constructor
    · simp only [target, next, drops]
    · simp [SectionLine.placingFaults, target, faults]
  · have overflows : ¬ a.overflow.counter l.codeBefore < slotCount := here.slot ▸ full
    obtain ⟨target, faults, next⟩ := OverflowPolicy.of_full_of_ne_discard policy overflows
    have dropped := here.discarding
    rw [OverflowPolicy.dropping_of_ne_discard policy] at dropped
    rw [placed]
    simp only [fill_state here, fill_events]
    constructor
    · simp only [target, next, OverflowPolicy.dropping_of_ne_discard policy, ← dropped]
    · simp only [SectionLine.placingFaults, target, faults, Option.isSome_some, if_true,
        reportAll, List.map_append]

/-- What a line of a section does. -/
theorem feedStatement_eq {a : Assembler} {s : State} {l : SectionLine} (here : a.At s l) :
    (a.feedStatement s l.parts).state =
        { s with
          node :=
            let bound := { s.node with
              bindings := s.node.bindings ++ (l.binding? a.overflow).toList }
            match l.slot? a.overflow with
            | some i => bound.store i (l.content a)
            | none => bound
          slot := a.overflow.counter (l.codeBefore + if l.statement.isCode then 1 else 0)
          discarding :=
            a.overflow.dropping (l.codeBefore + if l.statement.isCode then 1 else 0) } ∧
      (a.feedStatement s l.parts).events = reportAll s (l.faults a) := by
  have bound := bindLabel_eq here
  simp only [SectionLine.statement] at bound
  by_cases code : l.statement.isCode
  · have placed := place_eq (a := a) (l := l)
      (s := { s with node := { s.node with
          bindings := s.node.bindings ++ (l.binding? a.overflow).toList } })
      ⟨here.number, here.slot, here.discarding⟩
    simp only [SectionLine.statement] at code placed
    simp only [feedStatement, SectionLine.statement, bound, code, if_true, placed.1, placed.2,
      SectionLine.slot?, SectionLine.faults, reportAll, List.map_append]
    trivial
  · simp only [SectionLine.statement] at code
    simp [feedStatement, SectionLine.statement, bound, code, SectionLine.slot?,
      SectionLine.faults, here.slot, here.discarding]

/-! ## Whole sections -/

/-- No line of a node has been read. -/
structure State.Fresh (s : State) : Prop where
  node : s.node = Node.idle s.node.index s.node.line
  slot : s.slot = 0
  discarding : s.discarding = false

theorem fresh_start : State.start.Fresh :=
  ⟨rfl, rfl, rfl⟩

theorem fresh_sectionStart (index : Checked Nat) (line : Nat) : (sectionStart index line).Fresh :=
  ⟨rfl, rfl, rfl⟩

/-- The state behind the lines of a section that began at `s`. -/
def sectionState (a : Assembler) (s : State) (body : List Text) : State :=
  { line := s.line + body.length
    node := a.sectionNode s.node.index s.node.line (sectionLines s.line body)
    inNode := s.inNode
    slot := a.overflow.counter (codeCount body)
    discarding := a.overflow.dropping (codeCount body) }

/-- The faults of the lines of a section that began at `s`. -/
def sectionFaults (a : Assembler) (s : State) (body : List Text) : List Fault :=
  (sectionLines s.line body).flatMap fun l =>
    (l.faults a).map (Fault.located s.node.index l.number)

/-- The next line of a section. -/
def nextLine (s : State) (body : List Text) (line : Text) : SectionLine :=
  ⟨s.line + body.length + 1, codeCount body, Statement.read line⟩

theorem sectionFaults_concat (a : Assembler) (s : State) (body : List Text) (line : Text) :
    a.sectionFaults s (body ++ [line]) =
      a.sectionFaults s body ++ ((nextLine s body line).faults a).map
        (Fault.located s.node.index (nextLine s body line).number) := by
  rw [sectionFaults, sectionLines_concat, List.flatMap_append, List.flatMap_singleton]
  rfl

theorem feed_sectionState (a : Assembler) (s : State) (body : List Text) {line : Text}
    (plain : ¬ Directive.Marked line) :
    (a.feed (a.sectionState s body) line).state = a.sectionState s (body ++ [line]) ∧
      (a.feed (a.sectionState s body) line).events =
        (((nextLine s body line).faults a).map
          (Fault.located s.node.index (nextLine s body line).number)).map .fault := by
  have count : codeCount (body ++ [line]) =
      codeCount body + if (nextLine s body line).statement.isCode then 1 else 0 := by
    rw [codeCount_append, codeCount_singleton]
    rfl
  have index : (a.sectionState s body).node.index = s.node.index := by
    simp only [sectionState, sectionNode]
  have number : (a.sectionState s body).line + 1 = (nextLine s body line).number := rfl
  generalize state : a.sectionState s body = t at index number ⊢
  have here : a.At { t with line := t.line + 1 } (nextLine s body line) := by
    rw [← state]
    exact ⟨rfl, rfl, rfl⟩
  obtain ⟨next, events⟩ := feedStatement_eq here
  rw [feed_of_not_marked a t plain]
  constructor
  · refine next.trans (Eq.symm ?_)
    rw [← state, sectionState, sectionLines_concat, sectionNode_concat, count,
      List.length_append, List.length_singleton]
    simp only [sectionState, nextLine, Nat.add_assoc]
  · refine events.trans ?_
    rw [reportAll_eq, ← number, ← index]

/-- The state behind the lines of a section is a function of the section. -/
theorem stateAfter_section (a : Assembler) {s : State} (fresh : s.Fresh) {body : List Text}
    (plain : ∀ line ∈ body, ¬ Directive.Marked line) :
    a.stateAfter s (body.map .feed) = a.sectionState s body := by
  induction body using List.reverseRecOn with
  | nil =>
      rw [sectionState, sectionLines_nil, sectionNode_nil, codeCount_nil,
        OverflowPolicy.counter_zero, OverflowPolicy.dropping_zero, ← fresh.node, ← fresh.slot,
        ← fresh.discarding]
      rfl
  | append_singleton body line inductionHypothesis =>
      have earlier := inductionHypothesis fun other member =>
        plain other (List.mem_append_left _ member)
      have last : ¬ Directive.Marked line := plain line (by simp)
      rw [List.map_append, stateAfter_append, earlier]
      exact (feed_sectionState a s body last).1

/-- The lines of a section deliver faults only, those of each line in turn. -/
theorem eventsFrom_section (a : Assembler) {s : State} (fresh : s.Fresh) {body : List Text}
    (plain : ∀ line ∈ body, ¬ Directive.Marked line) :
    a.eventsFrom s (body.map .feed) = (a.sectionFaults s body).map .fault := by
  induction body using List.reverseRecOn with
  | nil => rfl
  | append_singleton body line inductionHypothesis =>
      have initial : ∀ other ∈ body, ¬ Directive.Marked other := fun other member =>
        plain other (List.mem_append_left _ member)
      have last : ¬ Directive.Marked line := plain line (by simp)
      have step := (feed_sectionState a s body last).2
      rw [List.map_append, eventsFrom_append, inductionHypothesis initial,
        stateAfter_section a fresh initial, sectionFaults_concat, List.map_append, ← step]
      exact congrArg _ (List.append_nil _)

/-- Calls that end with reading a directive and the lines of its section. -/
def sectionCalls (calls : List Call) (directive : Text) (body : List Text) : List Call :=
  calls ++ .feed directive :: body.map .feed

/-- A section within a run: its directive puts the assembler into the state that
the section alone determines, and its lines deliver their faults. -/
theorem stateAfter_sectionCalls (a : Assembler) (calls : List Call) {directive : Text}
    {index : Checked Nat} (read : Directive.read? directive = some index) {body : List Text}
    (plain : ∀ line ∈ body, ¬ Directive.Marked line) :
    a.stateAfter .start (sectionCalls calls directive body) =
      a.sectionState (sectionStart index ((fedLines calls).length + 1)) body := by
  have step := (perform_feed_of_read?_eq_some a (a.stateAfter .start calls) read).2
  rw [sectionCalls, stateAfter_append, stateAfter_cons, step, line_stateAfter_start,
    stateAfter_section a (fresh_sectionStart index _) plain]

theorem events_sectionCalls (a : Assembler) (calls : List Call) {directive : Text}
    {index : Checked Nat} (read : Directive.read? directive = some index) {body : List Text}
    (plain : ∀ line ∈ body, ¬ Directive.Marked line) :
    a.events (sectionCalls calls directive body) =
      a.events calls ++ (a.perform (a.stateAfter .start calls) (.feed directive)).events ++
        (a.sectionFaults (sectionStart index ((fedLines calls).length + 1)) body).map
          .fault := by
  have step := (perform_feed_of_read?_eq_some a (a.stateAfter .start calls) read).2
  rw [sectionCalls, events_eq_eventsFrom, eventsFrom_append, eventsFrom_cons, step,
    line_stateAfter_start, eventsFrom_section a (fresh_sectionStart index _) plain, List.append_assoc]
  rfl

end Assembler

end NodeAsm
