import NodeAsm.Machine.InstructionSet
import NodeAsm.Program
import NodeAsm.Source.Directive
import NodeAsm.Source.Statement

/-!
# Assembling a source

The assembler reads a source line by line. A directive completes the node being
read and begins another; every other line adds labels and code to the current
node. Faults and completed programs are delivered as events in the order in
which they arise.

Code before the first directive is checked like any other and never delivered.
-/

namespace NodeAsm

/-- What happens to code past the last slot of a node, by name. Any name can be given;
all but that of discarding have the effect of wrapping. -/
structure OverflowPolicy where
  name : Text
  deriving DecidableEq, Repr

namespace OverflowPolicy

/-- The slot counter returns to zero and the next line overwrites slot zero. -/
def wrap : OverflowPolicy :=
  ⟨"wrap"⟩

/-- Every code line past the last slot is dropped. -/
def discard : OverflowPolicy :=
  ⟨"discard"⟩

/-- The policies that settings can name. -/
def known : List OverflowPolicy :=
  [wrap, discard]

theorem mem_known {p : OverflowPolicy} : p ∈ known ↔ p = wrap ∨ p = discard := by
  simp [known]

/-- The known policy with the given name. -/
def ofName? (t : Text) : Option OverflowPolicy :=
  known.find? fun p => p.name == t

theorem ofName?_name {p : OverflowPolicy} (member : p ∈ known) : ofName? p.name = some p := by
  rcases mem_known.mp member with rfl | rfl <;> decide

/-- Reads the name of a known policy. -/
def read (t : Text) : Except Fault OverflowPolicy :=
  match ofName? t with
  | some p => .ok p
  | none => .error (.plain ("unknown overflow policy " ++ t.quote))

end OverflowPolicy

/-- The choices that stay fixed while a source is read. -/
structure Assembler where
  isa : InstructionSet
  overflow : OverflowPolicy
  deriving DecidableEq, Repr

namespace Assembler

/-- The assembler with the given choices. Where there is no instruction set it takes
that of a node, and where the policy has no name it wraps. -/
def build (isa : Option InstructionSet) (overflow : OverflowPolicy) : Assembler :=
  ⟨isa.getD .node, if overflow.name.isEmpty then .wrap else overflow⟩

/-- What the assembler delivers. -/
inductive Event where
  | fault (f : Fault)
  | program (p : Program)
  deriving Repr

/-- What the assembler tells about its work apart from events. -/
inductive Note where
  /-- A node begins. -/
  | nodeStart (node line : Int) (isa : Text)
  /-- A line was split. -/
  | tokenized (node line : Int) (statement : Statement)
  /-- A slot was filled. -/
  | encoded (node : Int) (slot : Nat) (word : Word)
  deriving Repr

/-- Where the assembler stands between two lines. -/
structure State where
  /-- The number of lines read. -/
  line : Nat
  /-- The current node. -/
  node : Node
  /-- Whether the current node is to be delivered. -/
  inNode : Bool
  /-- The slot of the next code line. -/
  slot : Nat
  /-- Whether dropped code has been reported. -/
  discarding : Bool
  deriving DecidableEq, Repr

/-- Before the first line. -/
def State.start : State :=
  ⟨0, Node.idle 0 0, false, 0, false⟩

/-- What one line or the end of the source does: the events come first, the
notes after them. -/
structure Step where
  state : State
  events : List Event
  notes : List Note

/-- A fault at the current line. -/
def report (s : State) (node : Int) (f : Fault) : Event :=
  .fault (.located node s.line f)

/-- Faults of the current node at the current line. -/
def reportAll (s : State) (fs : List Fault) : List Event :=
  fs.map (report s s.node.index)

/-- The events that complete the current node, if it is to be delivered. -/
def completion (s : State) : List Event :=
  if s.inNode then
    let resolved := s.node.resolve
    resolved.faults.map .fault ++ [.program resolved.value]
  else []

/-- Begins a node on the current line. -/
def beginNode (s : State) (index : Int) : State :=
  { s with
    node := Node.idle index s.line
    inNode := true
    slot := 0
    discarding := false }

/-- The fault of code past the last slot. -/
def overflowFault (consequence : Text) : Fault :=
  .noted (Numeral.ofNat slotCount ++ " slots, " ++ consequence) (.cause .tooManyLines)

/-- The content of a slot for a code line. -/
def slotFor (word : Word) (label : Text) (origin : Origin) : Slot :=
  if word.isJump then .pending word label origin else .final word origin

/-- Encodes a code line into slot `i`. The faults of its operands come as one and are
reported one by one. -/
def fill (a : Assembler) (s : State) (statement : Statement) (i : Fin slotCount) : Step :=
  let encoded := a.isa.encode statement.opcode (statement.operand 0) (statement.operand 1)
  let slot := slotFor encoded.value (statement.operand 0) ⟨s.line, statement.raw⟩
  ⟨{ s with node := s.node.store i slot, slot := i + 1 },
    reportAll s (Fault.split encoded.fault?),
    [.encoded s.node.index i encoded.value]⟩

/-- Puts a code line into the next slot. -/
def place (a : Assembler) (s : State) (statement : Statement) : Step :=
  if h : s.slot < slotCount then a.fill s statement ⟨s.slot, h⟩
  else if a.overflow = .discard then
    if s.discarding then ⟨s, [], []⟩
    else
      ⟨{ s with discarding := true },
        reportAll s [overflowFault "dropping code from here on"], []⟩
  else
    let filled := a.fill s statement ⟨0, by decide⟩
    { filled with
      events := reportAll s [overflowFault "overwriting slot 0"] ++ filled.events }

/-- Binds the label of a line to the next slot, unless the node is full. -/
def bindLabel (s : State) (label : Text) : State :=
  if s.slot < slotCount then { s with node := s.node.bind label s.slot s.line } else s

/-- Reads a directive with the given index on the current line. -/
def feedDirective (a : Assembler) (s : State) (index : Checked Nat) : Step :=
  ⟨beginNode s index.value,
    index.faults.map (report s index.value) ++ completion s,
    [.nodeStart index.value s.line a.isa.name]⟩

/-- Reads a split line. -/
def feedStatement (a : Assembler) (s : State) (statement : Checked Statement) : Step :=
  let bound := bindLabel s statement.value.label
  let placed :=
    if statement.value.isCode then a.place bound statement.value else ⟨bound, [], []⟩
  ⟨placed.state,
    reportAll s statement.faults ++ placed.events,
    .tokenized s.node.index s.line statement.value :: placed.notes⟩

/-- Reads one line of the source. -/
def feed (a : Assembler) (s : State) (line : Text) : Step :=
  let s := { s with line := s.line + 1 }
  match Directive.read? line with
  | some index => a.feedDirective s index
  | none => a.feedStatement s (Statement.read line)

/-- Completes the current node. Further lines may follow. -/
def finish (s : State) : Step :=
  ⟨{ s with inNode := false }, completion s, []⟩

/-! ## Whole runs -/

/-- One call of the assembler. -/
inductive Call where
  | feed (line : Text)
  | finish
  deriving DecidableEq, Repr

/-- Carries out one call. -/
def perform (a : Assembler) (s : State) : Call → Step
  | .feed line => a.feed s line
  | .finish => finish s

/-- The state after a sequence of calls. -/
def stateAfter (a : Assembler) (s : State) (calls : List Call) : State :=
  calls.foldl (fun s call => (a.perform s call).state) s

@[simp]
theorem stateAfter_nil (a : Assembler) (s : State) : a.stateAfter s [] = s :=
  rfl

@[simp]
theorem stateAfter_cons (a : Assembler) (s : State) (call : Call) (calls : List Call) :
    a.stateAfter s (call :: calls) = a.stateAfter (a.perform s call).state calls :=
  rfl

theorem stateAfter_append (a : Assembler) (s : State) (first second : List Call) :
    a.stateAfter s (first ++ second) = a.stateAfter (a.stateAfter s first) second :=
  List.foldl_append

/-- What each call of a sequence does. -/
def steps (a : Assembler) (s : State) : List Call → List Step
  | [] => []
  | call :: calls =>
      let step := a.perform s call
      step :: steps a step.state calls

@[simp]
theorem length_steps (a : Assembler) (s : State) (calls : List Call) :
    (a.steps s calls).length = calls.length := by
  induction calls generalizing s with
  | nil => rfl
  | cons call calls inductionHypothesis => simp [steps, inductionHypothesis]

/-- The steps of two sequences are those of the first, then those of the second
from the state that the first leaves. -/
theorem steps_append (a : Assembler) (s : State) (first second : List Call) :
    a.steps s (first ++ second) =
      a.steps s first ++ a.steps (a.stateAfter s first) second := by
  induction first generalizing s with
  | nil => rfl
  | cons call calls inductionHypothesis => simp [steps, inductionHypothesis]

/-- The events of a sequence of calls on a fresh assembler. -/
def events (a : Assembler) (calls : List Call) : List Event :=
  (a.steps State.start calls).flatMap Step.events

/-- The calls that read a whole source. -/
def callsOf (lines : List Text) : List Call :=
  lines.map .feed ++ [.finish]

/-- The programs among events. -/
def programs (events : List Event) : List Program :=
  events.filterMap fun
    | .program p => some p
    | .fault _ => none

@[simp]
theorem programs_append (first second : List Event) :
    programs (first ++ second) = programs first ++ programs second :=
  List.filterMap_append

/-- The faults among events. -/
def faults (events : List Event) : List Fault :=
  events.filterMap fun
    | .program _ => none
    | .fault f => some f

@[simp]
theorem faults_append (first second : List Event) :
    faults (first ++ second) = faults first ++ faults second :=
  List.filterMap_append

end Assembler

end NodeAsm
