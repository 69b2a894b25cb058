import NodeAsm.Node

/-!
# Programs

A program is a node whose labels are resolved. Each slot keeps its word, the
label it jumps to and the source line it came from. A jump to an unbound label
is reported and keeps target zero, so every node becomes a program.
-/

namespace NodeAsm

/-- One slot of a program. -/
structure Entry where
  word : Word
  /-- The label of a jump, empty otherwise. -/
  jumpLabel : Text
  origin : Origin
  deriving DecidableEq, Repr

/-- A node after label resolution. -/
structure Program where
  node : Int
  line : Int
  entries : Vector Entry slotCount
  bindings : List Binding
  deriving DecidableEq, Repr

namespace Program

/-- The program with zero in every word. -/
def zero : Program :=
  ⟨0, 0, Vector.replicate slotCount ⟨0#16, [], Origin.none⟩, []⟩

/-- The sixteen words. -/
def words (p : Program) : List Word :=
  p.entries.toList.map Entry.word

@[simp]
theorem length_words (p : Program) : p.words.length = slotCount := by
  simp [words]

/-- The labels bound to a slot in the order of the source. -/
def labelsAt (p : Program) (slot : Int) : List Text :=
  (p.bindings.filter fun b => b.slot = slot).map Binding.name

end Program

namespace Node

/-- A slot after label resolution. -/
def resolveSlot (n : Node) : Slot → Entry
  | .final word origin => ⟨word, [], origin⟩
  | .pending word label origin =>
      match n.lookup label with
      | some target => ⟨word.withTarget target, label, origin⟩
      | none => ⟨word, label, origin⟩

/-- The fault of a slot whose label is unbound. -/
def slotFault? (n : Node) : Slot → Option Fault
  | .final _ _ => none
  | .pending _ label origin =>
      match n.lookup label with
      | some _ => none
      | none => some (.located n.index origin.line (.undefinedLabel label))

/-- Exactly the jumps to unbound labels have a fault. -/
theorem slotFault?_eq_some_iff {n : Node} {s : Slot} {f : Fault} :
    n.slotFault? s = some f ↔ ∃ word label origin, s = .pending word label origin ∧
      n.lookup label = none ∧ f = .located n.index origin.line (.undefinedLabel label) := by
  constructor
  · intro fault
    cases s with
    | final word origin => contradiction
    | pending word label origin =>
        simp only [slotFault?] at fault
        split at fault
        · contradiction
        · rename_i missed
          cases fault
          exact ⟨word, label, origin, rfl, missed, rfl⟩
  · rintro ⟨word, label, origin, rfl, missed, rfl⟩
    simp [slotFault?, missed]

/-- The program of a node. -/
def program (n : Node) : Program :=
  ⟨n.index, n.line, n.slots.map n.resolveSlot, n.bindings⟩

theorem entries_program (n : Node) (i : Fin slotCount) :
    n.program.entries.get i = n.resolveSlot (n.slots.get i) :=
  Vector.getElem_map n.resolveSlot i.isLt

/-- The faults of the slots whose labels are unbound, in the order of slots. -/
def undefinedLabels (n : Node) : List Fault :=
  n.slots.toList.filterMap n.slotFault?

/-- Resolves every label of a node. -/
def resolve (n : Node) : Checked Program :=
  ⟨n.program, n.undefinedLabels⟩

end Node

end NodeAsm
