import NodeAsm.Machine.Word
import NodeAsm.Fault

/-!
# Nodes

A node has sixteen instruction slots. While its section of the source is read,
a slot holds a final word or a jump that waits for its label, and labels are
bound to slots.
-/

namespace NodeAsm

/-- The number of slots of a node. -/
def slotCount : Nat := 16

/-- The source line of a slot. Line zero stands for no line. -/
structure Origin where
  line : Int
  text : Text
  deriving DecidableEq, Repr

namespace Origin

/-- No source line. -/
def none : Origin :=
  ⟨0, []⟩

end Origin

/-- The content of a slot before labels are resolved. -/
inductive Slot where
  /-- A final word. -/
  | final (word : Word) (origin : Origin)
  /-- A jump whose target bits wait for its label. -/
  | pending (word : Word) (label : Text) (origin : Origin)
  deriving DecidableEq, Repr

namespace Slot

/-- The word of a slot, without target if it is pending. -/
def word : Slot → Word
  | final w _ => w
  | pending w _ _ => w

/-- The source line of a slot. -/
def origin : Slot → Origin
  | final _ o => o
  | pending _ _ o => o

/-- Whether a slot waits for a label. -/
def isPending : Slot → Bool
  | final _ _ => false
  | pending _ _ _ => true

/-- The slot without code. -/
def idle : Slot :=
  final Word.idle Origin.none

end Slot

/-- A label bound to a slot on a source line. -/
structure Binding where
  name : Text
  slot : Int
  line : Int
  deriving DecidableEq, Repr

/-- A node while its section is read. -/
structure Node where
  index : Int
  /-- The line of the directive that began the node. -/
  line : Int
  slots : Vector Slot slotCount
  /-- The bindings in the order of the source. -/
  bindings : List Binding
  deriving DecidableEq, Repr

namespace Node

/-- The node without code and labels. -/
def idle (index line : Int) : Node :=
  ⟨index, line, Vector.replicate slotCount Slot.idle, []⟩

/-- Binds a label to a slot. An empty name is ignored. -/
def bind (n : Node) (name : Text) (slot line : Int) : Node :=
  if name.isEmpty then n else { n with bindings := n.bindings ++ [⟨name, slot, line⟩] }

@[simp]
theorem bind_nil (n : Node) (slot line : Int) : n.bind [] slot line = n :=
  rfl

theorem bindings_bind (n : Node) {name : Text} (named : name ≠ []) (slot line : Int) :
    (n.bind name slot line).bindings = n.bindings ++ [⟨name, slot, line⟩] := by
  simp [bind, named]

@[simp]
theorem slots_bind (n : Node) (name : Text) (slot line : Int) :
    (n.bind name slot line).slots = n.slots := by
  unfold bind
  split <;> rfl

@[simp]
theorem index_bind (n : Node) (name : Text) (slot line : Int) :
    (n.bind name slot line).index = n.index := by
  unfold bind
  split <;> rfl

/-- Stores the content of slot `i`. -/
def store (n : Node) (i : Fin slotCount) (s : Slot) : Node :=
  { n with slots := n.slots.set i s }

@[simp]
theorem bindings_store (n : Node) (i : Fin slotCount) (s : Slot) :
    (n.store i s).bindings = n.bindings :=
  rfl

theorem slots_store (n : Node) (i j : Fin slotCount) (s : Slot) :
    (n.store i s).slots[j] = if i = j then s else n.slots[j] := by
  simp [store, Vector.getElem_set, Fin.ext_iff]

/-- The lowest slot of the node to which a label is bound. -/
def lookup (n : Node) (name : Text) : Option Nat :=
  (List.range slotCount).find? fun slot =>
    n.bindings.any fun b => b.slot = slot ∧ b.name = name

end Node

end NodeAsm
