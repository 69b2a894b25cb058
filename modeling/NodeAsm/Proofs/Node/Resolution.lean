import Mathlib.Data.List.FinRange
import Mathlib.Order.Bounds.Basic
import Mathlib.Tactic.Common
import NodeAsm.Program
import NodeAsm.Proofs.Machine.Target

/-!
# Resolution of labels

A node is resolved slot by slot. A final word stays as it is. A jump takes the least
slot of the node that is bound to its label into its target bits and keeps all other
bits. Where no slot of the node is bound to the label, the word stays as it is and the
jump is reported, once and in the order of slots. The bindings may come in any order,
repeat each other or name slots that no node has.
-/

namespace NodeAsm.Node

/-! ## Lookup -/

/-- The slots of the node to which a name is bound. -/
def slotsOf (n : Node) (name : Text) : Set Nat :=
  {slot | slot < slotCount ∧ ∃ b ∈ n.bindings, b.name = name ∧ b.slot = slot}

theorem any_bindings_iff {n : Node} {name : Text} {slot : Nat} (within : slot < slotCount) :
    (n.bindings.any fun b => b.slot = slot ∧ b.name = name) ↔ slot ∈ n.slotsOf name := by
  simp only [List.any_eq_true, decide_eq_true_eq]
  constructor
  · rintro ⟨b, member, placed, named⟩
    exact ⟨within, b, member, named, placed⟩
  · rintro ⟨_, b, member, named, placed⟩
    exact ⟨b, member, placed, named⟩

/-- A name is found at the least slot of the node that is bound to it. -/
theorem lookup_eq_some_iff {n : Node} {name : Text} {slot : Nat} :
    n.lookup name = some slot ↔ IsLeast (n.slotsOf name) slot := by
  rw [lookup, List.find?_range_eq_some]
  constructor
  · rintro ⟨found, within, first⟩
    rw [List.mem_range] at within
    refine ⟨(any_bindings_iff within).mp found, fun other bound => ?_⟩
    by_contra before
    have passed := first other (Nat.not_le.mp before)
    rw [(any_bindings_iff bound.1).mpr bound] at passed
    contradiction
  · rintro ⟨bound, least⟩
    refine ⟨(any_bindings_iff bound.1).mpr bound, List.mem_range.mpr bound.1, ?_⟩
    intro other before
    rw [Bool.not_eq_true', Bool.eq_false_iff]
    intro found
    have also := (any_bindings_iff (Nat.lt_trans before bound.1)).mp found
    exact absurd (least also) (Nat.not_le.mpr before)

/-- A name is missed if no slot of the node is bound to it. -/
theorem lookup_eq_none_iff {n : Node} {name : Text} :
    n.lookup name = none ↔ n.slotsOf name = ∅ := by
  rw [lookup, List.find?_eq_none, Set.eq_empty_iff_forall_notMem]
  constructor
  · intro missed slot bound
    exact missed slot (List.mem_range.mpr bound.1) ((any_bindings_iff bound.1).mpr bound)
  · intro unbound slot within found
    exact unbound slot ((any_bindings_iff (List.mem_range.mp within)).mp found)

/-- A bound name leads to a slot of the node that has it. -/
theorem exists_of_lookup_eq_some {n : Node} {name : Text} {slot : Nat}
    (found : n.lookup name = some slot) :
    slot < slotCount ∧ ∃ b ∈ n.bindings, b.name = name ∧ b.slot = slot :=
  (lookup_eq_some_iff.mp found).1

/-- An unbound name is at no slot of the node. -/
theorem ne_of_lookup_eq_none {n : Node} {name : Text} (unbound : n.lookup name = none)
    {b : Binding} (member : b ∈ n.bindings) (named : b.name = name) {slot : Nat}
    (within : slot < slotCount) : b.slot ≠ slot := by
  intro placed
  have none := Set.eq_empty_iff_forall_notMem.mp (lookup_eq_none_iff.mp unbound)
  exact none slot ⟨within, b, member, named, placed⟩

/-! ## Slots -/

/-- What a slot of the node becomes. -/
inductive Resolves (n : Node) : Slot → Entry → Prop where
  | final (word : Word) (origin : Origin) : Resolves n (.final word origin) ⟨word, [], origin⟩
  /-- The least slot bound to the label goes into bits six to nine. -/
  | bound {label : Text} {target : Nat} (least : IsLeast (n.slotsOf label) target)
      {word resolved : Word} (aimed : resolved.target = target)
      (kept : ∀ i, i < 6 ∨ 9 < i → resolved.getLsbD i = word.getLsbD i) (origin : Origin) :
      Resolves n (.pending word label origin) ⟨resolved, label, origin⟩
  | unbound {label : Text} (missing : n.slotsOf label = ∅) (word : Word) (origin : Origin) :
      Resolves n (.pending word label origin) ⟨word, label, origin⟩

theorem resolves_resolveSlot (n : Node) (s : Slot) : n.Resolves s (n.resolveSlot s) := by
  cases s with
  | final word origin => exact .final word origin
  | pending word label origin =>
      cases found : n.lookup label with
      | none =>
          rw [resolveSlot, found]
          exact .unbound (lookup_eq_none_iff.mp found) word origin
      | some target =>
          have least := lookup_eq_some_iff.mp found
          rw [resolveSlot, found]
          refine .bound least (word.target_withTarget least.1.1) ?_ origin
          intro i outside
          rw [Word.getLsbD_withTarget, if_neg (by omega)]

theorem Resolves.origin_eq {n : Node} {s : Slot} {e : Entry} (resolves : n.Resolves s e) :
    e.origin = s.origin := by
  cases resolves <;> rfl

/-! ## Reports -/

/-- Slot `i` holds a jump whose label no slot of the node is bound to, and the fault
says so. -/
inductive Misses (n : Node) (i : Fin slotCount) : Fault → Prop where
  | intro {word : Word} {label : Text} {origin : Origin}
      (waits : n.slots.get i = .pending word label origin) (missing : n.slotsOf label = ∅) :
      Misses n i (.located n.index origin.line (.undefinedLabel label))

theorem slotFault?_get_eq_some_iff {n : Node} {i : Fin slotCount} {f : Fault} :
    n.slotFault? (n.slots.get i) = some f ↔ n.Misses i f := by
  rw [slotFault?_eq_some_iff]
  constructor
  · rintro ⟨word, label, origin, waits, missed, rfl⟩
    exact .intro waits (lookup_eq_none_iff.mp missed)
  · rintro ⟨waits, missing⟩
    exact ⟨_, _, _, waits, lookup_eq_none_iff.mpr missing, rfl⟩

theorem toList_slots (n : Node) : n.slots.toList = (List.finRange slotCount).map n.slots.get := by
  apply List.ext_getElem
  · simp
  · intro i _ _
    simp [Vector.get]

/-- `faults` reports every slot of the node that misses its label, in their order. -/
def ReportsMissed (n : Node) (faults : List Fault) : Prop :=
  ∃ missed : List (Fin slotCount), missed.Pairwise (· < ·) ∧
    (∀ i, i ∈ missed ↔ ∃ f, n.Misses i f) ∧ List.Forall₂ n.Misses missed faults

theorem forall₂_misses (n : Node) (slots : List (Fin slotCount)) :
    List.Forall₂ n.Misses (slots.filter fun i => (n.slotFault? (n.slots.get i)).isSome)
      (slots.filterMap fun i => n.slotFault? (n.slots.get i)) := by
  induction slots with
  | nil => exact .nil
  | cons i slots inductionHypothesis =>
      cases fault : n.slotFault? (n.slots.get i) with
      | none => simpa [fault] using inductionHypothesis
      | some f =>
          have misses := slotFault?_get_eq_some_iff.mp fault
          simpa [fault] using List.Forall₂.cons misses inductionHypothesis

theorem reportsMissed_undefinedLabels (n : Node) : n.ReportsMissed n.undefinedLabels := by
  let missed := (List.finRange slotCount).filter fun i => (n.slotFault? (n.slots.get i)).isSome
  have ordered : missed.Pairwise (· < ·) := (List.pairwise_lt_finRange slotCount).filter _
  refine ⟨missed, ordered, ?_, ?_⟩
  · intro i
    simp only [missed, List.mem_filter, List.mem_finRange, true_and, Option.isSome_iff_exists,
      slotFault?_get_eq_some_iff]
  · rw [undefinedLabels, toList_slots, List.filterMap_map]
    exact n.forall₂_misses (List.finRange slotCount)

/-! ## Whole nodes -/

/-- `p` is the node with its labels resolved, and `faults` reports the labels that are
bound to no slot of it. -/
structure Resolution (n : Node) (p : Program) (faults : List Fault) : Prop where
  node : p.node = n.index
  line : p.line = n.line
  bindings : p.bindings = n.bindings
  origins : ∀ i : Fin slotCount, (p.entries.get i).origin = (n.slots.get i).origin
  entries : ∀ i : Fin slotCount, n.Resolves (n.slots.get i) (p.entries.get i)
  missed : n.ReportsMissed faults

/-- Every node is resolved, whatever its slots and bindings. -/
theorem resolution_resolve (n : Node) : n.Resolution n.resolve.value n.resolve.faults where
  node := rfl
  line := rfl
  bindings := rfl
  origins i := by
    rw [resolve, entries_program]
    exact (n.resolves_resolveSlot (n.slots.get i)).origin_eq
  entries i := by
    rw [resolve, entries_program]
    exact n.resolves_resolveSlot (n.slots.get i)
  missed := n.reportsMissed_undefinedLabels

end NodeAsm.Node
