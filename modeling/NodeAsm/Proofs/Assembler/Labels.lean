import Mathlib.Order.Bounds.Basic
import Mathlib.Order.Bounds.Lattice
import NodeAsm.Output.NodeDocument
import NodeAsm.Proofs.Assembler.Delivery
import NodeAsm.Proofs.Assembler.Fitting
import NodeAsm.Proofs.Diagnostics.Shadowing

/-!
# Repeated labels

A label may be bound more than once, and under wrapping the bindings of a node come
in no order of slots. Four places then decide what the label means: the resolution of
jumps, which looks a name up slot by slot; the document of a program, which keeps the
least slot seen; lint, which keeps a winner and reports the losers; and the listing,
which shows every label at its slot. They agree, since each of them finds the least
of the slots that are bound to the name.
-/

namespace NodeAsm

/-! ## The slots of a name -/

/-- The slots to which bindings tie a name. -/
def boundSlots (bs : List Binding) (name : Text) : Set Int :=
  {slot | ∃ b ∈ bs, b.name = name ∧ b.slot = slot}

theorem mem_boundSlots_iff {bs : List Binding} {name : Text} {slot : Int} :
    slot ∈ boundSlots bs name ↔ ∃ b ∈ bs, b.name = name ∧ b.slot = slot :=
  Iff.rfl

theorem boundSlots_concat_self (bs : List Binding) (b : Binding) :
    boundSlots (bs ++ [b]) b.name = boundSlots bs b.name ∪ {b.slot} := by
  ext slot
  simp only [mem_boundSlots_iff, List.mem_append, List.mem_singleton, Set.mem_union,
    Set.mem_singleton_iff]
  constructor
  · rintro ⟨c, earlier | rfl, named, rfl⟩
    · exact Or.inl ⟨c, earlier, named, rfl⟩
    · exact Or.inr rfl
  · rintro (⟨c, earlier, named, rfl⟩ | rfl)
    · exact ⟨c, Or.inl earlier, named, rfl⟩
    · exact ⟨b, Or.inr rfl, rfl, rfl⟩

theorem boundSlots_concat_of_ne (bs : List Binding) {b : Binding} {name : Text}
    (other : b.name ≠ name) : boundSlots (bs ++ [b]) name = boundSlots bs name := by
  ext slot
  simp [mem_boundSlots_iff, or_and_right, exists_or, other]

/-! ## Documents -/

namespace NodeDocument

/-- `labels` holds for each bound name its least slot. -/
structure Tabulates (labels : List (Text × Int)) (bs : List Binding) : Prop where
  keys : ∀ name, (∃ slot, (name, slot) ∈ labels) ↔ ∃ b ∈ bs, b.name = name
  least : ∀ name slot, (name, slot) ∈ labels → IsLeast (boundSlots bs name) slot

theorem tabulates_nil : Tabulates [] [] :=
  ⟨by simp, by simp⟩

/-- A name that is new to the table. -/
theorem Tabulates.append {labels : List (Text × Int)} {bs : List Binding}
    (table : Tabulates labels bs) {b : Binding} (new : ∀ slot, (b.name, slot) ∉ labels) :
    Tabulates (labels ++ [(b.name, b.slot)]) (bs ++ [b]) where
  keys name := by
    have earlier := table.keys name
    simp only [List.mem_append, List.mem_singleton, or_and_right, exists_or, exists_eq_left,
      earlier, Prod.mk.injEq, exists_and_left, exists_eq, and_true]
    rw [eq_comm]
  least name slot member := by
    rcases List.mem_append.mp member with old | added
    · have other : b.name ≠ name := fun same => new slot (same ▸ old)
      rw [boundSlots_concat_of_ne bs other]
      exact table.least name slot old
    · obtain ⟨rfl, rfl⟩ := Prod.mk.inj (List.mem_singleton.mp added)
      have unbound : boundSlots bs b.name = ∅ := by
        apply Set.eq_empty_of_forall_notMem
        rintro slot ⟨c, earlier, named, _⟩
        obtain ⟨kept, listed⟩ := (table.keys b.name).mpr ⟨c, earlier, named⟩
        exact new kept listed
      rw [boundSlots_concat_self, unbound, Set.empty_union]
      exact isLeast_singleton

/-- An entry after one more binding: its slot is lowered if the name is its own. -/
def lowered (b : Binding) (entry : Text × Int) : Text × Int :=
  (entry.1, if entry.1 = b.name then min entry.2 b.slot else entry.2)

theorem addLabel_of_lookup_eq_some {labels : List (Text × Int)} {b : Binding} {kept : Int}
    (found : labels.lookup b.name = some kept) : addLabel labels b = labels.map (lowered b) := by
  rw [addLabel, found]
  apply List.map_congr_left
  rintro ⟨name, slot⟩ _
  by_cases own : name = b.name
  · by_cases lower : b.slot < slot
    · simp [lowered, own, lower, min_eq_right (Int.le_of_lt lower)]
    · simp [lowered, own, lower, min_eq_left (Int.not_lt.mp lower)]
  · simp [lowered, own]

/-- A name that the table has keeps its least slot. -/
theorem Tabulates.map_lowered {labels : List (Text × Int)} {bs : List Binding}
    (table : Tabulates labels bs) {b : Binding} (known : ∃ slot, (b.name, slot) ∈ labels) :
    Tabulates (labels.map (lowered b)) (bs ++ [b]) where
  keys name := by
    have same : (∃ slot, (name, slot) ∈ labels.map (lowered b)) ↔
        ∃ slot, (name, slot) ∈ labels := by
      constructor
      · rintro ⟨slot, member⟩
        obtain ⟨⟨key, kept⟩, old, entry⟩ := List.mem_map.mp member
        obtain ⟨rfl, _⟩ := Prod.mk.inj entry
        exact ⟨kept, old⟩
      · rintro ⟨slot, member⟩
        exact ⟨_, List.mem_map.mpr ⟨_, member, rfl⟩⟩
    rw [same, table.keys]
    constructor
    · rintro ⟨c, member, named⟩
      exact ⟨c, List.mem_append_left _ member, named⟩
    · rintro ⟨c, member, rfl⟩
      rcases List.mem_append.mp member with earlier | last
      · exact ⟨c, earlier, rfl⟩
      · rw [List.mem_singleton.mp last]
        exact (table.keys b.name).mp known
  least name slot member := by
    obtain ⟨⟨key, kept⟩, old, entry⟩ := List.mem_map.mp member
    obtain ⟨rfl, rfl⟩ := Prod.mk.inj entry
    have least := table.least key kept old
    by_cases own : key = b.name
    · rw [if_pos own]
      rw [own] at least ⊢
      rw [boundSlots_concat_self]
      exact least.union isLeast_singleton
    · rw [if_neg own, boundSlots_concat_of_ne bs (Ne.symm own)]
      exact least

theorem Tabulates.addLabel {labels : List (Text × Int)} {bs : List Binding}
    (table : Tabulates labels bs) (b : Binding) :
    Tabulates (addLabel labels b) (bs ++ [b]) := by
  cases found : labels.lookup b.name with
  | none =>
      rw [NodeDocument.addLabel, found]
      apply table.append
      intro slot member
      have other := List.lookup_eq_none_iff.mp found (b.name, slot) member
      simp at other
  | some kept =>
      rw [addLabel_of_lookup_eq_some found]
      obtain ⟨front, back, parts, _⟩ := List.lookup_eq_some_iff.mp found
      exact table.map_lowered ⟨kept, by simp [parts]⟩

/-- The document of a program lists each bound name with its least slot. -/
theorem tabulates_ofProgram (p : Program) : Tabulates (ofProgram p).labels p.bindings := by
  have fold : ∀ bs : List Binding, Tabulates (bs.foldl NodeDocument.addLabel []) bs := by
    intro bs
    induction bs using List.reverseRecOn with
    | nil => exact tabulates_nil
    | append_singleton bs b inductionHypothesis =>
        rw [List.foldl_append]
        exact inductionHypothesis.addLabel b
  exact fold p.bindings

end NodeDocument

/-! ## Resolution -/

namespace Node

/-- Every label has a name and is bound to a slot of the node, on a line of its
own. -/
structure WellBound (n : Node) : Prop where
  named : ∀ b ∈ n.bindings, b.name ≠ []
  placed : ∀ b ∈ n.bindings, ∃ slot : Nat, slot < slotCount ∧ b.slot = slot
  lines : (n.bindings.map Binding.line).Nodup

/-- A bound name is found at its least slot. -/
theorem WellBound.exists_lookup {n : Node} (wellBound : n.WellBound) {name : Text}
    (bound : ∃ b ∈ n.bindings, b.name = name) :
    ∃ slot : Nat, n.lookup name = some slot ∧ IsLeast (boundSlots n.bindings name) slot := by
  cases found : n.lookup name with
  | none =>
      obtain ⟨b, member, named⟩ := bound
      obtain ⟨slot, within, placed⟩ := wellBound.placed b member
      exact absurd placed (ne_of_lookup_eq_none found member named within)
  | some slot =>
      have least := lookup_eq_some_iff.mp found
      refine ⟨slot, rfl, least.1.2, ?_⟩
      rintro other ⟨b, member, named, rfl⟩
      obtain ⟨i, within, placed⟩ := wellBound.placed b member
      rw [placed, Int.ofNat_le]
      exact least.2 ⟨within, b, member, named, placed⟩

/-- A jump whose label is bound goes to the slot at which the label is found. -/
theorem target_resolveSlot {n : Node} {name : Text} (named : name ≠ []) {slot : Nat}
    (found : n.lookup name = some slot) {s : Slot} (label : (n.resolveSlot s).jumpLabel = name) :
    (n.resolveSlot s).word.target = slot := by
  cases s with
  | final word origin => exact absurd label.symm named
  | pending word jumpLabel origin =>
      have same : jumpLabel = name := by
        rw [← label, resolveSlot]
        split <;> rfl
      rw [resolveSlot, same, found]
      exact word.target_withTarget (exists_of_lookup_eq_some found).1

end Node

/-! ## Every node of a run -/

theorem pairwise_number_sectionLines (first : Nat) (body : List Text) :
    (sectionLines first body).Pairwise fun l m => l.number < m.number := by
  rw [List.pairwise_iff_getElem]
  intro i j _ _ before
  simp only [sectionLines, List.getElem_mapIdx]
  omega

namespace Assembler

theorem wellBound_sectionNode (a : Assembler) (index line : Int) (first : Nat)
    (body : List Text) : (a.sectionNode index line (sectionLines first body)).WellBound := by
  have binding_eq {l : SectionLine} {b : Binding} (bound : l.binding? a.overflow = some b) :
      l.statement.label ≠ [] ∧ a.overflow.counter l.codeBefore < slotCount ∧
        b = ⟨l.statement.label, a.overflow.counter l.codeBefore, l.number⟩ := by
    unfold SectionLine.binding? at bound
    split at bound
    next room => exact ⟨room.1, room.2, (Option.some.inj bound).symm⟩
    next => contradiction
  constructor
  · intro b member
    obtain ⟨l, _, bound⟩ := List.mem_filterMap.mp member
    obtain ⟨named, _, rfl⟩ := binding_eq bound
    exact named
  · intro b member
    obtain ⟨l, _, bound⟩ := List.mem_filterMap.mp member
    obtain ⟨_, room, rfl⟩ := binding_eq bound
    exact ⟨_, room, rfl⟩
  · rw [List.Nodup, List.pairwise_map, sectionNode, List.pairwise_filterMap]
    apply (pairwise_number_sectionLines first body).imp
    intro l m before b bound c alsoBound
    obtain ⟨_, _, rfl⟩ := binding_eq bound
    obtain ⟨_, _, rfl⟩ := binding_eq alsoBound
    simp only [ne_eq, Int.natCast_inj]
    exact Nat.ne_of_lt before

theorem wellBound_stateAfter (a : Assembler) (calls : List Call) :
    (a.stateAfter .start calls).node.WellBound := by
  obtain ⟨s, _, state⟩ := exists_stateAfter_eq_sectionState a calls
  rw [state]
  exact a.wellBound_sectionNode s.node.index s.node.line s.line (linesSinceDirective calls)

/-- Every program of a run is delivered by one of its calls. -/
theorem exists_of_mem_programs_events {a : Assembler} {calls : List Call} {p : Program}
    (delivered : p ∈ programs (a.events calls)) :
    ∃ before call after, calls = before ++ call :: after ∧
      p ∈ programs (a.perform (a.stateAfter .start before) call).events := by
  induction calls using List.reverseRecOn with
  | nil => contradiction
  | append_singleton calls call inductionHypothesis =>
      rw [events_eq_eventsFrom, eventsFrom_append, programs_append] at delivered
      rcases List.mem_append.mp delivered with earlier | now
      · obtain ⟨before, closing, after, rfl, member⟩ := inductionHypothesis earlier
        exact ⟨before, closing, after ++ [call], by simp, member⟩
      · exact ⟨calls, call, [], rfl, by simpa using now⟩

/-! ## Agreement -/

/-- Every place that gives a label its slot gives `slot` to `name`, for a program `p`
that was resolved from node `n`. -/
structure MeansSlot (n : Node) (p : Program) (name : Text) (slot : Nat) : Prop where
  document : ∀ value, (name, value) ∈ (NodeDocument.ofProgram p).labels ↔ value = slot
  lookup : n.lookup name = some slot
  jumps : ∀ i : Fin slotCount, 0 < (p.entries.get i).origin.line →
    (p.entries.get i).word.isJump → (p.entries.get i).jumpLabel = name →
      (p.entries.get i).word.target = slot
  unshadowed : ∃ winner : Binding, winner.slot = slot ∧
    ∀ b, (b ∈ p.bindings ∧ b.name = name ∧ ¬ Lint.Reported p b) ↔ b = winner
  listed : name ∈ p.labelsAt slot

theorem exists_meansSlot {n : Node} (wellBound : n.WellBound) {name : Text}
    (bound : ∃ b ∈ n.bindings, b.name = name) : ∃ slot, MeansSlot n n.program name slot := by
  have table := NodeDocument.tabulates_ofProgram n.program
  obtain ⟨slot, found, least⟩ := wellBound.exists_lookup bound
  obtain ⟨kept, listed⟩ := (table.keys name).mpr bound
  obtain ⟨winner, only, lowest⟩ := Lint.exists_winner (p := n.program) wellBound.lines bound
  obtain ⟨b, member, named, placed⟩ := least.1
  -- Lookup, document and lint each give a least bound slot, and there is only one.
  refine ⟨slot, ⟨?_, found, ?_, ⟨winner, ?_, only⟩, ?_⟩⟩
  · intro value
    constructor
    · intro entry
      exact (table.least name value entry).unique least
    · rintro rfl
      exact (table.least name kept listed).unique least ▸ listed
  · intro i _ _ label
    rw [Node.entries_program] at label ⊢
    exact Node.target_resolveSlot (named ▸ wellBound.named b member) found label
  · obtain ⟨entered, called, _⟩ := (only winner).mpr rfl
    apply Int.le_antisymm
    · exact placed ▸ lowest b member named
    · exact least.2 ⟨winner, entered, called, rfl⟩
  · exact List.mem_map.mpr ⟨b, List.mem_filter.mpr ⟨member, decide_eq_true placed⟩, named⟩

/-- In every delivered program a name is in the document exactly if it is bound, and
then document, resolution, jumps, lint and listing agree on its slot. -/
theorem label_slots_agree (a : Assembler) {calls : List Call} {p : Program}
    (delivered : p ∈ programs (a.events calls)) :
    ∃ before call after, calls = before ++ call :: after ∧
      p ∈ programs (a.perform (a.stateAfter .start before) call).events ∧
      p = (a.stateAfter .start before).node.resolve.value ∧
      ∀ name : Text,
        ((∃ slot, (name, slot) ∈ (NodeDocument.ofProgram p).labels) ↔
          ∃ b ∈ p.bindings, b.name = name) ∧
        ((∃ b ∈ p.bindings, b.name = name) →
          ∃ slot, MeansSlot (a.stateAfter .start before).node p name slot) := by
  obtain ⟨before, call, after, split, member⟩ := exists_of_mem_programs_events delivered
  have resolved := eq_of_mem_programs_perform member
  refine ⟨before, call, after, split, member, resolved, fun name => ⟨?_, ?_⟩⟩
  · exact (NodeDocument.tabulates_ofProgram p).keys name
  · intro bound
    rw [resolved] at bound ⊢
    exact exists_meansSlot (wellBound_stateAfter a before) bound

/-- A run that binds a label to slot fifteen, and behind the overflow to slots one
and two. -/
def lappedCalls : List Call :=
  .feed "@3" :: List.replicate 15 (.feed "NOP") ++
    [.feed "x: JMP x", .feed "NOP", .feed "x: JMP x", .feed "x:"]

theorem label_slots_agree_of_lapped :
    let p := ((⟨.node, .wrap⟩ : Assembler).stateAfter .start lappedCalls).node.program
    p ∈ programs ((⟨.node, .wrap⟩ : Assembler).events (lappedCalls ++ [.finish])) ∧
      p.bindings.map Binding.slot = [15, 1, 2] ∧
      ∃ n : Node, p = n.resolve.value ∧ MeansSlot n p "x" 1 := by
  intro p
  have delivered :
      p ∈ programs ((⟨.node, .wrap⟩ : Assembler).events (lappedCalls ++ [.finish])) := by
    decide +kernel
  have entry : (("x", 1) : Text × Int) ∈ (NodeDocument.ofProgram p).labels := by
    decide +kernel
  obtain ⟨before, _, _, _, _, resolved, agree⟩ := label_slots_agree ⟨.node, .wrap⟩ delivered
  obtain ⟨slot, means⟩ := (agree "x").2 ((agree "x").1.mp ⟨1, entry⟩)
  have first : slot = 1 := by
    have value := (means.document 1).mp entry
    omega
  exact ⟨delivered, by decide +kernel, _, resolved, first ▸ means⟩

end Assembler

end NodeAsm
