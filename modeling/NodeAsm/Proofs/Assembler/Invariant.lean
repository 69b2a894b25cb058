import NodeAsm.Proofs.Assembler.Recompilation

/-!
# The invariant of the assembler

Between two calls the counter, the dropping of code, the labels and the slots of the
current node fit together, whatever calls came before: also behind an end that left a
stale node, and behind any number of overflows. Labels and slots are kept apart, since a
line may bind a label before its code is placed, and the two are told from the lines of
earlier calls by different counters in between.
-/

namespace NodeAsm

/-! ## Slots -/

/-- A slot is idle unless it came from a line, and waits for a label exactly if it then
holds a jump. -/
structure Slot.Sound (s : Slot) : Prop where
  idle : s.origin.line = 0 → s = Slot.idle
  pending : ∀ {word : Word} {label : Text} {origin : Origin},
    s = .pending word label origin → word.isJump
  final : ∀ {word : Word} {origin : Origin},
    s = .final word origin → origin.line ≠ 0 → ¬ word.isJump

namespace Slot

theorem sound_idle : Slot.idle.Sound where
  idle _ := rfl
  pending waits := by contradiction
  final same numbered := by
    cases same
    exact absurd rfl numbered

theorem sound_slotFor (word : Word) (label raw : Text) (line : Nat) :
    (Assembler.slotFor word label ⟨(line + 1 : Nat), raw⟩).Sound := by
  unfold Assembler.slotFor
  split
  next jump =>
      constructor
      · intro unnumbered
        simp only [origin] at unnumbered
        omega
      · intro _ _ _ same
        cases same
        exact jump
      · intro _ _ same
        contradiction
  next other =>
      constructor
      · intro unnumbered
        simp only [origin] at unnumbered
        omega
      · intro _ _ _ same
        contradiction
      · intro _ _ same _
        cases same
        exact other

@[simp]
theorem origin_slotFor (word : Word) (label : Text) (origin : Origin) :
    (Assembler.slotFor word label origin).origin = origin := by
  unfold Assembler.slotFor
  split <;> rfl

theorem word_slotFor (word : Word) (label : Text) (origin : Origin) :
    (Assembler.slotFor word label origin).word = word := by
  unfold Assembler.slotFor
  split <;> rfl

end Slot

/-! ## Nodes -/

namespace Node

/-- The labels of a node of which the lines up to `count` have been read. -/
structure LabelsWithin (count : Nat) (n : Node) : Prop where
  begun : n.line ≤ count
  named : ∀ b ∈ n.bindings, b.name ≠ []
  placed : ∀ b ∈ n.bindings, 0 ≤ b.slot ∧ b.slot < slotCount
  within : ∀ b ∈ n.bindings, n.line < b.line ∧ b.line ≤ count
  increasing : n.bindings.Pairwise fun b c => b.line < c.line

/-- The slots of a node of which the lines up to `count` have been read. -/
structure CodeWithin (count : Nat) (n : Node) : Prop where
  begun : n.line ≤ count
  sound : ∀ i : Fin slotCount, (n.slots.get i).Sound
  within : ∀ i : Fin slotCount, (n.slots.get i).origin.line ≠ 0 →
    n.line < (n.slots.get i).origin.line ∧ (n.slots.get i).origin.line ≤ count
  distinct : ∀ i j : Fin slotCount, i ≠ j → (n.slots.get i).origin.line ≠ 0 →
    (n.slots.get i).origin.line ≠ (n.slots.get j).origin.line

@[simp]
theorem line_bind (n : Node) (name : Text) (slot line : Int) :
    (n.bind name slot line).line = n.line := by
  unfold bind
  split <;> rfl

theorem slots_idle (index line : Int) (i : Fin slotCount) :
    (idle index line).slots.get i = Slot.idle :=
  Vector.getElem_replicate i.isLt

variable {count : Nat} {n : Node}

/-! ### Labels -/

theorem labelsWithin_idle (index : Int) {line : Int} (begun : line ≤ count) :
    (idle index line).LabelsWithin count where
  begun := begun
  named := by simp [idle]
  placed := by simp [idle]
  within := by simp [idle]
  increasing := .nil

theorem LabelsWithin.mono (labels : n.LabelsWithin count) : n.LabelsWithin (count + 1) where
  begun := by
    have begun := labels.begun
    omega
  named := labels.named
  placed := labels.placed
  within b member := by
    have within := labels.within b member
    omega
  increasing := labels.increasing

theorem LabelsWithin.store (labels : n.LabelsWithin count) (i : Fin slotCount) (s : Slot) :
    (n.store i s).LabelsWithin count :=
  ⟨labels.begun, labels.named, labels.placed, labels.within, labels.increasing⟩

/-- A label on the next line comes behind all others. -/
theorem LabelsWithin.bind (labels : n.LabelsWithin count) (name : Text) {slot : Nat}
    (room : slot < slotCount) : (n.bind name slot (count + 1 : Nat)).LabelsWithin (count + 1) := by
  by_cases unnamed : name = []
  · rw [unnamed, bind_nil]
    exact labels.mono
  · have bindings := bindings_bind n unnamed slot (count + 1 : Nat)
    have next : (count : Int) < (count + 1 : Nat) := by omega
    constructor
    · rw [line_bind]
      exact labels.mono.begun
    · rw [bindings, List.forall_mem_append, List.forall_mem_singleton]
      exact ⟨labels.named, unnamed⟩
    · rw [bindings, List.forall_mem_append, List.forall_mem_singleton]
      exact ⟨labels.placed, Int.natCast_nonneg slot, Int.ofNat_lt.mpr room⟩
    · rw [bindings, List.forall_mem_append, List.forall_mem_singleton, line_bind]
      exact ⟨labels.mono.within, Int.lt_of_le_of_lt labels.begun next, Int.le_refl _⟩
    · rw [bindings, List.pairwise_append]
      refine ⟨labels.increasing, List.pairwise_singleton _ _, ?_⟩
      intro b member c last
      rw [List.mem_singleton.mp last]
      exact Int.lt_of_le_of_lt (labels.within b member).2 next

/-! ### Code -/

theorem codeWithin_idle (index : Int) {line : Int} (begun : line ≤ count) :
    (idle index line).CodeWithin count where
  begun := begun
  sound i := slots_idle index line i ▸ Slot.sound_idle
  within i numbered := by
    rw [slots_idle] at numbered
    exact absurd rfl numbered
  distinct i j _ numbered := by
    rw [slots_idle] at numbered
    exact absurd rfl numbered

theorem CodeWithin.mono (code : n.CodeWithin count) : n.CodeWithin (count + 1) where
  begun := by
    have begun := code.begun
    omega
  sound := code.sound
  within i numbered := by
    have within := code.within i numbered
    omega
  distinct := code.distinct

theorem CodeWithin.bind (code : n.CodeWithin count) (name : Text) (slot line : Int) :
    (n.bind name slot line).CodeWithin count where
  begun := by
    rw [line_bind]
    exact code.begun
  sound i := by
    rw [slots_bind]
    exact code.sound i
  within i := by
    rw [slots_bind, line_bind]
    exact code.within i
  distinct i j := by
    rw [slots_bind]
    exact code.distinct i j

/-- Code on the next line takes a slot of its own, whatever stood there. -/
theorem CodeWithin.store (code : n.CodeWithin count) (i : Fin slotCount) (word : Word)
    (label raw : Text) :
    (n.store i (Assembler.slotFor word label ⟨(count + 1 : Nat), raw⟩)).CodeWithin (count + 1) := by
  have begun := code.begun
  have line : (Assembler.slotFor word label ⟨(count + 1 : Nat), raw⟩).origin.line =
      (count + 1 : Nat) := by
    rw [Slot.origin_slotFor]
  have earlier (j : Fin slotCount) : (n.slots.get j).origin.line ≤ count := by
    by_cases numbered : (n.slots.get j).origin.line = 0
    · omega
    · exact (code.within j numbered).2
  constructor
  · exact code.mono.begun
  · intro j
    rw [get_slots_store]
    split
    · exact Slot.sound_slotFor word label raw count
    · exact code.sound j
  · intro j
    rw [get_slots_store]
    split
    · intro _
      rw [line]
      change n.line < _ ∧ _
      omega
    · exact code.mono.within j
  · intro j k other
    rw [get_slots_store, get_slots_store]
    split
    · rename_i here
      have elsewhere : i ≠ k := here ▸ other
      have last := earlier k
      rw [if_neg elsewhere, line]
      omega
    · split
      · have last := earlier j
        rw [line]
        omega
      · exact code.distinct j k other

end Node

/-! ## States -/

namespace Assembler

/-- The parts of a state fit together. -/
structure State.Consistent (policy : OverflowPolicy) (s : State) : Prop where
  slot : s.slot ≤ slotCount
  discarding : s.discarding → policy = .discard ∧ s.slot = slotCount
  labels : s.node.LabelsWithin s.line
  code : s.node.CodeWithin s.line

theorem consistent_start (policy : OverflowPolicy) : State.start.Consistent policy where
  slot := Nat.zero_le _
  discarding dropped := by contradiction
  labels := Node.labelsWithin_idle 0 (Int.le_refl 0)
  code := Node.codeWithin_idle 0 (Int.le_refl 0)

/-- Within a line: its number is counted and its label is bound, and its code is not
placed yet. -/
structure State.Midway (policy : OverflowPolicy) (count : Nat) (s : State) : Prop where
  line : s.line = count + 1
  slot : s.slot ≤ slotCount
  discarding : s.discarding → policy = .discard ∧ s.slot = slotCount
  labels : s.node.LabelsWithin (count + 1)
  code : s.node.CodeWithin count

variable {a : Assembler} {policy : OverflowPolicy} {s : State}

theorem State.Consistent.bindLabel (consistent : s.Consistent policy) (label : Text) :
    (bindLabel { s with line := s.line + 1 } label).Midway policy s.line := by
  unfold Assembler.bindLabel
  split
  next room =>
      exact ⟨rfl, consistent.slot, consistent.discarding, consistent.labels.bind label room,
        consistent.code.bind label _ _⟩
  next =>
      exact ⟨rfl, consistent.slot, consistent.discarding, consistent.labels.mono, consistent.code⟩

/-- A line without code is complete once its label is bound. -/
theorem State.Midway.consistent {count : Nat} (midway : s.Midway policy count) :
    s.Consistent policy where
  slot := midway.slot
  discarding := midway.discarding
  labels := midway.line ▸ midway.labels
  code := midway.line ▸ midway.code.mono

theorem State.Midway.fill {count : Nat} (midway : s.Midway policy count)
    (keeping : s.discarding = false) (statement : Statement) (i : Fin slotCount) :
    (a.fill s statement i).state.Consistent policy := by
  have line := midway.line
  constructor
  · exact i.isLt
  · intro dropped
    rw [Assembler.fill, keeping] at dropped
    contradiction
  · simp only [Assembler.fill, line]
    exact midway.labels.store i _
  · simp only [Assembler.fill, line]
    exact midway.code.store i _ _ _

/-- Placing code completes a line under every policy. -/
theorem State.Midway.place {count : Nat} (midway : s.Midway a.overflow count)
    (statement : Statement) : (a.place s statement).state.Consistent a.overflow := by
  rcases a.place_cases s statement with
    ⟨room, placed⟩ | ⟨_, _, _, placed⟩ | ⟨full, policy, _, placed⟩ | ⟨_, policy, placed⟩
  · have keeping : s.discarding = false := by
      by_contra dropped
      have exhausted := (midway.discarding (Bool.eq_true_of_not_eq_false dropped)).2
      omega
    rw [placed]
    exact midway.fill keeping statement _
  · rw [placed]
    exact midway.consistent
  · have still := midway.consistent
    have exhausted : s.slot = slotCount := Nat.le_antisymm midway.slot (Nat.le_of_not_lt full)
    rw [placed]
    exact ⟨still.slot, fun _ => ⟨policy, exhausted⟩, still.labels, still.code⟩
  · have keeping : s.discarding = false := by
      by_contra dropped
      exact policy (midway.discarding (Bool.eq_true_of_not_eq_false dropped)).1
    rw [placed]
    exact midway.fill keeping statement _

theorem consistent_sectionStart (policy : OverflowPolicy) (index : Checked Nat) (line : Nat) :
    (sectionStart index line).Consistent policy where
  slot := Nat.zero_le _
  discarding dropped := by contradiction
  labels := Node.labelsWithin_idle _ (Int.le_refl _)
  code := Node.codeWithin_idle _ (Int.le_refl _)

/-- Every call keeps the parts of a state fitting. -/
theorem State.Consistent.perform (consistent : s.Consistent a.overflow) (call : Call) :
    (a.perform s call).state.Consistent a.overflow := by
  cases call with
  | finish =>
      exact ⟨consistent.slot, consistent.discarding, consistent.labels, consistent.code⟩
  | feed line =>
      by_cases marked : Directive.Marked line
      · obtain ⟨index, read⟩ := (Directive.exists_read?_iff line).mpr marked
        rw [(perform_feed_of_read?_eq_some a s read).2]
        exact consistent_sectionStart a.overflow index _
      · rw [Assembler.perform, feed_of_not_marked a s marked]
        have midway := consistent.bindLabel (Statement.read line).value.label
        simp only [feedStatement]
        split
        · exact midway.place _
        · exact midway.consistent

theorem State.Consistent.stateAfter (consistent : s.Consistent a.overflow) (calls : List Call) :
    (a.stateAfter s calls).Consistent a.overflow := by
  induction calls generalizing s with
  | nil => exact consistent
  | cons call calls inductionHypothesis => exact inductionHypothesis (consistent.perform call)

/-! ## Writes -/

/-- What a call does to the slots of the current node: nothing, or the node is new, or one
slot is written. The slot it tells of is the one written, and a slot of the node. -/
structure WritesWithin (before : State) (step : Step) : Prop where
  told : ∀ {node : Int} {slot : Nat} {word : Word}, .encoded node slot word ∈ step.notes →
    ∃ i : Fin slotCount, slot = i ∧ (step.state.node.slots.get i).word = word
  written : step.state.node.slots = before.node.slots ∨
    (∃ index line, step.state.node = Node.idle index line) ∨
    ∃ (i : Fin slotCount) (content : Slot),
      step.state.node.slots = before.node.slots.set i content i.isLt ∧ step.state.slot = i + 1 ∧
        .encoded before.node.index i content.word ∈ step.notes

/-- Nothing is written where the slots stay and no note tells of one. -/
theorem writesWithin_of_slots_eq {step : Step} (same : step.state.node.slots = s.node.slots)
    (silent : ∀ node slot word, .encoded node slot word ∉ step.notes) : WritesWithin s step where
  told member := absurd member (silent _ _ _)
  written := Or.inl same

theorem writesWithin_fill (a : Assembler) (s : State) (statement : Statement) (i : Fin slotCount) :
    WritesWithin s (a.fill s statement i) := by
  constructor
  · intro node slot word member
    cases List.mem_singleton.mp member
    refine ⟨i, rfl, ?_⟩
    simp only [fill, Node.get_slots_store, if_true, Slot.word_slotFor]
  · refine Or.inr (Or.inr ⟨i, _, rfl, rfl, ?_⟩)
    rw [Slot.word_slotFor]
    exact List.mem_singleton_self _

theorem writesWithin_place (a : Assembler) (s : State) (statement : Statement) :
    WritesWithin s (a.place s statement) := by
  rcases a.place_cases s statement with
    ⟨_, placed⟩ | ⟨_, _, _, placed⟩ | ⟨_, _, _, placed⟩ | ⟨_, _, placed⟩
  · rw [placed]
    exact writesWithin_fill a s statement _
  · rw [placed]
    exact writesWithin_of_slots_eq rfl (by simp)
  · rw [placed]
    exact writesWithin_of_slots_eq rfl (by simp)
  · have filled := writesWithin_fill a s statement ⟨0, by decide⟩
    rw [placed]
    exact ⟨filled.told, filled.written⟩

theorem slots_bindLabel (s : State) (label : Text) :
    (bindLabel s label).node.slots = s.node.slots := by
  unfold bindLabel
  split
  · exact Node.slots_bind _ _ _ _
  · rfl

theorem writesWithin_feedStatement (a : Assembler) (s : State) (statement : Checked Statement) :
    WritesWithin s (a.feedStatement s statement) := by
  have slots := slots_bindLabel s statement.value.label
  have index := index_bindLabel s statement.value.label
  unfold feedStatement
  simp only
  split
  · have placed := writesWithin_place a (bindLabel s statement.value.label) statement.value
    rcases placed with ⟨told, written⟩
    rw [slots, index] at written
    constructor
    · intro node slot word member
      rcases List.mem_cons.mp member with same | member
      · contradiction
      · exact told member
    · rcases written with same | new | ⟨i, content, stored, next, member⟩
      · exact Or.inl same
      · exact Or.inr (Or.inl new)
      · exact Or.inr (Or.inr ⟨i, content, stored, next, List.mem_cons_of_mem _ member⟩)
  · exact writesWithin_of_slots_eq slots (by simp)

/-- Every write goes to a slot of the node. -/
theorem writesWithin_perform (a : Assembler) (s : State) (call : Call) :
    WritesWithin s (a.perform s call) := by
  cases call with
  | finish => exact writesWithin_of_slots_eq rfl (by simp [perform, finish])
  | feed line =>
      by_cases marked : Directive.Marked line
      · obtain ⟨index, read⟩ := (Directive.exists_read?_iff line).mpr marked
        constructor
        · intro node slot word member
          rw [perform, feed_of_read?_eq_some a s read] at member
          simp [feedDirective] at member
        · refine Or.inr (Or.inl ⟨index.value, (s.line + 1 : Nat), ?_⟩)
          rw [(perform_feed_of_read?_eq_some a s read).2]
          rfl
      · rw [perform, feed_of_not_marked a s marked]
        have fed := writesWithin_feedStatement a { s with line := s.line + 1 } (Statement.read line)
        exact ⟨fed.told, fed.written⟩

/-! ## Reachable states -/

/-- The words of jumps before they have a target. -/
def jumpWords : List Word :=
  [0xC000#16, 0xC400#16, 0xC800#16, 0xCC00#16, 0xD000#16]

theorem mem_jumpWords_of_emits {word : Word} {label : Text} {origin : Origin}
    (emits : (Slot.pending word label origin).Emits) : word ∈ jumpWords ∧ word.target = 0 := by
  have all : ∀ op ∈ InstructionSet.nodeOpcodes, op.kind = .jump →
      op.base ∈ jumpWords ∧ op.base.target = 0 := by decide
  obtain ⟨op, member, jump, rfl⟩ := emits
  exact all op member jump

/-- After any calls the parts of the state fit together, the next call writes within the
node, and with the instructions of a node every jump that waits is a jump word without
target. -/
theorem reachable_state (a : Assembler) (calls : List Call) :
    (a.stateAfter .start calls).Consistent a.overflow ∧
      (∀ call : Call, WritesWithin (a.stateAfter .start calls)
        (a.perform (a.stateAfter .start calls) call)) ∧
      (a.isa = .node → ∀ (i : Fin slotCount) (word : Word) (label : Text) (origin : Origin),
        (a.stateAfter .start calls).node.slots.get i = .pending word label origin →
          word ∈ jumpWords ∧ word.target = 0) := by
  constructor
  · exact (consistent_start a.overflow).stateAfter calls
  · constructor
    · intro call
      exact writesWithin_perform a _ call
    · intro isa i word label origin pending
      rcases a with ⟨_, policy⟩
      subst isa
      have start : State.start.node.Emits := Node.emits_idle (by decide) 0
      have emits := ((emits_invariant policy).stateAfter start calls).slots i
      rw [pending] at emits
      exact mem_jumpWords_of_emits emits

/-- A run that labels and fills a node, drops code behind it, and goes on behind the
end. -/
def droppingCalls : List Call :=
  .feed "@3" :: .feed "x: JLZ x" :: List.replicate 17 (.feed "y: NOP") ++
    [.finish, .feed "z: JMP z"]

/-- The state behind it. -/
def droppingState : State :=
  (⟨.node, .discard⟩ : Assembler).stateAfter .start droppingCalls

theorem reachable_state_of_dropping :
    droppingState.discarding ∧ droppingState.slot = slotCount ∧
      droppingState.node.bindings.length = 16 ∧
      droppingState.node.bindings.Pairwise (fun b c => b.line < c.line) ∧
      droppingState.node.slots.get ⟨0, by decide⟩ = .pending 0xD000#16 "x" ⟨2, "x: JLZ x"⟩ ∧
      (0xD000#16 : Word) ∈ jumpWords := by
  have dropped : droppingState.discarding := by decide +kernel
  have count : droppingState.node.bindings.length = 16 := by decide +kernel
  have pending : droppingState.node.slots.get ⟨0, by decide⟩ =
      .pending 0xD000#16 "x" ⟨2, "x: JLZ x"⟩ := by
    decide +kernel
  have reachable := reachable_state ⟨.node, .discard⟩ droppingCalls
  rw [← droppingState] at reachable
  obtain ⟨consistent, _, jumps⟩ := reachable
  exact ⟨dropped, (consistent.discarding dropped).2, count, consistent.labels.increasing, pending,
    (jumps rfl _ _ _ _ pending).1⟩

end Assembler

end NodeAsm
