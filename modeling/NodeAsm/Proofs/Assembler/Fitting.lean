import NodeAsm.Proofs.Assembler.Section
import NodeAsm.Proofs.Node.Resolution

/-!
# Sections that fit their node

A section with at most sixteen code lines fills its slots one after the other
under every overflow policy. Every code line then has a slot of its own, and a
label is bound exactly if it stands before the end of the last slot.
-/

namespace NodeAsm

namespace OverflowPolicy

/-- Up to the number of slots, the counter counts code lines. -/
theorem counter_of_le (policy : OverflowPolicy) {n : Nat} (fits : n ≤ slotCount) :
    policy.counter n = n := by
  by_cases discards : policy = discard
  · rw [discards, counter_discard, Nat.min_eq_left fits]
  · rw [counter_of_ne_discard discards]
    simp only [slotCount] at fits ⊢
    split <;> omega

theorem slot?_of_lt (policy : OverflowPolicy) {n : Nat} (room : n < slotCount) :
    policy.slot? n = some ⟨n, room⟩ := by
  have counted := policy.counter_of_le (Nat.le_of_lt room)
  have target := (policy.of_room (counted.symm ▸ room : policy.counter n < slotCount)).1
  simpa only [counted] using target

/-- The first overflow is that of the code line behind a full node. -/
theorem overflowFaults_eq_nil_iff (policy : OverflowPolicy) {n : Nat} (fits : n ≤ slotCount) :
    policy.overflowFaults n = [] ↔ n < slotCount := by
  by_cases discards : policy = discard
  · have due : n = slotCount ↔ ¬ n < slotCount := by omega
    rw [discards, overflowFaults_discard]
    by_cases room : n < slotCount <;> simp [due, room]
  · have due : (0 < n ∧ slotCount ∣ n) ↔ ¬ n < slotCount := by
      simp only [slotCount] at fits ⊢
      omega
    rw [overflowFaults_of_ne_discard discards]
    by_cases room : n < slotCount <;> simp [due, room]

end OverflowPolicy

/-! ## Lines by their place -/

/-- The lines of a section are its texts with what stands before them. -/
theorem mem_sectionLines_iff {first : Nat} {body : List Text} {l : SectionLine} :
    l ∈ sectionLines first body ↔
      ∃ before line after, body = before ++ line :: after ∧
        l = ⟨first + before.length + 1, codeCount before, Statement.read line⟩ := by
  rw [sectionLines, List.mem_mapIdx]
  constructor
  · rintro ⟨i, within, rfl⟩
    refine ⟨body.take i, body[i], body.drop (i + 1), ?_, ?_⟩
    · rw [List.getElem_cons_drop, List.take_append_drop]
    · rw [List.length_take_of_le (Nat.le_of_lt within)]
  · rintro ⟨before, line, after, rfl, rfl⟩
    exact ⟨before.length, by simp, by simp⟩

theorem codeBefore_lt_of_mem_sectionLines {first : Nat} {body : List Text} {l : SectionLine}
    (member : l ∈ sectionLines first body) (code : l.statement.isCode) :
    l.codeBefore < codeCount body := by
  obtain ⟨before, line, after, rfl, rfl⟩ := mem_sectionLines_iff.mp member
  simp only [SectionLine.statement] at code ⊢
  rw [List.append_cons, codeCount_append, codeCount_append, codeCount_singleton, if_pos code]
  omega

theorem codeBefore_le_of_mem_sectionLines {first : Nat} {body : List Text} {l : SectionLine}
    (member : l ∈ sectionLines first body) : l.codeBefore ≤ codeCount body := by
  obtain ⟨before, line, after, rfl, rfl⟩ := mem_sectionLines_iff.mp member
  rw [codeCount_append]
  exact Nat.le_add_right _ _

namespace Assembler

/-! ## Slots -/

theorem isCode_of_slot?_eq_some {policy : OverflowPolicy} {l : SectionLine} {i : Fin slotCount}
    (filled : l.slot? policy = some i) : l.statement.isCode := by
  by_contra plain
  simp [SectionLine.slot?, plain] at filled

/-- A slot without code is idle. -/
theorem sectionSlot_eq_idle_or (a : Assembler) (lines : List SectionLine) (i : Fin slotCount) :
    a.sectionSlot lines i = Slot.idle ∨
      ∃ l ∈ lines, l.statement.isCode ∧ a.sectionSlot lines i = l.content a := by
  unfold sectionSlot
  cases found : (lines.filter fun l => l.slot? a.overflow = some i).getLast? with
  | none => exact Or.inl rfl
  | some l =>
      obtain ⟨member, filled⟩ := List.mem_filter.mp (List.mem_of_getLast? found)
      exact Or.inr ⟨l, member, isCode_of_slot?_eq_some (of_decide_eq_true filled), rfl⟩

theorem slot?_eq_some_iff (policy : OverflowPolicy) {l : SectionLine}
    (room : l.codeBefore < slotCount) {i : Fin slotCount} :
    l.slot? policy = some i ↔ l.statement.isCode ∧ l.codeBefore = i := by
  rw [SectionLine.slot?, OverflowPolicy.slot?_of_lt policy room]
  by_cases code : l.statement.isCode <;> simp [code, Fin.ext_iff]

/-- In a section that fits, the code line behind `n` others has slot `n` for
itself. -/
theorem sectionSlot_of_mem {a : Assembler} {first : Nat} {body : List Text}
    (fits : codeCount body ≤ slotCount) {l : SectionLine} (member : l ∈ sectionLines first body)
    (code : l.statement.isCode) {i : Fin slotCount} (position : l.codeBefore = i) :
    a.sectionSlot (sectionLines first body) i = l.content a := by
  induction body using List.reverseRecOn with
  | nil => contradiction
  | append_singleton body line inductionHypothesis =>
      rw [sectionLines_concat] at member ⊢
      rw [sectionSlot_concat]
      rw [codeCount_append] at fits
      rcases List.mem_append.mp member with earlier | last
      · have before := codeBefore_lt_of_mem_sectionLines earlier code
        rw [if_neg]
        · exact inductionHypothesis (by omega) earlier
        · intro filled
          have lineCode : (Statement.read line).value.isCode := isCode_of_slot?_eq_some filled
          rw [codeCount_singleton, if_pos lineCode] at fits
          have room : codeCount body < slotCount := fits
          have same : codeCount body = i := ((slot?_eq_some_iff a.overflow room).mp filled).2
          omega
      · rw [List.mem_singleton] at last
        rw [← last, if_pos ((slot?_eq_some_iff a.overflow (position ▸ i.isLt)).mpr ⟨code, position⟩)]

end Assembler

/-! ## Labels -/

namespace Node

theorem undefinedLabels_eq_nil_iff (n : Node) :
    n.undefinedLabels = [] ↔ ∀ i : Fin slotCount, n.slotFault? (n.slots.get i) = none := by
  rw [undefinedLabels, List.filterMap_eq_nil_iff]
  constructor
  · intro clean i
    exact clean _ (Vector.mem_toList_iff.mpr (Vector.getElem_mem i.isLt))
  · intro clean s member
    obtain ⟨i, within, rfl⟩ := Vector.mem_iff_getElem.mp (Vector.mem_toList_iff.mp member)
    exact clean ⟨i, within⟩

end Node

namespace Assembler

/-- In a section that fits, a name leads to a line with this label, and to the slot
of the code that follows it. -/
theorem exists_of_lookup_sectionNode_eq_some {a : Assembler} {first : Nat} {body : List Text}
    (fits : codeCount body ≤ slotCount) {index line : Int} {name : Text} {slot : Nat}
    (found : (a.sectionNode index line (sectionLines first body)).lookup name = some slot) :
    name ≠ [] ∧ ∃ l ∈ sectionLines first body, l.statement.label = name ∧ l.codeBefore = slot := by
  obtain ⟨_, b, member, named, placed⟩ := Node.exists_of_lookup_eq_some found
  obtain ⟨l, lineMember, binding⟩ := List.mem_filterMap.mp member
  have counted := a.overflow.counter_of_le
    (Nat.le_trans (codeBefore_le_of_mem_sectionLines lineMember) fits)
  unfold SectionLine.binding? at binding
  split at binding
  · rename_i room
    cases binding
    rw [counted] at placed
    exact ⟨named ▸ room.1, l, lineMember, named, Int.ofNat_inj.mp placed⟩
  · contradiction

/-- In a section that fits, a name is bound exactly if it is the label of a line
before the end of the last slot. -/
theorem lookup_sectionNode_ne_none_iff (a : Assembler) {first : Nat} {body : List Text}
    (fits : codeCount body ≤ slotCount) (index line : Int) (name : Text) :
    (a.sectionNode index line (sectionLines first body)).lookup name ≠ none ↔
      name ≠ [] ∧ ∃ l ∈ sectionLines first body, l.statement.label = name ∧
        l.codeBefore < slotCount := by
  constructor
  · intro bound
    obtain ⟨slot, found⟩ := Option.ne_none_iff_exists'.mp bound
    obtain ⟨named, l, member, label, position⟩ := exists_of_lookup_sectionNode_eq_some fits found
    exact ⟨named, l, member, label, position ▸ (Node.exists_of_lookup_eq_some found).1⟩
  · rintro ⟨named, l, member, rfl, room⟩ unbound
    have counted := a.overflow.counter_of_le (Nat.le_of_lt room)
    have binding : l.binding? a.overflow =
        some ⟨l.statement.label, (l.codeBefore : Int), l.number⟩ := by
      rw [SectionLine.binding?, counted, if_pos ⟨named, room⟩]
    exact Node.ne_of_lookup_eq_none unbound (List.mem_filterMap.mpr ⟨l, member, binding⟩) rfl
      room rfl

theorem slotFault?_content_eq_none_iff (a : Assembler) (n : Node) (l : SectionLine) :
    n.slotFault? (l.content a) = none ↔
      ((l.encoded a).value.isJump → n.lookup (l.statement.operand 0) ≠ none) := by
  unfold SectionLine.content slotFor
  by_cases jump : (l.encoded a).value.isJump
  · simp only [jump, if_true, true_implies, Node.slotFault?]
    cases n.lookup (l.statement.operand 0) <;> simp
  · simp [jump, Node.slotFault?]

/-- In a section that fits, every label is defined exactly if every jump line has a
bound operand. -/
theorem undefinedLabels_sectionNode_eq_nil_iff (a : Assembler) {first : Nat} {body : List Text}
    (fits : codeCount body ≤ slotCount) (index line : Int) :
    (a.sectionNode index line (sectionLines first body)).undefinedLabels = [] ↔
      ∀ l ∈ sectionLines first body, l.statement.isCode → (l.encoded a).value.isJump →
        (a.sectionNode index line (sectionLines first body)).lookup (l.statement.operand 0) ≠
          none := by
  simp only [Node.undefinedLabels_eq_nil_iff, slots_sectionNode]
  constructor
  · intro defined l member code
    have room := Nat.lt_of_lt_of_le (codeBefore_lt_of_mem_sectionLines member code) fits
    have slot := sectionSlot_of_mem (a := a) fits member code (i := ⟨l.codeBefore, room⟩) rfl
    rw [← slotFault?_content_eq_none_iff, ← slot]
    exact defined ⟨l.codeBefore, room⟩
  · intro bound i
    rcases a.sectionSlot_eq_idle_or (sectionLines first body) i with idle | ⟨l, member, code, slot⟩
    · rw [idle]
      rfl
    · rw [slot, slotFault?_content_eq_none_iff]
      exact bound l member code

end Assembler

end NodeAsm
