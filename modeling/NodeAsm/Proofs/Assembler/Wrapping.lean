import Mathlib.Order.Bounds.Defs
import NodeAsm.Proofs.Assembler.Causes
import NodeAsm.Proofs.Assembler.Section

/-!
# Sections that wrap around

Unless the assembler discards, the code lines of a section fill the sixteen slots
round and round. The program of a section of any length is given here in closed
form: each slot holds the last code line whose position is congruent to it, each
label names the position of the next code line modulo sixteen, and overflow is
reported at every positive multiple of sixteen.
-/

namespace NodeAsm

/-! ## Code lines by position -/

/-- The code lines of a section whose directive stands on line `first`. -/
def codeLines (first : Nat) (body : List Text) : List SectionLine :=
  (sectionLines first body).filter fun l => l.statement.isCode

theorem codeLines_concat (first : Nat) (body : List Text) (line : Text) :
    codeLines first (body ++ [line]) =
      codeLines first body ++
        if (Statement.read line).value.isCode then
          [⟨first + body.length + 1, codeCount body, Statement.read line⟩]
        else [] := by
  rw [codeLines, sectionLines_concat, List.filter_append, List.filter_cons, List.filter_nil]
  rfl

@[simp]
theorem length_codeLines (first : Nat) (body : List Text) :
    (codeLines first body).length = codeCount body := by
  induction body using List.reverseRecOn with
  | nil => rfl
  | append_singleton body line inductionHypothesis =>
      rw [codeLines_concat, codeCount_append, codeCount_singleton, List.length_append,
        inductionHypothesis]
      split <;> rfl

/-- A code line at position `k` has `k` code lines before it. -/
theorem zipIdx_codeLines (first : Nat) (body : List Text) :
    (codeLines first body).zipIdx = (codeLines first body).map fun c => (c, c.codeBefore) := by
  induction body using List.reverseRecOn with
  | nil => rfl
  | append_singleton body line inductionHypothesis =>
      rw [codeLines_concat, List.zipIdx_append, List.map_append, inductionHypothesis,
        length_codeLines]
      split
      · simp
      · rfl

namespace Assembler

/-! ## Slots -/

theorem slot?_eq_some_iff_of_ne_discard {policy : OverflowPolicy} (wraps : policy ≠ .discard)
    (l : SectionLine) (i : Fin slotCount) :
    l.slot? policy = some i ↔ l.statement.isCode ∧ l.codeBefore % slotCount = i := by
  unfold SectionLine.slot?
  split
  next code => simp [OverflowPolicy.slot?_of_ne_discard wraps, Fin.ext_iff, code]
  next other => simp [other]

/-- A slot past the last code line is idle. -/
theorem sectionSlot_of_codeCount_le {a : Assembler} (wraps : a.overflow ≠ .discard) (first : Nat)
    (body : List Text) {i : Fin slotCount} (unused : codeCount body ≤ i) :
    a.sectionSlot (sectionLines first body) i = Slot.idle := by
  induction body using List.reverseRecOn with
  | nil => rfl
  | append_singleton body line inductionHypothesis =>
      rw [codeCount_append, codeCount_singleton] at unused
      have other : ¬ SectionLine.slot? a.overflow
          ⟨first + body.length + 1, codeCount body, Statement.read line⟩ = some i := by
        rw [slot?_eq_some_iff_of_ne_discard wraps]
        rintro ⟨code, position⟩
        simp only [SectionLine.statement] at code position
        rw [if_pos code] at unused
        have bound := i.isLt
        rw [Nat.mod_eq_of_lt (by omega)] at position
        omega
      rw [sectionLines_concat, sectionSlot_concat, if_neg other]
      exact inductionHypothesis (by omega)

/-- A slot holds the last code line whose position is congruent to it. -/
theorem sectionSlot_of_isGreatest {a : Assembler} (wraps : a.overflow ≠ .discard) (first : Nat)
    (body : List Text) {i : Fin slotCount} {k : Nat}
    (greatest : IsGreatest {k | k < codeCount body ∧ k % slotCount = i} k) :
    ∃ c, (codeLines first body)[k]? = some c ∧
      a.sectionSlot (sectionLines first body) i = c.content a := by
  induction body using List.reverseRecOn with
  | nil => exact absurd greatest.1.1 (Nat.not_lt_zero k)
  | append_singleton body line inductionHypothesis =>
      rw [sectionLines_concat, sectionSlot_concat, codeLines_concat]
      rw [codeCount_append, codeCount_singleton] at greatest
      have member := greatest.1
      by_cases code : (Statement.read line).value.isCode
      · simp only [if_pos code] at greatest member ⊢
        by_cases last : codeCount body % slotCount = i
        · have position : k = codeCount body :=
            Nat.le_antisymm (by have := member.1; omega)
              (greatest.2 ⟨Nat.lt_succ_self _, last⟩)
          have filled := (slot?_eq_some_iff_of_ne_discard wraps
            ⟨first + body.length + 1, codeCount body, Statement.read line⟩ i).mpr ⟨code, last⟩
          rw [if_pos filled, position]
          refine ⟨_, ?_, rfl⟩
          rw [List.getElem?_append_right (by simp), length_codeLines, Nat.sub_self]
          rfl
        · have kept : ¬ SectionLine.slot? a.overflow
              ⟨first + body.length + 1, codeCount body, Statement.read line⟩ = some i := by
            rw [slot?_eq_some_iff_of_ne_discard wraps]
            exact fun filled => last filled.2
          have earlier : k < codeCount body := by
            have different : k ≠ codeCount body := fun equal => last (equal ▸ member.2)
            have bound := member.1
            omega
          obtain ⟨c, found, content⟩ := inductionHypothesis
            ⟨⟨earlier, member.2⟩, fun j other =>
              greatest.2 ⟨Nat.lt_succ_of_lt other.1, other.2⟩⟩
          rw [if_neg kept, List.getElem?_append_left (by simpa using earlier)]
          exact ⟨c, found, content⟩
      · have kept : ¬ SectionLine.slot? a.overflow
            ⟨first + body.length + 1, codeCount body, Statement.read line⟩ = some i := by
          rw [slot?_eq_some_iff_of_ne_discard wraps]
          exact fun filled => code filled.1
        simp only [if_neg code, Nat.add_zero, List.append_nil] at greatest ⊢
        rw [if_neg kept]
        exact inductionHypothesis greatest

/-- Below the number of code lines every slot has such a position. -/
theorem exists_isGreatest_position {n : Nat} {i : Fin slotCount} (used : i < n) :
    ∃ k, IsGreatest {k | k < n ∧ k % slotCount = i} k := by
  have bound := i.isLt
  refine ⟨i + 16 * ((n - 1 - i) / 16), ⟨?_, ?_⟩, ?_⟩
  · omega
  · simp only [slotCount] at bound ⊢
    omega
  · rintro j ⟨below, congruent⟩
    simp only [slotCount] at bound congruent
    omega

/-! ## Labels -/

theorem binding?_of_ne_discard {policy : OverflowPolicy} (wraps : policy ≠ .discard)
    (l : SectionLine) :
    l.binding? policy =
      if l.statement.label ≠ [] ∧ (l.codeBefore = 0 ∨ ¬ slotCount ∣ l.codeBefore) then
        some ⟨l.statement.label, ((l.codeBefore % slotCount : Nat) : Int), l.number⟩
      else none := by
  simp only [SectionLine.binding?, OverflowPolicy.counter_lt_iff_of_ne_discard wraps]
  split
  next bound =>
      have room := (OverflowPolicy.counter_lt_iff_of_ne_discard wraps l.codeBefore).mpr bound.2
      have position := (policy.of_room room).1
      simp only [OverflowPolicy.slot?_of_ne_discard wraps, Option.some.injEq,
        Fin.mk.injEq] at position
      rw [position]
  next => rfl

/-! ## Overflow -/

/-- A line reports too many lines if it is code at a positive multiple of the
number of slots. -/
theorem filter_tooManyLines_faults {a : Assembler} (wraps : a.overflow ≠ .discard)
    (number codeBefore : Nat) (line : Text) :
    ((⟨number, codeBefore, Statement.read line⟩ : SectionLine).faults a).filter
        (Fault.has .tooManyLines) =
      if (Statement.read line).value.isCode ∧ 0 < codeBefore ∧ slotCount ∣ codeBefore then
        [overflowFault "overwriting slot 0"]
      else [] := by
  simp only [SectionLine.faults, SectionLine.statement, List.filter_append,
    filter_tooManyLines_read, List.nil_append]
  by_cases code : (Statement.read line).value.isCode
  · simp only [SectionLine.placingFaults, SectionLine.encoded,
      OverflowPolicy.overflowFaults_of_ne_discard wraps,
      OverflowPolicy.slot?_of_ne_discard wraps, Option.isSome_some, if_true,
      List.filter_append, filter_tooManyLines_encode, List.append_nil, code, true_and]
    split
    · rfl
    · rfl
  · simp [code]

/-- The faults of too many lines in a section are those of the code lines at
positive multiples of the number of slots. -/
theorem filter_tooManyLines_sectionFaults {a : Assembler} (wraps : a.overflow ≠ .discard)
    (s : State) (body : List Text) :
    (a.sectionFaults s body).filter (Fault.has .tooManyLines) =
      ((codeLines s.line body).filter fun c => 0 < c.codeBefore ∧ slotCount ∣ c.codeBefore).map
        fun c => .located s.node.index c.number (overflowFault "overwriting slot 0") := by
  induction body using List.reverseRecOn with
  | nil => rfl
  | append_singleton body line inductionHypothesis =>
      rw [sectionFaults_concat, List.filter_append, inductionHypothesis, codeLines_concat,
        List.filter_append, List.map_append, Fault.filter_has_map_located, nextLine,
        filter_tooManyLines_faults wraps]
      congr 1
      by_cases code : (Statement.read line).value.isCode
      · by_cases due : 0 < codeCount body ∧ slotCount ∣ codeCount body
        · simp [code, due]
        · simp [code, due]
      · simp [code]

/-! ## The closed form -/

/-- `node` is what the lines `body` behind a directive on line `first` make of a
node under wrapping. -/
structure WrapsTo (a : Assembler) (first : Nat) (body : List Text) (node : Node) : Prop where
  /-- A slot past the last code line is idle. -/
  idle : ∀ i : Fin slotCount, (codeLines first body).length ≤ i →
    node.program.entries.get i = ⟨Word.idle, [], Origin.none⟩
  /-- Every other slot comes from the last code line whose position is congruent
  to it. -/
  code : ∀ i : Fin slotCount, i < (codeLines first body).length →
    ∃ k c, IsGreatest {k | k < (codeLines first body).length ∧ k % slotCount = i} k ∧
      (codeLines first body)[k]? = some c ∧
      (node.slots.get i).word = (c.encoded a).value ∧
      (node.program.entries.get i).origin = ⟨c.number, c.statement.raw⟩ ∧
      (node.program.entries.get i).jumpLabel =
        if (c.encoded a).value.isJump then c.statement.operand 0 else []
  /-- A label is bound to the position of the next code line, unless an overflow is
  due there. -/
  bindings : node.program.bindings = (sectionLines first body).filterMap fun l =>
    if l.statement.label ≠ [] ∧ (l.codeBefore = 0 ∨ ¬ slotCount ∣ l.codeBefore) then
      some ⟨l.statement.label, ((l.codeBefore % slotCount : Nat) : Int), l.number⟩
    else none

theorem resolveSlot_content (a : Assembler) (n : Node) (c : SectionLine) :
    (n.resolveSlot (c.content a)).origin = ⟨c.number, c.statement.raw⟩ ∧
      (n.resolveSlot (c.content a)).jumpLabel =
        (if (c.encoded a).value.isJump then c.statement.operand 0 else []) ∧
      (c.content a).word = (c.encoded a).value := by
  unfold SectionLine.content slotFor
  split
  · simp only [Node.resolveSlot]
    split <;> exact ⟨rfl, rfl, rfl⟩
  · exact ⟨rfl, rfl, rfl⟩

theorem wrapsTo_sectionNode {a : Assembler} (wraps : a.overflow ≠ .discard) (first : Nat)
    (body : List Text) (index line : Int) :
    a.WrapsTo first body (a.sectionNode index line (sectionLines first body)) where
  idle i unused := by
    have slot : (a.sectionNode index line (sectionLines first body)).slots.get i = Slot.idle := by
      rw [length_codeLines] at unused
      rw [slots_sectionNode]
      exact sectionSlot_of_codeCount_le wraps first body unused
    rw [Node.entries_program, slot]
    rfl
  code i used := by
    obtain ⟨k, greatest⟩ := exists_isGreatest_position used
    obtain ⟨c, found, content⟩ := sectionSlot_of_isGreatest wraps first body
      (by simpa using greatest)
    have slot : (a.sectionNode index line (sectionLines first body)).slots.get i = c.content a :=
      (slots_sectionNode a index line _ i).trans content
    have resolved := resolveSlot_content a
      (a.sectionNode index line (sectionLines first body)) c
    refine ⟨k, c, greatest, found, ?_⟩
    rw [Node.entries_program, slot]
    exact ⟨resolved.2.2, resolved.1, resolved.2.1⟩
  bindings := by
    simp only [Node.program, sectionNode]
    exact congrArg (List.filterMap · (sectionLines first body))
      (funext (binding?_of_ne_discard wraps))

/-- The program of a section under any policy but discarding, and the places of
its overflow faults. -/
theorem wrapped_section (a : Assembler) (wraps : a.overflow ≠ .discard) (calls : List Call)
    {directive : Text} (marked : Directive.Marked directive) {body : List Text}
    (plain : ∀ line ∈ body, ¬ Directive.Marked line) {closing : Call}
    (closes : closing.Closes) :
    ∃ node, (a.stateAfter .start (sectionCalls calls directive body)).node = node ∧
      programs (a.events (sectionCalls calls directive body ++ [closing])) =
        programs (a.events (sectionCalls calls directive body)) ++ [node.program] ∧
      a.WrapsTo ((fedLines calls).length + 1) body node ∧
      (faults (a.events (sectionCalls calls directive body ++ [closing]))).filter
          (Fault.has .tooManyLines) =
        (faults (a.events calls)).filter (Fault.has .tooManyLines) ++
          (((codeLines ((fedLines calls).length + 1) body).zipIdx.filter fun (_, k) =>
            0 < k ∧ slotCount ∣ k).map fun (c, _) =>
              .located node.index c.number (overflowFault "overwriting slot 0")) := by
  obtain ⟨index, read⟩ := (Directive.exists_read?_iff directive).mpr marked
  have state := stateAfter_sectionCalls a calls read plain
  have events := events_sectionCalls a calls read plain
  obtain ⟨fs, closingEvents, _⟩ := perform_of_closes a
    (a.stateAfter .start (sectionCalls calls directive body)) closes
  have opens : Call.Closes (.feed directive) := marked
  have whole : a.events (sectionCalls calls directive body ++ [closing]) =
      a.events (sectionCalls calls directive body) ++
        (a.perform (a.stateAfter .start (sectionCalls calls directive body)) closing).events := by
    rw [events_eq_eventsFrom, eventsFrom_append, eventsFrom_cons, eventsFrom_nil,
      List.append_nil]
    rfl
  refine ⟨_, rfl, ?_, ?_, ?_⟩
  · rw [whole, programs_append, closingEvents, programs_append, programs_map_fault,
      programs_completion, state]
    rfl
  · rw [state]
    exact wrapsTo_sectionNode wraps _ body _ _
  · rw [whole, faults_append, List.filter_append, filter_tooManyLines_of_closes a _ closes,
      List.append_nil, events, faults_append, faults_append, List.filter_append,
      List.filter_append, filter_tooManyLines_of_closes a _ opens,
      List.append_nil, faults_map_fault, filter_tooManyLines_sectionFaults wraps, state,
      zipIdx_codeLines, List.filter_map, List.map_map]
    rfl

/-- Eighteen code lines. The seventeenth overwrites slot zero and loses its label,
the eighteenth labels slot one. -/
def eighteenLines : List Text :=
  List.replicate 16 ("ADD 1" : Text) ++ [("x: JMP y" : Text), ("y: NEG" : Text)]

theorem wrapped_section_of_eighteen :
    ∃ node, ((⟨.node, .wrap⟩ : Assembler).stateAfter .start
          (sectionCalls [] "@3" eighteenLines)).node = node ∧
      programs ((⟨.node, .wrap⟩ : Assembler).events
          (sectionCalls [] "@3" eighteenLines ++ [.finish])) =
        programs ((⟨.node, .wrap⟩ : Assembler).events (sectionCalls [] "@3" eighteenLines)) ++
          [node.program] ∧
      (⟨.node, .wrap⟩ : Assembler).WrapsTo 1 eighteenLines node ∧
      (faults ((⟨.node, .wrap⟩ : Assembler).events
          (sectionCalls [] "@3" eighteenLines ++ [.finish]))).filter (Fault.has .tooManyLines) =
        [] ++ (((codeLines 1 eighteenLines).zipIdx.filter fun (_, k) =>
          0 < k ∧ slotCount ∣ k).map fun (c, _) =>
            .located node.index c.number (overflowFault "overwriting slot 0")) :=
  wrapped_section ⟨.node, .wrap⟩ (by decide) [] (by decide) (by decide) trivial

end Assembler

end NodeAsm
