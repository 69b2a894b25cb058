import NodeAsm.Proofs.Assembler.Language
import NodeAsm.Proofs.Assembler.Wrapping

/-!
# Sections that are cut off

Under discarding, a node keeps the first sixteen code lines of its section. The
lines behind them leave no trace in the program and in its undefined labels: such a
section delivers what the section cut behind its sixteenth code line delivers. They
still report their superfluous words, and the first code line among them reports
that code is dropped.

Where every section fits its node, nothing is dropped and nothing overwritten, and
any two overflow policies deliver the same events.
-/

namespace NodeAsm

/-! ## The lines that are kept -/

/-- The lines up to the code line that takes the last of `room` slots, and all
lines if there are fewer code lines. -/
def keptLines : Nat → List Text → List Text
  | 0, _ => []
  | _ + 1, [] => []
  | room + 1, line :: body =>
      line :: keptLines (if (Statement.read line).value.isCode then room else room + 1) body

/-- The lines behind the kept ones. -/
def droppedLines (room : Nat) (body : List Text) : List Text :=
  body.drop (keptLines room body).length

theorem isPrefix_keptLines (room : Nat) (body : List Text) : keptLines room body <+: body := by
  induction body generalizing room with
  | nil => cases room <;> exact List.nil_prefix
  | cons line body inductionHypothesis =>
      cases room with
      | zero => exact List.nil_prefix
      | succ room => exact (List.prefix_cons_inj line).mpr (inductionHypothesis _)

theorem keptLines_append_droppedLines (room : Nat) (body : List Text) :
    keptLines room body ++ droppedLines room body = body :=
  List.prefix_iff_eq_append.mp (isPrefix_keptLines room body)

/-- Either all lines are kept, or the kept ones fill the room. -/
theorem keptLines_eq_or_full (room : Nat) (body : List Text) :
    (keptLines room body = body ∧ codeCount body ≤ room) ∨
      codeCount (keptLines room body) = room := by
  induction body generalizing room with
  | nil => exact Or.inl ⟨by cases room <;> rfl, Nat.zero_le room⟩
  | cons line body inductionHypothesis =>
      cases room with
      | zero => exact Or.inr rfl
      | succ room =>
          have count (rest : List Text) : codeCount (line :: rest) =
              (if (Statement.read line).value.isCode then 1 else 0) + codeCount rest := by
            rw [← codeCount_singleton, ← codeCount_append]
            rfl
          rw [keptLines, count, count]
          by_cases code : (Statement.read line).value.isCode
          · rw [if_pos code, if_pos code, Nat.add_comm 1, Nat.add_comm 1]
            rcases inductionHypothesis room with ⟨all, fits⟩ | full
            · exact Or.inl ⟨congrArg (line :: ·) all, Nat.succ_le_succ fits⟩
            · exact Or.inr (congrArg (· + 1) full)
          · rw [if_neg code, if_neg code, Nat.zero_add, Nat.zero_add]
            rcases inductionHypothesis (room + 1) with ⟨all, fits⟩ | full
            · exact Or.inl ⟨congrArg (line :: ·) all, fits⟩
            · exact Or.inr full

namespace Assembler

open Grammar Statement

/-! ## Lines that find their node full -/

section Full

variable {a : Assembler} {l : SectionLine}

theorem slot?_eq_none_of_full (policy : a.overflow = .discard) (full : slotCount ≤ l.codeBefore) :
    l.slot? a.overflow = none := by
  rw [SectionLine.slot?, policy, OverflowPolicy.slot?_discard, dif_neg (Nat.not_lt.mpr full),
    ite_self]

theorem binding?_eq_none_of_full (policy : a.overflow = .discard)
    (full : slotCount ≤ l.codeBefore) : l.binding? a.overflow = none := by
  rw [SectionLine.binding?, policy, OverflowPolicy.counter_discard, Nat.min_eq_right full]
  exact if_neg fun bound => Nat.lt_irrefl slotCount bound.2

end Full

theorem le_codeCount_append {kept : List Text} (full : slotCount ≤ codeCount kept)
    (dropped : List Text) : slotCount ≤ codeCount (kept ++ dropped) := by
  rw [codeCount_append]
  exact Nat.le_add_right_of_le full

/-- Lines behind a full node leave it as it is. -/
theorem sectionNode_append_of_full {a : Assembler} (policy : a.overflow = .discard) (first : Nat)
    {kept : List Text} (full : slotCount ≤ codeCount kept) (dropped : List Text)
    (index line : Int) :
    a.sectionNode index line (sectionLines first (kept ++ dropped)) =
      a.sectionNode index line (sectionLines first kept) := by
  induction dropped using List.reverseRecOn with
  | nil => rw [List.append_nil]
  | append_singleton dropped text inductionHypothesis =>
      have behind := le_codeCount_append full dropped
      rw [← List.append_assoc, sectionLines_concat, sectionNode_concat,
        slot?_eq_none_of_full policy behind, binding?_eq_none_of_full policy behind]
      simp only [Option.toList_none, List.append_nil]
      exact inductionHypothesis

/-! ## What one dropped line reports -/

/-- The faults of a line behind a full node: its superfluous words, and that code is
dropped if it is the first code line there. -/
def droppingFaults (codeBefore : Nat) (line : Text) : List Fault :=
  (Statement.read line).faults ++
    if (Statement.read line).value.isCode ∧ codeBefore = slotCount then
      [overflowFault "dropping code from here on"]
    else []

theorem faults_of_full {a : Assembler} (policy : a.overflow = .discard) (number : Nat)
    {codeBefore : Nat} (full : slotCount ≤ codeBefore) (line : Text) :
    (⟨number, codeBefore, Statement.read line⟩ : SectionLine).faults a =
      droppingFaults codeBefore line := by
  simp only [SectionLine.faults, SectionLine.placingFaults, SectionLine.statement, policy,
    OverflowPolicy.slot?_discard, dif_neg (Nat.not_lt.mpr full),
    OverflowPolicy.overflowFaults_discard, droppingFaults]
  by_cases code : (Statement.read line).value.isCode
  · simp [code]
  · simp [code]

theorem filter_tooManyLines_droppingFaults (codeBefore : Nat) (line : Text) :
    (droppingFaults codeBefore line).filter (Fault.has .tooManyLines) =
      if (Statement.read line).value.isCode ∧ codeBefore = slotCount then
        [overflowFault "dropping code from here on"]
      else [] := by
  rw [droppingFaults, List.filter_append, filter_tooManyLines_read, List.nil_append]
  split
  · rfl
  · rfl

theorem filter_tooManyArguments_droppingFaults (codeBefore : Nat) (line : Text) :
    (droppingFaults codeBefore line).filter (Fault.has .tooManyArguments) =
      if 3 < (wordsOf line).length then [.tooManyArguments ((wordsOf line).drop 3)] else [] := by
  have overflow : (if (Statement.read line).value.isCode ∧ codeBefore = slotCount then
      [overflowFault "dropping code from here on"] else []).filter
        (Fault.has .tooManyArguments) = [] := by
    split
    · rfl
    · rfl
  rw [droppingFaults, List.filter_append, overflow, List.append_nil, faults_read]
  by_cases short : (wordsOf line).length ≤ maxWords
  · have few : ¬ 3 < (wordsOf line).length := Nat.not_lt.mpr short
    rw [if_pos short, if_neg few]
    rfl
  · have many : 3 < (wordsOf line).length := Nat.not_le.mp short
    rw [if_neg short, if_pos many]
    rfl

theorem eq_of_mem_droppingFaults {codeBefore : Nat} {line : Text} {f : Fault}
    (member : f ∈ droppingFaults codeBefore line) :
    (∃ extra, f = .tooManyArguments extra) ∨ f = overflowFault "dropping code from here on" := by
  rcases List.mem_append.mp member with words | overflow
  · exact Or.inl (Statement.exists_of_mem_faults_read words)
  · split at overflow
    · exact Or.inr (List.mem_singleton.mp overflow)
    · contradiction

/-! ## What all dropped lines report -/

/-- The faults `fs` of the lines `dropped` that follow line `last`. They are the end
of `body`, the section behind a directive on line `first`. -/
structure DropReport (index : Int) (first : Nat) (body : List Text) (last : Nat)
    (dropped : List Text) (fs : List Fault) : Prop where
  /-- The code line that finds the node full first reports it, and no other. -/
  overflow : fs.filter (Fault.has .tooManyLines) =
    (codeLines first body)[slotCount]?.toList.map fun c =>
      .located index c.number (overflowFault "dropping code from here on")
  /-- Each line with more than three words reports those that follow. -/
  words : fs.filter (Fault.has .tooManyArguments) =
    ((dropped.zipIdx (last + 1)).filter fun l => 3 < (wordsOf l.1).length).map
      fun l => .located index l.2 (.tooManyArguments ((wordsOf l.1).drop 3))
  /-- Nothing else is reported. -/
  only : ∀ f ∈ fs, f.has .tooManyLines ∨ f.has .tooManyArguments
  /-- Mnemonics and operands are not looked at. -/
  unread : ∀ f ∈ fs, ∀ cause ∈ [Cause.unknownOpcode, .unknownRegister, .literalRange],
    f.has cause = false

/-- The code line at position `slotCount` is the first code line behind a full
node. -/
theorem getElem?_codeLines_concat (first : Nat) {body : List Text}
    (full : slotCount ≤ codeCount body) (line : Text) :
    (codeLines first (body ++ [line]))[slotCount]?.toList =
      (codeLines first body)[slotCount]?.toList ++
        if (Statement.read line).value.isCode ∧ codeCount body = slotCount then
          [⟨first + body.length + 1, codeCount body, Statement.read line⟩]
        else [] := by
  rw [codeLines_concat]
  rcases Nat.lt_or_eq_of_le full with past | here
  · have within : slotCount < (codeLines first body).length := by
      rw [length_codeLines]
      exact past
    rw [List.getElem?_append_left within, if_neg fun due => Nat.ne_of_gt past due.2,
      List.append_nil]
  · have size : (codeLines first body).length = slotCount := by
      rw [length_codeLines]
      exact here.symm
    have none : (codeLines first body)[slotCount]? = none :=
      List.getElem?_eq_none (Nat.le_of_eq size)
    rw [none, List.getElem?_append_right (Nat.le_of_eq size), size, Nat.sub_self]
    by_cases code : (Statement.read line).value.isCode
    · simp [code, here.symm]
    · simp [code]

theorem dropReport_nil (index : Int) (first last : Nat) {body : List Text}
    (fits : codeCount body ≤ slotCount) : DropReport index first body last [] [] where
  overflow := by
    have none : (codeLines first body)[slotCount]? = none := by
      apply List.getElem?_eq_none
      rw [length_codeLines]
      exact fits
    rw [none]
    rfl
  words := rfl
  only := by simp
  unread := by simp

/-- One more dropped line. -/
theorem DropReport.concat {index : Int} {first : Nat} {kept dropped : List Text} {fs : List Fault}
    (full : slotCount ≤ codeCount kept)
    (earlier : DropReport index first (kept ++ dropped) (first + kept.length) dropped fs)
    (line : Text) :
    DropReport index first (kept ++ dropped ++ [line]) (first + kept.length) (dropped ++ [line])
      (fs ++ (droppingFaults (codeCount (kept ++ dropped)) line).map
        (Fault.located index (first + (kept ++ dropped).length + 1 : Nat))) where
  overflow := by
    rw [List.filter_append, earlier.overflow,
      getElem?_codeLines_concat first (le_codeCount_append full dropped), List.map_append,
      Fault.filter_has_map_located, filter_tooManyLines_droppingFaults]
    congr 1
    split
    · rfl
    · rfl
  words := by
    have number : first + kept.length + 1 + dropped.length =
        first + (kept ++ dropped).length + 1 := by
      rw [List.length_append]
      omega
    rw [List.filter_append, earlier.words, Fault.filter_has_map_located,
      filter_tooManyArguments_droppingFaults, List.zipIdx_append, List.filter_append,
      List.map_append, number]
    congr 1
    by_cases many : 3 < (wordsOf line).length
    · simp [many]
    · simp [many]
  only f member := by
    rcases List.mem_append.mp member with old | new
    · exact earlier.only f old
    · obtain ⟨inner, innerMember, rfl⟩ := List.mem_map.mp new
      rcases eq_of_mem_droppingFaults innerMember with ⟨extra, rfl⟩ | rfl
      · exact Or.inr rfl
      · exact Or.inl rfl
  unread f member := by
    rcases List.mem_append.mp member with old | new
    · exact earlier.unread f old
    · obtain ⟨inner, innerMember, rfl⟩ := List.mem_map.mp new
      rcases eq_of_mem_droppingFaults innerMember with ⟨extra, rfl⟩ | rfl
      · simp [Fault.has, Fault.tooManyArguments]
      · simp [Fault.has, overflowFault]

/-- The faults of a section whose kept lines fill the node. -/
theorem exists_dropReport {a : Assembler} (policy : a.overflow = .discard) (s : State)
    {kept : List Text} (full : codeCount kept = slotCount) (dropped : List Text) :
    ∃ fs, a.sectionFaults s (kept ++ dropped) = a.sectionFaults s kept ++ fs ∧
      DropReport s.node.index s.line (kept ++ dropped) (s.line + kept.length) dropped fs := by
  induction dropped using List.reverseRecOn with
  | nil =>
      refine ⟨[], ?_, ?_⟩
      · rw [List.append_nil, List.append_nil]
      · rw [List.append_nil]
        exact dropReport_nil _ _ _ (Nat.le_of_eq full)
  | append_singleton dropped line inductionHypothesis =>
      obtain ⟨fs, faults, report⟩ := inductionHypothesis
      have kept := Nat.le_of_eq full.symm
      refine ⟨_, ?_, List.append_assoc _ _ _ ▸ report.concat kept line⟩
      rw [← List.append_assoc, sectionFaults_concat, faults, nextLine,
        faults_of_full policy _ (le_codeCount_append kept dropped), List.append_assoc]

/-! ## Sections that fit under any policy -/

section Policies

variable (isa : InstructionSet) (policy other : OverflowPolicy)

/-- A line that finds room, if it is code, is treated alike under any two policies. -/
theorem sectionLine_congr {l : SectionLine} (fits : l.codeBefore ≤ slotCount)
    (room : l.statement.isCode → l.codeBefore < slotCount) :
    l.slot? policy = l.slot? other ∧ l.binding? policy = l.binding? other ∧
      l.faults ⟨isa, policy⟩ = l.faults ⟨isa, other⟩ := by
  refine ⟨?_, ?_, ?_⟩
  · by_cases code : l.statement.isCode
    · simp only [SectionLine.slot?, OverflowPolicy.slot?_of_lt _ (room code)]
    · simp only [SectionLine.slot?, code, Bool.false_eq_true, if_false]
  · simp only [SectionLine.binding?, OverflowPolicy.counter_of_le _ fits]
  · by_cases code : l.statement.isCode
    · have none (p : OverflowPolicy) : p.overflowFaults l.codeBefore = [] :=
        (p.overflowFaults_eq_nil_iff fits).mpr (room code)
      simp only [SectionLine.faults, SectionLine.placingFaults, none,
        OverflowPolicy.slot?_of_lt _ (room code)]
      rfl
    · simp only [SectionLine.faults, code, Bool.false_eq_true, if_false]

theorem sectionLine_congr_of_mem {first : Nat} {body : List Text}
    (fits : codeCount body ≤ slotCount) {l : SectionLine} (member : l ∈ sectionLines first body) :
    l.slot? policy = l.slot? other ∧ l.binding? policy = l.binding? other ∧
      l.faults ⟨isa, policy⟩ = l.faults ⟨isa, other⟩ :=
  sectionLine_congr isa policy other
    (Nat.le_trans (codeBefore_le_of_mem_sectionLines member) fits)
    fun code => Nat.lt_of_lt_of_le (codeBefore_lt_of_mem_sectionLines member code) fits

theorem sectionNode_congr {first : Nat} {body : List Text} (fits : codeCount body ≤ slotCount)
    (index line : Int) :
    (⟨isa, policy⟩ : Assembler).sectionNode index line (sectionLines first body) =
      (⟨isa, other⟩ : Assembler).sectionNode index line (sectionLines first body) := by
  have slots : (⟨isa, policy⟩ : Assembler).sectionSlot (sectionLines first body) =
      (⟨isa, other⟩ : Assembler).sectionSlot (sectionLines first body) := by
    funext i
    have filled : (sectionLines first body).filter (fun l => l.slot? policy = some i) =
        (sectionLines first body).filter (fun l => l.slot? other = some i) := by
      apply List.filter_congr
      intro l member
      rw [(sectionLine_congr_of_mem isa policy other fits member).1]
    simp only [sectionSlot, filled]
    rfl
  have bindings : (sectionLines first body).filterMap (SectionLine.binding? policy) =
      (sectionLines first body).filterMap (SectionLine.binding? other) :=
    List.filterMap_congr fun l member =>
      (sectionLine_congr_of_mem isa policy other fits member).2.1
  simp only [sectionNode, slots, bindings]

theorem dropping_of_le {n : Nat} (fits : n ≤ slotCount) : policy.dropping n = false :=
  decide_eq_false fun dropped => Nat.not_lt.mpr fits dropped.2

theorem sectionState_congr (s : State) {body : List Text} (fits : codeCount body ≤ slotCount) :
    (⟨isa, policy⟩ : Assembler).sectionState s body =
      (⟨isa, other⟩ : Assembler).sectionState s body := by
  simp only [sectionState, sectionNode_congr isa policy other fits,
    OverflowPolicy.counter_of_le _ fits, dropping_of_le _ fits]

theorem sectionFaults_congr (s : State) {body : List Text} (fits : codeCount body ≤ slotCount) :
    (⟨isa, policy⟩ : Assembler).sectionFaults s body =
      (⟨isa, other⟩ : Assembler).sectionFaults s body := by
  apply List.flatMap_congr
  intro l member
  rw [(sectionLine_congr_of_mem isa policy other fits member).2.2]

/-- From a fresh state, a source whose sections fit delivers the same events under
any two policies. -/
theorem eventsFrom_congr {s : State} (fresh : s.Fresh) (lines : List Text)
    (fits : ∀ body ∈ preamble lines :: sections lines, codeCount body ≤ slotCount) :
    (⟨isa, policy⟩ : Assembler).eventsFrom s (callsOf lines) =
      (⟨isa, other⟩ : Assembler).eventsFrom s (callsOf lines) := by
  -- The induction is on the number of lines: the rest behind the first directive is
  -- read from the start of its own section.
  induction size : lines.length using Nat.strongRecOn generalizing s lines with
  | ind n inductionHypothesis =>
      have plain : ∀ line ∈ preamble lines, ¬ Directive.Marked line := fun line member =>
        not_marked_of_mem_preamble member
      have front := fits _ List.mem_cons_self
      rcases eq_preamble_or lines with whole | ⟨directive, rest, marked, parts⟩
      · rw [← whole] at plain front
        simp only [eventsFrom_callsOf, eventsFrom_section _ fresh plain,
          stateAfter_section _ fresh plain, sectionFaults_congr isa policy other s front,
          sectionState_congr isa policy other s front]
      · obtain ⟨index, read⟩ := (Directive.exists_read?_iff directive).mpr marked
        have shorter : rest.length < n := by
          rw [← size, parts, List.length_append, List.length_cons]
          omega
        have bodies : sections lines = preamble rest :: sections rest := by
          rw [parts, sections_of_plain plain, sections_directive marked]
        have later := inductionHypothesis rest.length shorter
          (fresh_sectionStart index (s.line + (preamble lines).length + 1)) rest
          (fun body member => fits body (List.mem_cons_of_mem _ (bodies ▸ member))) rfl
        rw [parts]
        simp only [eventsFrom_callsOf_directive _ s (preamble lines) read rest,
          eventsFrom_section _ fresh plain, stateAfter_section _ fresh plain, later,
          sectionFaults_congr isa policy other s front, sectionState_congr isa policy other s front]

end Policies

/-! ## Completed sections -/

/-- A call that completes a node reports the labels that the node leaves
undefined. -/
theorem filter_undefinedLabel_of_closes (a : Assembler) (s : State) {call : Call}
    (closes : call.Closes) :
    (faults (a.perform s call).events).filter (Fault.has .undefinedLabel) =
      faults (completion s) := by
  obtain ⟨fs, events, own⟩ := perform_of_closes a s closes
  have ownFaults : fs.filter (Fault.has .undefinedLabel) = [] := by
    rcases own with rfl | ⟨index, line, text, read, rfl⟩
    · rfl
    · apply List.filter_eq_nil_iff.mpr
      intro f member
      obtain ⟨inner, innerMember, rfl⟩ := List.mem_map.mp member
      rw [Directive.exists_of_mem_faults_read? read innerMember]
      simp [Fault.badNodeIndex, Fault.has]
  rw [events, faults_append, faults_map_fault, List.filter_append, ownFaults, List.nil_append,
    List.filter_eq_self, faults_completion]
  intro f member
  split at member
  · obtain ⟨line, label, rfl⟩ := Node.exists_of_mem_undefinedLabels member
    rfl
  · contradiction

/-- The kept lines of a section leave the same node as the section. -/
theorem sectionNode_keptLines {a : Assembler} (policy : a.overflow = .discard) (first : Nat)
    (body : List Text) (index line : Int) :
    a.sectionNode index line (sectionLines first (keptLines slotCount body)) =
      a.sectionNode index line (sectionLines first body) := by
  rcases keptLines_eq_or_full slotCount body with ⟨all, _⟩ | full
  · rw [all]
  · have cut := sectionNode_append_of_full policy first (Nat.le_of_eq full.symm)
      (droppedLines slotCount body) index line
    rw [keptLines_append_droppedLines] at cut
    exact cut.symm

/-- What the lines behind the kept ones add to the faults of a section. -/
theorem exists_dropReport_keptLines {a : Assembler} (policy : a.overflow = .discard) (s : State)
    (body : List Text) :
    ∃ fs, a.sectionFaults s body = a.sectionFaults s (keptLines slotCount body) ++ fs ∧
      DropReport s.node.index s.line body (s.line + (keptLines slotCount body).length)
        (droppedLines slotCount body) fs := by
  rcases keptLines_eq_or_full slotCount body with ⟨all, fits⟩ | full
  · have none : droppedLines slotCount body = [] := by
      rw [droppedLines, all, List.drop_length]
    rw [none, all]
    exact ⟨[], (List.append_nil _).symm, dropReport_nil _ _ _ fits⟩
  · have report := exists_dropReport policy s full (droppedLines slotCount body)
    rw [keptLines_append_droppedLines] at report
    exact report

/-- `closing` completes the section `body` of a directive as it completes the kept
lines of the section, and the lines behind them report what they may. -/
structure DiscardsTo (a : Assembler) (calls : List Call) (directive : Text) (body : List Text)
    (closing : Call) : Prop where
  /-- Both deliver the same program. -/
  program : ∃ p,
    programs (a.perform (a.stateAfter .start (sectionCalls calls directive body))
      closing).events = [p] ∧
    programs (a.perform (a.stateAfter .start (sectionCalls calls directive
      (keptLines slotCount body))) closing).events = [p]
  /-- Both report the same undefined labels. -/
  undefined :
    (faults (a.perform (a.stateAfter .start (sectionCalls calls directive body))
      closing).events).filter (Fault.has .undefinedLabel) =
    (faults (a.perform (a.stateAfter .start (sectionCalls calls directive
      (keptLines slotCount body))) closing).events).filter (Fault.has .undefinedLabel)
  /-- Before that, the lines behind the kept ones add their report. -/
  report : ∃ fs, faults (a.events (sectionCalls calls directive body)) =
      faults (a.events (sectionCalls calls directive (keptLines slotCount body))) ++ fs ∧
    DropReport (a.stateAfter .start (sectionCalls calls directive body)).node.index
      ((fedLines calls).length + 1) body
      ((fedLines calls).length + 1 + (keptLines slotCount body).length)
      (droppedLines slotCount body) fs

theorem discardsTo {a : Assembler} (policy : a.overflow = .discard) (calls : List Call)
    {directive : Text} (marked : Directive.Marked directive) {body : List Text}
    (plain : ∀ line ∈ body, ¬ Directive.Marked line) {closing : Call}
    (closes : closing.Closes) : a.DiscardsTo calls directive body closing := by
  obtain ⟨index, read⟩ := (Directive.exists_read?_iff directive).mpr marked
  have keptPlain : ∀ line ∈ keptLines slotCount body, ¬ Directive.Marked line := fun line member =>
    plain line ((isPrefix_keptLines slotCount body).subset member)
  have state := stateAfter_sectionCalls a calls read plain
  have keptState := stateAfter_sectionCalls a calls read keptPlain
  have same : completion (a.stateAfter .start
        (sectionCalls calls directive (keptLines slotCount body))) =
      completion (a.stateAfter .start (sectionCalls calls directive body)) := by
    simp only [state, keptState, completion_eq, sectionState, sectionNode_keptLines policy]
  have program : programs (completion (a.stateAfter .start (sectionCalls calls directive body))) =
      [(a.stateAfter .start (sectionCalls calls directive body)).node.program] := by
    rw [programs_completion, state]
    rfl
  refine ⟨⟨(a.stateAfter .start (sectionCalls calls directive body)).node.program, ?_, ?_⟩, ?_, ?_⟩
  · rw [programs_of_closes a _ closes, program]
  · rw [programs_of_closes a _ closes, same, program]
  · rw [filter_undefinedLabel_of_closes a _ closes, filter_undefinedLabel_of_closes a _ closes,
      same]
  · obtain ⟨fs, faults, report⟩ := exists_dropReport_keptLines policy
      (sectionStart index ((fedLines calls).length + 1)) body
    refine ⟨fs, ?_, ?_⟩
    · simp only [events_sectionCalls a calls read plain,
        events_sectionCalls a calls read keptPlain, faults_append, faults_map_fault, faults,
        List.append_assoc]
    · rw [state]
      exact report

/-- Under discarding, a section delivers what its first sixteen code lines deliver,
whatever follows them. Where every section fits, discarding and wrapping agree. -/
theorem discarded_section (isa : InstructionSet) :
    (∀ (calls : List Call) (directive : Text) (body : List Text) (closing : Call),
      Directive.Marked directive → (∀ line ∈ body, ¬ Directive.Marked line) → closing.Closes →
        (⟨isa, .discard⟩ : Assembler).DiscardsTo calls directive body closing) ∧
      ∀ lines : List Text,
        (∀ body ∈ preamble lines :: sections lines, codeCount body ≤ slotCount) →
          (⟨isa, .discard⟩ : Assembler).events (callsOf lines) =
            (⟨isa, .wrap⟩ : Assembler).events (callsOf lines) := by
  constructor
  · intro calls directive body closing marked plain closes
    exact discardsTo rfl calls marked plain closes
  · intro lines fits
    exact eventsFrom_congr isa .discard .wrap fresh_start lines fits

/-- Eighteen code lines. The seventeenth would bind the label of the jumps and has
an unknown mnemonic and superfluous words, the eighteenth a literal out of range. -/
def overfullLines : List Text :=
  List.replicate 16 ("JMP x" : Text) ++ [("x: FOO 1 2 3" : Text), ("SUB 9999" : Text)]

theorem discarded_section_of_overfull :
    (⟨.node, .discard⟩ : Assembler).DiscardsTo [.feed "NOP"] "@3" overfullLines (.feed "@4") ∧
      (⟨.node, .discard⟩ : Assembler).events
          (callsOf (("@3" : Text) :: List.replicate 16 ("JMP x" : Text) ++ [("x:" : Text)])) =
        (⟨.node, .wrap⟩ : Assembler).events
          (callsOf (("@3" : Text) :: List.replicate 16 ("JMP x" : Text) ++ [("x:" : Text)])) :=
  ⟨(discarded_section .node).1 [.feed "NOP"] "@3" overfullLines (.feed "@4")
      (by decide) (by decide) (by decide),
    (discarded_section .node).2 _ (by decide)⟩

end Assembler

end NodeAsm
