import NodeAsm.Proofs.Assembler.Fitting
import NodeAsm.Proofs.Machine.Encoding
import NodeAsm.Proofs.Source.Index
import NodeAsm.Proofs.Source.Words

/-!
# The language of the assembler

A source belongs to the language if its directives have indices, its lines are
short and fit their nodes, its instructions are valid and its jumps lead to labels
of their own section. This is said here of the lines alone, without the state of
the assembler. The assembler reports no fault exactly on these sources, under every
overflow policy.
-/

namespace NodeAsm

namespace Grammar

open Statement

/-! ## Sources without faults -/

/-- The word of a line at position `n`, empty if there are fewer. -/
def wordAt (line : Text) (n : Nat) : Text :=
  (wordsOf line).getD n []

/-- The number of lines that have words. -/
def codeSize (body : List Text) : Nat :=
  body.countP fun line => wordsOf line ≠ []

/-- The lines before the first directive. -/
def preamble (lines : List Text) : List Text :=
  lines.takeWhile fun line => ¬ Directive.Marked line

/-- The lines between each directive and the next. -/
def sections : List Text → List (List Text)
  | [] => []
  | line :: rest =>
      if Directive.Marked line then preamble rest :: sections rest else sections rest

/-- Each jump of a section leads to the label of a line of the section that has
fewer code lines before it than the node has slots. -/
def Targeted (body : List Text) : Prop :=
  ∀ line ∈ body, wordAt line 0 ∈ InstructionSet.jumpMnemonics →
    wordAt line 1 ≠ [] ∧ ∃ before labelled after, body = before ++ labelled :: after ∧
      labelOf labelled = wordAt line 1 ∧ codeSize before < slotCount

/-- The sources of the language. -/
structure Accepted (lines : List Text) : Prop where
  /-- Every directive has an index. -/
  indexed : ∀ line ∈ lines, Directive.Marked line → Directive.Indexed line
  /-- Every other line has at most a mnemonic and two operands. -/
  short : ∀ line ∈ lines, ¬ Directive.Marked line → (wordsOf line).length ≤ 3
  /-- The code before the first directive and that of each section fits a node. -/
  fits : ∀ body ∈ preamble lines :: sections lines, codeSize body ≤ slotCount
  /-- Every code line is a valid instruction. -/
  valid : ∀ line ∈ lines, ¬ Directive.Marked line → wordsOf line ≠ [] →
    InstructionSet.Valid (wordAt line 0) (wordAt line 1) (wordAt line 2)
  /-- Every jump within a section has a target. -/
  targeted : ∀ body ∈ sections lines, Targeted body

/-- What the lines of one section owe to be read without fault. -/
structure Clean (body : List Text) : Prop where
  short : ∀ line ∈ body, (wordsOf line).length ≤ 3
  fits : codeSize body ≤ slotCount
  valid : ∀ line ∈ body, wordsOf line ≠ [] →
    InstructionSet.Valid (wordAt line 0) (wordAt line 1) (wordAt line 2)

/-! ## Lines by section -/

theorem not_marked_of_mem_preamble {lines : List Text} {line : Text}
    (member : line ∈ preamble lines) : ¬ Directive.Marked line := by
  simpa using List.mem_takeWhile_imp member

/-- A source is its preamble, alone or followed by a directive. -/
theorem eq_preamble_or (lines : List Text) :
    lines = preamble lines ∨
      ∃ directive rest, Directive.Marked directive ∧
        lines = preamble lines ++ directive :: rest := by
  have parts : preamble lines ++ lines.dropWhile (fun line => ¬ Directive.Marked line) = lines :=
    List.takeWhile_append_dropWhile
  cases behind : lines.dropWhile (fun line => ¬ Directive.Marked line) with
  | nil =>
      rw [behind, List.append_nil] at parts
      exact Or.inl parts.symm
  | cons directive rest =>
      have stopped := List.head?_dropWhile_not (fun line => ¬ Directive.Marked line) lines
      rw [behind] at parts stopped
      exact Or.inr ⟨directive, rest, by simpa using stopped, parts.symm⟩

theorem sections_of_plain {body : List Text} (plain : ∀ line ∈ body, ¬ Directive.Marked line)
    (rest : List Text) : sections (body ++ rest) = sections rest := by
  induction body with
  | nil => rfl
  | cons line body inductionHypothesis =>
      rw [List.cons_append, sections, if_neg (plain line List.mem_cons_self)]
      exact inductionHypothesis fun other member => plain other (List.mem_cons_of_mem _ member)

theorem sections_directive {directive : Text} (marked : Directive.Marked directive)
    (rest : List Text) : sections (directive :: rest) = preamble rest :: sections rest :=
  if_pos marked

theorem forall_indexed_iff {body : List Text} (plain : ∀ line ∈ body, ¬ Directive.Marked line)
    {directive : Text} (marked : Directive.Marked directive) (rest : List Text) :
    (∀ line ∈ body ++ directive :: rest, Directive.Marked line → Directive.Indexed line) ↔
      Directive.Indexed directive ∧
        ∀ line ∈ rest, Directive.Marked line → Directive.Indexed line := by
  rw [List.forall_mem_append, List.forall_mem_cons]
  constructor
  · rintro ⟨_, first, others⟩
    exact ⟨first marked, others⟩
  · rintro ⟨first, others⟩
    exact ⟨fun line member marked => absurd marked (plain line member), fun _ => first, others⟩

/-- The lines that are no directives are those of the preamble and the sections. -/
theorem mem_and_not_marked_iff {lines : List Text} {line : Text} :
    line ∈ lines ∧ ¬ Directive.Marked line ↔
      ∃ body ∈ preamble lines :: sections lines, line ∈ body := by
  induction lines with
  | nil => simp [preamble, sections]
  | cons head rest inductionHypothesis =>
      by_cases marked : Directive.Marked head
      · have front : preamble (head :: rest) = [] :=
          List.takeWhile_cons_of_neg (by simpa using marked)
        rw [sections_directive marked, front, List.exists_mem_cons_iff, ← inductionHypothesis]
        constructor
        · rintro ⟨member, plain⟩
          rcases List.mem_cons.mp member with rfl | member
          · contradiction
          · exact Or.inr ⟨member, plain⟩
        · rintro (member | ⟨member, plain⟩)
          · contradiction
          · exact ⟨List.mem_cons_of_mem _ member, plain⟩
      · have front : preamble (head :: rest) = head :: preamble rest :=
          List.takeWhile_cons_of_pos (by simpa using marked)
        rw [front, sections, if_neg marked, List.exists_mem_cons_iff]
        rw [List.exists_mem_cons_iff] at inductionHypothesis
        rw [List.mem_cons, List.mem_cons, or_assoc, ← inductionHypothesis]
        constructor
        · rintro ⟨rfl | member, plain⟩
          · exact Or.inl rfl
          · exact Or.inr ⟨member, plain⟩
        · rintro (rfl | ⟨member, plain⟩)
          · exact ⟨Or.inl rfl, marked⟩
          · exact ⟨Or.inr member, plain⟩

/-- The language, section by section. -/
theorem accepted_iff (lines : List Text) :
    Accepted lines ↔
      (∀ line ∈ lines, Directive.Marked line → Directive.Indexed line) ∧
        Clean (preamble lines) ∧ ∀ body ∈ sections lines, Clean body ∧ Targeted body := by
  constructor
  · intro accepted
    have clean (body : List Text) (member : body ∈ preamble lines :: sections lines) :
        Clean body := by
      refine ⟨?_, accepted.fits body member, ?_⟩
      · intro line lineMember
        obtain ⟨within, plain⟩ := mem_and_not_marked_iff.mpr ⟨body, member, lineMember⟩
        exact accepted.short line within plain
      · intro line lineMember
        obtain ⟨within, plain⟩ := mem_and_not_marked_iff.mpr ⟨body, member, lineMember⟩
        exact accepted.valid line within plain
    exact ⟨accepted.indexed, clean _ List.mem_cons_self, fun body member =>
      ⟨clean body (List.mem_cons_of_mem _ member), accepted.targeted body member⟩⟩
  · rintro ⟨indexed, front, bodies⟩
    have clean (body : List Text) (member : body ∈ preamble lines :: sections lines) :
        Clean body := by
      rcases List.mem_cons.mp member with rfl | member
      · exact front
      · exact (bodies body member).1
    refine ⟨indexed, ?_, fun body member => (clean body member).fits, ?_,
      fun body member => (bodies body member).2⟩
    · intro line within plain
      obtain ⟨body, member, lineMember⟩ := mem_and_not_marked_iff.mp ⟨within, plain⟩
      exact (clean body member).short line lineMember
    · intro line within plain
      obtain ⟨body, member, lineMember⟩ := mem_and_not_marked_iff.mp ⟨within, plain⟩
      exact (clean body member).valid line lineMember

/-! ## Lines by their words -/

theorem isCode_read_eq (line : Text) :
    (Statement.read line).value.isCode = decide (wordsOf line ≠ []) := by
  rw [Bool.eq_iff_iff, isCode_read, decide_eq_true_eq]

theorem codeCount_eq (body : List Text) : codeCount body = codeSize body :=
  congrArg (List.countP · body) (funext isCode_read_eq)

theorem opcode_read_eq (line : Text) : (Statement.read line).value.opcode = wordAt line 0 := by
  rw [opcode_read, wordAt, List.headD_eq_getD]

theorem operand_read_eq (line : Text) {n : Nat} (within : n < 2) :
    (Statement.read line).value.operand n = wordAt line (n + 1) := by
  have taken : n + 1 < maxWords := Nat.succ_lt_succ within
  rw [operand, operands_read, wordAt, List.getD_eq_getElem?_getD, List.getD_eq_getElem?_getD,
    List.getElem?_tail, List.getElem?_take, if_pos taken]

theorem wordAt_zero_ne_nil {line : Text} (code : wordsOf line ≠ []) : wordAt line 0 ≠ [] := by
  cases words : wordsOf line with
  | nil => contradiction
  | cons word rest =>
      have member : word ∈ wordsOf line := words ▸ List.mem_cons_self
      simpa [wordAt, words] using ne_nil_of_mem_wordsOf member

end Grammar

namespace Assembler

open Grammar Statement

variable {policy : OverflowPolicy}

/-! ## Faults of the lines -/

/-- A line is encoded by its first three words. -/
theorem encoded_read_eq (a : Assembler) (number codeBefore : Nat) (line : Text) :
    (⟨number, codeBefore, Statement.read line⟩ : SectionLine).encoded a =
      a.isa.encode (wordAt line 0) (wordAt line 1) (wordAt line 2) := by
  simp only [SectionLine.encoded, SectionLine.statement, opcode_read_eq,
    operand_read_eq line Nat.zero_lt_two, operand_read_eq line Nat.one_lt_two]

theorem encoded_read (number codeBefore : Nat) (line : Text) :
    (⟨number, codeBefore, Statement.read line⟩ : SectionLine).encoded ⟨.node, policy⟩ =
      InstructionSet.node.encode (wordAt line 0) (wordAt line 1) (wordAt line 2) :=
  encoded_read_eq _ number codeBefore line

/-- A line behind code that fits is read without fault exactly if it is short and,
where it is code, finds room and is a valid instruction. -/
theorem faults_sectionLine_eq_nil_iff (number : Nat) {codeBefore : Nat}
    (fits : codeBefore ≤ slotCount) (line : Text) :
    (⟨number, codeBefore, Statement.read line⟩ : SectionLine).faults ⟨.node, policy⟩ = [] ↔
      (wordsOf line).length ≤ 3 ∧
        (wordsOf line ≠ [] → codeBefore < slotCount ∧
          InstructionSet.Valid (wordAt line 0) (wordAt line 1) (wordAt line 2)) := by
  have parts : (Statement.read line).faults = [] ↔ (wordsOf line).length ≤ 3 := by
    rw [faults_read]
    by_cases short : (wordsOf line).length ≤ maxWords
    · simp [short, show (wordsOf line).length ≤ 3 from short]
    · simp [short, show ¬ (wordsOf line).length ≤ 3 from short]
  rw [SectionLine.faults, List.append_eq_nil_iff, parts]
  apply and_congr_right'
  by_cases code : wordsOf line ≠ []
  · have isCode : (SectionLine.statement ⟨number, codeBefore, Statement.read line⟩).isCode :=
      (isCode_read line).mpr code
    rw [if_pos isCode, SectionLine.placingFaults, List.append_eq_nil_iff,
      OverflowPolicy.overflowFaults_eq_nil_iff _ fits, encoded_read]
    simp only [code, ne_eq, not_false_eq_true, true_implies]
    apply and_congr_right
    intro room
    rw [OverflowPolicy.slot?_of_lt _ room, Option.isSome_some, if_pos rfl]
    exact InstructionSet.faults_encode_node_eq_nil_iff (wordAt_zero_ne_nil code) _ _
  · have plain : ¬ (SectionLine.statement ⟨number, codeBefore, Statement.read line⟩).isCode :=
      fun isCode => code ((isCode_read line).mp isCode)
    simp [plain, code]

theorem clean_concat_iff (body : List Text) (line : Text) :
    Clean (body ++ [line]) ↔
      Clean body ∧ (wordsOf line).length ≤ 3 ∧
        (wordsOf line ≠ [] → codeSize body < slotCount ∧
          InstructionSet.Valid (wordAt line 0) (wordAt line 1) (wordAt line 2)) := by
  have size : codeSize (body ++ [line]) =
      codeSize body + if wordsOf line ≠ [] then 1 else 0 := by
    simp [codeSize, List.countP_append, List.countP_singleton]
  constructor
  · rintro ⟨short, fits, valid⟩
    rw [size] at fits
    refine ⟨⟨?_, by omega, ?_⟩, short line (by simp), ?_⟩
    · exact fun other member => short other (List.mem_append_left _ member)
    · exact fun other member => valid other (List.mem_append_left _ member)
    · intro code
      rw [if_pos code] at fits
      exact ⟨fits, valid line (by simp) code⟩
  · rintro ⟨⟨short, fits, valid⟩, lastShort, last⟩
    refine ⟨?_, ?_, ?_⟩
    · intro other member
      rcases List.mem_append.mp member with earlier | same
      · exact short other earlier
      · exact List.mem_singleton.mp same ▸ lastShort
    · rw [size]
      split
      · rename_i code
        exact (last code).1
      · exact fits
    · intro other member
      rcases List.mem_append.mp member with earlier | same
      · exact valid other earlier
      · exact List.mem_singleton.mp same ▸ fun code => (last code).2

/-- Exactly the clean sections have no faulty line. -/
theorem sectionFaults_eq_nil_iff (s : State) (body : List Text) :
    (⟨.node, policy⟩ : Assembler).sectionFaults s body = [] ↔ Clean body := by
  induction body using List.reverseRecOn with
  | nil => exact ⟨fun _ => ⟨by simp, by decide, by simp⟩, fun _ => rfl⟩
  | append_singleton body line inductionHypothesis =>
      rw [sectionFaults_concat, List.append_eq_nil_iff, inductionHypothesis, clean_concat_iff,
        List.map_eq_nil_iff]
      apply and_congr_right
      intro clean
      have fits : codeCount body ≤ slotCount := codeCount_eq body ▸ clean.fits
      rw [nextLine, faults_sectionLine_eq_nil_iff _ fits, codeCount_eq]

/-! ## Targets of jumps -/

/-- Exactly the targeted sections leave no label undefined. -/
theorem undefinedLabels_eq_nil_iff_targeted (first : Nat) {body : List Text} (clean : Clean body)
    (index line : Int) :
    ((⟨.node, policy⟩ : Assembler).sectionNode index line
        (sectionLines first body)).undefinedLabels = [] ↔ Targeted body := by
  have fits : codeCount body ≤ slotCount := codeCount_eq body ▸ clean.fits
  simp only [undefinedLabels_sectionNode_eq_nil_iff _ fits,
    lookup_sectionNode_ne_none_iff _ fits]
  constructor
  · intro bound line member jump
    obtain ⟨before, after, rfl⟩ := List.append_of_mem member
    have code : wordsOf line ≠ [] := by
      intro none
      have word : wordAt line 0 = [] := by simp [wordAt, none]
      rw [word] at jump
      exact absurd jump (by decide)
    have target := bound ⟨first + before.length + 1, codeCount before, Statement.read line⟩
      (mem_sectionLines_iff.mpr ⟨before, line, after, rfl, rfl⟩) ((isCode_read line).mpr code)
    rw [encoded_read, InstructionSet.isJump_encode_node_iff] at target
    obtain ⟨named, l, lineMember, label, room⟩ := target jump
    obtain ⟨front, labelled, back, parts, rfl⟩ := mem_sectionLines_iff.mp lineMember
    simp only [SectionLine.statement, operand_read_eq line Nat.zero_lt_two, label_read,
      codeCount_eq] at named label room
    exact ⟨named, front, labelled, back, parts, label, room⟩
  · intro targeted l member _ jump
    obtain ⟨before, line, after, parts, rfl⟩ := mem_sectionLines_iff.mp member
    rw [encoded_read, InstructionSet.isJump_encode_node_iff] at jump
    obtain ⟨named, front, labelled, back, labelParts, label, room⟩ :=
      targeted line (parts ▸ by simp) jump
    simp only [SectionLine.statement, operand_read_eq line Nat.zero_lt_two]
    refine ⟨named, ⟨first + front.length + 1, codeCount front, Statement.read labelled⟩,
      mem_sectionLines_iff.mpr ⟨front, labelled, back, labelParts, rfl⟩, ?_, ?_⟩
    · exact (label_read labelled).trans label
    · exact codeCount_eq front ▸ room

/-! ## Whole sources -/

/-- The faults of a section and of its completion. -/
theorem section_eq_nil_iff (policy : OverflowPolicy) (s : State) (body : List Text) :
    (⟨.node, policy⟩ : Assembler).sectionFaults s body = [] ∧
        faults (completion ((⟨.node, policy⟩ : Assembler).sectionState s body)) = [] ↔
      Clean body ∧ (s.inNode → Targeted body) := by
  rw [sectionFaults_eq_nil_iff]
  apply and_congr_right
  intro clean
  rw [faults_completion, sectionState]
  by_cases inNode : s.inNode
  · simp only [inNode, if_true, true_implies]
    exact undefinedLabels_eq_nil_iff_targeted s.line clean _ _
  · simp [inNode]

theorem directiveFaults_eq_nil_iff {directive : Text} {index : Checked Nat}
    (read : Directive.read? directive = some index) (line : Nat) :
    directiveFaults index line = [] ↔ Directive.Indexed directive := by
  rw [directiveFaults, List.map_eq_nil_iff, Directive.faults_eq_nil_iff_indexed read]

/-- The assembler reports no fault from a fresh state exactly if all directives have
indices and all sections are clean and targeted, the first of them only if it
belongs to a node. -/
theorem faults_eventsFrom_eq_nil_iff {s : State} (fresh : s.Fresh) (lines : List Text) :
    faults ((⟨.node, policy⟩ : Assembler).eventsFrom s (callsOf lines)) = [] ↔
      (∀ line ∈ lines, Directive.Marked line → Directive.Indexed line) ∧
        (Clean (preamble lines) ∧ (s.inNode → Targeted (preamble lines))) ∧
        ∀ body ∈ sections lines, Clean body ∧ Targeted body := by
  induction size : lines.length using Nat.strongRecOn generalizing s lines with
  | ind n inductionHypothesis =>
      have plain : ∀ line ∈ preamble lines, ¬ Directive.Marked line := fun line member =>
        not_marked_of_mem_preamble member
      rcases eq_preamble_or lines with whole | ⟨directive, rest, marked, parts⟩
      · have unmarked : ∀ line ∈ lines, ¬ Directive.Marked line := whole ▸ plain
        have none : sections lines = [] := by
          simpa [sections] using sections_of_plain unmarked []
        rw [eventsFrom_callsOf, eventsFrom_section _ fresh unmarked,
          stateAfter_section _ fresh unmarked, faults_append, faults_map_fault,
          List.append_eq_nil_iff, section_eq_nil_iff, none, ← whole]
        constructor
        · intro clean
          exact ⟨fun line member marked => absurd marked (unmarked line member), clean, by simp⟩
        · rintro ⟨_, clean, _⟩
          exact clean
      · obtain ⟨index, read⟩ := (Directive.exists_read?_iff directive).mpr marked
        have shorter : rest.length < n := by
          rw [← size, parts, List.length_append, List.length_cons]
          omega
        have later := inductionHypothesis rest.length shorter
          (fresh_sectionStart index (s.line + (preamble lines).length + 1)) rest rfl
        have bodies : sections lines = preamble rest :: sections rest := by
          rw [parts, sections_of_plain plain, sections_directive marked]
        have events := eventsFrom_callsOf_directive ⟨.node, policy⟩ s (preamble lines) read rest
        have directives := forall_indexed_iff plain marked rest
        have own := section_eq_nil_iff policy s (preamble lines)
        have inNode : (sectionStart index (s.line + (preamble lines).length + 1)).inNode := rfl
        simp only [inNode, true_implies] at later
        rw [← parts, eventsFrom_section _ fresh plain, stateAfter_section _ fresh plain] at events
        rw [← parts] at directives
        simp only [events, faults_append, faults_map_fault, List.append_eq_nil_iff, later,
          directiveFaults_eq_nil_iff read, directives, bodies, List.forall_mem_cons, ← own]
        constructor
        · rintro ⟨own, ⟨indexed, completed⟩, others, bodies⟩
          exact ⟨⟨indexed, others⟩, ⟨own, completed⟩, bodies⟩
        · rintro ⟨⟨indexed, others⟩, ⟨own, completed⟩, bodies⟩
          exact ⟨own, ⟨indexed, completed⟩, others, bodies⟩

/-- The assembler of a node reports no fault exactly on the sources of the
language, whatever it does with code that does not fit. -/
theorem faults_eq_nil_iff_accepted (policy : OverflowPolicy) (lines : List Text) :
    faults ((⟨.node, policy⟩ : Assembler).events (callsOf lines)) = [] ↔ Accepted lines := by
  rw [events_eq_eventsFrom, faults_eventsFrom_eq_nil_iff fresh_start, accepted_iff]
  have outside : State.start.inNode = false := rfl
  simp [outside]

end Assembler

end NodeAsm
