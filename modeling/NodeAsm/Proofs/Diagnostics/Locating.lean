import NodeAsm.Diagnostics.Issue
import NodeAsm.Proofs.Assembler.Causes
import NodeAsm.Proofs.Assembler.Delivery
import NodeAsm.Proofs.Assembler.Invariant

/-!
# Where faults are located and how they are shown

Every fault names a line that has been read, the node of the last directive up to that
line, and one cause. This holds also of the faults that come late: a label is missed when
its node ends, and the node may have ended on a directive that selects another one. The
issue of a fault repeats its place, follows its cause and reads like the fault.
-/

namespace NodeAsm

/-! ## Causes -/

namespace Cause

/-- The causes that lie in the lines of a source. -/
def ofSource : List Cause :=
  [unknownRegister, literalRange, unknownOpcode, tooManyArguments, tooManyLines, badNodeIndex,
    undefinedLabel]

/-- The kind of the issues that a cause leads to. -/
def issueKind : Cause → IssueKind
  | unknownRegister => .operand
  | literalRange => .operand
  | unknownOpcode => .opcode
  | undefinedLabel => .label
  | _ => .form

end Cause

namespace Fault

/-- A fault with one cause. -/
def HasOnly (c : Cause) (f : Fault) : Prop :=
  ∀ k, f.has k ↔ k = c

theorem hasOnly_noted (note : Text) (c : Cause) : HasOnly c (noted note (cause c)) := by
  intro k
  simp only [has, beq_iff_eq]
  exact eq_comm

/-- A fault with one cause that lies in the lines of a source. -/
def OfSource (f : Fault) : Prop :=
  ∃ c ∈ Cause.ofSource, f.HasOnly c

theorem ofSource_noted (note : Text) {c : Cause} (member : c ∈ Cause.ofSource) :
    OfSource (noted note (cause c)) :=
  ⟨c, member, hasOnly_noted note c⟩

theorem HasOnly.has_eq {c : Cause} {f : Fault} (only : f.HasOnly c) (k : Cause) :
    f.has k = decide (k = c) := by
  rw [Bool.eq_iff_iff, decide_eq_true_eq]
  exact only k

/-- The kind of a located fault is that of its cause. -/
theorem HasOnly.ofFault_located {c : Cause} {inner : Fault} (only : inner.HasOnly c)
    (node line : Int) : IssueKind.ofFault (.located node line inner) = c.issueKind := by
  simp only [IssueKind.ofFault, has, only.has_eq]
  cases c <;> rfl

end Fault

namespace Issue

/-- An issue shows a fault at a place and with a cause. -/
structure Shows (i : Issue) (node line : Int) (c : Cause) (f : Fault) : Prop where
  node : i.node = node
  line : i.line = line
  kind : i.kind = c.issueKind
  text : i.text = f.message

/-- The issue of a fault at a node reads like the fault: it takes the place out of the
message and puts it in front again. -/
theorem shows_ofFault {c : Cause} {inner : Fault} (only : inner.HasOnly c) {node : Int}
    (numbered : 0 ≤ node) (line : Int) :
    (ofFault (.located node line inner)).Shows node line c (.located node line inner) where
  node := rfl
  line := rfl
  kind := only.ofFault_located node line
  text := if_pos numbered

end Issue

/-! ## Defects of instructions -/

/-- The faults that a source operand deserves. -/
inductive Operand.Defects (t : Text) : List Fault → Prop where
  | valid : IsSource t → Defects t []
  | range (v : Int) : Decimal t v → ¬ (-1024 ≤ v ∧ v ≤ 1023) → Defects t [.literalRange t]
  | unknown : (∀ r : Register, t ≠ r.name) → (∀ v, ¬ Decimal t v) →
      Defects t [.unknownRegister t]

/-- The faults that a destination deserves. -/
inductive Register.Defects (t : Text) : List Fault → Prop where
  | valid (r : Register) : t = r.name → Defects t []
  | unknown : (∀ r : Register, t ≠ r.name) → Defects t [.unknownRegister t]

/-- The faults that an instruction deserves: one for an unknown mnemonic, or one for each
bad operand that its class consumes, the source before the destination. -/
inductive InstructionSet.Defects (isa : InstructionSet) (mnemonic first second : Text) :
    List Fault → Prop where
  | unknown : isa.lookup mnemonic = none →
      Defects isa mnemonic first second [.unknownOpcode mnemonic]
  | move {op : Opcode} {source destination : List Fault} : isa.lookup mnemonic = some op →
      op.kind = .move → Operand.Defects first source → Register.Defects second destination →
        Defects isa mnemonic first second (source ++ destination)
  | unary {op : Opcode} {source : List Fault} : isa.lookup mnemonic = some op →
      op.kind = .unary → Operand.Defects first source → Defects isa mnemonic first second source
  | other {op : Opcode} : isa.lookup mnemonic = some op → op.kind ≠ .move → op.kind ≠ .unary →
      Defects isa mnemonic first second []

theorem Register.defects_read (t : Text) : Defects t (read t).faults := by
  by_cases name : ∃ r : Register, t = r.name
  · obtain ⟨r, rfl⟩ := name
    rw [read_name]
    exact .valid r rfl
  · have other := not_exists.mp name
    rw [read_of_ne_name other]
    exact .unknown other

theorem Operand.defects_encode (t : Text) : Defects t (encode t).faults := by
  by_cases source : IsSource t
  · rw [(faults_encode_eq_nil_iff t).mpr source]
    exact .valid source
  · by_cases numeric : ∃ v, Decimal t v
    · obtain ⟨v, decimal⟩ := numeric
      have outside : ¬ (-1024 ≤ v ∧ v ≤ 1023) := fun within => source (Or.inr ⟨v, decimal, within⟩)
      rw [decimal.encode_eq, if_neg outside]
      exact .range v decimal outside
    · have other : ∀ r : Register, t ≠ r.name := fun r name => source (Or.inl ⟨r, name⟩)
      have verbal := not_exists.mp numeric
      rw [encode_of_not_decimal verbal, Register.read_of_ne_name other]
      exact .unknown other verbal

/-- An instruction gets the faults that it deserves. -/
theorem InstructionSet.defects_encode (isa : InstructionSet) {mnemonic : Text}
    (named : mnemonic ≠ []) (first second : Text) :
    isa.Defects mnemonic first second (isa.encode mnemonic first second).faults := by
  have nonempty : ¬ mnemonic.isEmpty := by simpa using named
  rw [encode, if_neg nonempty]
  cases found : isa.lookup mnemonic with
  | none => exact .unknown found
  | some op =>
      simp only [assemble]
      split
      next move =>
          exact .move found move (Operand.defects_encode first) (Register.defects_read second)
      next unary => exact .unary found unary (Operand.defects_encode first)
      next move unary => exact .other found move unary

/-! ## The node of a line -/

namespace Directive

/-- The index of the last directive among the first `n` lines, or zero. -/
def nodeAt (lines : List Text) (n : Nat) : Nat :=
  (((lines.take n).filterMap read?).getLast?.map Checked.value).getD 0

theorem nodeAt_append (lines more : List Text) {n : Nat} (within : n ≤ lines.length) :
    nodeAt (lines ++ more) n = nodeAt lines n := by
  rw [nodeAt, List.take_append_of_le_length within]
  rfl

theorem nodeAt_concat_of_read? (lines : List Text) {line : Text} {index : Checked Nat}
    (read : read? line = some index) :
    nodeAt (lines ++ [line]) (lines.length + 1) = index.value := by
  rw [nodeAt, List.take_of_length_le (by simp), List.filterMap_append,
    List.filterMap_cons_some read, List.filterMap_nil, List.getLast?_concat]
  rfl

theorem nodeAt_concat_of_not_marked (lines : List Text) {line : Text} (plain : ¬ Marked line) :
    nodeAt (lines ++ [line]) (lines.length + 1) = nodeAt lines lines.length := by
  rw [nodeAt, List.take_of_length_le (by simp), List.filterMap_append,
    List.filterMap_cons_none ((read?_eq_none_iff line).mpr plain), List.filterMap_nil,
    List.append_nil, nodeAt, List.take_length]

end Directive

/-! ## Where faults come from -/

namespace Node

/-- A jump that waits for its label came from a line of its node. -/
theorem CodeWithin.line_of_pending {count : Nat} {n : Node} (code : n.CodeWithin count)
    {i : Fin slotCount} {word : Word} {label : Text} {origin : Origin}
    (waits : n.slots.get i = .pending word label origin) :
    n.line < origin.line ∧ origin.line ≤ count := by
  have line : (n.slots.get i).origin = origin := by
    rw [waits]
    rfl
  rw [← line]
  apply code.within i
  -- Without a line the slot would be idle, and an idle slot waits for nothing.
  intro unnumbered
  have idle := (code.sound i).idle unnumbered
  rw [waits] at idle
  contradiction

end Node

namespace Assembler

open Grammar Statement

/-- A line within a node keeps the directive that the node comes from. -/
theorem directive_stateAfter_concat (a : Assembler) (calls : List Call) {line : Text}
    (plain : ¬ Directive.Marked line) :
    (a.stateAfter .start (calls ++ [.feed line])).node.index =
        (a.stateAfter .start calls).node.index ∧
      (a.stateAfter .start (calls ++ [.feed line])).node.line =
        (a.stateAfter .start calls).node.line := by
  obtain ⟨s, _, state⟩ := exists_stateAfter_eq_sectionState a calls
  have next := (feed_sectionState a s (linesSinceDirective calls) plain).1
  rw [stateAfter_append, state, stateAfter_cons, stateAfter_nil, perform, next]
  simp only [sectionState, sectionNode, and_self]

/-- The current node is the node of every line from its directive on. -/
theorem exists_line_and_nodeAt_eq (a : Assembler) (calls : List Call) :
    ∃ first : Nat, (a.stateAfter .start calls).node.line = first ∧
      first ≤ (fedLines calls).length ∧
      ∀ n, first ≤ n → n ≤ (fedLines calls).length →
        (Directive.nodeAt (fedLines calls) n : Int) = (a.stateAfter .start calls).node.index := by
  -- From the right, since only a last directive makes the lines before it irrelevant.
  induction calls using List.reverseRecOn with
  | nil =>
      refine ⟨0, rfl, Nat.le_refl 0, ?_⟩
      intro n _ within
      rw [Nat.le_zero.mp within]
      rfl
  | append_singleton calls call inductionHypothesis =>
      obtain ⟨first, line, begun, here⟩ := inductionHypothesis
      cases call with
      | finish =>
          rw [fedLines_concat_finish, stateAfter_append]
          exact ⟨first, line, begun, here⟩
      | feed text =>
          rw [fedLines_concat_feed, List.length_append, List.length_singleton]
          by_cases marked : Directive.Marked text
          · obtain ⟨index, read⟩ := (Directive.exists_read?_iff text).mpr marked
            have state : a.stateAfter .start (calls ++ [.feed text]) =
                sectionStart index ((fedLines calls).length + 1) := by
              rw [stateAfter_append, ← line_stateAfter_start a calls]
              exact (perform_feed_of_read?_eq_some a _ read).2
            rw [state]
            refine ⟨(fedLines calls).length + 1, rfl, Nat.le_refl _, ?_⟩
            intro n after within
            rw [Nat.le_antisymm within after, Directive.nodeAt_concat_of_read? _ read]
            rfl
          · obtain ⟨sameIndex, sameLine⟩ := directive_stateAfter_concat a calls marked
            rw [sameIndex, sameLine]
            refine ⟨first, line, Nat.le_succ_of_le begun, ?_⟩
            intro n after within
            rcases Nat.le_succ_iff.mp within with earlier | last
            · rw [Directive.nodeAt_append _ _ earlier]
              exact here n after earlier
            · rw [last, Directive.nodeAt_concat_of_not_marked _ marked]
              exact here _ begun (Nat.le_refl _)

/-! ## Faults of one call -/

/-- `f` is the fault `inner` at one of the lines and in the node of that line. -/
structure Locates (lines : List Text) (line : Nat) (inner f : Fault) : Prop where
  located : f = .located (Directive.nodeAt lines line) line inner
  within : 1 ≤ line ∧ line ≤ lines.length

/-- More lines leave a fault where it is. -/
theorem Locates.append {lines : List Text} {line : Nat} {inner f : Fault}
    (locates : Locates lines line inner f) (more : List Text) :
    Locates (lines ++ more) line inner f where
  located := by
    rw [Directive.nodeAt_append lines more locates.within.2]
    exact locates.located
  within := by
    have within := locates.within
    rw [List.length_append]
    omega

/-- `f` is a fault of the source, at one of the lines. -/
def Diagnosed (lines : List Text) (f : Fault) : Prop :=
  ∃ line inner, Locates lines line inner f ∧ inner.OfSource

theorem Diagnosed.append {lines : List Text} {f : Fault} (diagnosed : Diagnosed lines f)
    (more : List Text) : Diagnosed (lines ++ more) f := by
  obtain ⟨line, inner, locates, source⟩ := diagnosed
  exact ⟨line, inner, locates.append more, source⟩

/-- A label is missed at the line of its jump, which its node has seen. -/
theorem diagnosed_of_mem_completion (a : Assembler) (calls : List Call) {f : Fault}
    (member : f ∈ faults (completion (a.stateAfter .start calls))) :
    Diagnosed (fedLines calls) f := by
  have code := ((consistent_start a.overflow).stateAfter calls).code
  obtain ⟨first, begun, _, here⟩ := exists_line_and_nodeAt_eq a calls
  rw [faults_completion] at member
  split at member
  · obtain ⟨i, word, label, origin, waits, rfl⟩ := Node.exists_pending_of_mem_undefinedLabels member
    have within := code.line_of_pending waits
    rw [begun, line_stateAfter_start] at within
    obtain ⟨line, numbered⟩ := Int.eq_ofNat_of_zero_le (by omega : 0 ≤ origin.line)
    rw [numbered] at within ⊢
    refine ⟨line, .undefinedLabel label, ⟨?_, by omega⟩, Fault.ofSource_noted _ (by decide)⟩
    rw [here line (by omega) (by omega)]
  · contradiction

/-- A directive without index is missed in the node that it selects, before the node that
it ends. -/
theorem diagnosed_of_mem_directiveFaults (lines : List Text) {text : Text} {index : Checked Nat}
    (read : Directive.read? text = some index) {f : Fault}
    (member : f ∈ directiveFaults index (lines.length + 1)) : Diagnosed (lines ++ [text]) f := by
  obtain ⟨inner, innerMember, rfl⟩ := List.mem_map.mp member
  rw [Directive.exists_of_mem_faults_read? read innerMember]
  refine ⟨lines.length + 1, .badNodeIndex text, ⟨?_, by simp⟩, Fault.ofSource_noted _ (by decide)⟩
  rw [Directive.nodeAt_concat_of_read? lines read]

/-- What goes wrong on a line has one cause. -/
theorem ofSource_of_mem_faults_read {a : Assembler} {number codeBefore : Nat} {line : Text}
    {f : Fault}
    (member : f ∈ (⟨number, codeBefore, Statement.read line⟩ : SectionLine).faults a) :
    f.OfSource := by
  rw [SectionLine.faults, List.mem_append] at member
  rcases member with split | placed
  · obtain ⟨extra, rfl⟩ := Statement.exists_of_mem_faults_read split
    exact Fault.ofSource_noted _ (by decide)
  · split at placed
    · rw [SectionLine.placingFaults, List.mem_append] at placed
      rcases placed with overflow | encoded
      · rcases OverflowPolicy.eq_of_mem_overflowFaults overflow with rfl | rfl
        · exact Fault.ofSource_noted _ (by decide)
        · exact Fault.ofSource_noted _ (by decide)
      · split at encoded
        · obtain ⟨t, rfl | rfl | rfl⟩ := InstructionSet.exists_of_mem_faults_encode encoded
          · exact Fault.ofSource_noted _ (by decide)
          · exact Fault.ofSource_noted _ (by decide)
          · exact Fault.ofSource_noted _ (by decide)
        · contradiction
    · contradiction

/-- The node of a line that is no directive is the current one. -/
theorem nodeAt_concat_eq_index (a : Assembler) (calls : List Call) {line : Text}
    (plain : ¬ Directive.Marked line) :
    (Directive.nodeAt (fedLines calls ++ [line]) ((fedLines calls).length + 1) : Int) =
      (a.stateAfter .start calls).node.index := by
  obtain ⟨first, _, begun, here⟩ := exists_line_and_nodeAt_eq a calls
  rw [Directive.nodeAt_concat_of_not_marked _ plain]
  exact here _ begun (Nat.le_refl _)

/-- Every call delivers faults of the lines up to it. -/
theorem diagnosed_of_mem_perform (a : Assembler) (calls : List Call) (call : Call) {f : Fault}
    (member : f ∈ faults (a.perform (a.stateAfter .start calls) call).events) :
    Diagnosed (fedLines (calls ++ [call])) f := by
  cases call with
  | finish =>
      rw [fedLines_concat_finish]
      exact diagnosed_of_mem_completion a calls member
  | feed line =>
      rw [fedLines_concat_feed]
      by_cases marked : Directive.Marked line
      · obtain ⟨index, read⟩ := (Directive.exists_read?_iff line).mpr marked
        rw [(perform_feed_of_read?_eq_some a _ read).1, faults_append, faults_map_fault,
          line_stateAfter_start] at member
        -- The node that ends is that of the lines before the directive.
        rcases List.mem_append.mp member with own | ended
        · exact diagnosed_of_mem_directiveFaults _ read own
        · exact (diagnosed_of_mem_completion a calls ended).append [line]
      · rw [events_feed_of_not_marked a calls marked, faults_map_fault,
          ← nodeAt_concat_eq_index a calls marked] at member
        obtain ⟨inner, innerMember, rfl⟩ := List.mem_map.mp member
        exact ⟨_, inner, ⟨rfl, by simp⟩, ofSource_of_mem_faults_read innerMember⟩

/-! ## Whole runs -/

/-- So does every run. -/
theorem diagnosed_of_mem_events (a : Assembler) (calls : List Call) {f : Fault}
    (member : f ∈ faults (a.events calls)) : Diagnosed (fedLines calls) f := by
  induction calls using List.reverseRecOn with
  | nil => contradiction
  | append_singleton calls call inductionHypothesis =>
      rw [events_eq_eventsFrom, eventsFrom_append, faults_append] at member
      rcases List.mem_append.mp member with earlier | now
      · have lines : fedLines (calls ++ [call]) = fedLines calls ++ fedLines [call] :=
          List.filterMap_append
        rw [lines]
        exact (inductionHypothesis earlier).append _
      · rw [eventsFrom_cons, eventsFrom_nil, List.append_nil] at now
        exact diagnosed_of_mem_perform a calls call now

/-- The faults of a code line that stand before those of its instruction: its superfluous
words, then the overflow that it causes. -/
def leadingFaults (s : State) (line : Text) : List Fault :=
  (if (wordsOf line).length ≤ 3 then [] else [.tooManyArguments ((wordsOf line).drop 3)]) ++
    if s.slot < slotCount then [] else [overflowFault "overwriting slot 0"]

/-- A code line that is placed delivers one fault for each bad part of its instruction. -/
theorem events_feed_of_placed (a : Assembler) (calls : List Call) {line : Text}
    (plain : ¬ Directive.Marked line) (code : wordsOf line ≠ [])
    (placed : (a.stateAfter .start calls).slot < slotCount ∨ a.overflow ≠ .discard) :
    ∃ fs, a.isa.Defects (wordAt line 0) (wordAt line 1) (wordAt line 2) fs ∧
      (a.perform (a.stateAfter .start calls) (.feed line)).events =
        ((leadingFaults (a.stateAfter .start calls) line ++ fs).map
          (Fault.located (Directive.nodeAt (fedLines calls ++ [line]) ((fedLines calls).length + 1))
            ((fedLines calls).length + 1 : Nat))).map .fault := by
  refine ⟨_, a.isa.defects_encode (wordAt_zero_ne_nil code) (wordAt line 1) (wordAt line 2), ?_⟩
  have slot : (a.stateAfter .start calls).slot =
      a.overflow.counter (codeCount (linesSinceDirective calls)) := by
    obtain ⟨s, _, state⟩ := exists_stateAfter_eq_sectionState a calls
    rw [state]
    rfl
  have isCode : (Statement.read line).value.isCode := (isCode_read line).mpr code
  rw [slot] at placed
  rw [events_feed_of_not_marked a calls plain, nodeAt_concat_eq_index a calls plain,
    leadingFaults, slot, SectionLine.faults, faults_read, SectionLine.statement, if_pos isCode,
    SectionLine.placingFaults, encoded_read_eq, List.append_assoc]
  by_cases room : a.overflow.counter (codeCount (linesSinceDirective calls)) < slotCount
  · obtain ⟨found, none, _⟩ := a.overflow.of_room room
    rw [found, none, if_pos room]
    rfl
  · have wraps : a.overflow ≠ .discard := placed.resolve_left room
    obtain ⟨found, overflow, _⟩ := OverflowPolicy.of_full_of_ne_discard wraps room
    rw [found, overflow, if_neg room]
    rfl

/-- Every fault is located at a line that has been read and in the node of that line, has
one cause of the source, and is shown as an issue of its kind in its own words. A code line
that is placed delivers one fault for each bad operand, the source before the destination,
behind the faults of superfluous words and of an overflow. -/
theorem faults_located (a : Assembler) (calls : List Call) :
    (∀ f ∈ faults (a.events calls), ∃ (line : Nat) (inner : Fault), ∃ c ∈ Cause.ofSource,
      Locates (fedLines calls) line inner f ∧ inner.HasOnly c ∧
        (Issue.ofFault f).Shows (Directive.nodeAt (fedLines calls) line) line c f) ∧
    (∀ line : Text, ¬ Directive.Marked line → wordsOf line ≠ [] →
      (a.stateAfter .start calls).slot < slotCount ∨ a.overflow ≠ .discard →
      ∃ fs, a.isa.Defects (wordAt line 0) (wordAt line 1) (wordAt line 2) fs ∧
        (a.perform (a.stateAfter .start calls) (.feed line)).events =
          ((leadingFaults (a.stateAfter .start calls) line ++ fs).map
            (Fault.located
              (Directive.nodeAt (fedLines calls ++ [line]) ((fedLines calls).length + 1))
              ((fedLines calls).length + 1 : Nat))).map .fault) := by
  constructor
  · intro f member
    obtain ⟨line, inner, locates, c, source, only⟩ := diagnosed_of_mem_events a calls member
    refine ⟨line, inner, c, source, locates, only, ?_⟩
    rw [locates.located]
    exact Issue.shows_ofFault only (Int.natCast_nonneg _) line
  · intro line plain code placed
    exact events_feed_of_placed a calls plain code placed

/-- A node that a directive without index ends while its jump waits for a label. -/
def missedCalls : List Call :=
  [.feed "@3", .feed "JMP x", .feed "@"]

/-- A full node. -/
def fullCalls : List Call :=
  .feed "@3" :: List.replicate 16 (.feed "NOP")

theorem faults_located_of_missed :
    (∃ (line : Nat) (inner : Fault), ∃ c ∈ Cause.ofSource,
      Locates ["@3", "JMP x", "@"] line inner (.located 3 2 (.undefinedLabel "x")) ∧
        inner.HasOnly c ∧
          (Issue.ofFault (.located 3 2 (.undefinedLabel "x"))).Shows
            (Directive.nodeAt ["@3", "JMP x", "@"] line) line c
            (.located 3 2 (.undefinedLabel "x"))) ∧
      ∃ fs, InstructionSet.node.Defects "MOV" "5000" "FOO" fs ∧
        ((⟨.node, .wrap⟩ : Assembler).perform
            ((⟨.node, .wrap⟩ : Assembler).stateAfter .start fullCalls)
            (.feed "MOV 5000, FOO 1 2")).events =
          (([.tooManyArguments ["1", "2"], overflowFault "overwriting slot 0"] ++ fs).map
            (Fault.located 3 18)).map .fault := by
  have missed : faults ((⟨.node, .wrap⟩ : Assembler).events missedCalls) =
      [.located 0 3 (.badNodeIndex "@"), .located 3 2 (.undefinedLabel "x")] := rfl
  have leading : leadingFaults ((⟨.node, .wrap⟩ : Assembler).stateAfter .start fullCalls)
      "MOV 5000, FOO 1 2" =
        [.tooManyArguments ["1", "2"], overflowFault "overwriting slot 0"] := by
    rw [leadingFaults, if_neg (by decide +kernel), if_neg (by decide +kernel)]
    rfl
  have full := (faults_located ⟨.node, .wrap⟩ fullCalls).2 "MOV 5000, FOO 1 2" (by decide)
    (by decide) (Or.inr (by decide))
  rw [leading] at full
  constructor
  · exact (faults_located ⟨.node, .wrap⟩ missedCalls).1 _ (by simp [missed])
  · exact full

end Assembler

end NodeAsm
