import NodeAsm.Proofs.Assembler.Labels
import NodeAsm.Proofs.Diagnostics.Locating
import NodeAsm.Proofs.Diagnostics.Warnings
import NodeAsm.Proofs.Text.OneLine

/-!
# Issues on one line

A message is made of fixed words, numerals, quoted text and two kinds of raw text: the
superfluous words of a line, which end where the line does, and literals, which are made of
digits. So no fault of a source breaks its line, and neither does a warning. Both stand at
lines counted from one.
-/

namespace NodeAsm

open Text

/-! ## Faults -/

theorem Cause.oneLine_message (c : Cause) : OneLine c.message := by
  cases c <;> decide

namespace Fault

theorem oneLine_placeText (node line : Int) : OneLine (placeText node line) := by
  unfold placeText
  split
  · simp only [oneLine_append_iff]
    exact ⟨⟨⟨⟨by decide, Numeral.oneLine_ofInt _⟩, by decide⟩, Numeral.oneLine_ofInt _⟩, by decide⟩
  · simp only [oneLine_append_iff]
    exact ⟨⟨by decide, Numeral.oneLine_ofInt _⟩, by decide⟩

theorem oneLine_located {inner : Fault} (unbroken : OneLine inner.message) (node line : Int) :
    OneLine (located node line inner).message :=
  oneLine_append_iff.mpr ⟨oneLine_placeText node line, unbroken⟩

/-- A cause adds no line feed to its note. -/
theorem oneLine_noted {note : Text} (unbroken : OneLine note) (c : Cause) :
    OneLine (noted note (cause c)).message := by
  simp only [message, oneLine_append_iff]
  exact ⟨⟨unbroken, by decide⟩, c.oneLine_message⟩

/-- Neither does quoted text. -/
theorem oneLine_noted_quote {word : Text} (unbroken : OneLine word) (t : Text) (c : Cause) :
    OneLine (noted (word ++ t.quote) (cause c)).message :=
  oneLine_noted (oneLine_append_iff.mpr ⟨unbroken, oneLine_quote t⟩) c

end Fault

/-- A literal is made of digits behind at most a minus. -/
theorem Operand.oneLine_of_isNumeric {t : Text} (numeric : isNumeric t) : OneLine t := by
  have digits {ds : Text} (all : ds.all Numeral.isDigit) : OneLine ds := fun feed =>
    Numeral.ne_of_isDigit (List.all_eq_true.mp all _ feed) (by decide) rfl
  cases t with
  | nil => exact oneLine_nil
  | cons b rest =>
      simp only [isNumeric] at numeric
      split at numeric
      next minus =>
        rw [Bool.and_eq_true] at numeric
        exact oneLine_cons_iff.mpr ⟨minus ▸ by decide, digits numeric.2⟩
      next => exact digits numeric

theorem Operand.Defects.oneLine {t : Text} {fs : List Fault} (defects : Defects t fs) {f : Fault}
    (member : f ∈ fs) : OneLine f.message := by
  cases defects with
  | valid source => contradiction
  | range v decimal outside =>
      rw [List.mem_singleton.mp member]
      apply Fault.oneLine_noted
      exact oneLine_append_iff.mpr ⟨by decide, oneLine_of_isNumeric decimal.isNumeric⟩
  | unknown other verbal =>
      rw [List.mem_singleton.mp member]
      exact Fault.oneLine_noted_quote (by decide) t _

theorem Register.Defects.oneLine {t : Text} {fs : List Fault} (defects : Defects t fs) {f : Fault}
    (member : f ∈ fs) : OneLine f.message := by
  cases defects with
  | valid r name => contradiction
  | unknown other =>
      rw [List.mem_singleton.mp member]
      exact Fault.oneLine_noted_quote (by decide) t _

theorem InstructionSet.Defects.oneLine {isa : InstructionSet} {mnemonic first second : Text}
    {fs : List Fault} (defects : isa.Defects mnemonic first second fs) {f : Fault}
    (member : f ∈ fs) : OneLine f.message := by
  cases defects with
  | unknown missing =>
      rw [List.mem_singleton.mp member]
      exact Fault.oneLine_noted_quote (by decide) mnemonic _
  | move found kind source destination =>
      rcases List.mem_append.mp member with inSource | inDestination
      · exact source.oneLine inSource
      · exact destination.oneLine inDestination
  | unary found kind source => exact source.oneLine member
  | other found move unary => contradiction

/-- The words of a line end where the line does. -/
theorem Statement.oneLine_of_mem_faults_read {line : Text} {f : Fault}
    (member : f ∈ (read line).faults) : OneLine f.message := by
  rw [faults_read] at member
  split at member
  · contradiction
  · rw [List.mem_singleton.mp member]
    apply Fault.oneLine_noted
    apply oneLine_append_iff.mpr ⟨by decide, oneLine_joinWith (by decide) _⟩
    intro word extra feed
    exact absurd (isWordByte_of_mem_wordsOf (List.mem_of_mem_drop extra) feed) (by decide)

namespace Assembler

open Grammar Statement

theorem oneLine_of_mem_faults {a : Assembler} {number codeBefore : Nat} {line : Text} {f : Fault}
    (member : f ∈ (⟨number, codeBefore, Statement.read line⟩ : SectionLine).faults a) :
    OneLine f.message := by
  rw [SectionLine.faults, List.mem_append] at member
  rcases member with split | placed
  · exact Statement.oneLine_of_mem_faults_read split
  · split at placed
    next code =>
      rw [SectionLine.placingFaults, List.mem_append] at placed
      rcases placed with overflow | encoded
      · rcases OverflowPolicy.eq_of_mem_overflowFaults overflow with rfl | rfl <;> decide
      · split at encoded
        · rw [encoded_read_eq] at encoded
          have named := wordAt_zero_ne_nil ((isCode_read line).mp code)
          exact (a.isa.defects_encode named _ _).oneLine encoded
        · contradiction
    next => contradiction

theorem oneLine_of_mem_completion {s : State} {f : Fault} (member : f ∈ faults (completion s)) :
    OneLine f.message := by
  rw [faults_completion] at member
  split at member
  · obtain ⟨line, label, rfl⟩ := Node.exists_of_mem_undefinedLabels member
    exact Fault.oneLine_located (Fault.oneLine_noted_quote (by decide) label _) _ _
  · contradiction

/-- Every call delivers faults on one line. -/
theorem oneLine_of_mem_perform (a : Assembler) (calls : List Call) (call : Call) {f : Fault}
    (member : f ∈ faults (a.perform (a.stateAfter .start calls) call).events) :
    OneLine f.message := by
  cases call with
  | finish => exact oneLine_of_mem_completion member
  | feed line =>
      by_cases marked : Directive.Marked line
      · obtain ⟨index, read⟩ := (Directive.exists_read?_iff line).mpr marked
        rw [(perform_feed_of_read?_eq_some a _ read).1, faults_append, faults_map_fault] at member
        rcases List.mem_append.mp member with own | ended
        · obtain ⟨inner, innerMember, rfl⟩ := List.mem_map.mp own
          rw [Directive.exists_of_mem_faults_read? read innerMember]
          exact Fault.oneLine_located (Fault.oneLine_noted_quote (by decide) line.dropLineEnd _) _ _
        · exact oneLine_of_mem_completion ended
      · rw [events_feed_of_not_marked a calls marked, faults_map_fault] at member
        obtain ⟨inner, innerMember, rfl⟩ := List.mem_map.mp member
        exact Fault.oneLine_located (oneLine_of_mem_faults innerMember) _ _

/-- So does every run. -/
theorem oneLine_of_mem_events (a : Assembler) (calls : List Call) {f : Fault}
    (member : f ∈ faults (a.events calls)) : OneLine f.message := by
  induction calls using List.reverseRecOn with
  | nil => contradiction
  | append_singleton calls call inductionHypothesis =>
      rw [events_eq_eventsFrom, eventsFrom_append, faults_append] at member
      rcases List.mem_append.mp member with earlier | now
      · exact inductionHypothesis earlier
      · rw [eventsFrom_cons, eventsFrom_nil, List.append_nil] at now
        exact oneLine_of_mem_perform a calls call now

/-- Delivered programs and their labels stand at lines counted from one. -/
theorem numbered_of_mem_programs {a : Assembler} {calls : List Call} {p : Program}
    (member : p ∈ programs (a.events calls)) : 0 < p.line ∧ ∀ b ∈ p.bindings, 0 < b.line := by
  have positive : 0 < p.line := by
    rw [events_eq_eventsFrom, programs_eventsFrom_of_outside a rfl] at member
    obtain ⟨s, completed, rfl⟩ := List.mem_map.mp member
    obtain ⟨marked, plain⟩ := marked_of_mem_completedSections completed
    rw [(delivers_sectionProgram a marked plain).line]
    omega
  refine ⟨positive, ?_⟩
  intro b bound
  obtain ⟨before, call, _, _, delivered⟩ := exists_of_mem_programs_events member
  rw [eq_of_mem_programs_perform delivered] at positive bound
  have labels := ((consistent_start a.overflow).stateAfter before).labels
  exact positive.trans (labels.within b bound).1

end Assembler

/-! ## Issues -/

/-- An issue at a line that is shown on one line. -/
structure Issue.Readable (i : Issue) : Prop where
  line : 0 < i.line
  text : OneLine i.text

namespace Issue

theorem oneLine_text {i : Issue} (unbroken : OneLine i.message) : OneLine i.text := by
  have mark : OneLine (if i.severity = .warning then "warning: " else []) := by
    split <;> decide
  unfold text
  simp only
  split
  · simp only [oneLine_append_iff]
    exact ⟨⟨mark, Fault.oneLine_placeText _ _⟩, unbroken⟩
  · exact oneLine_append_iff.mpr ⟨mark, unbroken⟩

theorem readable_lintWarning {line : Int} (positive : 0 < line) {message : Text}
    (unbroken : OneLine message) (node : Int) (detail : Detail) :
    (lintWarning node line message detail).Readable :=
  ⟨positive, oneLine_text unbroken⟩

/-- The faults of a run make readable issues. -/
theorem readable_ofFault {a : Assembler} {calls : List Assembler.Call} {f : Fault}
    (member : f ∈ Assembler.faults (a.events calls)) : (ofFault f).Readable := by
  obtain ⟨line, inner, locates, _⟩ := Assembler.diagnosed_of_mem_events a calls member
  have unbroken := Assembler.oneLine_of_mem_events a calls member
  rw [locates.located] at unbroken ⊢
  have positive : (0 : Int) < line := Int.natCast_pos.mpr locates.within.1
  exact ⟨positive, oneLine_text (oneLine_append_iff.mp unbroken).2⟩

end Issue

namespace Lint

theorem readable_shadowed {b : Binding} (positive : 0 < b.line) (node : Int) (winner : Binding) :
    (shadowed node b winner).Readable := by
  apply Issue.readable_lintWarning positive
  simp only [oneLine_append_iff]
  exact ⟨⟨⟨⟨⟨by decide, oneLine_quote _⟩, by decide⟩, Numeral.oneLine_ofInt _⟩, by decide⟩,
    Numeral.oneLine_ofInt _⟩

theorem readable_unused {b : Binding} (positive : 0 < b.line) (node : Int) :
    (unused node b).Readable := by
  apply Issue.readable_lintWarning positive
  simp only [oneLine_append_iff]
  exact ⟨⟨by decide, oneLine_quote _⟩, by decide⟩

theorem readable_redefined {p : Program} (positive : 0 < p.line) (first : Program) :
    (redefined p first).Readable := by
  apply Issue.readable_lintWarning positive
  simp only [oneLine_append_iff]
  exact ⟨⟨by decide, Numeral.oneLine_ofInt _⟩, by decide⟩

theorem mem_of_mem_enter {seen : List Binding} {b s : Binding} (member : s ∈ enter seen b) :
    s ∈ seen ∨ s = b := by
  unfold enter at member
  split at member
  · split at member
    · obtain ⟨old, inside, rfl⟩ := List.mem_map.mp member
      split
      · exact Or.inr rfl
      · exact Or.inl inside
    · exact Or.inl member
  · rcases List.mem_append.mp member with old | new
    · exact Or.inl old
    · exact Or.inr (List.mem_singleton.mp new)

theorem readable_of_issue?_eq_some {p : Program} {seen : List Binding} {b : Binding}
    (positive : ∀ s ∈ seen, 0 < s.line) (last : 0 < b.line) {i : Issue}
    (gives : issue? p seen b = some i) : i.Readable := by
  rcases exists_of_issue?_eq_some gives with ⟨first, member, _, rfl | rfl⟩ | rfl
  · exact readable_shadowed (positive first member) p.node b
  · exact readable_shadowed last p.node first
  · exact readable_unused last p.node

theorem readable_of_mem_bindingIssues {p : Program} {seen bs : List Binding}
    (positive : ∀ b ∈ seen, 0 < b.line) (coming : ∀ b ∈ bs, 0 < b.line) {i : Issue}
    (member : i ∈ bindingIssues p seen bs) : i.Readable := by
  induction bs generalizing seen with
  | nil => contradiction
  | cons b bs inductionHypothesis =>
      have last : 0 < b.line := coming b List.mem_cons_self
      rw [bindingIssues_cons] at member
      rcases List.mem_append.mp member with now | later
      · exact readable_of_issue?_eq_some positive last (Option.mem_toList.mp now)
      · apply inductionHypothesis _ (fun b member => coming b (List.mem_cons_of_mem _ member)) later
        intro s entered
        rcases mem_of_mem_enter entered with old | rfl
        · exact positive s old
        · exact last

/-- Lint of numbered programs gives readable warnings. -/
theorem readable_of_mem_issues {ps : List Program}
    (numbered : ∀ p ∈ ps, 0 < p.line ∧ ∀ b ∈ p.bindings, 0 < b.line) {i : Issue}
    (member : i ∈ issues ps) : i.Readable := by
  rcases List.mem_append.mp member with again | labels
  · rw [redefinitions_nil_eq] at again
    obtain ⟨n, _, report⟩ := List.mem_filterMap.mp again
    obtain ⟨p, found, report⟩ := Option.bind_eq_some_iff.mp report
    obtain ⟨first, _, rfl⟩ := Option.map_eq_some_iff.mp report
    exact readable_redefined (numbered p (List.mem_of_getElem? found)).1 first
  · obtain ⟨p, inside, issue⟩ := List.mem_flatMap.mp labels
    exact readable_of_mem_bindingIssues (by simp) (numbered p inside).2 issue

end Lint

end NodeAsm
