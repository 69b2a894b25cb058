import Mathlib.Data.Int.ConditionallyCompleteOrder
import NodeAsm.Proofs.Compilation.Protocol
import NodeAsm.Proofs.Diagnostics.Wording

/-!
# What a report shows

A report shows each recorded issue on a line of its own, by source line and otherwise in the
order recorded. That order is the only one that sorts the issues and keeps those of one line
as they are. Since no issue breaks its line, the line feeds of a report count its issues.
-/

namespace NodeAsm

/-! ## Stable arrangements -/

section Arranged

variable {α κ : Type} [LinearOrder κ]

/-- `shown` holds what is recorded by increasing key, and where keys are equal in the order
recorded. -/
structure Arranged (key : α → κ) (recorded shown : List α) : Prop where
  perm : shown.Perm recorded
  sorted : shown.Pairwise fun a b => key a ≤ key b
  stable : ∀ a ∈ recorded,
    shown.filter (fun b => key b = key a) = recorded.filter fun b => key b = key a

namespace Arranged

variable {key : α → κ} {recorded shown : List α}

theorem key_le_of_mem {a b : α} {rest : List α}
    (sorted : (b :: rest).Pairwise fun a b => key a ≤ key b) (member : a ∈ b :: rest) :
    key b ≤ key a := by
  rcases List.mem_cons.mp member with rfl | later
  · exact le_refl _
  · exact (List.pairwise_cons.mp sorted).1 a later

/-- Two lists in order are equal if they agree on what shares a key. -/
theorem eq_of_filter_eq {first second : List α} (perm : first.Perm second)
    (sorted : first.Pairwise fun a b => key a ≤ key b)
    (otherSorted : second.Pairwise fun a b => key a ≤ key b)
    (same : ∀ a ∈ first,
      first.filter (fun b => key b = key a) = second.filter fun b => key b = key a) :
    first = second := by
  induction first generalizing second with
  | nil => exact perm.nil_eq
  | cons a first inductionHypothesis =>
      cases second with
      | nil => exact absurd perm.symm.nil_eq (by simp)
      | cons b second =>
          -- Each head has the least key, so both have the same one and stand first under it.
          have keys : key b = key a := le_antisymm
            (key_le_of_mem otherSorted (perm.mem_iff.mp List.mem_cons_self))
            (key_le_of_mem sorted (perm.mem_iff.mpr List.mem_cons_self))
          have heads := same a List.mem_cons_self
          rw [List.filter_cons_of_pos (by simp), List.filter_cons_of_pos (by simpa using keys)]
            at heads
          obtain ⟨rfl, _⟩ := List.cons.inj heads
          congr 1
          apply inductionHypothesis perm.cons_inv sorted.of_cons otherSorted.of_cons
          intro x member
          have both := same x (List.mem_cons_of_mem _ member)
          by_cases shared : key a = key x
          · rw [List.filter_cons_of_pos (by simpa using shared),
              List.filter_cons_of_pos (by simpa using shared)] at both
            exact (List.cons.inj both).2
          · rwa [List.filter_cons_of_neg (by simpa using shared),
              List.filter_cons_of_neg (by simpa using shared)] at both

/-- There is at most one arrangement. -/
theorem unique {other : List α} (arranged : Arranged key recorded shown)
    (otherArranged : Arranged key recorded other) : other = shown := by
  apply eq_of_filter_eq (otherArranged.perm.trans arranged.perm.symm) otherArranged.sorted
    arranged.sorted
  intro a member
  have inside : a ∈ recorded := otherArranged.perm.mem_iff.mp member
  rw [otherArranged.stable a inside, arranged.stable a inside]

/-- Keys that compare alike arrange alike. -/
theorem of_le_iff {ι : Type} [LinearOrder ι] {other : α → ι}
    (arranged : Arranged key recorded shown)
    (alike : ∀ a ∈ recorded, ∀ b ∈ recorded, key a ≤ key b ↔ other a ≤ other b) :
    Arranged other recorded shown where
  perm := arranged.perm
  sorted := arranged.sorted.imp_of_mem fun {a b} first second =>
    (alike a (arranged.perm.mem_iff.mp first) b (arranged.perm.mem_iff.mp second)).mp
  stable a member := by
    have equal : ∀ b ∈ recorded, decide (other b = other a) = decide (key b = key a) := by
      intro b inside
      rw [decide_eq_decide, le_antisymm_iff, le_antisymm_iff, alike a member b inside,
        alike b inside a member]
    rw [List.filter_congr equal,
      List.filter_congr fun b inside => equal b (arranged.perm.mem_iff.mp inside)]
    exact arranged.stable a member

/-- Merge sort arranges by its key. -/
theorem of_mergeSort (key : α → κ) (recorded : List α) :
    Arranged key recorded (recorded.mergeSort fun a b => key a ≤ key b) := by
  have transitive (a b c : α) (first : decide (key a ≤ key b)) (second : decide (key b ≤ key c)) :
      decide (key a ≤ key c) :=
    decide_eq_true (le_trans (of_decide_eq_true first) (of_decide_eq_true second))
  have total (a b : α) : decide (key a ≤ key b) || decide (key b ≤ key a) := by
    simpa using le_total (key a) (key b)
  have perm := recorded.mergeSort_perm fun a b => key a ≤ key b
  refine ⟨perm, ?_, ?_⟩
  · simpa using List.pairwise_mergeSort transitive total recorded
  · intro a _
    -- What shares a key is in order already, so the sort keeps it as a sublist.
    have ties : (recorded.filter fun b => key b = key a).Pairwise fun b c => key b ≤ key c := by
      apply List.pairwise_of_forall_mem_list
      intro b inFilter c alsoInFilter
      have first : key b = key a := by simpa using (List.mem_filter.mp inFilter).2
      have second : key c = key a := by simpa using (List.mem_filter.mp alsoInFilter).2
      exact le_of_eq (first.trans second.symm)
    have kept := (List.sublist_mergeSort transitive total (by simpa using ties)
      List.filter_sublist).filter fun b => decide (key b = key a)
    simp only [List.filter_filter, Bool.and_self] at kept
    exact (kept.eq_of_length (perm.filter _).length_eq.symm).symm

end Arranged

end Arranged

/-! ## Reports -/

open Text

/-- The source line of an issue. No line counts as behind all lines. -/
def Issue.sourceLine (i : Issue) : WithTop Int :=
  if 0 < i.line then (i.line : WithTop Int) else ⊤

namespace IssueLog

/-- The last line that can be counted stands for no line, so it must not be met together with
an issue without line. -/
theorem reportLine_le_iff {i j : Issue} (apart : 0 < i.line ∨ j.line < Numeral.maxInt64)
    (otherApart : 0 < j.line ∨ i.line < Numeral.maxInt64) :
    reportLine i ≤ reportLine j ↔ i.sourceLine ≤ j.sourceLine := by
  unfold reportLine Issue.sourceLine
  by_cases first : 0 < i.line
  · by_cases second : 0 < j.line
    · rw [if_pos first, if_pos second, if_pos first, if_pos second, WithTop.coe_le_coe]
    · rw [if_pos first, if_neg second, if_neg second]
      exact iff_of_true (otherApart.resolve_left second).le le_top
  · by_cases second : 0 < j.line
    · rw [if_neg first, if_pos second, if_neg first, if_pos second]
      exact iff_of_false (not_le_of_gt (apart.resolve_left first))
        (not_le_of_gt (WithTop.coe_lt_top _))
    · rw [if_neg first, if_neg second, if_neg first, if_neg second]
      exact iff_of_true le_rfl le_rfl

theorem arranged_bySourceLine {l : IssueLog}
    (apart : ∀ i ∈ l.issues, ∀ j ∈ l.issues, 0 < i.line ∨ j.line < Numeral.maxInt64) :
    Arranged Issue.sourceLine l.issues l.bySourceLine := by
  apply (Arranged.of_mergeSort reportLine l.issues).of_le_iff
  intro i member j otherMember
  exact reportLine_le_iff (apart i member j otherMember) (apart j otherMember i member)

/-- The lines of a report, one for each issue. -/
def lines (shown : List Issue) : Text :=
  shown.flatMap fun i => i.text ++ [lf]

theorem count_lf_lines {shown : List Issue} (unbroken : ∀ i ∈ shown, OneLine i.text) :
    (lines shown).count lf = shown.length := by
  induction shown with
  | nil => rfl
  | cons i shown inductionHypothesis =>
      have own : i.text.count lf = 0 := List.count_eq_zero.mpr (unbroken i List.mem_cons_self)
      have rest := inductionHypothesis fun j member => unbroken j (List.mem_cons_of_mem _ member)
      rw [lines] at rest
      rw [lines, List.flatMap_cons, List.count_append, List.count_append, own, rest,
        List.length_cons, Nat.add_comm]
      rfl

/-- The notice behind the issues if there are errors among them. -/
def notice (errors warnings : Nat) : Text :=
  if 0 < errors then
    [lf] ++ "Compilation Failed (" ++ Numeral.ofNat errors ++ " errors, " ++
      Numeral.ofNat warnings ++ " warnings)" ++ [lf]
  else []

theorem count_lf_notice (errors warnings : Nat) :
    (notice errors warnings).count lf = if 0 < errors then 2 else 0 := by
  have numeral (n : Nat) : (Numeral.ofNat n).count lf = 0 :=
    List.count_eq_zero.mpr (Numeral.oneLine_ofNat n)
  unfold notice
  split
  · simp only [List.count_append, numeral]
    rfl
  · rfl

theorem length_ofSeverity (l : IssueLog) (s : Severity) :
    (l.ofSeverity s).length = l.issues.countP fun i => i.severity = s := by
  rw [List.countP_eq_length_filter]
  rfl

/-- A report is the lines of its issues, and the notice behind them. -/
theorem report_eq (l : IssueLog) :
    l.report = lines l.bySourceLine ++
      notice (l.issues.countP fun i => i.severity = .error)
        (l.issues.countP fun i => i.severity = .warning) := by
  have failed : l.failed ↔ 0 < (l.ofSeverity .error).length := by
    rw [IssueLog.failed, errors, Bool.not_eq_true', List.isEmpty_eq_false_iff,
      List.length_pos_iff]
  rw [← length_ofSeverity, ← length_ofSeverity, report, notice, lines]
  congr 1
  by_cases errorFound : l.failed
  · rw [if_pos errorFound, if_pos (failed.mp errorFound), List.append_assoc _ _ [lf]]
    rfl
  · rw [if_neg errorFound, if_neg fun positive => errorFound (failed.mpr positive)]

end IssueLog

/-! ## Reports of compilations -/

namespace Compilation

open Assembler

section Run

variable {σ : Type} (c : Compilation) (e : Emitter σ) (output : σ) (source : Source)
  (cancelAfter : Option Nat)

/-- What stops a compilation before the end of its source, if anything. -/
def stopped : Option Fault :=
  (c.emission e output source cancelAfter).fault.or (source.read cancelAfter).2.fault?

/-- A compilation records the faults in the order delivered, and behind them the warnings of
lint if nothing stops it. -/
theorem issues_run :
    (c.run e output source cancelAfter).log.issues =
      (faults (c.assembler.events (c.performed e output source cancelAfter))).map Issue.ofFault ++
        if c.lint ∧ c.stopped e output source cancelAfter = none then
          Lint.issues (c.run e output source cancelAfter).programs
        else [] := by
  have recorded : (c.unflushed e output source cancelAfter).log.issues =
      (faults (c.assembler.events (c.performed e output source cancelAfter))).map
        Issue.ofFault := by
    rw [unflushed, steps_emission]
    rfl
  rw [run_eq, programs_conclude, ← recorded]
  change (c.conclude e _ (c.stopped e output source cancelAfter)).log.issues = _
  cases c.stopped e output source cancelAfter with
  | some f => simp [conclude, abort]
  | none => by_cases linting : c.lint <;> simp [conclude, complete, linting]

/-- Every issue of a compilation is readable. -/
theorem readable_of_mem_issues_run {i : Issue}
    (member : i ∈ (c.run e output source cancelAfter).log.issues) : i.Readable := by
  rw [issues_run] at member
  rcases List.mem_append.mp member with fault | warning
  · obtain ⟨f, delivered, rfl⟩ := List.mem_map.mp fault
    exact Issue.readable_ofFault delivered
  · split at warning
    · apply Lint.readable_of_mem_issues _ warning
      intro p inside
      rw [programs_run] at inside
      exact numbered_of_mem_programs inside
    · contradiction

/-- No issue of a compilation holds a line feed. The report shows each issue on a line of its
own in the only order that is sorted by source line and stable, and ends with a notice if there
is an error, so its line feeds count the issues. The issues stay recorded in the order in which
they arose. -/
theorem report_run :
    let issues := (c.run e output source cancelAfter).log.issues
    let report := (c.run e output source cancelAfter).log.report
    let errors := issues.countP fun i => i.severity = .error
    let warnings := issues.countP fun i => i.severity = .warning
    (∀ i ∈ issues, lf ∉ i.text) ∧
      (∃ shown, (∀ other, Arranged Issue.sourceLine issues other ↔ other = shown) ∧
        report = IssueLog.lines shown ++ IssueLog.notice errors warnings) ∧
      report.count lf = issues.length + (if 0 < errors then 2 else 0) ∧
      issues =
        (faults (c.assembler.events (c.performed e output source cancelAfter))).map
            Issue.ofFault ++
          if c.lint ∧ c.stopped e output source cancelAfter = none then
            Lint.issues (c.run e output source cancelAfter).programs
          else [] := by
  intro issues report errors warnings
  have readable : ∀ i ∈ issues, i.Readable := fun _ => c.readable_of_mem_issues_run e output source
    cancelAfter
  have arranged : Arranged Issue.sourceLine issues
      (c.run e output source cancelAfter).log.bySourceLine :=
    IssueLog.arranged_bySourceLine fun i member _ _ => Or.inl (readable i member).line
  have whole : report = IssueLog.lines (c.run e output source cancelAfter).log.bySourceLine ++
      IssueLog.notice errors warnings :=
    IssueLog.report_eq _
  refine ⟨fun i member => (readable i member).text, ⟨_, ?_, whole⟩, ?_, ?_⟩
  · intro other
    constructor
    · exact arranged.unique
    · rintro rfl
      exact arranged
  · have unbroken : ∀ i ∈ (c.run e output source cancelAfter).log.bySourceLine, OneLine i.text :=
      fun i member => (readable i (arranged.perm.mem_iff.mp member)).text
    rw [whole, List.count_append, IssueLog.count_lf_lines unbroken, IssueLog.count_lf_notice,
      arranged.perm.length_eq]
  · exact c.issues_run e output source cancelAfter

end Run

end Compilation

end NodeAsm
