import NodeAsm.Proofs.CommandLine.Layering
import NodeAsm.Proofs.Compilation.Writing
import NodeAsm.Proofs.Diagnostics.Shadowing

/-!
# Diagnostics and the product

What a compilation produces is its programs, its output, its errors and the fault it
returns. Lint only adds warnings, and a listing or a log record only adds to what is
shown, so the choices about diagnostics change none of these on any path: neither in a
compilation, whose emitter is called in the same way, nor in a run of the command,
which leaves the same output and the same exit status, also if its output has no room
left or cannot be closed.
-/

namespace NodeAsm

/-! ## Compilations -/

theorem IssueLog.errors_add_of_warnings (l : IssueLog) {issues : List Issue}
    (warnings : ∀ i ∈ issues, i.severity = .warning) : (l.add issues).errors = l.errors := by
  have none : issues.filter (fun i => i.severity = .error) = [] := by
    apply List.filter_eq_nil_iff.mpr
    intro i member
    simp [warnings i member]
  rw [errors, ofSeverity, issues_add, List.filter_append, none, List.append_nil]
  rfl

namespace Compilation

/-- Two outcomes with the same product. What they show may differ, and so may the
warnings. -/
structure Outcome.SameProduct {σ : Type} (first second : Outcome σ) : Prop where
  programs : first.programs = second.programs
  output : first.output = second.output
  errors : first.log.errors = second.log.errors
  failed : first.log.failed = second.log.failed
  fault : first.fault = second.fault

/-- However a compilation ends, it records no further error. -/
theorem errors_conclude {σ : Type} (c : Compilation) (e : Emitter σ) (outcome : Outcome σ)
    (stopped : Option Fault) :
    (c.conclude e outcome stopped).log.errors = outcome.log.errors := by
  cases stopped with
  | some f => rfl
  | none =>
      simp only [conclude, complete]
      split
      · exact IssueLog.errors_add_of_warnings _ fun _ member => Lint.severity_of_mem_issues member
      · rfl

/-- The end of a compilation depends on its choices only through what it shows. -/
theorem sameProduct_conclude {σ : Type} (c d : Compilation) (e : Emitter σ)
    {first second : Outcome σ} (same : first.SameProduct second) (stopped : Option Fault) :
    (c.conclude e first stopped).SameProduct (d.conclude e second stopped) := by
  have errors : (c.conclude e first stopped).log.errors =
      (d.conclude e second stopped).log.errors := by
    rw [errors_conclude, errors_conclude, same.errors]
  constructor
  · rw [programs_conclude, programs_conclude, same.programs]
  · rw [output_conclude, output_conclude, same.output]
  · exact errors
  · rw [IssueLog.failed, IssueLog.failed, errors]
  · rw [fault_conclude, fault_conclude, same.output]

/-- Compilations with the same policy have the same product. -/
theorem sameProduct_run {σ : Type} {c d : Compilation} (policy : c.overflow = d.overflow)
    (e : Emitter σ) (output : σ) (source : Source) (cancelAfter : Option Nat) :
    (c.run e output source cancelAfter).SameProduct (d.run e output source cancelAfter) := by
  have assembler : c.assembler = d.assembler := by
    rw [Compilation.assembler, Compilation.assembler, policy]
  have emission : c.emission e output source cancelAfter =
      d.emission e output source cancelAfter := by
    rw [Compilation.emission, Compilation.emission, assembler]
  have unflushed : (c.unflushed e output source cancelAfter).SameProduct
      (d.unflushed e output source cancelAfter) := by
    rw [Compilation.unflushed, Compilation.unflushed, emission]
    exact ⟨rfl, rfl, rfl, rfl, rfl⟩
  rw [run_eq, run_eq, emission]
  exact sameProduct_conclude c d e unflushed _

end Compilation

namespace CommandLine

/-! ## Runs of the command -/

/-- Options without what they say about diagnostics. -/
def Options.withoutDiagnostics (o : Options) : Options :=
  { o with layer := { o.layer with lint := .none, listing := .none, logLevel := .none } }

theorem Options.agree_of_withoutDiagnostics_eq {first second : Options}
    (same : first.withoutDiagnostics = second.withoutDiagnostics) :
    first.config = second.config ∧ first.output = second.output ∧
      first.layer.format = second.layer.format ∧
      first.layer.overflow = second.layer.overflow := by
  simp only [withoutDiagnostics, Options.mk.injEq, Layer.mk.injEq] at same
  obtain ⟨config, output, _, format, overflow, _⟩ := same
  exact ⟨config, output, format, overflow⟩

/-- Valid options that differ only in diagnostics choose the same format and the same
policy. -/
theorem choices_agree {first second : Options}
    (same : first.withoutDiagnostics = second.withoutDiagnostics)
    {readFile : Text → Except Fault Text} {c d : Choices}
    (firstValid : choices first readFile = .ok c) (secondValid : choices second readFile = .ok d) :
    c.format = d.format ∧ c.overflow = d.overflow := by
  obtain ⟨config, _, format, overflow⟩ := Options.agree_of_withoutDiagnostics_eq same
  obtain ⟨firstSettings, firstRead, firstChosen⟩ := choices_eq_ok_iff.mp firstValid
  obtain ⟨secondSettings, secondRead, secondChosen⟩ := choices_eq_ok_iff.mp secondValid
  obtain ⟨firstBase, firstFile, firstRead⟩ := bind_eq_ok_iff.mp firstRead
  obtain ⟨secondBase, secondFile, secondRead⟩ := bind_eq_ok_iff.mp secondRead
  cases firstRead
  cases secondRead
  have base : firstBase = secondBase := by
    rw [baseSettings, config] at firstFile
    exact Except.ok.inj (firstFile.symm.trans secondFile)
  constructor
  · have names : (firstBase.overlay first.layer).format =
        (secondBase.overlay second.layer).format := by
      simp only [Settings.overlay, base, format]
    have firstFormat := Format.read_eq_ok_iff.mpr firstChosen.format
    rw [names, Format.read_eq_ok_iff.mpr secondChosen.format] at firstFormat
    exact (Except.ok.inj firstFormat).symm
  · have names : (firstBase.overlay first.layer).overflow =
        (secondBase.overlay second.layer).overflow := by
      simp only [Settings.overlay, base, overflow]
    have same : c.overflow.name = d.overflow.name :=
      firstChosen.overflow.symm.trans (names.trans secondChosen.overflow)
    exact congrArg OverflowPolicy.mk same

/-- Two results with the same product. Standard error may differ. -/
structure Result.SameProduct (first second : Result) : Prop where
  exit : first.exit = second.exit
  stdout : first.stdout = second.stdout
  files : first.files = second.files

theorem sameProduct_compileTo {c d : Choices} (format : c.format = d.format)
    (overflow : c.overflow = d.overflow) (outlet : Outlet) (source : Source) :
    (compileTo c outlet source).SameProduct (compileTo d outlet source) := by
  rw [compileTo, compileTo, format]
  exact Compilation.sameProduct_run overflow _ _ _ _

theorem runFault_eq {σ : Type} {first second : Compilation.Outcome σ}
    (same : first.SameProduct second) : runFault first = runFault second := by
  rw [runFault, runFault, same.fault, same.failed]

theorem sameProduct_ofRun (stdout firstError secondError : Text) (files : FileTree)
    (f : Option Fault) :
    (Result.ofRun stdout firstError files f).SameProduct
      (Result.ofRun stdout secondError files f) := by
  cases f <;> exact ⟨rfl, rfl, rfl⟩

/-- Compiling a file has the same product under choices that agree in format and
policy. -/
theorem sameProduct_compileFile {first second : Options} (output : first.output = second.output)
    {c d : Choices} (format : c.format = d.format) (overflow : c.overflow = d.overflow)
    (source : Text) (files : FileTree) (outlet : Outlet) :
    (compileFile first source c files outlet).SameProduct
      (compileFile second source d files outlet) := by
  have same := sameProduct_compileTo format overflow outlet
  unfold compileFile
  rw [output]
  split
  · exact sameProduct_ofRun _ _ _ _ _
  · split
    · simp only [(same _).output, runFault_eq (same _)]
      exact sameProduct_ofRun _ _ _ _ _
    · split
      · exact sameProduct_ofRun _ _ _ _ _
      · simp only [(same _).output, runFault_eq (same _)]
        exact sameProduct_ofRun _ _ _ _ _

/-- Choices about diagnostics do not change the product. Compilations that differ in lint
and listing call the emitter in the same way and have the same product, whatever the
emitter, the source and the cancellation do; valid command lines that differ in lint,
listing and log level leave the same output and the same exit status, whatever room the
output has and however closing it ends. -/
theorem diagnostics_keep_product :
    (∀ {σ : Type} (overflow : OverflowPolicy) (lint lint' listing listing' : Bool) (e : Emitter σ)
        (output : σ) (source : Source) (cancelAfter : Option Nat),
      let c : Compilation := ⟨overflow, lint, listing⟩
      let d : Compilation := ⟨overflow, lint', listing'⟩
      (c.run e output source cancelAfter).SameProduct (d.run e output source cancelAfter) ∧
        (c.run e.recording (output, []) source cancelAfter).SameProduct
          (d.run e.recording (output, []) source cancelAfter)) ∧
      ∀ (files : FileTree) (outlet : Outlet) (args args' : List Text)
          (options options' : Options) (source : Text) (c d : Choices),
        Request.read args = .ok (.compile options source) →
        Request.read args' = .ok (.compile options' source) →
        options.withoutDiagnostics = options'.withoutDiagnostics →
        choices options files.read = .ok c → choices options' files.read = .ok d →
        (execute args files outlet).SameProduct (execute args' files outlet) := by
  constructor
  · intro σ overflow lint lint' listing listing' e output source cancelAfter c d
    constructor
    · exact Compilation.sameProduct_run (c := c) (d := d) rfl e output source cancelAfter
    · exact Compilation.sameProduct_run (c := c) (d := d) rfl e.recording (output, []) source
        cancelAfter
  · intro files outlet args args' options options' source c d read read' same valid valid'
    obtain ⟨format, overflow⟩ := choices_agree same valid valid'
    obtain ⟨_, output, _⟩ := Options.agree_of_withoutDiagnostics_eq same
    rw [execute_eq_compileFile read valid, execute_eq_compileFile read' valid']
    exact sameProduct_compileFile output format overflow source files outlet

/-- A tree with a source whose label is unused and whose jump has no target. -/
def faultyTree : FileTree :=
  ⟨[], [(["a"], "@1\nx: JMP y\n")]⟩

/-- The options that ask for all diagnostics. -/
def allDiagnostics : Options :=
  ⟨[], "b", false, ⟨.none, .none, some true, some true, some "trace"⟩⟩

/-- An output that takes eight bytes and cannot be closed. -/
def brokenOutlet : Outlet :=
  ⟨some 8, some (.plain "input/output error")⟩

theorem diagnostics_keep_product_of_faulty :
    let quiet := execute ["a", "-o", "b"] faultyTree
    let loud := execute ["--lint", "a", "--listing", "-ob", "--log-level=trace"] faultyTree
    ((loud .healthy).exit = 1 ∧ (loud .healthy).files.find ["b"] ≠ .file [] ∧
      (quiet .healthy).stderr ≠ (loud .healthy).stderr ∧
      (quiet .healthy).SameProduct (loud .healthy)) ∧
    (loud brokenOutlet).files.find ["b"] ≠ (loud .healthy).files.find ["b"] ∧
      (quiet brokenOutlet).SameProduct (loud brokenOutlet) := by
  intro quiet loud
  have same (outlet : Outlet) : (quiet outlet).SameProduct (loud outlet) :=
    diagnostics_keep_product.2 faultyTree outlet _ _ ⟨[], "b", false, Layer.empty⟩ allDiagnostics
      "a" ⟨.hex, .wrap, false, false, .warn⟩ ⟨.hex, .wrap, true, true, .trace⟩ rfl rfl rfl rfl rfl
  exact ⟨⟨by decide +kernel, by decide +kernel, by decide +kernel, same .healthy⟩,
    by decide +kernel, same brokenOutlet⟩

end CommandLine

end NodeAsm
