import NodeAsm.Diagnostics.Issue

/-!
# Reports

The issues of a compilation are kept in the order in which they were recorded.
A report shows them in the order of their source lines, those without a line
last, and ends with a notice if there is an error among them.
-/

namespace NodeAsm

/-- The issues of one compilation in the order recorded. -/
structure IssueLog where
  issues : List Issue
  deriving Repr

namespace IssueLog

/-- No issues. -/
def empty : IssueLog :=
  ⟨[]⟩

/-- Records further issues. -/
def add (l : IssueLog) (issues : List Issue) : IssueLog :=
  ⟨l.issues ++ issues⟩

@[simp]
theorem issues_add (l : IssueLog) (issues : List Issue) :
    (l.add issues).issues = l.issues ++ issues :=
  rfl

/-- The issues of a severity. -/
def ofSeverity (l : IssueLog) (s : Severity) : List Issue :=
  l.issues.filter fun i => i.severity = s

/-- The errors. -/
def errors (l : IssueLog) : List Issue :=
  l.ofSeverity .error

/-- The warnings. -/
def warnings (l : IssueLog) : List Issue :=
  l.ofSeverity .warning

/-- Whether there is an error. -/
def failed (l : IssueLog) : Bool :=
  !l.errors.isEmpty

/-- The position of an issue in a report. No line counts as the last line. -/
def reportLine (i : Issue) : Int :=
  if i.line > 0 then i.line else Numeral.maxInt64

/-- The issues by source line. Issues on one line keep their order. -/
def bySourceLine (l : IssueLog) : List Issue :=
  l.issues.mergeSort fun a b => reportLine a ≤ reportLine b

/-- The notice that ends the report of a failed compilation. -/
def failureNotice (l : IssueLog) : Text :=
  "\nCompilation Failed (" ++ Numeral.ofNat l.errors.length ++ " errors, "
    ++ Numeral.ofNat l.warnings.length ++ " warnings)\n"

/-- The report of a compilation. -/
def report (l : IssueLog) : Text :=
  (l.bySourceLine.flatMap fun i => i.text ++ [Text.lf])
    ++ (if l.failed then l.failureNotice else [])

end IssueLog

end NodeAsm
