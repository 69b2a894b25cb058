import NodeAsm.Fault

/-!
# Issues

An issue is a diagnostic as it is shown to the user: a kind, a severity, a
place and a message. Every fault becomes an issue of severity error whose kind
follows from the causes in the fault.
-/

namespace NodeAsm

/-- The kind of an issue. -/
inductive IssueKind where
  /-- Too many arguments or lines, or a bad directive. -/
  | form
  /-- An unknown register or a literal out of range. -/
  | operand
  /-- An unknown mnemonic. -/
  | opcode
  /-- A jump to an unbound label. -/
  | label
  /-- Suspicious but valid code. -/
  | lint
  /-- A kind given by name. -/
  | named (name : Text)
  deriving DecidableEq, Repr

namespace IssueKind

/-- The name of a kind. -/
def name : IssueKind → Text
  | form => "SYNTAX"
  | operand => "OPERAND"
  | opcode => "OPCODE"
  | label => "LABEL"
  | lint => "LINT"
  | named t => t

/-- The kind of a fault. Where several causes apply, the first listed here
decides. -/
def ofFault (f : Fault) : IssueKind :=
  if f.has .unknownRegister || f.has .literalRange then operand
  else if f.has .unknownOpcode then opcode
  else if f.has .undefinedLabel then label
  else form

end IssueKind

/-- Whether an issue fails the compilation. -/
inductive Severity where
  | error
  | warning
  /-- A severity outside the scale. It counts neither as error nor as warning. -/
  | unranked (rank : Int)
  deriving DecidableEq, Repr

namespace Severity

/-- The severity at a rank of the scale. -/
def ofRank (n : Int) : Severity :=
  if n = 0 then error else if n = 1 then warning else unranked n

/-- The name of a severity. -/
def name : Severity → Text
  | warning => "warning"
  | _ => "error"

end Severity

/-- What an issue refers to beyond its place. -/
inductive Detail where
  /-- The line of an earlier definition. -/
  | firstLine (line : Int)
  /-- A label. -/
  | label (name : Text)
  deriving DecidableEq, Repr

/-- A diagnostic. A negative node stands for no node, line zero for no line. -/
structure Issue where
  kind : IssueKind
  severity : Severity
  node : Int
  line : Int
  message : Text
  /-- The fault behind the issue, if there is one. -/
  fault : Option Fault
  detail : Option Detail
  deriving Repr

namespace Issue

/-- The issue of a fault. The outermost place of the fault becomes the place of
the issue and no longer stands in its message. -/
def ofFault (f : Fault) : Issue :=
  match f.place? with
  | some place =>
      ⟨.ofFault f, .error, place.node, place.line, place.inner.message, some f, none⟩
  | none => ⟨.ofFault f, .error, -1, 0, f.message, some f, none⟩

/-- A warning about suspicious code. -/
def lintWarning (node line : Int) (message : Text) (detail : Detail) : Issue :=
  ⟨.lint, .warning, node, line, message, none, some detail⟩

/-- The line that shows an issue to the user. -/
def text (i : Issue) : Text :=
  let mark : Text := if i.severity = .warning then "warning: " else []
  if i.node ≥ 0 then mark ++ Fault.placeText i.node i.line ++ i.message
  else mark ++ i.message

end Issue

end NodeAsm
