import NodeAsm.Diagnostics.Issue
import NodeAsm.Program

/-!
# Lint

Lint looks for code that is valid but most likely a mistake: nodes defined more
than once, labels bound more than once, and labels that no jump names.
-/

namespace NodeAsm.Lint

/-- Warnings about nodes that were defined before. `seen` lists each node with
the line of its first definition. -/
def redefinitions (seen : List (Int × Int)) : List Program → List Issue
  | [] => []
  | p :: ps =>
      match seen.lookup p.node with
      | some first =>
          .lintWarning p.node p.line
              ("node " ++ Numeral.ofInt p.node ++ " is defined more than once") (.firstLine first)
            :: redefinitions seen ps
      | none => redefinitions (seen ++ [(p.node, p.line)]) ps

/-- Whether some jump of a program names a label. The empty label is never
named. -/
def isReferenced (p : Program) (name : Text) : Bool :=
  !name.isEmpty && p.entries.toList.any fun e => e.word.isJump && e.jumpLabel == name

/-- The warning about a binding that another binding of its name hides. -/
def shadowed (node : Int) (hidden winner : Binding) : Issue :=
  .lintWarning node hidden.line
    ("label " ++ hidden.name.quote ++ " at slot " ++ Numeral.ofInt hidden.slot
      ++ " is shadowed by slot " ++ Numeral.ofInt winner.slot)
    (.label hidden.name)

/-- The warning about a label that no jump names. -/
def unused (node : Int) (b : Binding) : Issue :=
  .lintWarning node b.line ("label " ++ b.name.quote ++ " is never jumped to") (.label b.name)

/-- Warnings about bindings in the order of the source. `seen` holds for each
name the binding that wins so far, the one with the lowest slot. -/
def bindingIssues (p : Program) (seen : List Binding) : List Binding → List Issue
  | [] => []
  | b :: bs =>
      match seen.find? fun first => first.name == b.name with
      | some first =>
          if b.slot < first.slot then
            shadowed p.node first b
              :: bindingIssues p (seen.map fun s => if s.name = b.name then b else s) bs
          else shadowed p.node b first :: bindingIssues p seen bs
      | none =>
          let rest := bindingIssues p (seen ++ [b]) bs
          if isReferenced p b.name then rest else unused p.node b :: rest

/-- Warnings about the labels of a program. -/
def labelIssues (p : Program) : List Issue :=
  bindingIssues p [] p.bindings

/-- Every warning about a list of programs. -/
def issues (ps : List Program) : List Issue :=
  redefinitions [] ps ++ ps.flatMap labelIssues

end NodeAsm.Lint
