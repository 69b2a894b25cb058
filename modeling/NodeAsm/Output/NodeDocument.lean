import NodeAsm.Program
import NodeAsm.Text.NaturalOrder
import NodeAsm.Yaml.Presentation

/-!
# Node documents

The YAML form of a program: its node, its words, and for each label the slot to
which jumps resolve.
-/

namespace NodeAsm

/-- The content of a document. -/
structure NodeDocument where
  node : Int
  words : List Text
  /-- Each label once with its lowest slot, in the order of first binding. -/
  labels : List (Text × Int)
  deriving DecidableEq, Repr

namespace NodeDocument

/-- Adds a binding: a name keeps its lowest slot. -/
def addLabel (labels : List (Text × Int)) (b : Binding) : List (Text × Int) :=
  match labels.lookup b.name with
  | some _ =>
      labels.map fun (name, slot) =>
        if name = b.name ∧ b.slot < slot then (name, b.slot) else (name, slot)
  | none => labels ++ [(b.name, b.slot)]

/-- The document of a program. -/
def ofProgram (p : Program) : NodeDocument :=
  ⟨p.node, p.words.map Word.text, p.bindings.foldl addLabel []⟩

/-- The labels in natural order. -/
def sortedLabels (d : NodeDocument) : List (Text × Int) :=
  d.labels.mergeSort fun a b => !b.1.naturallyBefore a.1

/-- The lines of the labels. Without labels there are none. -/
def labelText (d : NodeDocument) : Text :=
  if d.labels.isEmpty then []
  else
    "labels:\n"
      ++ d.sortedLabels.flatMap fun (name, slot) => Yaml.entryText 2 name (Numeral.ofInt slot)

/-- The text of a document. -/
def text (d : NodeDocument) : Text :=
  "node: " ++ Numeral.ofInt d.node ++ "\n"
    ++ "words: " ++ Yaml.listText d.words ++ "\n"
    ++ d.labelText

end NodeDocument

end NodeAsm
