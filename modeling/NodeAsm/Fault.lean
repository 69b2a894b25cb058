import NodeAsm.Text.Quoted

/-!
# Faults

A fault says what went wrong. At its leaves stands a cause that the program
tells apart from all others, or a plain message from outside. On the way up a
fault gains notes, a place in the source, or company: several faults can be
joined into one.
-/

namespace NodeAsm

/-- The causes that the program distinguishes. -/
inductive Cause where
  /-- Operand text names no register. -/
  | unknownRegister
  /-- A literal lies outside the immediate range. -/
  | literalRange
  /-- The instruction set does not define the mnemonic. -/
  | unknownOpcode
  /-- A line has words past the second operand. -/
  | tooManyArguments
  /-- A node has more code lines than slots. -/
  | tooManyLines
  /-- A directive has no node index. -/
  | badNodeIndex
  /-- A jump names a label that its node does not bind. -/
  | undefinedLabel
  /-- The run was cancelled. -/
  | cancelled
  /-- The source had compile errors. -/
  | compileFailed
  deriving DecidableEq, Repr

namespace Cause

/-- The wording of a cause. -/
def message : Cause → Text
  | unknownRegister => "not a valid register name"
  | literalRange => "outside valid range of -1024 to 1023"
  | unknownOpcode => "not a valid opcode"
  | tooManyArguments => "too many arguments"
  | tooManyLines => "too many lines of code"
  | badNodeIndex => "invalid node index"
  | undefinedLabel => "label not found"
  | cancelled => "context canceled"
  | compileFailed => "compilation failed"

end Cause

/-- What went wrong, from the inside out. -/
inductive Fault where
  /-- A message with no cause of the program's own. -/
  | plain (message : Text)
  /-- One of the distinguished causes. -/
  | cause (kind : Cause)
  /-- A fault with a note in front. -/
  | noted (note : Text) (inner : Fault)
  /-- A fault at a node and a source line. Line zero stands for no line. -/
  | located (node line : Int) (inner : Fault)
  /-- Several faults as one. -/
  | joined (parts : List Fault)
  deriving Inhabited, Repr

namespace Fault

/-- The place in front of a located fault's message. -/
def placeText (node line : Int) : Text :=
  if line > 0 then "Node " ++ Numeral.ofInt node ++ ", line " ++ Numeral.ofInt line ++ ": "
  else "Node " ++ Numeral.ofInt node ++ ": "

mutual

/-- The full wording of a fault. -/
def message : Fault → Text
  | plain t => t
  | cause c => c.message
  | noted note inner => note ++ ": " ++ message inner
  | located node line inner => placeText node line ++ message inner
  | joined parts => Text.joinWith [Text.lf] (messages parts)

/-- The wordings of several faults. -/
def messages : List Fault → List Text
  | [] => []
  | f :: fs => message f :: messages fs

end

theorem messages_eq_map (fs : List Fault) : messages fs = fs.map message := by
  induction fs with
  | nil => rfl
  | cons f fs inductionHypothesis => simp [messages, inductionHypothesis]

mutual

/-- Whether a cause stands at some leaf of a fault. -/
def has (c : Cause) : Fault → Bool
  | plain _ => false
  | cause k => k == c
  | noted _ inner => has c inner
  | located _ _ inner => has c inner
  | joined parts => hasAny c parts

/-- Whether a cause stands at some leaf of one of the faults. -/
def hasAny (c : Cause) : List Fault → Bool
  | [] => false
  | f :: fs => has c f || hasAny c fs

end

theorem hasAny_eq_any (c : Cause) (fs : List Fault) : hasAny c fs = fs.any (has c) := by
  induction fs with
  | nil => rfl
  | cons f fs inductionHypothesis => simp [hasAny, inductionHypothesis]

/-- A node, a source line and what went wrong there. -/
structure Place where
  node : Int
  line : Int
  inner : Fault
  deriving Repr

mutual

/-- The outermost place of a fault. Of joined faults the first with a place
counts. -/
def place? : Fault → Option Place
  | plain _ => none
  | cause _ => none
  | noted _ inner => place? inner
  | located node line inner => some ⟨node, line, inner⟩
  | joined parts => firstPlace? parts

/-- The first place among several faults. -/
def firstPlace? : List Fault → Option Place
  | [] => none
  | f :: fs => (place? f).or (firstPlace? fs)

end

/-- Several faults as one, or none. -/
def join? : List Fault → Option Fault
  | [] => none
  | fs => some (joined fs)

mutual

/-- The faults that a fault joins, those within joined parts included. A fault with
a note or a place in front is one part, whatever it holds. -/
def parts : Fault → List Fault
  | joined fs => partsOfAll fs
  | f => [f]

/-- The parts of several faults. -/
def partsOfAll : List Fault → List Fault
  | [] => []
  | f :: fs => parts f ++ partsOfAll fs

end

theorem partsOfAll_eq_flatMap (fs : List Fault) : partsOfAll fs = fs.flatMap parts := by
  induction fs with
  | nil => rfl
  | cons f fs inductionHypothesis => simp [partsOfAll, inductionHypothesis]

@[simp]
theorem parts_joined (fs : List Fault) : (joined fs).parts = fs.flatMap parts := by
  rw [parts, partsOfAll_eq_flatMap]

/-- The faults that were joined into one, if there is one. -/
def split : Option Fault → List Fault
  | none => []
  | some f => f.parts

/-- Splitting gives back what was joined, as long as nothing in it was joined
before. -/
theorem split_join? {fs : List Fault} (single : ∀ f ∈ fs, f.parts = [f]) :
    split (join? fs) = fs := by
  cases fs with
  | nil => rfl
  | cons f fs =>
      have joins : split (join? (f :: fs)) = (f :: fs).flatMap parts := parts_joined (f :: fs)
      rw [joins, List.flatMap_def, List.map_congr_left single, ← List.flatMap_def]
      exact List.flatMap_singleton' (f :: fs)

/-! ## The faults of source text -/

/-- `name` names no register. -/
def unknownRegister (name : Text) : Fault :=
  noted ("register " ++ name.quote) (cause .unknownRegister)

/-- The literal `token` is out of range. -/
def literalRange (token : Text) : Fault :=
  noted ("literal " ++ token) (cause .literalRange)

/-- `mnemonic` names no instruction. -/
def unknownOpcode (mnemonic : Text) : Fault :=
  noted ("opcode " ++ mnemonic.quote) (cause .unknownOpcode)

/-- The words `extra` follow the second operand. -/
def tooManyArguments (extra : List Text) : Fault :=
  noted ("unexpected " ++ Text.joinWith [Text.space] extra) (cause .tooManyArguments)

/-- The directive line `line` has no node index. -/
def badNodeIndex (line : Text) : Fault :=
  noted ("directive " ++ line.dropLineEnd.quote) (cause .badNodeIndex)

/-- No slot is bound to `label`. -/
def undefinedLabel (label : Text) : Fault :=
  noted ("label " ++ label.quote) (cause .undefinedLabel)

end Fault

/-- A value that is usable in any case, and the faults found while making it. -/
structure Checked (α : Type) where
  value : α
  faults : List Fault

namespace Checked

/-- A value without faults. -/
def clean {α : Type} (value : α) : Checked α :=
  ⟨value, []⟩

/-- The faults of a value as one, if there are any. -/
def fault? {α : Type} (c : Checked α) : Option Fault :=
  Fault.join? c.faults

end Checked

end NodeAsm
