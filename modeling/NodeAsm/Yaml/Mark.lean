import NodeAsm.Text.Numeral

/-!
# Positions and problems

Where something stands in a YAML stream, and what keeps a stream from being read.
Lines and columns count from zero.
-/

namespace NodeAsm.Yaml

/-- A position in a stream. -/
structure Mark where
  index : Nat
  line : Nat
  column : Nat
  deriving DecidableEq, Repr

/-- What keeps a stream from being read. -/
structure Problem where
  message : Text
  /-- The line that is shown in front of the message, unless it is the first. -/
  line : Nat
  /-- Whether that line is shown as counted from one. -/
  fromOne : Bool
  deriving DecidableEq, Repr

namespace Problem

/-- A problem without a line. -/
def bare (message : Text) : Problem :=
  ⟨message, 0, false⟩

/-- A fault in the bytes of a stream. It has no line of its own and takes over the
line of the problem that was met before it. -/
def fault (earlier : Option Problem) (message : Text) : Problem :=
  ⟨message, (earlier.map line).getD 0, false⟩

/-- A problem in the characters of a token that started at `start`, found at
`here`. The later of the two lines is shown only if the token started on the
first line. -/
def inToken (start here : Mark) (message : Text) : Problem :=
  ⟨message, if start.line ≠ 0 then start.line else here.line, true⟩

/-- A problem in the order of tokens, found at `here` in a construct that
started at `start`. -/
def inConstruct (start here : Mark) (message : Text) : Problem :=
  ⟨message, if start.line ≠ 0 then start.line else here.line, false⟩

/-- The wording of a problem. -/
def text (p : Problem) : Text :=
  if p.line = 0 then p.message
  else
    let shown := if p.fromOne then p.line + 1 else p.line
    "line " ++ Numeral.ofNat shown ++ ": " ++ p.message

end Problem

end NodeAsm.Yaml
