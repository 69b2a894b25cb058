import NodeAsm.Yaml.Characters
import NodeAsm.Yaml.Comment

/-!
# Reading a YAML stream

A cursor is a position in a stream together with what follows it. Characters are
fetched when they are asked for, so that a stream with a fault is read up to the
block that holds it. What reads characters leaves the cursor where it stopped,
also when it meets a problem.
-/

namespace NodeAsm.Yaml

/-- A position in a stream and what follows it. -/
structure Cursor where
  /-- The characters at hand. Zeros stand behind the last character of a stream. -/
  rest : List Char
  /-- The number of characters at hand. -/
  held : Nat
  /-- The blocks that have not been fetched. -/
  ahead : List Block
  mark : Mark
  /-- The number of line ends with nothing but blanks between them and here. -/
  newlines : Nat
  /-- Whether an encoding mark was at the cursor when characters were last
  fetched. -/
  marked : Bool
  /-- The comments passed that have not been handed over, the earliest first. -/
  comments : List Comment
  /-- A problem that was put off. It is reported when the part of the document at
  hand is complete. -/
  latent : Option Problem
  /-- The number of bytes of the stream. -/
  size : Nat
  deriving DecidableEq, Repr

namespace Cursor

/-- The start of a stream. -/
def start (t : Text) : Cursor :=
  { rest := []
    held := 0
    ahead := blocksOf t
    mark := ⟨0, 0, 0⟩
    newlines := 0
    marked := false
    comments := []
    latent := none
    size := t.length }

/-- A bound on the number of characters that follow, with some to spare for the
zeros at the end. -/
def bound (c : Cursor) : Nat :=
  c.size - c.mark.index + 4

/-- The code point `n` characters ahead, zero behind the end. -/
def peek (c : Cursor) (n : Nat) : Nat :=
  match c.rest[n]? with
  | some ch => ch.toNat
  | none => 0

/-- The code point at the cursor, zero at the end. -/
def here (c : Cursor) : Nat :=
  c.peek 0

/-! ## Fetching characters -/

/-- Takes characters from blocks. A fault stays in front of whatever follows it;
behind the last block stands a zero. -/
def takeBlocks (c : Cursor) (n : Nat) : List Block → Cursor × Option Text
  | [] => ({ c with rest := c.rest ++ [Char.ofNat 0], held := c.held + 1, ahead := [] }, none)
  | block :: later =>
      let c := { c with
        rest := c.rest ++ block.chars
        held := c.held + block.chars.length }
      match block.fault with
      | some message => ({ c with ahead := [⟨[], some message⟩] }, some message)
      | none => if n ≤ c.held then ({ c with ahead := later }, none) else takeBlocks c n later

/-- Fetches blocks until at least `n` characters are at hand or the stream ends,
and says what is wrong with the last of them. -/
def fetch (c : Cursor) (n : Nat) : Cursor × Option Text :=
  if n ≤ c.held then (c, none)
  else
    let (c, fault) := takeBlocks c n c.ahead
    ({ c with marked := c.here = 0xFEFF }, fault)

/-! ## Moving -/

/-- Moves over `n` characters of one line. -/
def skip (c : Cursor) (n : Nat) : Cursor :=
  let passed := c.rest.take n
  { c with
    rest := c.rest.drop n
    held := c.held - passed.length
    mark := ⟨c.mark.index + passed.length, c.mark.line, c.mark.column + passed.length⟩
    newlines := if passed.all fun ch => isBlank ch.toNat then c.newlines else 0 }

/-- Moves to the start of the next line over `n` characters that end a line. -/
def newLine (c : Cursor) (n : Nat) : Cursor :=
  { c with
    rest := c.rest.drop n
    held := c.held - n
    mark := ⟨c.mark.index + n, c.mark.line + 1, 0⟩
    newlines := c.newlines + 1 }

/-- Moves over a line end, if there is one. -/
def skipLine (c : Cursor) : Cursor :=
  if c.here = 0x0D && c.peek 1 = 0x0A then c.newLine 2
  else if isBreak c.here then c.newLine 1
  else c

/-- The characters that a line end at the cursor stands for: a line feed, unless
it is a separator of lines or paragraphs. -/
def lineEnd (c : Cursor) : List Char :=
  if c.here = 0x2028 || c.here = 0x2029 then [Char.ofNat c.here]
  else if isBreak c.here then ['\n']
  else []

/-- Whether a mark between documents stands at the start of the line here. -/
def atDocumentMark (c : Cursor) : Bool :=
  c.mark.column = 0 && isBlankOrEnd (c.peek 3)
    && ((c.here = 0x2D && c.peek 1 = 0x2D && c.peek 2 = 0x2D)
      || (c.here = 0x2E && c.peek 1 = 0x2E && c.peek 2 = 0x2E))

/-! ## Notes -/

/-- Notes a fault that is not reported at once. -/
def putOff (c : Cursor) (message : Text) : Cursor :=
  { c with latent := some (.fault c.latent message) }

/-- Notes a comment. -/
def addComment (c : Cursor) (comment : Comment) : Cursor :=
  { c with comments := c.comments ++ [comment] }

end Cursor

/-! ## Scanning -/

/-- What reads characters of a stream. -/
abbrev Scan := EStateM Problem Cursor

namespace Scan

/-- Asks for `n` characters. -/
def demand (n : Nat) : Scan Unit := do
  let (c, fault) := (← get).fetch n
  set c
  match fault with
  | some message => throw (.fault c.latent message)
  | none => return

/-- The code point at the cursor, zero at the end. -/
def here : Scan Nat := do
  return (← get).here

/-- The code point `n` characters ahead, zero behind the end. -/
def peek (n : Nat) : Scan Nat := do
  return (← get).peek n

/-- The position of the cursor. -/
def mark : Scan Mark := do
  return (← get).mark

/-- Moves over `n` characters of one line. -/
def skip (n : Nat) : Scan Unit :=
  modify fun c => c.skip n

/-- A problem in the characters of a token that started at `start`. -/
def fail {α : Type} (start : Mark) (message : Text) : Scan α := do
  throw (.inToken start (← mark) message)

/-- Moves over a line end and gives the characters it stands for. -/
def readLine : Scan (List Char) := do
  demand 2
  let c ← get
  set c.skipLine
  return c.lineEnd

/-- Reads the characters of one line that satisfy `p` behind those in `read`, the
latest of which comes first. The first argument bounds their number. -/
def takeWhileFrom (p : Nat → Bool) : Nat → List Char → Scan (List Char)
  | 0, read => return read.reverse
  | bound + 1, read => do
      demand 1
      let n ← here
      if p n then
        skip 1
        takeWhileFrom p bound (Char.ofNat n :: read)
      else return read.reverse

/-- The characters of one line that satisfy `p`. -/
def takeWhile (p : Nat → Bool) : Scan (List Char) := do
  takeWhileFrom p (← get).bound []

/-- Moves over the characters of one line that satisfy `p`. -/
def dropWhile (p : Nat → Bool) : Scan Unit := do
  let _ ← takeWhile p

/-- Moves over blanks. -/
def skipBlanks : Scan Unit :=
  dropWhile isBlank

/-- Moves to the end of the line. -/
def toLineEnd : Scan Unit :=
  dropWhile fun n => !isBreakOrEnd n

end Scan

end NodeAsm.Yaml
