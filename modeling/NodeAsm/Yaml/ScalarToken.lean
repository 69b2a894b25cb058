import NodeAsm.Yaml.Token

/-!
# Scalar tokens

Scalars are quoted, plain or blocks of lines. Inside quotes and in plain scalars
a line end counts as a space, and empty lines count as line ends; a block keeps
or folds its lines as its indicator says.
-/

namespace NodeAsm.Yaml.Token

/-! ## Folding -/

/-- Blanks and line ends between two words of a scalar. -/
structure Gap where
  /-- Blanks on the line of the first word, the latest first. -/
  blanks : List Char
  /-- The first line end. -/
  first : List Char
  /-- Further line ends, the latest first. -/
  further : List Char
  /-- Whether a line end was passed. -/
  broken : Bool

namespace Gap

/-- No gap. -/
def none : Gap :=
  ⟨[], [], [], false⟩

/-- The gap behind an escaped line end, which stands for nothing. -/
def escaped : Gap :=
  ⟨[], [], [], true⟩

/-- What a gap stands for, the latest first: its blanks, or a space for one line
end, or the further line ends. -/
def folded (g : Gap) : List Char :=
  if g.broken then
    if g.first.head? = some '\n' then (if g.further.isEmpty then [' '] else g.further)
    else g.further ++ g.first
  else g.blanks

/-- One blank more. Blanks at the start of a line do not count. -/
def addBlank (g : Gap) (ch : Char) : Gap :=
  if g.broken then g else { g with blanks := ch :: g.blanks }

/-- One line end more. -/
def addBreak (g : Gap) (ending : List Char) : Gap :=
  if g.broken then { g with further := ending ++ g.further }
  else { g with blanks := [], first := ending, broken := true }

end Gap

/-- Passes a gap. A tab in front of the column `indent` may not follow a line end.
The first argument bounds the length of the gap. -/
def passGap (start : Mark) (indent : Int) : Nat → Gap → Scan Gap
  | 0, g => return g
  | bound + 1, g => do
      Scan.demand 1
      let n ← Scan.here
      if isBlank n then
        if g.broken && ((← Scan.mark).column : Int) < indent && n = 0x09 then
          Scan.fail start "found a tab character that violates indentation"
        else
          Scan.skip 1
          passGap start indent bound (g.addBlank (Char.ofNat n))
      else if isBreak n then
        let ending ← Scan.readLine
        passGap start indent bound (g.addBreak ending)
      else return g

/-! ## Quoted scalars -/

/-- The character of an escape of one letter. -/
def escaped? (n : Nat) : Option Nat :=
  match n with
  | 0x30 => some 0x00
  | 0x61 => some 0x07
  | 0x62 => some 0x08
  | 0x74 => some 0x09
  | 0x09 => some 0x09
  | 0x6E => some 0x0A
  | 0x76 => some 0x0B
  | 0x66 => some 0x0C
  | 0x72 => some 0x0D
  | 0x65 => some 0x1B
  | 0x20 => some 0x20
  | 0x22 => some 0x22
  | 0x27 => some 0x27
  | 0x5C => some 0x5C
  | 0x4E => some 0x85
  | 0x5F => some 0xA0
  | 0x4C => some 0x2028
  | 0x50 => some 0x2029
  | _ => none

/-- The number of digits of an escape by code point. -/
def codeLength? (n : Nat) : Option Nat :=
  match n with
  | 0x78 => some 2
  | 0x75 => some 4
  | 0x55 => some 8
  | _ => none

/-- The character of an escape by code point, whose digits stand at the cursor. -/
def codeEscape (start : Mark) (length : Nat) : Scan Char := do
  Scan.demand length
  let c ← get
  let digits := (List.range length).map fun i => hexValue? (c.peek i)
  if digits.any Option.isNone then Scan.fail start "did not find expected hexdecimal number"
  else
    let value := digits.foldl (fun v d => v * 16 + d.getD 0) 0
    if (0xD800 ≤ value && value ≤ 0xDFFF) || value > 0x10FFFF then
      Scan.fail start "found invalid Unicode character escape code"
    else
      Scan.skip length
      return Char.ofNat value

/-- The character of an escape at the cursor. -/
def escape (start : Mark) : Scan Char := do
  let n ← Scan.peek 1
  match escaped? n, codeLength? n with
  | some code, _ =>
      Scan.skip 2
      return Char.ofNat code
  | none, some length =>
      Scan.skip 2
      codeEscape start length
  | none, none => Scan.fail start "found unknown escape character"

/-- The quotes around a scalar. -/
inductive Quote where
  | single
  | double
  deriving DecidableEq, Repr

/-- The code point of a quote. -/
def Quote.code : Quote → Nat
  | single => 0x27
  | double => 0x22

/-- Reads a word inside quotes behind the characters in `read`, the latest of
which comes first, and says whether an escaped line end follows it. The first
argument bounds the number of characters. -/
def quotedWord (start : Mark) (q : Quote) : Nat → List Char → Scan (List Char × Bool)
  | 0, read => return (read, false)
  | bound + 1, read => do
      let n ← Scan.here
      let next ← Scan.peek 1
      if isBlankOrEnd n then return (read, false)
      else if q = .single && n = 0x27 && next = 0x27 then
        Scan.skip 2
        Scan.demand 2
        quotedWord start q bound (Char.ofNat 0x27 :: read)
      else if n = q.code then return (read, false)
      else if q = .double && n = 0x5C then
        if isBreak next then
          Scan.demand 3
          Scan.skip 1
          let _ ← Scan.readLine
          return (read, true)
        else
          let ch ← escape start
          Scan.demand 2
          quotedWord start q bound (ch :: read)
      else
        Scan.skip 1
        Scan.demand 2
        quotedWord start q bound (Char.ofNat n :: read)

/-- Reads words and gaps up to the closing quote behind the characters in `read`,
the latest of which comes first. The first argument bounds the number of words. -/
def quotedBody (start : Mark) (q : Quote) : Nat → List Char → Scan (List Char)
  | 0, read => return read.reverse
  | bound + 1, read => do
      Scan.demand 4
      let c ← get
      if c.atDocumentMark then Scan.fail start "found unexpected document indicator"
      else if c.here = 0 then Scan.fail start "found unexpected end of stream"
      else
        let (read, cut) ← quotedWord start q c.bound read
        Scan.demand 1
        if (← Scan.here) = q.code then
          Scan.skip 1
          return read.reverse
        else
          let gap ← passGap start 0 (← get).bound (if cut then Gap.escaped else Gap.none)
          quotedBody start q bound (gap.folded ++ read)

/-- A scalar between quotes. -/
def quoted (q : Quote) : Scan TokenKind := do
  let c ← get
  Scan.skip 1
  let cs ← quotedBody c.mark q c.bound []
  return .scalar (Text.ofChars cs) false

/-! ## Plain scalars -/

/-- Whether a plain scalar ends at the cursor inside a line. -/
def endsPlain (inFlow : Bool) (c : Cursor) : Bool :=
  isBlankOrEnd c.here || (c.here = 0x3A && isBlankOrEnd (c.peek 1))
    || (inFlow && [0x2C, 0x3F, 0x5B, 0x5D, 0x7B, 0x7D].contains c.here)

/-- Reads a word of a plain scalar behind the characters in `read`, the latest of
which comes first. The first argument bounds their number. -/
def plainWord (inFlow : Bool) : Nat → List Char → Scan (List Char)
  | 0, read => return read
  | bound + 1, read => do
      let c ← get
      if endsPlain inFlow c then return read
      else
        Scan.skip 1
        Scan.demand 2
        plainWord inFlow bound (Char.ofNat c.here :: read)

/-- What has been read of a plain scalar. -/
structure PlainScan where
  /-- The characters, the latest first. -/
  read : List Char
  /-- Where the last word stops. -/
  stop : Mark
  /-- The gap behind the last word. -/
  gap : Gap

/-- Reads the words of a plain scalar that continues behind the gap in `s`. The
first argument bounds their number. -/
def plainBody (start : Mark) (inFlow : Bool) (indent : Int) : Nat → PlainScan → Scan PlainScan
  | 0, s => return s
  | bound + 1, s => do
      Scan.demand 4
      let c ← get
      if c.atDocumentMark || c.here = 0x23 then return s
      else
        let s ←
          if endsPlain inFlow c then pure s
          else do
            let read ← plainWord inFlow c.bound (s.gap.folded ++ s.read)
            pure ⟨read, ← Scan.mark, Gap.none⟩
        let n ← Scan.here
        if !(isBlank n || isBreak n) then return s
        else
          let gap ← passGap start indent (← get).bound s.gap
          let s := { s with gap := gap }
          if !inFlow && ((← Scan.mark).column : Int) < indent then return s
          else plainBody start inFlow indent bound s

/-- A plain scalar, and whether a line end follows it. -/
def plain (inFlow : Bool) (indent : Int) : Scan (Token × Bool) := do
  let c ← get
  let s ← plainBody c.mark inFlow indent c.bound ⟨[], c.mark, Gap.none⟩
  return (⟨.scalar (Text.ofChars s.read.reverse) true, c.mark, s.stop⟩, s.gap.broken)

/-! ## Blocks -/

/-- Which line ends at the end of a block are kept. -/
inductive Chomping where
  /-- None. -/
  | strip
  /-- The first. -/
  | clip
  /-- All. -/
  | keep
  deriving DecidableEq, Repr

/-- The marks behind the indicator of a block. -/
structure BlockHeader where
  chomping : Chomping
  /-- The indentation beyond the surrounding block, if it is given. -/
  increment : Option Nat

/-- Reads a chomping mark, if there is one. -/
def chomping? : Scan (Option Chomping) := do
  Scan.demand 1
  let n ← Scan.here
  if n = 0x2B then
    Scan.skip 1
    return some .keep
  else if n = 0x2D then
    Scan.skip 1
    return some .strip
  else return none

/-- Reads an indentation mark, if there is one. -/
def increment? (start : Mark) : Scan (Option Nat) := do
  Scan.demand 1
  let n ← Scan.here
  if n = 0x30 then Scan.fail start "found an indentation indicator equal to 0"
  else if 0x31 ≤ n && n ≤ 0x39 then
    Scan.skip 1
    return some (n - 0x30)
  else return none

/-- The marks of a block in either order. -/
def blockHeader (start : Mark) : Scan BlockHeader := do
  match ← chomping? with
  | some chomping => return ⟨chomping, ← increment? start⟩
  | none =>
      match ← increment? start with
      | none => return ⟨.clip, none⟩
      | some n => return ⟨(← chomping?).getD .clip, some n⟩

/-- Line ends and indentation in front of a line of a block. -/
structure BlockGap where
  /-- The line ends, the latest first. -/
  breaks : List Char
  /-- The greatest column reached. -/
  widest : Nat

/-- Whether a column lies in the indentation. Without a known indentation every
column does. -/
def isIndentation (indent : Option Nat) (column : Nat) : Bool :=
  match indent with
  | none => true
  | some n => column < n

/-- Moves over the spaces of the indentation. The second argument bounds their
number. -/
def skipIndentation (indent : Option Nat) : Nat → Scan Unit
  | 0 => return
  | bound + 1 => do
      Scan.demand 1
      let c ← get
      if isIndentation indent c.mark.column && c.here = 0x20 then
        Scan.skip 1
        skipIndentation indent bound
      else return

/-- Passes empty lines of a block. The third argument bounds their number. -/
def blockGap (start : Mark) (indent : Option Nat) : Nat → BlockGap → Scan BlockGap
  | 0, g => return g
  | bound + 1, g => do
      skipIndentation indent (← get).bound
      let c ← get
      let widest := max g.widest c.mark.column
      if isIndentation indent c.mark.column && c.here = 0x09 then
        Scan.fail start "found a tab character where an indentation space is expected"
      else if isBreak c.here then
        let ending ← Scan.readLine
        blockGap start indent bound ⟨ending ++ g.breaks, widest⟩
      else return ⟨g.breaks, widest⟩

/-- What has been read of a block. -/
structure BlockScan where
  /-- The characters, the latest first. -/
  read : List Char
  /-- The end of the last line. -/
  ending : List Char
  /-- Whether the last line starts with a blank. -/
  blankBefore : Bool
  /-- The line ends behind the last line, the latest first. -/
  breaks : List Char

/-- Reads the lines of a block. The first argument bounds their number. -/
def blockBody (start : Mark) (folded : Bool) (indent : Nat) : Nat → BlockScan → Scan BlockScan
  | 0, s => return s
  | bound + 1, s => do
      Scan.demand 1
      let c ← get
      if c.mark.column ≠ indent || c.here = 0 then return s
      else
        let blank := isBlank c.here
        let join : List Char :=
          if folded && !s.blankBefore && !blank && s.ending.head? = some '\n' then
            (if s.breaks.isEmpty then [' '] else [])
          else s.ending
        let line ← Scan.takeWhile fun n => !isBreakOrEnd n
        let ending ← Scan.readLine
        let gap ← blockGap start (some indent) (← get).bound ⟨[], 0⟩
        blockBody start folded indent bound
          ⟨line.reverse ++ (s.breaks ++ (join ++ s.read)), ending, blank, gap.breaks⟩

/-- A block scalar inside a block indented by `outer`. -/
def block (folded : Bool) (outer : Int) : Scan TokenKind := do
  let c ← get
  Scan.skip 1
  let header ← blockHeader c.mark
  Scan.skipBlanks
  Scan.lineComment c.mark.index
  restOfLine c.mark
  let given := header.increment.map fun n => if outer ≥ 0 then outer.toNat + n else n
  let gap ← blockGap c.mark given c.bound ⟨[], 0⟩
  let indent := given.getD (max (max gap.widest (outer + 1).toNat) 1)
  let s ← blockBody c.mark folded indent c.bound ⟨[], [], false, gap.breaks⟩
  let kept : List Char :=
    match header.chomping with
    | .strip => []
    | .clip => s.ending
    | .keep => s.ending ++ s.breaks.reverse
  return .scalar (Text.ofChars (s.read.reverse ++ kept)) false

end NodeAsm.Yaml.Token
