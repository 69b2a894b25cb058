import NodeAsm.Yaml.ScalarToken

/-!
# The token stream

Tokens are made one by one as they are asked for. A token may turn out to be a
key only when the colon behind it is met; the token that announces the key is
then put in front of it. A token is therefore handed out only when at least two
more are known and, as far as is known, it can no longer become a key.
-/

namespace NodeAsm.Yaml

/-- A token that becomes a key if a colon follows it. -/
structure KeyCandidate where
  possible : Bool
  /-- Whether the token has to be a key, because it starts a line of a mapping. -/
  required : Bool
  /-- The number of the token. -/
  number : Nat
  mark : Mark
  deriving DecidableEq, Repr

/-- The state of reading tokens. -/
structure Lexer where
  cursor : Cursor
  /-- The tokens made and not yet taken. -/
  queue : List Token
  /-- The number of tokens taken. -/
  taken : Nat
  started : Bool
  flowLevel : Nat
  /-- The column of the innermost block, -1 outside of all blocks. -/
  indent : Int
  /-- The columns of the surrounding blocks, the innermost first. -/
  outer : List Int
  /-- Whether a key may start here. -/
  keyAllowed : Bool
  /-- The candidate of each flow level, the innermost first. -/
  candidates : List KeyCandidate
  /-- The numbers of tokens that wait for their colon, with the flow levels of
  their candidates. A number may stay here after its candidate has been given
  up. -/
  waiting : List (Nat × Nat)
  deriving DecidableEq, Repr

/-- What makes tokens. The state survives a problem, so that reading can go on
behind it. -/
abbrev Lex := EStateM Problem Lexer

namespace Lexer

/-- Before the first token of a stream. -/
def start (t : Text) : Lexer :=
  { cursor := Cursor.start t
    queue := []
    taken := 0
    started := false
    flowLevel := 0
    indent := -1
    outer := []
    keyAllowed := true
    candidates := []
    waiting := [] }

/-- The number of the next token. -/
def nextNumber (l : Lexer) : Nat :=
  l.taken + l.queue.length

/-- Adds a token at the end of the queue. -/
def push (l : Lexer) (t : Token) : Lexer :=
  { l with queue := l.queue ++ [t] }

/-- Puts a token in front of the token with a number. If that one has been taken,
the token is added at the end. -/
def insert (l : Lexer) (number : Nat) (t : Token) : Lexer :=
  if number < l.taken then l.push t
  else
    let i := number - l.taken
    { l with queue := l.queue.take i ++ t :: l.queue.drop i }

/-- The token with a number waits no longer. -/
def stopWaiting (l : Lexer) (number : Nat) : Lexer :=
  { l with waiting := l.waiting.filter fun (n, _) => n ≠ number }

/-- The flow level of the token with a number, if it waits. -/
def waitingLevel? (l : Lexer) (number : Nat) : Option Nat :=
  l.waiting.lookup number

/-- Replaces the candidate that stands `i` flow levels out. -/
def setCandidate (l : Lexer) (i : Nat) (k : KeyCandidate) : Lexer :=
  { l with candidates := l.candidates.set i k }

/-- Takes the next token from the queue. -/
def take (l : Lexer) : Lexer :=
  { l with
    queue := l.queue.tail
    taken := l.taken + 1
    waiting := l.waiting.filter fun (n, _) => l.taken < n }

end Lexer

namespace Lex

/-- Reads characters. -/
def scan {α : Type} (s : Scan α) : Lex α := fun l =>
  match s.run l.cursor with
  | .ok a c => .ok a { l with cursor := c }
  | .error p c => .error p { l with cursor := c }

/-- The position of the cursor. -/
def mark : Lex Mark := do
  return (← get).cursor.mark

/-- Adds a token at the end of the queue. -/
def push (t : Token) : Lex Unit :=
  modify fun l => l.push t

/-- Says whether a key may start here. -/
def allowKey (allowed : Bool) : Lex Unit :=
  modify fun l => { l with keyAllowed := allowed }

/-- A problem of a token at the cursor. -/
def fail {α : Type} (message : Text) : Lex α := do
  let m ← mark
  throw (.inToken m m message)

/-! ## Key candidates -/

/-- A candidate that had to be a key. -/
def missingColon {α : Type} (k : KeyCandidate) : Lex α := do
  throw (.inToken k.mark (← mark) "could not find expected ':'")

/-- Whether the candidate `i` flow levels out may still become a key: its colon has
to follow on the same line and within 1024 characters. Otherwise it is given up,
though its token goes on waiting. -/
def stillPossible (i : Nat) : Lex Bool := do
  let l ← get
  match l.candidates[i]? with
  | none => return false
  | some k =>
      let here := l.cursor.mark
      if !k.possible then return false
      else if k.mark.line < here.line || k.mark.index + 1024 < here.index then
        if k.required then missingColon k
        else
          set (l.setCandidate i { k with possible := false })
          return false
      else return true

/-- Gives up the candidate of the current flow level. -/
def dropCandidate : Lex Unit := do
  let l ← get
  match l.candidates[0]? with
  | none => return
  | some k =>
      if !k.possible then return
      else if k.required then missingColon k
      else set ((l.setCandidate 0 { k with possible := false }).stopWaiting k.number)

/-- Makes the next token a candidate, if a key may start here. -/
def saveCandidate : Lex Unit := do
  let l ← get
  if l.keyAllowed then
    let k : KeyCandidate :=
      { possible := true
        required := l.flowLevel = 0 && l.indent = l.cursor.mark.column
        number := l.nextNumber
        mark := l.cursor.mark }
    dropCandidate
    modify fun l =>
      { l.setCandidate 0 k with
        waiting := (k.number, l.flowLevel) :: (l.stopWaiting k.number).waiting }

/-! ## Indentation -/

/-- How many blocks or brackets may lie within one another. -/
def maxDepth : Nat := 10000

/-- The problem of blocks or brackets that lie too deep. -/
def tooDeep {α : Type} (context : Mark) : Lex α := do
  throw (.inToken context (← mark)
    ("exceeded max depth of " ++ Numeral.ofNat maxDepth))

/-- Begins a block at a column, if that is further in than the current block. Its
token is put in front of the token with the given number, or at the end. -/
def enterBlock (column : Nat) (number : Option Nat) (kind : TokenKind) (m : Mark) : Lex Unit := do
  let l ← get
  if l.flowLevel = 0 && l.indent < column then
    set { l with outer := l.indent :: l.outer, indent := column }
    if l.outer.length ≥ maxDepth then
      tooDeep ((l.candidates[0]?.map KeyCandidate.mark).getD m)
    else
      let t : Token := ⟨kind, m, m⟩
      match number with
      | some n => modify fun l => l.insert n t
      | none => modify fun l => l.push t

/-- Ends the blocks in `outer` that are further in than a column, at `m` or in
front of the comments that belong to what follows. -/
def leaveFrom (column : Int) : List Int → Mark → Lexer → Lexer
  | [], _, l => { l with outer := [] }
  | indent :: outer, m, l =>
      if l.indent > column then
        let m := Comment.blockEnd l.indent m.index m l.cursor.comments.reverse
        leaveFrom column outer m { l.push ⟨.blockEnd, m, m⟩ with indent := indent }
      else { l with outer := indent :: outer }

/-- Ends the blocks that are further in than a column, in front of the space that
starts at `m`. -/
def leaveBlocks (column : Int) (m : Mark) : Lex Unit :=
  modify fun l =>
    if l.flowLevel = 0 then leaveFrom column l.outer { m with index := m.index - 1 } l else l

/-! ## Space between tokens -/

/-- Moves over a character at the start of a line, if the characters fetched last
started with an encoding mark. -/
def skipEncodingMark : Scan Unit := do
  Scan.demand 1
  let c ← get
  if c.mark.column = 0 && c.marked then Scan.skip 1

/-- The token to which a comment on what stands above belongs: the last one, or the
one in front of a comma. -/
def tokenAbove? (l : Lexer) : Option Token :=
  match l.queue.reverse with
  | t :: u :: _ => some (if t.kind = .flowEntry then u else t)
  | [t] => some t
  | [] => none

/-- Moves over comments at the cursor. The space in front of them was entered at
`entered`. -/
def skipComments (entered : Mark) : Lex Unit := do
  let l ← get
  let above := tokenAbove? l
  let owner := (above.map fun t => t.start.index).getD 0
  let afterColon := above.map Token.kind = some .value
  scan (Scan.comments owner afterColon l.indent (l.flowLevel > 0) entered)

/-- Moves over blanks, comments and line ends to the next token. Tabs count as
blanks only where they cannot be taken for indentation. The first argument
bounds the number of lines. -/
def skipToToken (entered : Mark) : Nat → Lex Unit
  | 0 => return
  | bound + 1 => do
      scan skipEncodingMark
      let l ← get
      let tabs := l.flowLevel > 0 || !l.keyAllowed
      scan (Scan.dropWhile fun n => n = 0x20 || (tabs && n = 0x09))
      if (← scan Scan.here) = 0x23 then skipComments entered
      if isBreak (← scan Scan.here) then
        let _ ← scan Scan.readLine
        if l.flowLevel = 0 then allowKey true
        skipToToken entered bound

/-! ## Making tokens -/

/-- Adds a token of `n` characters at the cursor. -/
def pushChars (n : Nat) (kind : TokenKind) : Lex Unit := do
  let start ← mark
  scan (Scan.skip n)
  push ⟨kind, start, ← mark⟩

/-- Adds a token that is read from the cursor on. -/
def pushRead (read : Scan TokenKind) : Lex Unit := do
  let start ← mark
  let kind ← scan read
  push ⟨kind, start, ← mark⟩

/-- The first token. -/
def streamStart : Lex Unit := do
  modify fun l => { l with started := true, candidates := [⟨false, false, 0, ⟨0, 0, 0⟩⟩] }
  pushChars 0 .streamStart

/-- The last token. It stands at the start of a line. -/
def streamEnd : Lex Unit := do
  let m ← mark
  let m : Mark := if m.column = 0 then m else ⟨m.index, m.line + 1, 0⟩
  modify fun l => { l with cursor := { l.cursor with mark := m } }
  leaveBlocks (-1) m
  dropCandidate
  allowKey false
  pushChars 0 .streamEnd

/-- A directive. -/
def directive : Lex Unit := do
  leaveBlocks (-1) (← mark)
  dropCandidate
  allowKey false
  push (← scan Token.directive)

/-- The mark before or behind a document. -/
def documentMark : Lex Unit := do
  leaveBlocks (-1) (← mark)
  dropCandidate
  allowKey false
  let dash := (← scan Scan.here) = 0x2D
  pushChars 3 (if dash then .documentStart else .documentEnd)

/-- The start of a list or mapping in brackets. The first candidate inside has the
number of the bracket until a key may start. -/
def flowStart (kind : TokenKind) : Lex Unit := do
  saveCandidate
  let m ← mark
  modify fun l =>
    { l with
      candidates := ⟨false, false, l.nextNumber, m⟩ :: l.candidates
      flowLevel := l.flowLevel + 1 }
  if (← get).flowLevel > maxDepth then tooDeep m
  else
    allowKey true
    pushChars 1 kind

/-- Leaves a bracket. The token of its last candidate waits no longer. -/
def leaveFlow : Lex Unit :=
  modify fun l =>
    match l.flowLevel, l.candidates with
    | level + 1, k :: candidates =>
        { l.stopWaiting k.number with candidates := candidates, flowLevel := level }
    | _, _ => l

/-- The end of a list or mapping in brackets. -/
def flowEnd (kind : TokenKind) : Lex Unit := do
  dropCandidate
  leaveFlow
  allowKey false
  pushChars 1 kind

/-- The comma between two entries in brackets. -/
def flowEntry : Lex Unit := do
  dropCandidate
  allowKey true
  pushChars 1 .flowEntry

/-- The dash in front of an entry of a list. -/
def blockEntry : Lex Unit := do
  let l ← get
  let m := l.cursor.mark
  if l.flowLevel = 0 && !l.keyAllowed then
    fail "block sequence entries are not allowed in this context"
  else
    enterBlock m.column none .blockSequenceStart m
    dropCandidate
    allowKey true
    pushChars 1 .blockEntry

/-- The question mark in front of a key. -/
def explicitKey : Lex Unit := do
  let l ← get
  let m := l.cursor.mark
  if l.flowLevel = 0 && !l.keyAllowed then
    fail "mapping keys are not allowed in this context"
  else
    enterBlock m.column none .blockMappingStart m
    dropCandidate
    allowKey (l.flowLevel = 0)
    pushChars 1 .key

/-- The colon behind the candidate `k`, which thereby becomes a key. -/
def keyValue (k : KeyCandidate) : Lex Unit := do
  modify fun l => l.insert k.number ⟨.key, k.mark, k.mark⟩
  enterBlock k.mark.column (some k.number) .blockMappingStart k.mark
  modify fun l => (l.setCandidate 0 { k with possible := false }).stopWaiting k.number
  allowKey false
  pushChars 1 .value

/-- The colon that follows no candidate. -/
def bareValue : Lex Unit := do
  let l ← get
  let m := l.cursor.mark
  if l.flowLevel = 0 && !l.keyAllowed then
    fail "mapping values are not allowed in this context"
  else
    enterBlock m.column none .blockMappingStart m
    allowKey (l.flowLevel = 0)
    pushChars 1 .value

/-- The colon between a key and its value. -/
def value : Lex Unit := do
  let possible ← stillPossible 0
  match possible, (← get).candidates[0]? with
  | true, some k => keyValue k
  | _, _ => bareValue

/-- An alias, anchor, tag or quoted scalar, which may become a key. -/
def keyToken (read : Scan TokenKind) : Lex Unit := do
  saveCandidate
  allowKey false
  pushRead read

/-- A plain scalar. -/
def plainToken : Lex Unit := do
  saveCandidate
  allowKey false
  let l ← get
  let (t, lineEnded) ← scan (Token.plain (l.flowLevel > 0) (l.indent + 1))
  allowKey lineEnded
  push t

/-- A block scalar. -/
def blockToken (folded : Bool) : Lex Unit := do
  dropCandidate
  allowKey true
  pushRead (Token.block folded (← get).indent)

/-- The name of an anchor or alias as a token. -/
def nameToken (kind : Text → TokenKind) : Scan TokenKind := do
  return kind (← Token.anchorName)

/-- Whether a plain scalar may start in front of `c`. -/
def startsPlain (inFlow : Bool) (c : Cursor) : Bool :=
  let n := c.here
  let next := c.peek 1
  let indicators := [0x2D, 0x3F, 0x3A, 0x2C, 0x5B, 0x5D, 0x7B, 0x7D, 0x23, 0x26, 0x2A, 0x21, 0x7C,
    0x3E, 0x27, 0x22, 0x25, 0x40, 0x60]
  !(isBlankOrEnd n || indicators.contains n)
    || (n = 0x2D && !isBlank next)
    || (!inFlow && (n = 0x3F || n = 0x3A) && !isBlankOrEnd next)

/-- Makes the token that starts at the cursor, inside a document. -/
def content : Lex Unit := do
  let l ← get
  let n := l.cursor.here
  let alone := isBlankOrEnd (l.cursor.peek 1)
  let inFlow := l.flowLevel > 0
  if n = 0x5B then flowStart .flowSequenceStart
  else if n = 0x7B then flowStart .flowMappingStart
  else if n = 0x5D then flowEnd .flowSequenceEnd
  else if n = 0x7D then flowEnd .flowMappingEnd
  else if n = 0x2C then flowEntry
  else if n = 0x2D && alone then blockEntry
  else if n = 0x3F && (inFlow || alone) then explicitKey
  else if n = 0x3A && (inFlow || alone) then value
  else if n = 0x2A then keyToken (nameToken .reference)
  else if n = 0x26 then keyToken (nameToken .anchor)
  else if n = 0x21 then keyToken Token.tagKind
  else if n = 0x7C && !inFlow then blockToken false
  else if n = 0x3E && !inFlow then blockToken true
  else if n = 0x27 then keyToken (Token.quoted .single)
  else if n = 0x22 then keyToken (Token.quoted .double)
  else if startsPlain inFlow l.cursor then plainToken
  else fail "found character that cannot start any token"

/-- The index of the token to which a comment behind the next token belongs. A
comment behind a colon or comma belongs to the token in front of that. -/
def lineOwner (l : Lexer) : Nat :=
  let n := l.cursor.here
  let joins : Bool := if l.flowLevel > 0 then n = 0x2C else n = 0x3A
  match joins, l.queue.getLast? with
  | true, some t => t.start.index
  | _, _ => l.cursor.mark.index

/-- Makes the token that starts at the cursor, with a comment on its line. A
comment behind the dash of an entry belongs to what follows. -/
def contentWithComment : Lex Unit := do
  let owner := lineOwner (← get)
  content
  if (← get).queue.getLast?.map Token.kind = some .blockEntry then return
  else scan (Scan.lineComment owner)

/-- Makes the next token, and with it the ends of the blocks in front of it. -/
def advance : Lex Unit := do
  scan (Scan.demand 1)
  if !(← get).started then streamStart
  else
    let before ← mark
    skipToToken before (← get).cursor.bound
    leaveBlocks (← mark).column before
    scan (Scan.demand 4)
    let c := (← get).cursor
    if c.here = 0 then streamEnd
    else if c.mark.column = 0 && c.here = 0x25 then directive
    else if c.atDocumentMark then documentMark
    else contentWithComment

/-- Whether the first token of the queue may not be handed out yet. -/
def needsMore : Lex Bool := do
  let l ← get
  if l.queue.length < 3 then return true
  else
    match l.waitingLevel? l.taken with
    | some level =>
        if level ≤ l.flowLevel then stillPossible (l.flowLevel - level) else return false
    | none => return false

/-- Makes tokens until the first one can be handed out. The first argument bounds
their number. -/
def fill : Nat → Lex Unit
  | 0 => return
  | bound + 1 => do
      if ← needsMore then
        advance
        fill bound

/-- The next token, which stays in the queue. -/
def peek : Lex Token := do
  fill ((← get).cursor.bound + 4)
  let l ← get
  match l.queue with
  | t :: _ => return t
  | [] => return ⟨.streamEnd, l.cursor.mark, l.cursor.mark⟩

end Lex

end NodeAsm.Yaml
