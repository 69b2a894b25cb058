import NodeAsm.Yaml.Cursor

/-!
# Reading comments

A comment behind a token is read with the token. Comments on lines of their own
are read as a run: lines that follow one another make up one comment, which
belongs to what follows it unless the layout ties it to what stands above.
-/

namespace NodeAsm.Yaml.Scan

/-- How far blanks and line ends in front of a comment are looked at. -/
def commentReach : Nat := 512

/-- Makes `n` characters available to the search for a comment. A fault is put off
and ends the search. -/
def reach (n : Nat) : Scan Bool := do
  match (← get).fetch n with
  | (c, none) =>
      set c
      return true
  | (c, some message) =>
      set (c.putOff message)
      return false

/-- Moves over blanks and line ends to the character with a given index. The first
argument bounds their number. -/
def passSpace : Nat → Nat → Scan Unit
  | 0, _ => return
  | bound + 1, index => do
      demand 1
      if index ≤ (← mark).index then return
      else if isBreak (← here) then
        let _ ← readLine
        passSpace bound index
      else
        skip 1
        passSpace bound index

/-! ## Comments behind a token -/

/-- The distance of a comment that is found from `k` characters ahead on behind
nothing but blanks. The first argument bounds their number. -/
def trailingComment? : Nat → Nat → Scan (Option Nat)
  | 0, _ => return none
  | bound + 1, k => do
      if ← reach (k + 1) then
        let n ← peek k
        if isBlank n then trailingComment? bound (k + 1)
        else return if n = 0x23 then some k else none
      else return none

/-- Moves over a comment on the line of a token, which belongs to the token at the
index `owner`. -/
def lineComment (owner : Nat) : Scan Unit := do
  if (← get).newlines = 0 then
    match ← trailingComment? commentReach 0 with
    | none => return
    | some k =>
        passSpace (k + 1) ((← mark).index + k)
        let start ← mark
        toLineEnd
        modify fun c => c.addComment ⟨.line, owner, start, start.index, c.mark.index⟩

/-! ## Comments on lines of their own -/

/-- What surrounds a run of comments. -/
structure Surroundings where
  /-- Whether the token in front of the run is a colon. -/
  afterColon : Bool
  /-- The line on which a comment follows directly what stands above. -/
  footLine : Option Nat
  /-- The column of the block around the run. -/
  indent : Nat
  inFlow : Bool

/-- What has been read of a run of comments, and how far the search for more of
them has come. -/
structure CommentRun where
  /-- The start of the comment at hand, and whether an empty line follows it. -/
  current : Option (Mark × Bool)
  /-- The index of the token that owns a comment on what stands above. -/
  owner : Nat
  /-- The index from which the space in front of the comment was passed. -/
  entered : Nat
  /-- Whether no line end has been met by the search. -/
  first : Bool
  /-- Whether an empty line was met behind the last comment line. -/
  parted : Bool
  line : Nat
  column : Nat

namespace CommentRun

/-- Whether a comment from `start` on is tied by its position to what stands
above. -/
def followsAbove (s : Surroundings) (start : Mark) : Bool :=
  (s.footLine = some start.line && !s.afterColon) || start.column ≤ s.indent

/-- Ends the comment at hand as one on what stands above. The next one starts
behind the index `stop`. -/
def cut (r : CommentRun) (owner : Nat) (start : Mark) (stop : Nat) : Scan CommentRun := do
  modify fun c => c.addComment ⟨.foot, owner, start, r.entered, stop⟩
  return { r with current := none, owner := stop, entered := stop }

/-- Meets a line end, the end of the stream or a closing bracket at the index
`stop`. -/
def meetEnd (s : Surroundings) (r : CommentRun) (closes atEnd : Bool) (stop : Nat) :
    Scan CommentRun := do
  match r.current with
  | none => return r
  | some (start, _) =>
      if r.parted && !closes then return r
      else if closes || (r.first && followsAbove s start) then
        r.cut (if start.column ≤ s.indent then start.index else r.owner) start stop
      else return if atEnd then r else { r with current := some (start, true) }

/-- Meets any other character at the index `stop`. Further out than the block and
not below the comment at hand it ends that comment. -/
def meetOther (s : Surroundings) (r : CommentRun) (stop : Nat) : Scan CommentRun := do
  match r.current with
  | none => return r
  | some (start, _) =>
      if r.column ≤ s.indent && r.column ≠ start.column then r.cut r.owner start stop
      else return r

/-- One comment line more, which starts at `index`. -/
def addLine (r : CommentRun) (index : Nat) : CommentRun :=
  let start :=
    match r.current with
    | some (start, _) => start
    | none => ⟨index, r.line, r.column⟩
  { r with current := some (start, false), parted := false }

end CommentRun

/-- The code point `k` characters ahead as the search for comments sees it. It does
not recognise what follows a line end of several bytes. -/
def glimpse (k : Nat) : Scan Nat := do
  let c ← get
  return if k ≠ 0 && isWideBreak (c.peek (k - 1)) then 0xFFFD else c.peek k

/-- Looks for a comment line from `k` characters ahead on. The result says where
the search ended and whether there is one. The first argument bounds the number
of characters looked at. -/
def seekComment (s : Surroundings) : Nat → Nat → CommentRun → Scan (CommentRun × Nat × Bool)
  | 0, k, r => return (r, k, false)
  | bound + 1, k, r => do
      if ← reach (k + 1) then
        let n ← glimpse k
        let r := { r with column := r.column + 1 }
        let index := (← mark).index + k
        let closes := s.inFlow && (n = 0x5D || n = 0x7D)
        if isBlank n then seekComment s bound (k + 1) r
        else if closes || isBreakOrEnd n then
          let r ← r.meetEnd s closes (n = 0) index
          if isBreak n then
            seekComment s bound (k + 1)
              { r with first := false, parted := true, line := r.line + 1, column := 0 }
          else return (r, k, false)
        else
          let r ← r.meetOther s index
          return (r, k, n = 0x23)
      else return (r, k, false)

/-- Reads the comments of a run from `k` characters ahead on. The cursor stops in
front of the end of the last comment line. The first argument bounds the number
of lines. -/
def commentRun (s : Surroundings) : Nat → Nat → CommentRun → Scan Unit
  | 0, _, _ => return
  | bound + 1, k, r => do
      let (r, k, found) ← seekComment s (commentReach - k) k r
      let index := (← mark).index + k
      if found then
        let r := r.addLine index
        passSpace (k + 1) index
        toLineEnd
        commentRun s bound 1 { r with line := (← mark).line, column := 0 }
      else
        match r.current with
        | none => return
        | some (start, detached) =>
            modify fun c =>
              c.addComment ⟨.head detached, start.index, start, r.entered, index - 1⟩

/-- Reads a comment at the cursor and those that follow it. The space between the
last token, which starts at the index `owner`, and the comment was entered at
`entered`. -/
def comments (owner : Nat) (afterColon : Bool) (indent : Int) (inFlow : Bool) (entered : Mark) :
    Scan Unit := do
  let c ← get
  let above := c.mark.line - c.newlines + 1
  let s : Surroundings :=
    { afterColon := afterColon
      footLine :=
        if entered.line = 0 then none
        else if c.newlines = 0 && 1 < c.mark.column then some (above + 1)
        else some above
      indent := indent.toNat
      inFlow := inFlow }
  commentRun s c.bound 0
    { current := none
      owner := owner
      entered := entered.index
      first := c.newlines ≤ 1
      parted := false
      line := c.mark.line
      column := c.mark.column }

end NodeAsm.Yaml.Scan
