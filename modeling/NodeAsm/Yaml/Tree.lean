import NodeAsm.Yaml.Lexer
import NodeAsm.Yaml.Scalar

/-!
# YAML documents as trees

A document is a tree of scalars, lists and mappings, each with a tag and the
line on which it starts. An alias stands for the node with its anchor, which may
be a node around it; anchored nodes are therefore numbered and kept in a table
beside the tree.
-/

namespace NodeAsm.Yaml

/-- A node of a document. Lines count from one. -/
inductive Tree where
  | scalar (tag text : Text) (line : Nat)
  | sequence (tag : Text) (items : List Tree) (line : Nat)
  | mapping (tag : Text) (entries : List (Tree × Tree)) (line : Nat)
  /-- An alias, told apart from others by its position `id`. -/
  | reference (name : Text) (id target line : Nat)
  deriving Inhabited, Repr

namespace Tree

/-- The line of a node. -/
def line : Tree → Nat
  | scalar _ _ n => n
  | sequence _ _ n => n
  | mapping _ _ n => n
  | reference _ _ _ n => n

/-- The tag of a node. An alias has none. -/
def tag : Tree → Text
  | scalar tag _ _ => tag
  | sequence tag _ _ => tag
  | mapping tag _ _ => tag
  | reference _ _ _ _ => []

/-- The address that the tags of the language share. -/
def languageAddress : Text := "tag:yaml.org,2002:"

/-- A tag of the language with its short handle. -/
def shortTag (t : Text) : Text :=
  if languageAddress.isPrefixOf t then "!!" ++ t.drop languageAddress.length else t

/-- The tag of a meaning. -/
def meaningTag : Meaning → Text
  | .null => "!!null"
  | .bool _ => "!!bool"
  | .int _ => "!!int"
  | .float => "!!float"
  | .timestamp => "!!timestamp"
  | .str => "!!str"

/-- The tag of a node: the one given, or else the default. -/
def tagOr (given default : Text) : Text :=
  if given.isEmpty || given = "!" then default else shortTag given

/-- The tag of a scalar without a tag of its own. A plain `<<` asks for a merge. -/
def scalarTag (text : Text) (plain : Bool) : Text :=
  if !plain then "!!str"
  else if text = "<<" then "!!merge"
  else meaningTag (Meaning.of text)

/-- The scalar that stands where nothing was written. -/
def empty (mark : Mark) : Tree :=
  scalar "!!null" [] (mark.line + 1)

end Tree

/-- A document: its root and its anchored nodes by number. -/
structure Document where
  root : Tree
  anchored : List (Nat × Tree)
  deriving Repr

/-- The state of reading a document. -/
structure Composer where
  lexer : Lexer
  /-- The tag handles with what they stand for. -/
  handles : List (Text × Text)
  /-- The anchors with the numbers of their nodes, the latest first. -/
  anchors : List (Text × Nat)
  /-- The anchored nodes that are complete. -/
  anchored : List (Nat × Tree)
  /-- The comments handed over to a node that has not been read, the latest
  first. -/
  heads : List Comment

/-- What reads a part of a document. -/
abbrev Compose := StateT Composer (Except Problem)

namespace Compose

/-- Hands over the comments that go with a token. -/
def handOver (t : Token) : Compose Unit :=
  modify fun s =>
    let (given, kept) :=
      s.lexer.cursor.comments.span (Comment.goesWith t.start.index (t.kind = .blockEnd))
    { s with
      lexer := { s.lexer with cursor := { s.lexer.cursor with comments := kept } }
      heads := (given.filter Comment.isHead).reverse ++ s.heads }

/-- The next token. -/
def peek : Compose Token := do
  let s ← get
  match Lex.peek.run s.lexer with
  | .error p _ => throw p
  | .ok t lexer =>
      set { s with lexer := lexer }
      handOver t
      return t

/-- Takes the next token. -/
def take : Compose Unit :=
  modify fun s => { s with lexer := s.lexer.take }

/-- Takes the next token and looks at the one behind it. -/
def next : Compose Token := do
  take
  peek

/-- Reports a problem that was put off. This is done whenever a scalar, an alias, or
the start or end of a collection or document is complete. -/
def settle : Compose Unit := do
  match (← get).lexer.cursor.latent with
  | some p => throw p
  | none => return

/-- Takes the last token of a part of a document. -/
def takeLast : Compose Unit := do
  take
  settle

/-- Gives the comments at hand to the node or end that is being read. -/
def claimComments : Compose Unit :=
  modify fun s => { s with heads := [] }

/-- Gives the comments above a document to the document, except for one that its
root follows directly. -/
def claimForDocument : Compose Unit :=
  modify fun s =>
    { s with
      heads :=
        match s.heads with
        | c :: _ => if c.role = .head true then [] else [c]
        | [] => [] }

/-- Looks behind the dash of an entry with comments: they belong to a collection
that starts there. A problem met on the way is put off, and reading goes on
behind it. -/
def lookPastDash : Compose Unit := do
  let s ← get
  if s.heads.isEmpty then return
  else
    match Lex.peek.run s.lexer with
    | .error p lexer =>
        set { s with lexer := { lexer with cursor := { lexer.cursor with latent := some p } } }
    | .ok t lexer =>
        set { s with lexer := lexer }
        handOver t
        if t.kind = .blockSequenceStart || t.kind = .blockMappingStart then
          modify fun later =>
            { later with heads := later.heads.take (later.heads.length - s.heads.length) }

/-- Takes the dash of an entry and looks at the token behind it. -/
def nextEntry : Compose Token := do
  take
  lookPastDash
  peek

/-- The scalar that stands where nothing was written. -/
def emptyScalar (mark : Mark) : Compose Tree := do
  settle
  return Tree.empty mark

/-! ## Properties of nodes -/

/-- The tag and anchor in front of a node. -/
structure Properties where
  start : Mark
  anchor : Option Text
  tag : Text

/-- What a tag stands for. -/
def expandTag (start here : Mark) (handle suffix : Text) : Compose Text := do
  if handle.isEmpty then return suffix
  else
    let s ← get
    match s.handles.lookup handle with
    | some expansion =>
        if (expansion ++ suffix).isEmpty then
          throw (.inConstruct start here "found undefined tag handle")
        else return expansion ++ suffix
    | none => throw (.inConstruct start here "found undefined tag handle")

/-- Reads an anchor and a tag in either order. The tag is looked up when both
have been read. -/
def properties : Compose Properties := do
  let t ← peek
  match t.kind with
  | .anchor name =>
      let u ← next
      match u.kind with
      | .tag handle suffix =>
          let _ ← next
          let tag ← expandTag t.start u.start handle suffix
          return ⟨t.start, some name, tag⟩
      | _ => return ⟨t.start, some name, []⟩
  | .tag handle suffix =>
      let u ← next
      match u.kind with
      | .anchor name =>
          let _ ← next
          let tag ← expandTag t.start t.start handle suffix
          return ⟨t.start, some name, tag⟩
      | _ =>
          let tag ← expandTag t.start t.start handle suffix
          return ⟨t.start, none, tag⟩
  | _ => return ⟨t.start, none, []⟩

/-- Gives a node its anchor before the content of the node is read, so that it
may hold an alias of itself. -/
def anchoring (anchor : Option Text) (content : Compose Tree) : Compose Tree := do
  match anchor with
  | none => content
  | some name =>
      let number := (← get).anchors.length
      modify fun s => { s with anchors := (name, number) :: s.anchors }
      let tree ← content
      modify fun s => { s with anchored := (number, tree) :: s.anchored }
      return tree

/-- The alias of a token. -/
def aliasTree (t : Token) (name : Text) : Compose Tree := do
  match (← get).anchors.lookup name with
  | some target => return .reference name t.start.index target (t.start.line + 1)
  | none => throw (.bare ("unknown anchor '" ++ name ++ "' referenced"))

/-! ## Nodes -/

/-- Where a node stands. -/
inductive Place where
  /-- In a block. -/
  | block
  /-- In a block mapping, where a list needs no further indentation. -/
  | mappingBlock
  /-- In brackets. -/
  | flow
  deriving DecidableEq

/-- The problem of reading more nodes than a stream has characters. -/
def exhausted : Problem :=
  .bare "document is too deep"

/-- Whether a token ends or separates the parts of a block mapping. -/
def endsMappingPart (k : TokenKind) : Bool :=
  k = .key || k = .value || k = .blockEnd

/-- Whether a token ends an entry of a list that is not indented. -/
def endsBareEntry (k : TokenKind) : Bool :=
  k = .blockEntry || endsMappingPart k

mutual

/-- Reads a node. -/
def node (place : Place) : Nat → Compose Tree
  | 0 => throw exhausted
  | fuel + 1 => do
      let t ← peek
      match t.kind with
      | .reference name =>
          claimComments
          takeLast
          aliasTree t name
      | _ =>
          let p ← properties
          anchoring p.anchor (content place p fuel)

/-- Reads a node behind its anchor and tag. -/
def content (place : Place) (p : Properties) : Nat → Compose Tree
  | 0 => throw exhausted
  | fuel + 1 => do
      let t ← peek
      let line := p.start.line + 1
      let sequence (items : Compose (List Tree)) : Compose Tree := do
        settle
        return .sequence (Tree.tagOr p.tag "!!seq") (← items) line
      let mapping (entries : Compose (List (Tree × Tree))) : Compose Tree := do
        settle
        return .mapping (Tree.tagOr p.tag "!!map") (← entries) line
      match t.kind with
      | .scalar text plain =>
          claimComments
          takeLast
          return .scalar (Tree.tagOr p.tag (Tree.scalarTag text plain)) text line
      | .flowSequenceStart =>
          claimComments
          take
          sequence (flowItems t.start true fuel)
      | .flowMappingStart =>
          claimComments
          take
          mapping (flowEntries t.start true fuel)
      | kind =>
          if kind = .blockEntry && place = .mappingBlock then sequence (bareItems fuel)
          else if kind = .blockSequenceStart && place ≠ .flow then
            take
            sequence (blockItems t.start fuel)
          else if kind = .blockMappingStart && place ≠ .flow then
            take
            mapping (blockEntries t.start fuel)
          else if p.anchor.isSome || !p.tag.isEmpty then
            settle
            return .scalar (Tree.tagOr p.tag (Tree.scalarTag [] true)) [] line
          else throw (.inConstruct p.start t.start "did not find expected node content")

/-- Reads the entries of an indented list up to its end. -/
def blockItems (start : Mark) : Nat → Compose (List Tree)
  | 0 => throw exhausted
  | fuel + 1 => do
      let t ← peek
      if t.kind = .blockEntry then
        let u ← nextEntry
        let item ←
          if u.kind = .blockEntry || u.kind = .blockEnd then emptyScalar t.stop
          else node .block fuel
        return item :: (← blockItems start fuel)
      else if t.kind = .blockEnd then
        takeLast
        return []
      else throw (.inConstruct start t.start "did not find expected '-' indicator")

/-- Reads the entries of a list that is not indented. -/
def bareItems : Nat → Compose (List Tree)
  | 0 => throw exhausted
  | fuel + 1 => do
      let t ← peek
      if t.kind = .blockEntry then
        let u ← nextEntry
        let item ←
          if endsBareEntry u.kind then emptyScalar t.stop else node .block fuel
        return item :: (← bareItems fuel)
      else
        settle
        return []

/-- Reads the entries of a block mapping up to its end. -/
def blockEntries (start : Mark) : Nat → Compose (List (Tree × Tree))
  | 0 => throw exhausted
  | fuel + 1 => do
      let t ← peek
      if t.kind = .key then
        let u ← next
        let key ←
          if endsMappingPart u.kind then emptyScalar t.stop else node .mappingBlock fuel
        let value ← blockValue fuel
        return (key, value) :: (← blockEntries start fuel)
      else if t.kind = .blockEnd then
        claimComments
        takeLast
        return []
      else throw (.inConstruct start t.start "did not find expected key")

/-- Reads the value of an entry of a block mapping. -/
def blockValue : Nat → Compose Tree
  | 0 => throw exhausted
  | fuel + 1 => do
      let t ← peek
      if t.kind = .value then
        let u ← next
        if endsMappingPart u.kind then emptyScalar t.stop else node .mappingBlock fuel
      else emptyScalar t.start

/-- Reads the entries of a list in brackets up to its end. -/
def flowItems (start : Mark) (first : Bool) : Nat → Compose (List Tree)
  | 0 => throw exhausted
  | fuel + 1 => do
      let t ← peek
      if t.kind = .flowSequenceEnd then
        claimComments
        takeLast
        return []
      else
        let t ←
          if first then pure t
          else if t.kind = .flowEntry then next
          else throw (.inConstruct start t.start "did not find expected ',' or ']'")
        if t.kind = .key then
          takeLast
          let entry ← flowPair fuel
          let item := Tree.mapping "!!map" [entry] (t.start.line + 1)
          return item :: (← flowItems start false fuel)
        else if t.kind = .flowSequenceEnd then
          claimComments
          takeLast
          return []
        else
          let item ← node .flow fuel
          return item :: (← flowItems start false fuel)

/-- Reads a single pair inside a list in brackets. -/
def flowPair : Nat → Compose (Tree × Tree)
  | 0 => throw exhausted
  | fuel + 1 => do
      let t ← peek
      let key ←
        if t.kind = .value || t.kind = .flowEntry || t.kind = .flowSequenceEnd then do
          take
          emptyScalar t.stop
        else node .flow fuel
      let value ← flowPairValue fuel
      let _ ← peek
      settle
      return (key, value)

/-- Reads the value of a single pair. -/
def flowPairValue : Nat → Compose Tree
  | 0 => throw exhausted
  | fuel + 1 => do
      let t ← peek
      if t.kind = .value then
        let u ← next
        if u.kind = .flowEntry || u.kind = .flowSequenceEnd then emptyScalar t.start
        else node .flow fuel
      else emptyScalar t.start

/-- Reads the entries of a mapping in brackets up to its end. -/
def flowEntries (start : Mark) (first : Bool) : Nat → Compose (List (Tree × Tree))
  | 0 => throw exhausted
  | fuel + 1 => do
      let t ← peek
      if t.kind = .flowMappingEnd then
        claimComments
        takeLast
        return []
      else
        let t ←
          if first then pure t
          else if t.kind = .flowEntry then next
          else throw (.inConstruct start t.start "did not find expected ',' or '\x7d'")
        if t.kind = .key then
          let u ← next
          let key ←
            if u.kind = .value || u.kind = .flowEntry || u.kind = .flowMappingEnd then
              emptyScalar u.start
            else node .flow fuel
          let value ← flowValue fuel
          return (key, value) :: (← flowEntries start false fuel)
        else if t.kind = .flowMappingEnd then
          claimComments
          takeLast
          return []
        else
          let key ← node .flow fuel
          let u ← peek
          let value ← emptyScalar u.start
          return (key, value) :: (← flowEntries start false fuel)

/-- Reads the value of an entry of a mapping in brackets. -/
def flowValue : Nat → Compose Tree
  | 0 => throw exhausted
  | fuel + 1 => do
      let t ← peek
      if t.kind = .value then
        let u ← next
        if u.kind = .flowEntry || u.kind = .flowMappingEnd then emptyScalar u.start
        else node .flow fuel
      else emptyScalar t.start

end

/-! ## Documents -/

/-- The handles that need no directive. -/
def defaultHandles : List (Text × Text) :=
  [("!", "!"), ("!!", Tree.languageAddress)]

/-- Reads directives up to the start of a document. `versioned` says whether a
version was given. -/
def directives (versioned : Bool) : Nat → Compose Unit
  | 0 => throw exhausted
  | fuel + 1 => do
      let t ← peek
      match t.kind with
      | .versionDirective major minor =>
          if versioned then
            throw (.inConstruct ⟨0, 0, 0⟩ t.start "found duplicate %YAML directive")
          else if major ≠ 1 || minor ≠ 1 then
            throw (.inConstruct ⟨0, 0, 0⟩ t.start "found incompatible YAML document")
          else
            take
            directives true fuel
      | .tagDirective handle expansion =>
          let s ← get
          if (s.handles.lookup handle).isSome then
            throw (.inConstruct ⟨0, 0, 0⟩ t.start "found duplicate %TAG directive")
          else
            set { s with handles := s.handles ++ [(handle, expansion)] }
            take
            directives versioned fuel
      | _ => modify fun s => { s with handles := s.handles ++ defaultHandles }

/-- Whether a token cannot belong to the content of a document. -/
def isOutside (k : TokenKind) : Bool :=
  match k with
  | .versionDirective _ _ => true
  | .tagDirective _ _ => true
  | .documentStart => true
  | .documentEnd => true
  | .streamEnd => true
  | _ => false

/-- Reads the root of a document behind its start mark. -/
def explicitRoot (fuel : Nat) : Compose Tree := do
  directives false fuel
  let t ← peek
  if t.kind = .documentStart then
    takeLast
    let u ← peek
    if isOutside u.kind then emptyScalar u.start else node .block fuel
  else throw (.inConstruct ⟨0, 0, 0⟩ t.start "did not find expected <document start>")

/-- Reads the root of the first document, if there is one. -/
def root (fuel : Nat) : Compose (Option Tree) := do
  let _ ← peek
  takeLast
  let t ← peek
  match t.kind with
  | .streamEnd =>
      settle
      return none
  | .versionDirective _ _ => return some (← explicitRoot fuel)
  | .tagDirective _ _ => return some (← explicitRoot fuel)
  | .documentStart => return some (← explicitRoot fuel)
  | _ =>
      directives false fuel
      claimForDocument
      settle
      return some (← node .block fuel)

/-- Reads the first document and looks at the token behind it. -/
def document (fuel : Nat) : Compose (Option Tree) := do
  match ← root fuel with
  | none => return none
  | some tree =>
      let _ ← peek
      settle
      return some tree

end Compose

/-- The first document of a stream, if it has one. Later documents are not
read. -/
def Document.read (t : Text) : Except Problem (Option Document) := do
  let (tree, s) ← (Compose.document (16 * t.length + 64)).run ⟨.start t, [], [], [], []⟩
  return tree.map fun tree => ⟨tree, s.anchored⟩

end NodeAsm.Yaml
