import NodeAsm.Assembler
import NodeAsm.Listing
import NodeAsm.Logging.Record

/-!
# Transcripts

What a compilation shows while it runs: log records about each line and each
node, and the listings of the nodes. A transcript keeps them in order, so that
one reader can take the records, another the listings, and a third both.
-/

namespace NodeAsm

/-- One thing shown while a compilation runs. -/
inductive Shown where
  | record (r : Record)
  | listing (text : Text)
  deriving Repr

namespace Transcript

/-- The attribute of a node. -/
def nodeAttribute (node : Int) : Text × Text :=
  ("node", Numeral.ofInt node)

/-- The record of a note. -/
def noteRecord : Assembler.Note → Record
  | .nodeStart node line isa =>
      ⟨.debug, "NodeStart", [nodeAttribute node, ("line", Numeral.ofInt line), ("isa", isa)]⟩
  | .tokenized node line statement =>
      ⟨.trace, "Tokenized",
        [nodeAttribute node,
         ("line", Numeral.ofInt line),
         ("label", statement.label),
         ("opcode", statement.opcode),
         ("operands", Record.listText statement.operands)]⟩
  | .encoded node slot word =>
      ⟨.trace, "Encoded",
        [nodeAttribute node, ("slot", Numeral.ofNat slot), ("word", word.text)]⟩

/-- The record that a node is about to be resolved. -/
def nodeState : Record :=
  ⟨.trace, "NodeState", []⟩

/-- The record of a completed program. -/
def nodeCompiled (p : Program) : Record :=
  ⟨.debug, "NodeCompiled",
    [nodeAttribute p.node,
     ("words", Record.listText (p.words.map Word.text)),
     ("labels", Numeral.ofNat p.bindings.length)]⟩

/-- The record at the end of a compilation. -/
def compileDone (nodes errors warnings : Nat) : Record :=
  ⟨.debug, "CompileDone",
    [("nodes", Numeral.ofNat nodes),
     ("errors", Numeral.ofNat errors),
     ("warnings", Numeral.ofNat warnings)]⟩

/-- The record of an output that could not be flushed after a failure. -/
def flushFailed : Record :=
  ⟨.warn, "FlushFailed", []⟩

/-- What is shown of a completed program. -/
def programShown (listing : Bool) (p : Program) : List Shown :=
  [.record nodeState, .record (nodeCompiled p)]
    ++ (if listing then [.listing (Listing.text p)] else [])

/-- What is shown of one step of the assembler. -/
def stepShown (listing : Bool) (s : Assembler.Step) : List Shown :=
  (Assembler.programs s.events).flatMap (programShown listing)
    ++ s.notes.map fun note => .record (noteRecord note)

/-- The text of a record, if its level is high enough. -/
def recordText (level : Level) (r : Record) : Text :=
  if level.rank ≤ r.level.rank then r.text else []

/-- The records of a transcript at a level. -/
def logText (level : Level) (shown : List Shown) : Text :=
  shown.flatMap fun
    | .record r => recordText level r
    | .listing _ => []

/-- The listings of a transcript. -/
def listingText (shown : List Shown) : Text :=
  shown.flatMap fun
    | .record _ => []
    | .listing t => t

/-- Records at a level and listings in the order in which they were shown. -/
def text (level : Level) (shown : List Shown) : Text :=
  shown.flatMap fun
    | .record r => recordText level r
    | .listing t => t

end Transcript

end NodeAsm
