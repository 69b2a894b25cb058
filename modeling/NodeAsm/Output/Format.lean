import NodeAsm.Output.Buffer
import NodeAsm.Output.NodeDocument

/-!
# Output formats

Programs are written in one of three formats: hexadecimal text, YAML documents,
or the frames that a device loader expects. An emitter takes the programs one
by one and is flushed once at the end.
-/

namespace NodeAsm

/-- What takes programs one by one. Both operations may fail. -/
structure Emitter (σ : Type) where
  emit : σ → Program → σ × Option Fault
  flush : σ → σ × Option Fault

/-- An output format. -/
inductive Format where
  | hex
  | yaml
  | prog
  deriving DecidableEq, Repr

namespace Format

/-- The name of a format. -/
def name : Format → Text
  | hex => "hex"
  | yaml => "yaml"
  | prog => "prog"

/-- The format with the given name. -/
def ofName? (t : Text) : Option Format :=
  [hex, yaml, prog].find? fun f => f.name == t

@[simp]
theorem ofName?_name (f : Format) : ofName? f.name = some f := by
  cases f <;> decide

/-- Reads a format name. -/
def read (t : Text) : Except Fault Format :=
  match ofName? t with
  | some f => .ok f
  | none => .error (.plain ("unknown output format " ++ t.quote))

end Format

/-- An output on the way to its sink. -/
structure Output where
  sink : Sink
  /-- What waits for the flush. -/
  buffer : Buffer
  /-- The number of documents begun. -/
  documents : Nat
  /-- Whether a document could not be written. -/
  broken : Bool
  deriving Repr

namespace Output

/-- An output before the first program. -/
def toSink (s : Sink) : Output :=
  ⟨s, .empty, 0, false⟩

/-! ## Hexadecimal text -/

/-- The number of words on a line. -/
def wordsPerLine : Nat := 4

/-- The word at position `i` of a block: its two bytes in hexadecimal digits, low byte
first, and what separates it from the next word. -/
def hexWord (i : Nat) (w : Word) : Text :=
  w.bytes.flatMap (fun b => Numeral.hex 2 b.toNat)
    ++ [if i % wordsPerLine = wordsPerLine - 1 then Text.lf else Text.space]

/-- The pieces of the block of a program: the low byte of its node, then its words. -/
def hexPieces (p : Program) : List Text :=
  ("\n" ++ Numeral.hex 2 (p.node % 256).toNat ++ "\n") :: p.words.mapIdx hexWord

/-- The block of a program. -/
def hexBlock (p : Program) : Text :=
  (hexPieces p).flatten

@[simp]
theorem length_hexWord (i : Nat) (w : Word) : (hexWord i w).length = 5 := by
  simp [hexWord, Word.bytes]

/-- Every block has the same number of bytes. -/
@[simp]
theorem length_hexBlock (p : Program) : (hexBlock p).length = 4 + 5 * slotCount := by
  have lengths : (p.words.mapIdx hexWord).map List.length = List.replicate slotCount 5 := by
    apply List.eq_replicate_iff.mpr
    constructor
    · simp
    · intro n member
      obtain ⟨piece, listed, rfl⟩ := List.mem_map.mp member
      obtain ⟨i, within, rfl⟩ := List.mem_mapIdx.mp listed
      exact length_hexWord i _
  have lineFeed : (Text.ofString "\n").length = 1 := by decide
  simp only [hexBlock, hexPieces, List.flatten_cons, List.length_append, List.length_flatten,
    lengths, lineFeed, Numeral.length_hex, List.sum_replicate_nat]
  omega

/-- Hexadecimal text is written through a buffer, piece by piece. Only the flush
tells of a fault. -/
def hexEmitter : Emitter Output where
  emit o p :=
    let (buffer, sink) := o.buffer.writeAll o.sink (hexPieces p)
    ({ o with sink := sink, buffer := buffer }, none)
  flush o :=
    let (buffer, sink) := o.buffer.flush o.sink
    ({ o with sink := sink, buffer := buffer }, buffer.fault)

/-! ## Frames -/

/-- The byte that starts programming a node. -/
def programNode : UInt8 := 0x01

/-- The frame of a program: the command, the low byte of its node, then its
words, low byte first. -/
def frame (p : Program) : Text :=
  programNode :: UInt8.ofNat (p.node % 256).toNat :: p.words.flatMap Word.bytes

/-- Every frame has the same number of bytes. -/
@[simp]
theorem length_frame (p : Program) : (frame p).length = 2 + 2 * slotCount := by
  simp only [frame, List.length_cons, Word.length_flatMap_bytes, Program.length_words]
  omega

/-- Each frame is written at once. -/
def progEmitter : Emitter Output where
  emit o p :=
    let (sink, fault) := o.sink.write (frame p)
    ({ o with sink := sink }, fault.map (.noted ("write node " ++ Numeral.ofInt p.node)))
  flush o := (o, none)

/-! ## YAML documents -/

/-- The fault of a document that could not be written. -/
def documentFault : Fault :=
  .plain ("yaml: write error: " ++ Sink.full.message)

/-- The fault of a stream that was never begun. -/
def streamFault : Fault :=
  .plain "yaml: expected STREAM-START"

/-- Each document is written at once, with a separator between two. Once a write
has failed, so does everything that follows. -/
def yamlEmitter : Emitter Output where
  emit o p :=
    let separator : Text := if o.documents = 0 then [] else "---\n"
    let (sink, fault) := o.sink.write (separator ++ (NodeDocument.ofProgram p).text)
    let broken := o.broken || fault.isSome
    ({ o with sink := sink, documents := o.documents + 1, broken := broken },
      if broken then some (.noted ("encode node " ++ Numeral.ofInt p.node) documentFault)
      else none)
  flush o :=
    let fault :=
      if o.documents = 0 then some streamFault
      else if o.broken then some documentFault
      else none
    (o, fault.map (.noted "close yaml stream"))

end Output

/-- The emitter of a format. -/
def Format.emitter : Format → Emitter Output
  | .hex => Output.hexEmitter
  | .yaml => Output.yamlEmitter
  | .prog => Output.progEmitter

/-- The emitter of the format with a name. -/
def Emitter.named (t : Text) : Except Fault (Emitter Output) :=
  if t = "hex" then .ok Output.hexEmitter
  else if t = "yaml" then .ok Output.yamlEmitter
  else if t = "prog" then .ok Output.progEmitter
  else .error (.plain ("unknown output format " ++ t.quote))

end NodeAsm
