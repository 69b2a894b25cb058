import NodeAsm.Proofs.Compilation.Writing
import NodeAsm.Proofs.Text.Numeral

/-!
# Reading the output back

Each format can be read back without the program that wrote it. Hexadecimal text
without its blanks and line feeds denotes bytes; frames have a fixed length, so they
can be cut apart wherever they came from. Both carry the same bytes up to the command
that starts each frame, and those bytes determine the low byte of every node and all
words, for any number of nodes. The words of a document are numerals of the words.
-/

namespace NodeAsm

namespace Word

/-- The words that pairs of bytes denote, the low byte first. -/
def ofBytes : Text → List Word
  | low :: high :: rest => BitVec.ofNat 16 (low.toNat + 256 * high.toNat) :: ofBytes rest
  | _ => []

theorem ofBytes_flatMap_bytes (ws : List Word) : ofBytes (ws.flatMap bytes) = ws := by
  induction ws with
  | nil => rfl
  | cons w ws inductionHypothesis =>
      have bound : w.toNat < 65536 := w.isLt
      have parts : w.toNat % 256 % 256 + 256 * (w.toNat / 256 % 256) = w.toNat := by omega
      simp only [List.flatMap_cons, bytes, List.cons_append, List.nil_append, ofBytes,
        UInt8.toNat_ofNat', inductionHypothesis, parts, BitVec.ofNat_toNat, BitVec.setWidth_eq]

/-- The digits of a word denote it. -/
theorem valueInBase?_text (w : Word) : Numeral.valueInBase? 16 w.text = some w.toNat := by
  rw [text, Numeral.valueInBase?_hex (by decide)]
  exact congrArg some (Nat.mod_eq_of_lt w.isLt)

end Word

namespace Output

/-! ## Hexadecimal text -/

/-- A text without spaces and line feeds. -/
def unspaced (t : Text) : Text :=
  t.filter fun b => b != Text.space && b != Text.lf

/-- Two hexadecimal digits for each byte. -/
def hexOf (bytes : Text) : Text :=
  bytes.flatMap fun b => Numeral.hex 2 b.toNat

/-- The bytes that pairs of hexadecimal digits denote. -/
def bytesOfHex? : Text → Option Text
  | [] => some []
  | [_] => none
  | high :: low :: rest => do
      let b ← Numeral.valueInBase? 16 [high, low]
      let bytes ← bytesOfHex? rest
      return UInt8.ofNat b :: bytes

theorem bytesOfHex?_hexOf (bytes : Text) : bytesOfHex? (hexOf bytes) = some bytes := by
  induction bytes with
  | nil => rfl
  | cons b bytes inductionHypothesis =>
      have bound : b.toNat < 16 ^ 2 := b.toNat_lt
      have value : Numeral.valueInBase? 16 (Numeral.hex 2 b.toNat) = some b.toNat := by
        rw [Numeral.valueInBase?_hex (by decide), Nat.mod_eq_of_lt bound]
      obtain ⟨high, low, digits⟩ := List.length_eq_two.mp (Numeral.length_hex 2 b.toNat)
      have text : hexOf (b :: bytes) = high :: low :: hexOf bytes := by
        rw [hexOf, List.flatMap_cons, digits]
        rfl
      rw [digits] at value
      rw [text, bytesOfHex?, value, inductionHypothesis]
      simp

theorem unspaced_hexOf (bytes : Text) : unspaced (hexOf bytes) = hexOf bytes := by
  have digits : ∀ d < 16, (Numeral.lowerDigit d != Text.space &&
      Numeral.lowerDigit d != Text.lf) = true := by decide
  apply List.filter_eq_self.mpr
  intro c member
  obtain ⟨b, _, digit⟩ := List.mem_flatMap.mp member
  obtain ⟨d, small, rfl⟩ := Numeral.exists_of_mem_hex digit
  exact digits d small

theorem unspaced_append (first second : Text) :
    unspaced (first ++ second) = unspaced first ++ unspaced second :=
  List.filter_append first second

theorem unspaced_hexWord (i : Nat) (w : Word) : unspaced (hexWord i w) = hexOf w.bytes := by
  have separator : unspaced [if i % wordsPerLine = wordsPerLine - 1 then Text.lf else Text.space] =
      [] := by
    split <;> rfl
  rw [hexWord, unspaced_append, separator, List.append_nil]
  exact unspaced_hexOf w.bytes

theorem hexOf_flatMap_bytes (ws : List Word) :
    hexOf (ws.flatMap Word.bytes) = ws.flatMap fun w => hexOf w.bytes :=
  List.flatMap_assoc

/-- Without blanks a block is the digits of the frame behind its command. -/
theorem unspaced_hexBlock (p : Program) : unspaced (hexBlock p) = hexOf (frame p).tail := by
  have bound : (p.node % 256).toNat < 256 := by omega
  have byte : (UInt8.ofNat (p.node % 256).toNat).toNat = (p.node % 256).toNat := by
    rw [UInt8.toNat_ofNat', Nat.mod_eq_of_lt bound]
  have digits : hexOf [UInt8.ofNat (p.node % 256).toNat] =
      Numeral.hex 2 (p.node % 256).toNat := by
    rw [hexOf, List.flatMap_singleton, byte]
  have header : unspaced ("\n" ++ Numeral.hex 2 (p.node % 256).toNat ++ "\n") =
      hexOf [UInt8.ofNat (p.node % 256).toNat] := by
    have lineFeed : unspaced (Text.ofString "\n") = [] := by decide
    rw [unspaced_append, unspaced_append, lineFeed, List.nil_append, List.append_nil, ← digits]
    exact unspaced_hexOf _
  have words : (p.words.mapIdx hexWord).map unspaced = p.words.map fun w => hexOf w.bytes := by
    apply List.ext_getElem
    · simp
    · intro i _ _
      simp [unspaced_hexWord]
  have pieces : unspaced (hexBlock p) = ((hexPieces p).map unspaced).flatten :=
    List.filter_flatten
  rw [pieces, hexPieces, List.map_cons, header, words, List.flatten_cons, ← List.flatMap_def,
    ← hexOf_flatMap_bytes]
  exact List.flatMap_append.symm

theorem unspaced_flatMap_hexBlock (ps : List Program) :
    unspaced (ps.flatMap hexBlock) = hexOf ((ps.map frame).flatMap List.tail) := by
  induction ps with
  | nil => rfl
  | cons p ps inductionHypothesis =>
      rw [List.flatMap_cons, unspaced_append, unspaced_hexBlock, inductionHypothesis,
        List.map_cons, List.flatMap_cons]
      exact List.flatMap_append.symm

/-! ## Frames -/

/-- The number of bytes of a frame. -/
def frameLength : Nat := 34

/-- A text cut into frames. -/
def frames (t : Text) : List Text :=
  if t = [] then [] else t.take frameLength :: frames (t.drop frameLength)
termination_by t.length
decreasing_by
  have positive : 0 < frameLength := by decide
  have nonempty : 0 < t.length := List.length_pos_of_ne_nil (by assumption)
  rw [List.length_drop]
  omega

theorem frames_append {front : Text} (whole : front.length = frameLength) (rest : Text) :
    frames (front ++ rest) = front :: frames rest := by
  have nonempty : front ++ rest ≠ [] := by
    intro empty
    simp_all [frameLength]
  rw [frames, if_neg nonempty, ← whole, List.take_left, List.drop_left]

/-- Frames one after the other are cut apart where they meet. -/
theorem frames_flatMap_frame (ps : List Program) : frames (ps.flatMap frame) = ps.map frame := by
  induction ps with
  | nil =>
      rw [List.flatMap_nil, frames, if_pos rfl]
      rfl
  | cons p ps inductionHypothesis =>
      rw [List.flatMap_cons, frames_append (length_frame p), inductionHypothesis, List.map_cons]

/-- The node and the words in a frame. -/
def readFrame (f : Text) : Int × List Word :=
  ((f.getD 1 0).toNat, Word.ofBytes (f.drop 2))

/-- What a program leaves in a frame. -/
def carried (p : Program) : Int × List Word :=
  (p.node % 256, p.words)

theorem readFrame_frame (p : Program) : readFrame (frame p) = carried p := by
  have bound : (p.node % 256).toNat < 256 := by omega
  have node : ((UInt8.ofNat (p.node % 256).toNat).toNat : Int) = p.node % 256 := by
    rw [UInt8.toNat_ofNat', Nat.mod_eq_of_lt bound]
    omega
  have words : Word.ofBytes ((frame p).drop 2) = p.words := Word.ofBytes_flatMap_bytes p.words
  rw [readFrame, words, carried, ← node]
  rfl

/-! ## Whole outputs -/

/-- What a format leaves of programs where every byte is taken. -/
def written (format : Format) (ps : List Program) : Text :=
  let emitted := (Compilation.emitAll format.emitter (.toSink .unlimited) ps).1
  (format.emitter.flush emitted).1.sink.stored

theorem written_hex (ps : List Program) : written .hex ps = ps.flatMap hexBlock :=
  (Compilation.emitAll_of_pours pours_hexEmitter (pours_hexEmitter.start none) ps).1

theorem written_prog (ps : List Program) : written .prog ps = ps.flatMap frame :=
  (Compilation.emitAll_of_pours pours_progEmitter (pours_progEmitter.start none) ps).1

/-- The hexadecimal text of programs denotes their frames without the commands. -/
theorem bytesOfHex?_written (ps : List Program) :
    bytesOfHex? (unspaced (written .hex ps)) =
      some ((frames (written .prog ps)).flatMap List.tail) := by
  rw [written_hex, written_prog, frames_flatMap_frame, unspaced_flatMap_hexBlock,
    bytesOfHex?_hexOf]

/-- The frames of programs give back what the programs carry. -/
theorem map_readFrame_written (ps : List Program) :
    (frames (written .prog ps)).map readFrame = ps.map carried := by
  rw [written_prog, frames_flatMap_frame, List.map_map]
  exact List.map_congr_left fun p _ => readFrame_frame p

/-- Frames are determined by what follows their commands, since that has a fixed
length as well. -/
theorem map_frame_eq_of_flatMap_tail {ps qs : List Program}
    (tails : (ps.map frame).flatMap List.tail = (qs.map frame).flatMap List.tail) :
    ps.map frame = qs.map frame := by
  have length (p : Program) : (frame p).tail.length = 33 := by
    rw [List.length_tail, length_frame]
    rfl
  have nonempty (p : Program) (ps : List Program) :
      ((p :: ps).map frame).flatMap List.tail ≠ [] := by
    rw [List.map_cons, List.flatMap_cons]
    exact List.append_ne_nil_of_left_ne_nil (List.ne_nil_of_length_eq_add_one (length p)) _
  induction ps generalizing qs with
  | nil =>
      cases qs with
      | nil => rfl
      | cons q qs => exact absurd tails.symm (nonempty q qs)
  | cons p ps inductionHypothesis =>
      cases qs with
      | nil => exact absurd tails (nonempty p ps)
      | cons q qs =>
          rw [List.map_cons, List.map_cons, List.flatMap_cons, List.flatMap_cons] at tails
          obtain ⟨first, rest⟩ := List.append_inj tails ((length p).trans (length q).symm)
          have same : frame p = frame q := congrArg (programNode :: ·) first
          rw [List.map_cons, List.map_cons, same, inductionHypothesis rest]

/-- The hexadecimal text determines the frames. -/
theorem written_prog_eq_of_written_hex_eq {ps qs : List Program}
    (same : written .hex ps = written .hex qs) : written .prog ps = written .prog qs := by
  have read := bytesOfHex?_written ps
  rw [same, bytesOfHex?_written qs, written_prog, written_prog, frames_flatMap_frame,
    frames_flatMap_frame] at read
  rw [written_prog, written_prog, List.flatMap_def, List.flatMap_def,
    map_frame_eq_of_flatMap_tail (Option.some.inj read).symm]

/-- Two programs with the same low byte of their nodes and the same words. -/
def SameCode (p q : Program) : Prop :=
  p.node % 256 = q.node % 256 ∧ p.words = q.words

theorem forall₂_sameCode_of_written_prog_eq {ps qs : List Program}
    (same : written .prog ps = written .prog qs) : List.Forall₂ SameCode ps qs := by
  have carried : ps.map carried = qs.map carried := by
    rw [← map_readFrame_written, same, map_readFrame_written]
  have pairs : List.Forall₂ Eq (ps.map Output.carried) (qs.map Output.carried) := by
    rw [carried]
    exact List.forall₂_refl _
  rw [List.forall₂_map_left_iff, List.forall₂_map_right_iff] at pairs
  exact pairs.imp fun _ _ equal => Prod.mk.inj equal

/-- The formats carry the same programs. Hexadecimal text holds the frames without their
commands; frames give back the low byte of every node and all words, so each of the
two determines them; and the words of a document are the numerals of the words. -/
theorem formats_agree (ps : List Program) :
    bytesOfHex? (unspaced (written .hex ps)) =
        some ((frames (written .prog ps)).flatMap List.tail) ∧
      (∀ f ∈ frames (written .prog ps), f.length = 34 ∧ f.head? = some 0x01) ∧
      (frames (written .prog ps)).map readFrame = ps.map (fun p => (p.node % 256, p.words)) ∧
      (∀ qs, written .hex ps = written .hex qs ∨ written .prog ps = written .prog qs →
        List.Forall₂ SameCode ps qs) ∧
      ∀ p : Program, (NodeDocument.ofProgram p).words.map (Numeral.valueInBase? 16) =
        p.words.map fun w => some w.toNat := by
  refine ⟨bytesOfHex?_written ps, ?_, map_readFrame_written ps, ?_, ?_⟩
  · intro f member
    rw [written_prog, frames_flatMap_frame] at member
    obtain ⟨p, _, rfl⟩ := List.mem_map.mp member
    exact ⟨length_frame p, rfl⟩
  · rintro qs (hex | prog)
    · exact forall₂_sameCode_of_written_prog_eq (written_prog_eq_of_written_hex_eq hex)
    · exact forall₂_sameCode_of_written_prog_eq prog
  · intro p
    rw [NodeDocument.ofProgram, List.map_map]
    exact List.map_congr_left fun w _ => w.valueInBase?_text

/-- A program of any node that repeats one instruction. -/
def uniform (node : Int) : Program :=
  ⟨node, 1, Vector.replicate slotCount ⟨0x8001#16, [], ⟨2, "ADD 1"⟩⟩, []⟩

/-- Nodes that differ by a multiple of 256 leave the same output, negative ones
included. -/
theorem formats_agree_of_negative :
    written .hex [uniform 3, uniform (-1)] = written .hex [uniform (-253), uniform 255] ∧
      List.Forall₂ SameCode [uniform 3, uniform (-1)] [uniform (-253), uniform 255] ∧
      (frames (written .prog [uniform 3, uniform (-1)])).map readFrame =
        [(3, List.replicate 16 0x8001#16), (255, List.replicate 16 0x8001#16)] := by
  have same : written .hex [uniform 3, uniform (-1)] =
      written .hex [uniform (-253), uniform 255] := by decide +kernel
  obtain ⟨_, _, read, determined, _⟩ := formats_agree [uniform 3, uniform (-1)]
  refine ⟨same, determined _ (Or.inl same), ?_⟩
  rw [read]
  decide +kernel

end Output

end NodeAsm
