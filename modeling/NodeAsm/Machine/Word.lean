import NodeAsm.Text.Numeral

/-!
# Instruction words

A word has sixteen bits. Its top bits tell the class of the instruction:

* `0aaabbbbbbbbbbbb` moves source `b` to register `a`;
* `100xbbbbbbbbbbbb` combines source `b` with the accumulator;
* `110nnnccccxxxxxx` jumps to slot `c`;
* `1110ooo.........` has no operands.
-/

namespace NodeAsm

/-- One instruction word. -/
abbrev Word := BitVec 16

namespace Word

/-- The bits that tell the class of an instruction. -/
def classMask : Word := 0xE000#16

/-- The class bits of a jump. -/
def jumpClass : Word := 0xC000#16

/-- The bits that hold the target slot of a jump. -/
def targetMask : Word := 0x03C0#16

/-- The word of a slot without code: an unconditional jump to slot zero. -/
def idle : Word := 0xC000#16

/-- Whether a word belongs to the jump class. -/
def isJump (w : Word) : Bool :=
  w &&& classMask == jumpClass

/-- The slot held in the target bits. -/
def target (w : Word) : Nat :=
  ((w &&& targetMask) >>> 6).toNat

/-- The word with its target bits set to the low four bits of `slot`. -/
def withTarget (w : Word) (slot : Int) : Word :=
  (w &&& ~~~targetMask) ||| ((BitVec.ofInt 16 slot <<< 6) &&& targetMask)

/-- The four hexadecimal digits of a word. -/
def text (w : Word) : Text :=
  Numeral.hex 4 w.toNat

@[simp]
theorem length_text (w : Word) : w.text.length = 4 :=
  Numeral.length_hex 4 w.toNat

/-- The two bytes of a word, the low one first. -/
def bytes (w : Word) : Text :=
  [UInt8.ofNat (w.toNat % 256), UInt8.ofNat (w.toNat / 256)]

@[simp]
theorem length_bytes (w : Word) : w.bytes.length = 2 :=
  rfl

@[simp]
theorem length_flatMap_bytes (ws : List Word) : (ws.flatMap bytes).length = 2 * ws.length := by
  induction ws with
  | nil => rfl
  | cons w ws inductionHypothesis =>
      simp only [List.flatMap_cons, List.length_append, inductionHypothesis, length_bytes,
        List.length_cons]
      omega

end Word

end NodeAsm
