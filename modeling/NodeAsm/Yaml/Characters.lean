import NodeAsm.Text.Utf8

/-!
# The characters of a YAML stream

A stream is UTF-8, or UTF-16 if it starts with the mark of that encoding. It
may hold line ends, tabs and characters that print. A stream is read in blocks,
and what is wrong with a block is found when the block is needed.
-/

namespace NodeAsm.Yaml

/-! ## Classes -/

/-- Whether a code point ends a line. -/
def isBreak (n : Nat) : Bool :=
  n = 0x0A || n = 0x0D || n = 0x85 || n = 0x2028 || n = 0x2029

/-- Whether a code point is a space or a tab. -/
def isBlank (n : Nat) : Bool :=
  n = 0x20 || n = 0x09

/-- Whether a code point is a space, a tab, a line end, or stands for the end of
the stream. -/
def isBlankOrEnd (n : Nat) : Bool :=
  n = 0 || isBlank n || isBreak n

/-- Whether a code point ends a line or stands for the end of the stream. -/
def isBreakOrEnd (n : Nat) : Bool :=
  n = 0 || isBreak n

/-- Whether a code point may stand in an anchor or a tag handle. -/
def isNameChar (n : Nat) : Bool :=
  (0x30 ≤ n && n ≤ 0x39) || (0x41 ≤ n && n ≤ 0x5A) || (0x61 ≤ n && n ≤ 0x7A) || n = 0x5F
    || n = 0x2D

/-- Whether a stream may hold a code point. -/
def isAllowed (n : Nat) : Bool :=
  n = 0x09 || n = 0x0A || n = 0x0D || (0x20 ≤ n && n ≤ 0x7E) || n = 0x85
    || (0xA0 ≤ n && n ≤ 0xD7FF) || (0xE000 ≤ n && n ≤ 0xFFFD) || (0x10000 ≤ n && n ≤ 0x10FFFF)

/-- Whether a code point ends a line and takes more than one byte. -/
def isWideBreak (n : Nat) : Bool :=
  n = 0x85 || n = 0x2028 || n = 0x2029

/-! ## Decoding -/

/-- What the bytes at hand start with. -/
inductive Lead where
  /-- A character of `size` bytes. -/
  | char (c : Char) (size : Nat)
  /-- A part of a character. The message says what is wrong if nothing follows. -/
  | part (message : Text)
  /-- Something that is no character. -/
  | fault (message : Text)
  deriving DecidableEq, Repr

/-- A code point of `size` bytes as a character of the stream. -/
def streamChar (n size : Nat) : Lead :=
  if isAllowed n then .char (Char.ofNat n) size else .fault "control characters are not allowed"

/-- The number of bytes of a UTF-8 sequence by its first byte. -/
def sequenceLength? (b : UInt8) : Option Nat :=
  if b < 0x80 then some 1
  else if 0xC0 ≤ b && b < 0xE0 then some 2
  else if 0xE0 ≤ b && b < 0xF0 then some 3
  else if 0xF0 ≤ b && b < 0xF8 then some 4
  else none

/-- The payload of the first byte of a UTF-8 sequence of `n` bytes. -/
def leadPayload (n : Nat) (b : UInt8) : Nat :=
  if n = 1 then b.toNat
  else if n = 2 then b.toNat % 0x20
  else if n = 3 then b.toNat % 0x10
  else b.toNat % 0x08

/-- Whether a code point needs a UTF-8 sequence of `n` bytes. -/
def needsLength (n value : Nat) : Bool :=
  (n = 1 && value < 0x80) || (n = 2 && 0x80 ≤ value && value < 0x800)
    || (n = 3 && 0x800 ≤ value && value < 0x10000) || (n = 4 && 0x10000 ≤ value)

/-- What a UTF-8 text starts with. -/
def utf8Lead (first : UInt8) (rest : Text) : Lead :=
  match sequenceLength? first with
  | none => .fault "invalid leading UTF-8 octet"
  | some n =>
      let trail := rest.take (n - 1)
      if trail.length < n - 1 then .part "incomplete UTF-8 octet sequence"
      else if trail.any fun b => b < 0x80 || 0xC0 ≤ b then .fault "invalid trailing UTF-8 octet"
      else
        let value := trail.foldl (fun v b => v * 0x40 + b.toNat % 0x40) (leadPayload n first)
        if !needsLength n value then .fault "invalid length of a UTF-8 sequence"
        else if (0xD800 ≤ value && value ≤ 0xDFFF) || value > 0x10FFFF then
          .fault "invalid Unicode character"
        else streamChar value n

/-- A sixteen-bit unit. `swap` says that the low byte comes first. -/
def unit (swap : Bool) (a b : UInt8) : Nat :=
  if swap then b.toNat * 256 + a.toNat else a.toNat * 256 + b.toNat

/-- What a UTF-16 text starts with. -/
def utf16Lead (swap : Bool) : Text → Lead
  | a :: b :: rest =>
      let u := unit swap a b
      if 0xDC00 ≤ u && u ≤ 0xDFFF then .fault "unexpected low surrogate area"
      else if 0xD800 ≤ u && u ≤ 0xDBFF then
        match rest with
        | a :: b :: _ =>
            let v := unit swap a b
            if 0xDC00 ≤ v && v ≤ 0xDFFF then
              streamChar (0x10000 + (u - 0xD800) * 0x400 + (v - 0xDC00)) 4
            else .fault "expected low surrogate area"
        | _ => .part "incomplete UTF-16 surrogate pair"
      else streamChar u 2
  | _ => .part "incomplete UTF-16 character"

/-- How the characters of a stream are encoded. -/
inductive Encoding where
  | utf8
  | utf16 (swap : Bool)
  deriving DecidableEq, Repr

/-- What bytes start with, of which `first` is the first. -/
def Encoding.lead (e : Encoding) (first : UInt8) (rest : Text) : Lead :=
  match e with
  | .utf8 => utf8Lead first rest
  | .utf16 swap => utf16Lead swap (first :: rest)

/-- The encoding of a stream, and the number of bytes of its mark. -/
def encodingOf : Text → Encoding × Nat
  | 0xEF :: 0xBB :: 0xBF :: _ => (.utf8, 3)
  | 0xFF :: 0xFE :: _ => (.utf16 true, 2)
  | 0xFE :: 0xFF :: _ => (.utf16 false, 2)
  | _ => (.utf8, 0)

/-! ## Blocks -/

/-- Characters that are read at once, and what is wrong behind them. -/
structure Block where
  chars : List Char
  fault : Option Text
  deriving DecidableEq, Repr

/-- How decoding some bytes ended. -/
inductive Ending where
  /-- Every byte was used. -/
  | complete
  /-- The bytes left are a part of a character. -/
  | part (left : Text) (message : Text)
  /-- The next bytes are no character. -/
  | fault (message : Text)
  deriving DecidableEq, Repr

/-- The characters of some bytes behind those in `read`, the latest of which comes
first. The first argument bounds their number. -/
def decodeFrom (e : Encoding) : Nat → List Char → Text → List Char × Ending
  | bound + 1, read, b :: rest =>
      match e.lead b rest with
      | .char c size => decodeFrom e bound (c :: read) (rest.drop (size - 1))
      | .part message => (read.reverse, .part (b :: rest) message)
      | .fault message => (read.reverse, .fault message)
  | _, read, _ => (read.reverse, .complete)

/-- The number of bytes that are read at once. -/
def blockSize : Nat := 512

/-- The blocks of a stream, the first of `room` bytes. A character that does not
fit into a block belongs to the next. The first argument bounds the number of
blocks. -/
def blocksFrom (e : Encoding) : Nat → Nat → Text → List Block
  | 0, _, _ => []
  | bound + 1, room, t =>
      if t.isEmpty then []
      else
        let later := t.drop room
        match decodeFrom e room [] (t.take room) with
        | (chars, .fault message) => [⟨chars, some message⟩]
        | (chars, .complete) => ⟨chars, none⟩ :: blocksFrom e bound blockSize later
        | (chars, .part left message) =>
            ⟨chars, none⟩ ::
              (if later.isEmpty then [⟨[], some message⟩]
              else blocksFrom e bound blockSize (left ++ later))

/-- The blocks of a stream behind the mark of its encoding. -/
def blocksOf (t : Text) : List Block :=
  let (e, mark) := encodingOf t
  blocksFrom e t.length (blockSize - mark) (t.drop mark)

end NodeAsm.Yaml
