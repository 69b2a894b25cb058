import NodeAsm.Fault

/-!
# Log levels

A level is an integer. Four levels have names, and a name with a signed offset
stands for the level that far from it. `trace` names one more level, below all
others.
-/

namespace NodeAsm

/-- How important a log record is. -/
structure Level where
  rank : Int
  deriving DecidableEq, Repr

namespace Level

def trace : Level := ⟨-8⟩
def debug : Level := ⟨-4⟩
def info : Level := ⟨0⟩
def warn : Level := ⟨4⟩
def error : Level := ⟨8⟩

/-- A character in upper case, as far as level names are concerned: the ASCII
letters and the dotless `i`. -/
def upperGlyph : Text.Glyph → Text
  | .char c => if c.toNat = 0x131 then "I" else Text.ofChar c.toUpper
  | .stray b => [b]

/-- A text in upper case, as far as level names are concerned. -/
def upper (t : Text) : Text :=
  t.glyphs.flatMap upperGlyph

/-- The level with a name, in any case. -/
def named? (t : Text) : Option Level :=
  let t := upper t
  if t = "DEBUG" then some debug
  else if t = "INFO" then some info
  else if t = "WARN" then some warn
  else if t = "ERROR" then some error
  else none

/-- Whether a byte is a sign. -/
def isSign (b : UInt8) : Bool :=
  b == 0x2B || b == 0x2D

/-- The offset in the part of a level text from the first sign on. -/
def offset? (t : Text) : Option Int :=
  if t.isEmpty then some 0 else Numeral.int64? t

/-- The level that a text stands for. Sums wrap at sixty-four bits. -/
def ofText? (t : Text) : Option Level :=
  if upper t = "TRACE" then some trace
  else do
    let offset ← offset? (t.dropWhile fun b => !isSign b)
    let base ← named? (t.takeWhile fun b => !isSign b)
    some ⟨Numeral.wrap64 (base.rank + offset)⟩

/-- Reads a level. -/
def read (t : Text) : Except Fault Level :=
  match ofText? t with
  | some l => .ok l
  | none => .error (.plain ("unknown log level " ++ t.quote))

/-- The text of a level: the nearest name that is not above it and the offset
from there. -/
def text (l : Level) : Text :=
  let relative (name : Text) (base : Level) : Text :=
    let offset := Numeral.wrap64 (l.rank - base.rank)
    if offset = 0 then name else name ++ Numeral.signed offset
  if l.rank < info.rank then relative "DEBUG" debug
  else if l.rank < warn.rank then relative "INFO" info
  else if l.rank < error.rank then relative "WARN" warn
  else relative "ERROR" error

end Level

end NodeAsm
