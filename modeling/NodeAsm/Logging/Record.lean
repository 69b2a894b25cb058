import NodeAsm.Logging.Level

/-!
# Log records

A record is a line of attributes: its level, its message and what belongs to
the message. A value stands between quotes where it could not be read back
otherwise.
-/

namespace NodeAsm

/-- One log record. -/
structure Record where
  level : Level
  message : Text
  attributes : List (Text × Text)
  deriving Repr

namespace Record

/-- Whether a glyph forces quotes around a value. -/
def needsQuotes : Text.Glyph → Bool
  | .stray _ => true
  | .char c =>
      let n := c.toNat
      if n < 0x80 then n ≤ 0x20 || n = 0x3D || n = 0x22
      else n = 0xFFFD || Unicode.isWhiteSpace n || !Unicode.isPrintable n

/-- A value as it stands in a record. -/
def valueText (t : Text) : Text :=
  if t.isEmpty || t.glyphs.any needsQuotes then t.quote else t

/-- A list of texts as one value. -/
def listText (ts : List Text) : Text :=
  0x5B :: Text.joinWith [Text.space] ts ++ [0x5D]

/-- An attribute with its key. -/
def attributeText (key value : Text) : Text :=
  key ++ "=" ++ valueText value

/-- The line of a record. -/
def text (r : Record) : Text :=
  Text.joinWith [Text.space]
      (attributeText "level" r.level.text :: attributeText "msg" r.message
        :: r.attributes.map fun (key, value) => attributeText key value)
    ++ [Text.lf]

end Record

end NodeAsm
