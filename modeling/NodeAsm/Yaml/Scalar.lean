import NodeAsm.Yaml.Numeric
import NodeAsm.Yaml.Timestamp

/-!
# The meaning of plain scalars

A scalar without quotes and tag denotes null, a truth value, a number, a
timestamp, or else the text itself. The first byte tells which of these are
worth trying.
-/

namespace NodeAsm.Yaml

/-- What a plain scalar denotes. -/
inductive Meaning where
  | null
  | bool (value : Bool)
  /-- An integer of sixty-four bits, signed or not. -/
  | int (value : Int)
  | float
  | timestamp
  | str
  deriving DecidableEq, Repr

namespace Meaning

/-- The words for null, apart from the empty text. -/
def nullWords : List Text := ["~", "null", "Null", "NULL"]

/-- The words for true. -/
def trueWords : List Text := ["true", "True", "TRUE"]

/-- The words for false. -/
def falseWords : List Text := ["false", "False", "FALSE"]

/-- The words for infinities and for what is no number. -/
def floatWords : List Text :=
  [".nan", ".NaN", ".NAN", ".inf", ".Inf", ".INF", "+.inf", "+.Inf", "+.INF", "-.inf", "-.Inf",
   "-.INF"]

/-- The meaning of a text that starts with a digit or a sign. -/
def ofNumeric (dates : Bool) (t : Text) : Meaning :=
  let plain := t.filter (· != 0x5F)
  if dates && (Timestamp.ofText? t).isSome then timestamp
  else
    match prefixedInteger? plain, basedInteger? plain with
    | some n, _ => int n
    | none, based =>
        if isFloat plain then float
        else
          match based with
          | some n => int n
          | none => str

/-- The meaning of a text. Whether it may be a timestamp depends on its tag. -/
def ofText (dates : Bool) (t : Text) : Meaning :=
  match t with
  | [] => null
  | b :: _ =>
      if nullWords.contains t then null
      else if trueWords.contains t then bool true
      else if falseWords.contains t then bool false
      else if floatWords.contains t then float
      else if Numeral.isDigit b || b = 0x2B || b = 0x2D then ofNumeric dates t
      else if b = 0x2E then (if isPointFloat t then float else str)
      else str

/-- The meaning of a plain scalar. -/
def of (t : Text) : Meaning :=
  ofText true t

end Meaning

/-- The further words for true that older readers accept. -/
def oldTrueWords : List Text := ["y", "Y", "yes", "Yes", "YES", "on", "On", "ON"]

/-- The further words for false that older readers accept. -/
def oldFalseWords : List Text := ["n", "N", "no", "No", "NO", "off", "Off", "OFF"]

/-- Whether every reader takes a plain text for the text itself. -/
def readsAsText (t : Text) : Bool :=
  Meaning.of t = .str && !isSexagesimal t && !oldTrueWords.contains t
    && !oldFalseWords.contains t

end NodeAsm.Yaml
