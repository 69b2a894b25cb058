import NodeAsm.Yaml.Mark

/-!
# Comments and what they belong to

A comment belongs to the token in front of it on its line, to what stands above
it, or to what follows it. It is kept until that token is looked at. Comments
decide where the block around them ends, and whether a problem behind the dash
of an entry is reported at once.
-/

namespace NodeAsm.Yaml

/-- What a comment belongs to. -/
inductive CommentRole where
  /-- What follows it. `detached` says whether an empty line lies in between. -/
  | head (detached : Bool)
  /-- The token in front of it on the same line. -/
  | line
  /-- What stands above it. -/
  | foot
  deriving DecidableEq, Repr

/-- A comment of one or more lines. -/
structure Comment where
  role : CommentRole
  /-- The comment is handed over with the first token from this index on. -/
  owner : Nat
  /-- Where the comment starts. Its column counts from one. -/
  start : Mark
  /-- The index from which the space in front of the comment was passed. -/
  entered : Nat
  /-- The index behind the comment and the space that was looked at with it. -/
  stop : Nat
  deriving DecidableEq, Repr

namespace Comment

/-- Whether a comment belongs to what follows it. -/
def isHead (c : Comment) : Bool :=
  match c.role with
  | .head _ => true
  | _ => false

/-- Whether a comment is handed over with a token at `index`. Nothing that could
own a head comment follows in a block that ends. -/
def goesWith (index : Nat) (atBlockEnd : Bool) (c : Comment) : Bool :=
  c.owner ≤ index && !(atBlockEnd && c.isHead)

/-- Where a block in the column `indent` ends, if it would end at `m` without the
given comments, the latest of which comes first: in front of the first of the
comments in its column that reach back from the index `limit` without a gap. -/
def blockEnd (indent : Int) (limit : Nat) (m : Mark) : List Comment → Mark
  | [] => m
  | c :: earlier =>
      if c.role = .line || c.stop < limit then m
      else blockEnd indent c.entered (if c.start.column = indent + 1 then c.start else m) earlier

end Comment

end NodeAsm.Yaml
