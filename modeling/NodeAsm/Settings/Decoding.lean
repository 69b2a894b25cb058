import NodeAsm.Settings
import NodeAsm.Text.Base64
import NodeAsm.Text.Quoted
import NodeAsm.Yaml.Double
import NodeAsm.Yaml.Tree

/-!
# Decoding YAML nodes

What the decoding of every node shares: the values of scalars, the complaints
about nodes that do not fit, the limit on aliases, and the merging of mappings.
Complaints are collected, so that all of them can be shown; what makes a document
unusable as a whole is reported at once.
-/

namespace NodeAsm.Settings

open Yaml (Tree Document Meaning Double Timestamp)

/-! ## Scalars -/

/-- The value of a scalar. -/
inductive ScalarValue where
  | null
  | bool (value : Bool)
  | int (value : Int)
  | float (value : Double)
  | timestamp (value : Timestamp)
  | text (value : Text)
  deriving DecidableEq, Repr

/-- Whether two scalars are the same key of a map. -/
def ScalarValue.sameKey : ScalarValue → ScalarValue → Bool
  | float a, float b => a.equal b
  | timestamp a, timestamp b => a.equal b
  | a, b => a = b

/-- The tags whose scalars have a value by their text. -/
def readableTags : List Text :=
  ["!!str", "!!bool", "!!int", "!!float", "!!null", "!!timestamp"]

/-- The value of a text with a meaning. -/
def meaningValue (t : Text) : Meaning → ScalarValue
  | .null => .null
  | .bool b => .bool b
  | .int n => .int n
  | .float => .float (Double.ofText t)
  | .timestamp => ((Timestamp.ofText? t).map ScalarValue.timestamp).getD (.text t)
  | .str => .text t

/-- The value of a meaning under a tag that asks for another: an integer of
sixty-four signed bits counts as a floating point number. -/
def convertedValue? (tag : Text) : Meaning → Option ScalarValue
  | .int n => if tag = "!!float" && Numeral.fits64 n then some (.float (.ofInt n)) else none
  | _ => none

/-- The value of a scalar by its tag. A text that does not have the meaning its
tag asks for makes the document unusable. -/
def scalarValue (tag t : Text) : Except Text ScalarValue :=
  if tag = "!!str" then .ok (.text t)
  else if tag = "!!binary" then
    match Base64.decode? t with
    | some bytes => .ok (.text bytes)
    | none => .error "!!binary value contains invalid base64 data"
  else if !readableTags.contains tag then .ok (.text t)
  else
    let meaning := Meaning.ofText (tag = "!!timestamp") t
    let found := Tree.meaningTag meaning
    if found = tag then .ok (meaningValue t meaning)
    else
      match convertedValue? tag meaning with
      | some value => .ok value
      | none => .error ("cannot decode " ++ found ++ " \x60" ++ t ++ "\x60 as a " ++ tag)

/-- The truth value of a scalar, with the words of older documents. -/
def flagValue? : ScalarValue → Option Bool
  | .bool b => some b
  | .text t =>
      if Yaml.oldTrueWords.contains t then some true
      else if Yaml.oldFalseWords.contains t then some false
      else none
  | _ => none

/-- The text of a scalar. Bytes in base 64 count as what they stand for; every
other scalar counts as it is written. -/
def textValue (tag t : Text) (value : ScalarValue) : Text :=
  match value with
  | .text decoded => if tag = "!!binary" then decoded else t
  | _ => t

/-! ## Complaints -/

/-- A complaint about a line. -/
def complaint (line : Nat) (message : Text) : Text :=
  "line " ++ Numeral.ofNat line ++ ": " ++ message

/-- The text of a scalar inside a complaint. -/
def excerpt (t : Text) : Text :=
  if t.length > 10 then t.take 7 ++ "..." else t

/-- The complaint about a node that does not fit a type. Under the tag of a
collection the text follows as it is. -/
def mismatch (tag t : Text) (line : Nat) (type : Text) : Text :=
  let shown : Text :=
    if tag = "!!seq" || tag = "!!map" then t else " \x60" ++ excerpt t ++ "\x60"
  complaint line ("cannot unmarshal " ++ tag ++ shown ++ " into " ++ type)

/-- What tells the keys of a mapping apart: their kind and their text. -/
def keyIdentity : Tree → Nat × Text
  | .scalar _ t _ => (0, t)
  | .sequence _ _ _ => (1, [])
  | .mapping _ _ _ => (2, [])
  | .reference name _ _ _ => (3, name)

/-- Complaints about keys that stand more than once, by the first of them. -/
def repeatedKeys : List (Tree × Tree) → List Text
  | [] => []
  | (key, _) :: rest =>
      let again := rest.filter fun (other, _) => keyIdentity other = keyIdentity key
      again.map (fun (other, _) =>
          complaint other.line
            ("mapping key " ++ (keyIdentity other).2.quote ++ " already defined at line "
              ++ Numeral.ofNat key.line))
        ++ repeatedKeys rest

/-! ## The state of decoding -/

/-- The state of decoding. -/
structure Decoder where
  layer : Layer
  complaints : List Text
  /-- The number of nodes decoded. -/
  visits : Nat
  /-- The number of nodes decoded inside an alias. -/
  aliasVisits : Nat
  /-- The keys that a mapping has given before others are merged into it, if a
  merge is going on. -/
  given : Option (List ScalarValue)
  deriving Repr

/-- Nothing is decoded. -/
def Decoder.start : Decoder :=
  ⟨Layer.empty, [], 0, 0, none⟩

/-- What decodes a part of a document. A text stands for why the document is
unusable. -/
abbrev Decode := StateT Decoder (Except Text)

namespace Decode

/-- Adds complaints. -/
def complain (messages : List Text) : Decode Unit :=
  modify fun s => { s with complaints := s.complaints ++ messages }

/-- Says which keys have been given. -/
def setGiven (given : Option (List ScalarValue)) : Decode Unit :=
  modify fun s => { s with given := given }

/-- The keys that have been given, which are forgotten. -/
def takeGiven : Decode (Option (List ScalarValue)) := do
  let given := (← get).given
  setGiven none
  return given

/-! ## Aliases -/

/-- The unit in which shares of aliases are counted. -/
def shareUnit : Nat := 360000000

/-- The greatest share of nodes inside aliases among `visits` nodes: 99 of 100 up to
400000 nodes, 10 of 100 from 4000000 on, and evenly less in between. -/
def allowedShare (visits : Nat) : Nat :=
  if visits ≤ 400000 then 356400000
  else if visits ≥ 4000000 then 36000000
  else 356400000 - 89 * (visits - 400000)

/-- Whether too many of the nodes decoded so far lie inside aliases. -/
def isExcessive (visits aliasVisits : Nat) : Bool :=
  aliasVisits > 100 && visits > 1000
    && aliasVisits * shareUnit > visits * allowedShare visits

/-- Why a document with too many aliases is unusable. -/
def aliasFault : Text :=
  "document contains excessive aliasing"

/-- Counts a node. `active` lists the aliases around it. -/
def visit (active : List Nat) : Decode Unit := do
  let s ← get
  let visits := s.visits + 1
  let aliasVisits := if active.isEmpty then s.aliasVisits else s.aliasVisits + 1
  if isExcessive visits aliasVisits then throw aliasFault
  else set { s with visits := visits, aliasVisits := aliasVisits }

/-- The node that an alias stands for. Any other node stands for itself. -/
def resolve (d : Document) : Tree → Tree
  | .reference name id target line =>
      (d.anchored.lookup target).getD (.reference name id target line)
  | tree => tree

/-- Decodes a node, or the node that an alias stands for, by `decode`. -/
def enter {α : Type} (d : Document) (active : List Nat) (tree : Tree)
    (decode : List Nat → Tree → Decode α) : Decode α := do
  visit active
  match tree with
  | .reference name id _ _ =>
      if active.contains id then throw ("anchor '" ++ name ++ "' value contains itself")
      else
        visit (id :: active)
        decode (id :: active) (resolve d tree)
  | tree => decode active tree

/-! ## Texts -/

/-- Complains about a list or mapping where a value of a type should stand. The
keys of a mapping are looked at first. -/
def misfit (tree : Tree) (type : Text) : Decode Unit :=
  match tree with
  | .sequence tag _ line => complain [mismatch tag [] line type]
  | .mapping tag entries line =>
      match repeatedKeys entries with
      | [] => complain [mismatch tag [] line type]
      | messages => complain messages
  | _ => pure ()

/-- The text of a key, if it has one. -/
def keyText (d : Document) (active : List Nat) (tree : Tree) : Decode (Option Text) :=
  enter d active tree fun _ node => do
    match node with
    | .scalar tag t _ =>
        let value ← scalarValue tag t
        return if value = .null then none else some (textValue tag t value)
    | other =>
        misfit other "string"
        return none

/-! ## Merging -/

/-- Whether a key asks for a merge. -/
def isMerge : Tree → Bool
  | .scalar tag t _ => tag = "!!merge" && t = "<<"
  | _ => false

/-- What the last merge key of a mapping names. -/
def mergeValue? (entries : List (Tree × Tree)) : Option Tree :=
  ((entries.filter fun (key, _) => isMerge key).getLast?).map Prod.snd

/-- Why a document with a wrong merge is unusable. -/
def mergeFault : Text :=
  "map merge requires map or sequence of maps as the value"

/-- Takes the entries of one mapping, which may be named by an alias, into what
has been taken. -/
def mergeOne {α : Type} (d : Document) (active : List Nat)
    (absorb : List Nat → Tree → α → Decode α) (taken : α) (tree : Tree) : Decode α :=
  match resolve d tree with
  | .mapping _ _ _ => enter d active tree fun active node => absorb active node taken
  | _ => throw mergeFault

/-- Notes the keys of a mapping as given. -/
def noteKeys (keyValue : Tree → Decode (Option ScalarValue)) : List (Tree × Tree) → Decode Unit
  | [] => return
  | (key, _) :: rest => do
      match ← keyValue key with
      | some value => modify fun s => { s with given := s.given.map (value :: ·) }
      | none => pure ()
      noteKeys keyValue rest

/-- Takes the entries of the mappings that the merge key of a mapping names, the
first first, into what has been taken. The keys of the mapping are decoded by
`keyValue` unless it is being merged itself; the entries are decoded by
`absorb`. -/
def merge {α : Type} (d : Document) (active : List Nat)
    (keyValue : Tree → Decode (Option ScalarValue)) (absorb : List Nat → Tree → α → Decode α)
    (entries : List (Tree × Tree)) (value : Tree) (taken : α) : Decode α := do
  let outermost := (← get).given.isNone
  if outermost then
    setGiven (some [])
    noteKeys keyValue entries
  let taken ←
    match value with
    | .sequence _ items _ => items.foldlM (mergeOne d active absorb) taken
    | tree => mergeOne d active absorb taken tree
  if outermost then setGiven none
  return taken

end Decode

end NodeAsm.Settings
