import NodeAsm.Settings.Decoding

/-!
# Nodes without a type

A node of which nothing is expected becomes a scalar, a list or a map. Such
values are needed for the keys of a mapping into which others are merged. A list
or a map cannot be a key of a map.
-/

namespace NodeAsm.Settings

open Yaml (Tree Document)

/-- The value of a node of which nothing is expected. -/
inductive Value where
  | scalar (value : ScalarValue)
  | list (items : List Value)
  /-- A map. `textual` says that its keys are texts. -/
  | map (textual : Bool) (entries : List (ScalarValue × Value))
  deriving Repr

/-- The entries of a map with a key set to a value. The key takes the place of one
that is the same. -/
def setEntry (entries : List (ScalarValue × Value)) (key : ScalarValue) (value : Value) :
    List (ScalarValue × Value) :=
  entries.filter (fun (other, _) => !other.sameKey key) ++ [(key, value)]

/-- Whether a map has a key. -/
def hasKey (entries : List (ScalarValue × Value)) (key : ScalarValue) : Bool :=
  entries.any fun (other, _) => other.sameKey key

/-! ## Showing values -/

namespace ScalarValue

/-- A scalar in a message. -/
def shown : ScalarValue → Text
  | null => "interface \x7b\x7d(nil)"
  | bool b => if b then "true" else "false"
  | int n =>
      if Numeral.fits64 n then Numeral.ofInt n else "0x" ++ Numeral.hex 16 n.toNat
  | float value => value.text
  | timestamp value => value.text
  | text t => t.quote

/-- The place of the kind of a scalar among the keys of a map. -/
def rank : ScalarValue → Nat
  | null => 0
  | bool _ => 1
  | float _ => 2
  | int n => if Numeral.fits64 n then 3 else 5
  | text _ => 4
  | timestamp _ => 6

/-- Whether a scalar comes before another among the keys of a map: by its kind, then
by its value. -/
def before (v w : ScalarValue) : Bool :=
  if v.rank ≠ w.rank then v.rank < w.rank
  else
    match v, w with
    | bool a, bool b => !a && b
    | int a, int b => a < b
    | float a, float b => a.before b
    | text a, text b => a < b
    | timestamp a, timestamp b => a.before b
    | _, _ => false

end ScalarValue

/-- Texts in braces, with commas between them. -/
def braced (parts : List Text) : Text :=
  "\x7b" ++ Text.joinWith ", " parts ++ "\x7d"

/-- Entries in a message, in the order of their keys. -/
def shownEntries (entries : List (ScalarValue × Text)) : List Text :=
  (entries.mergeSort fun a b => !b.1.before a.1).map fun (key, value) =>
    key.shown ++ ":" ++ value

mutual

/-- A value in a message. -/
def Value.shown : Value → Text
  | .scalar value => value.shown
  | .list items => "[]interface \x7b\x7d" ++ braced (Value.shownItems items)
  | .map textual entries =>
      let keys : Text := if textual then "string" else "interface \x7b\x7d"
      "map[" ++ keys ++ "]interface \x7b\x7d" ++ braced (shownEntries (Value.shownValues entries))

/-- The items of a list in a message. -/
def Value.shownItems : List Value → List Text
  | [] => []
  | item :: rest => item.shown :: Value.shownItems rest

/-- The values of a map in a message, with their keys. -/
def Value.shownValues : List (ScalarValue × Value) → List (ScalarValue × Text)
  | [] => []
  | (key, value) :: rest => (key, value.shown) :: Value.shownValues rest

end

/-! ## Decoding -/

namespace Decode

/-- The scalar of a value, if it is one. -/
def scalar? : Option Value → Option ScalarValue
  | some (.scalar value) => some value
  | _ => none

/-- Whether a key is a text by its tag. -/
def isTextual (d : Document) (key : Tree) : Bool :=
  let tag := (resolve d key).tag
  tag = "!!str" || tag = "!!merge"

/-- Notes a key as given, and says whether it is new. -/
def noteKey (given : Option (List ScalarValue)) (key : ScalarValue) :
    Option (List ScalarValue) × Bool :=
  match given with
  | some keys => if keys.any key.sameKey then (given, false) else (some (key :: keys), true)
  | none => (none, true)

/-- The entries of a map with the value of a node set for a key. A node without a
value leaves them alone, unless it is null by its tag and the key is new. -/
def assignEntry (d : Document) (filled : List (ScalarValue × Value)) (key : ScalarValue)
    (node : Tree) : Option Value → List (ScalarValue × Value)
  | some value => setEntry filled key value
  | none =>
      if (resolve d node).tag = "!!null" && !hasKey filled key then
        setEntry filled key (.scalar .null)
      else filled

/-- The scalar of a value that is a key of a map. -/
def mapKey : Value → Decode ScalarValue
  | .scalar value => return value
  | other => throw ("invalid map key: " ++ other.shown)

mutual

/-- Decodes a node of which nothing is expected. The first number bounds the depth
of the recursion. -/
def untyped (d : Document) : Nat → List Nat → Tree → Decode (Option Value)
  | 0, _, _ => return none
  | fuel + 1, active, tree =>
      enter d active tree fun active node => do
        match node with
        | .scalar tag t _ => return some (.scalar (← scalarValue tag t))
        | .sequence _ items _ => return some (.list (← untypedItems d fuel active items))
        | .mapping _ entries _ =>
            let textual := entries.all fun (key, _) => isTextual d key
            let filled ← untypedMap d fuel textual active entries []
            return filled.map (Value.map textual)
        | .reference _ _ _ _ => return none

/-- Decodes the items of a list. -/
def untypedItems (d : Document) : Nat → List Nat → List Tree → Decode (List Value)
  | 0, _, _ => return []
  | _, _, [] => return []
  | fuel + 1, active, item :: rest => do
      let value ← untyped d fuel active item
      return value.toList ++ (← untypedItems d fuel active rest)

/-- Decodes a mapping into the entries of a map, unless a key stands twice. -/
def untypedMap (d : Document) :
    Nat → Bool → List Nat → List (Tree × Tree) → List (ScalarValue × Value) →
      Decode (Option (List (ScalarValue × Value)))
  | 0, _, _, _, _ => return none
  | fuel + 1, textual, active, entries, filled => do
      match repeatedKeys entries with
      | [] =>
          let given ← takeGiven
          let (given, filled) ← untypedEntries d fuel textual active entries given filled
          setGiven given
          match mergeValue? entries with
          | none => return some filled
          | some value =>
              let keyValue (key : Tree) := scalar? <$> untyped d fuel active key
              let absorb (active : List Nat) (tree : Tree)
                  (filled : List (ScalarValue × Value)) : Decode _ := do
                match tree with
                | .mapping _ entries _ =>
                    return (← untypedMap d fuel textual active entries filled).getD filled
                | _ => return filled
              return some (← merge d active keyValue absorb entries value filled)
      | messages =>
          complain messages
          return none

/-- Decodes the entries of a mapping whose keys have not been given before. Returns
the keys given so far with the entries of the map. -/
def untypedEntries (d : Document) :
    Nat → Bool → List Nat → List (Tree × Tree) → Option (List ScalarValue) →
      List (ScalarValue × Value) →
      Decode (Option (List ScalarValue) × List (ScalarValue × Value))
  | 0, _, _, _, given, filled => return (given, filled)
  | _, _, _, [], given, filled => return (given, filled)
  | fuel + 1, textual, active, (key, value) :: rest, given, filled => do
      let key ←
        if isMerge key then pure none
        else if textual then
          (fun t => t.map fun t => Value.scalar (.text t)) <$> keyText d active key
        else untyped d fuel active key
      match key with
      | none => untypedEntries d fuel textual active rest given filled
      | some key => do
          let key ← mapKey key
          match noteKey given key with
          | (given, false) => untypedEntries d fuel textual active rest given filled
          | (given, true) => do
              let filled := assignEntry d filled key value (← untyped d fuel active value)
              untypedEntries d fuel textual active rest given filled

end

end Decode

end NodeAsm.Settings
