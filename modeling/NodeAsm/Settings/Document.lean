import NodeAsm.Settings.Untyped

/-!
# Settings in a YAML document

A settings document is a mapping with at most the five known keys. Null leaves a
setting alone. A merge key takes the entries of further mappings for the keys
that are not given.
-/

namespace NodeAsm.Settings

open Yaml (Tree Document)

/-- A setting. -/
inductive Field where
  | format
  | overflow
  | lint
  | listing
  | logLevel
  deriving DecidableEq, Repr

namespace Field

/-- The key of a setting in a document. -/
def key : Field → Text
  | format => "format"
  | overflow => "overflow"
  | lint => "lint"
  | listing => "listing"
  | logLevel => "log_level"

/-- The setting with a key. -/
def ofKey? (t : Text) : Option Field :=
  [format, overflow, lint, listing, logLevel].find? fun f => f.key == t

/-- The name that complaints give to the type of a setting. -/
def typeName : Field → Text
  | format => "encoding.Format"
  | overflow => "core.OverflowPolicy"
  | lint => "bool"
  | listing => "bool"
  | logLevel => "string"

/-- Whether the values of a setting are truth values. -/
def isFlag : Field → Bool
  | lint => true
  | listing => true
  | _ => false

end Field

/-- The name that complaints give to the type of a whole document. -/
def documentType : Text := "config.Config"

namespace Decode

/-! ## Fields -/

/-- Gives a setting a text. -/
def setText (f : Field) (t : Text) : Decode Unit :=
  modify fun s =>
    { s with
      layer :=
        match f with
        | .format => { s.layer with format := some t }
        | .overflow => { s.layer with overflow := some t }
        | .logLevel => { s.layer with logLevel := some t }
        | _ => s.layer }

/-- Gives a setting a truth value. -/
def setFlag (f : Field) (b : Bool) : Decode Unit :=
  modify fun s =>
    { s with
      layer :=
        match f with
        | .lint => { s.layer with lint := some b }
        | .listing => { s.layer with listing := some b }
        | _ => s.layer }

/-- Gives a setting the value of a node. -/
def assign (d : Document) (active : List Nat) (f : Field) (tree : Tree) : Decode Unit :=
  enter d active tree fun _ node => do
    match node with
    | .scalar tag t line =>
        let value ← scalarValue tag t
        if value = .null then return
        else if f.isFlag then
          match flagValue? value with
          | some b => setFlag f b
          | none => complain [mismatch tag t line f.typeName]
        else setText f (textValue tag t value)
    | other => misfit other f.typeName

/-- Gives the setting with a key the value of a node. `done` lists the settings
that the mapping has given so far; returns them with this one. -/
def field (d : Document) (active : List Nat) (done : List Field) (name : Text) (key value : Tree) :
    Decode (List Field) := do
  match Field.ofKey? name with
  | some f =>
      if done.contains f then
        complain [complaint key.line
          ("field " ++ name ++ " already set in type " ++ documentType)]
        return done
      else
        assign d active f value
        return f :: done
  | none =>
      complain [complaint key.line ("field " ++ name ++ " not found in type " ++ documentType)]
      return done

/-- Decodes the entries of a mapping. `given` lists the keys that an outer mapping
or an earlier merge has given, if this mapping is merged into another. Returns
the keys given so far. -/
def fields (d : Document) (active : List Nat) :
    Option (List ScalarValue) → List Field → List (Tree × Tree) →
      Decode (Option (List ScalarValue))
  | given, _, [] => return given
  | given, done, (key, value) :: rest => do
      if isMerge key then fields d active given done rest
      else
        match ← keyText d active key with
        | none => fields d active given done rest
        | some name =>
            match noteKey given (.text name) with
            | (given, false) => fields d active given done rest
            | (given, true) =>
                let done ← field d active done name key value
                fields d active given done rest

/-! ## Mappings -/

/-- Decodes a mapping. The first number bounds the number of mappings that are
merged into one another. -/
def mapping (d : Document) : Nat → List Nat → Tree → Decode Unit
  | fuel + 1, active, .mapping _ entries _ => do
      match repeatedKeys entries with
      | [] =>
          let given ← takeGiven
          let given ← fields d active given [] entries
          setGiven given
          match mergeValue? entries with
          | none => return
          | some value =>
              let keyValue (key : Tree) := scalar? <$> untyped d fuel active key
              let absorb (active : List Nat) (tree : Tree) (_ : Unit) := mapping d fuel active tree
              merge d active keyValue absorb entries value ()
      | messages => complain messages
  | _, _, _ => return

/-- Decodes the root of a document. -/
def root (d : Document) (fuel : Nat) : Decode Unit := do
  visit []
  enter d [] d.root fun active node => do
    match node with
    | .scalar tag t line =>
        let value ← scalarValue tag t
        if value = .null then return
        else complain [mismatch tag t line documentType]
    | .mapping _ _ _ => mapping d fuel active node
    | other => misfit other documentType

end Decode

/-! ## Documents -/

/-- The settings that a document gives. -/
def ofDocument (d : Document) (fuel : Nat) : Except Text Layer :=
  match (Decode.root d fuel).run Decoder.start with
  | .error message => .error message
  | .ok (_, s) =>
      if s.complaints.isEmpty then .ok s.layer
      else .error ("unmarshal errors:\n  " ++ Text.joinWith "\n  " s.complaints)

/-- The settings that a YAML text gives. An empty text gives none. -/
def layerOf (data : Text) : Except Fault Layer :=
  let unusable (message : Text) : Fault :=
    .noted "decode" (.noted "yaml" (.plain message))
  match Document.read data with
  | .error problem => .error (unusable problem.text)
  | .ok none => .ok Layer.empty
  | .ok (some d) =>
      match ofDocument d ((data.length + 4) * (data.length + 4)) with
      | .error message => .error (unusable message)
      | .ok layer => .ok layer

/-- Reads settings over the defaults and checks them. -/
def read (data : Text) : Except Fault Settings := do
  let layer ← layerOf data
  let settings := Settings.default.overlay layer
  let _ ← settings.check
  return settings

end NodeAsm.Settings
