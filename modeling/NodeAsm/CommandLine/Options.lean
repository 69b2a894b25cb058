import NodeAsm.Settings

/-!
# Command line options

Flags and operands may stand in any order until `--` ends the flags. A flag has
a long name and perhaps a letter; letters may be grouped behind one dash. A
switch takes a value only behind `=`; any other flag takes the rest of its
argument or the next argument. The last occurrence of a flag wins.
-/

namespace NodeAsm.CommandLine

/-- A flag. -/
inductive Flag where
  | config
  | format
  | help
  | lint
  | listing
  | logLevel
  | output
  | overflow
  deriving DecidableEq, Repr

namespace Flag

/-- Every flag. -/
def all : List Flag :=
  [config, format, help, lint, listing, logLevel, output, overflow]

/-- The long name of a flag. -/
def name : Flag → Text
  | config => "config"
  | format => "format"
  | help => "help"
  | lint => "lint"
  | listing => "listing"
  | logLevel => "log-level"
  | output => "output"
  | overflow => "overflow"

/-- The letter of a flag. -/
def letter? : Flag → Option UInt8
  | help => some 0x68
  | output => some 0x6F
  | _ => none

/-- Whether a flag is a switch. -/
def isSwitch : Flag → Bool
  | help => true
  | lint => true
  | listing => true
  | _ => false

/-- The flag with a long name. -/
def ofName? (t : Text) : Option Flag :=
  all.find? fun f => f.name == t

/-- The flag with a letter. -/
def ofLetter? (b : UInt8) : Option Flag :=
  all.find? fun f => f.letter? == some b

/-- A flag as messages name it. -/
def display (f : Flag) : Text :=
  match f.letter? with
  | some b => "-" ++ [b] ++ ", --" ++ f.name
  | none => "--" ++ f.name

end Flag

/-- What the flags of a command line say. -/
structure Options where
  /-- The settings file, empty for none. -/
  config : Text
  /-- The output file, empty for standard output. -/
  output : Text
  help : Bool
  /-- The settings given by flags. -/
  layer : Layer
  deriving DecidableEq, Repr

namespace Options

/-- No flags. -/
def none : Options :=
  ⟨[], [], false, Layer.empty⟩

/-- The truth value of a switch's text. -/
def truth? (t : Text) : Option Bool :=
  let yes : List Text := ["1", "t", "T", "true", "TRUE", "True"]
  let no : List Text := ["0", "f", "F", "false", "FALSE", "False"]
  if yes.contains t then some true else if no.contains t then some false else Option.none

/-- Sets a switch. -/
def setSwitch (o : Options) (f : Flag) (b : Bool) : Options :=
  match f with
  | .help => { o with help := b }
  | .lint => { o with layer := { o.layer with lint := some b } }
  | .listing => { o with layer := { o.layer with listing := some b } }
  | _ => o

/-- Sets a flag that takes any text. -/
def setText (o : Options) (f : Flag) (t : Text) : Options :=
  match f with
  | .config => { o with config := t }
  | .output => { o with output := t }
  | .format => { o with layer := { o.layer with format := some t } }
  | .overflow => { o with layer := { o.layer with overflow := some t } }
  | .logLevel => { o with layer := { o.layer with logLevel := some t } }
  | _ => o

/-- The fault of a switch whose value is no truth value. -/
def badSwitch (f : Flag) (t : Text) : Fault :=
  .plain ("invalid argument " ++ t.quote ++ " for " ++ f.display.quote
    ++ " flag: strconv.ParseBool: parsing " ++ t.quote ++ ": invalid syntax")

/-- Sets a flag to a value. -/
def assign (o : Options) (f : Flag) (t : Text) : Except Fault Options :=
  if f.isSwitch then
    match truth? t with
    | some b => .ok (o.setSwitch f b)
    | Option.none => .error (badSwitch f t)
  else .ok (o.setText f t)

/-- What an argument leaves to do. -/
inductive Pending where
  /-- The argument is complete. -/
  | complete (o : Options)
  /-- The next argument is the value of a flag. The fault says that there is
  none. -/
  | awaiting (o : Options) (f : Flag) (missing : Fault)

/-- A byte as a character between quotes. -/
def letterText (b : UInt8) : Text :=
  Text.quoteChar (Char.ofNat b.toNat)

/-- Reads a flag by its long name. `t` is what follows the two dashes. -/
def long (o : Options) (t : Text) : Except Fault Pending :=
  let bad : Bool :=
    match t with
    | [] => true
    | b :: _ => b = 0x2D || b = 0x3D
  if bad then .error (.plain ("bad flag syntax: --" ++ t))
  else
    let name := t.takeWhile (· != 0x3D)
    match Flag.ofName? name, t.dropWhile (· != 0x3D) with
    | Option.none, _ => .error (.plain ("unknown flag: --" ++ name))
    | some f, _ :: value => return .complete (← o.assign f value)
    | some f, [] =>
        if f.isSwitch then return .complete (o.setSwitch f true)
        else .ok (.awaiting o f (.plain ("flag needs an argument: --" ++ t)))

/-- The start of a group of letters that is meant for a test runner and ignored. -/
def testGroup : Text := "test."

/-- Reads a group of letters. -/
def letters (o : Options) : Text → Except Fault Pending
  | [] => .ok (.complete o)
  | b :: rest =>
      if testGroup.isPrefixOf (b :: rest) then .ok (.complete o)
      else
        match Flag.ofLetter? b with
        | Option.none =>
            .error (.plain ("unknown shorthand flag: " ++ letterText b ++ " in -" ++ (b :: rest)))
        | some f =>
            match rest with
            | 0x3D :: value :: values => do
                return .complete (← o.assign f (value :: values))
            | _ =>
                if f.isSwitch then letters (o.setSwitch f true) rest
                else if rest.isEmpty then
                  .ok (.awaiting o f
                    (.plain ("flag needs an argument: " ++ letterText b ++ " in -" ++ [b])))
                else return .complete (← o.assign f rest)

/-- Reads one argument that is a flag. -/
def flag (o : Options) (t : Text) : Except Fault Pending :=
  match t with
  | 0x2D :: 0x2D :: rest => o.long rest
  | _ => o.letters t.tail

/-- Whether an argument is a flag. A single dash is an operand. -/
def isFlag : Text → Bool
  | 0x2D :: _ :: _ => true
  | _ => false

/-- Reads arguments into options and operands. -/
def readFrom (o : Options) : List Text → Except Fault (Options × List Text)
  | [] => .ok (o, [])
  | t :: rest =>
      if t = "--" then .ok (o, rest)
      else if isFlag t then
        match o.flag t with
        | .error f => .error f
        | .ok (.complete o) => readFrom o rest
        | .ok (.awaiting o f missing) =>
            match rest with
            | [] => .error missing
            | value :: rest =>
                match o.assign f value with
                | .error f => .error f
                | .ok o => readFrom o rest
      else
        match readFrom o rest with
        | .error f => .error f
        | .ok (o, operands) => .ok (o, t :: operands)

/-- Reads the arguments of a command line. -/
def read (args : List Text) : Except Fault (Options × List Text) :=
  readFrom none args

end Options

end NodeAsm.CommandLine
