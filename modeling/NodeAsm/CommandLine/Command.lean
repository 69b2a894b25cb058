import NodeAsm.CommandLine.FileTree
import NodeAsm.CommandLine.Options
import NodeAsm.CommandLine.Usage
import NodeAsm.Compilation
import NodeAsm.Settings.Document

/-!
# The command

The command compiles one source file. Its standard output carries compiled
nodes only; log records, listings, the report and error messages go to standard
error in the order in which they arise. A mistake on the command line shows the
usage as well.
-/

namespace NodeAsm.CommandLine

/-! ## What is asked for -/

/-- What a command line asks for. -/
inductive Request where
  | help
  | compile (options : Options) (source : Text)
  deriving DecidableEq, Repr

/-- Reads a command line. A fault of a flag wins over a request for help, and
that over the number of operands. -/
def Request.read (args : List Text) : Except Fault Request := do
  let (options, operands) ← Options.read args
  if options.help then return .help
  else
    match operands with
    | [source] => return .compile options source
    | _ =>
        .error (.plain ("accepts 1 arg(s), received " ++ Numeral.ofNat operands.length))

/-- The settings of a file that was read. -/
def fileSettings (path : Text) (data : Except Fault Text) : Except Fault Settings :=
  match data with
  | .error f => .error (.noted "read config" f)
  | .ok data =>
      match Settings.read data with
      | .error f => .error (.noted ("config " ++ path) f)
      | .ok settings => .ok settings

/-- The settings below the flags: those of the settings file, if one is named, and
else the defaults. -/
def baseSettings (options : Options) (readFile : Text → Except Fault Text) :
    Except Fault Settings :=
  if options.config.isEmpty then .ok Settings.default
  else fileSettings options.config (readFile options.config)

/-- The settings of a run: flags over the settings file over the defaults. The
file has to be valid by itself. -/
def settings (options : Options) (readFile : Text → Except Fault Text) :
    Except Fault Settings := do
  let base ← baseSettings options readFile
  return base.overlay options.layer

/-- The choices of a run. -/
def choices (options : Options) (readFile : Text → Except Fault Text) : Except Fault Choices := do
  (← settings options readFile).check

/-- The compilation that choices ask for. -/
def compilation (c : Choices) : Compilation :=
  ⟨c.overflow, c.lint, c.listing⟩

/-! ## What is answered -/

/-- The fault of a run whose output is closed at the end. An earlier fault wins. -/
def afterClose (closing prior : Option Fault) : Option Fault :=
  prior.or (closing.map (.noted "close output"))

/-- Why a run that wrote its output fails, if it does. -/
def runFault {σ : Type} (outcome : Compilation.Outcome σ) : Option Fault :=
  outcome.fault.or (if outcome.log.failed then some (.cause .compileFailed) else none)

/-- What a run shows on standard error before its fault. -/
def runText {σ : Type} (level : Level) (outcome : Compilation.Outcome σ) : Text :=
  Transcript.text level outcome.transcript ++ outcome.log.report

/-- The message of a fault. The report of a failed compilation says enough. -/
def faultText (f : Fault) : Text :=
  if f.has .compileFailed then [] else "Error: " ++ f.message ++ "\n"

/-- What a mistake on the command line shows. -/
def mistakeText (f : Fault) : Text :=
  usage ++ "\n" ++ faultText f

/-! ## Running on a file tree -/

/-- How the output of a run takes what is written to it. -/
structure Outlet where
  /-- The number of bytes that it has room for, if that is limited. -/
  room : Option Nat
  /-- Why it cannot be closed, if so. -/
  closing : Option Fault
  deriving Repr

/-- An output that takes everything. -/
def Outlet.healthy : Outlet :=
  ⟨none, none⟩

/-- What a command leaves. -/
structure Result where
  exit : Nat
  stdout : Text
  stderr : Text
  files : FileTree
  deriving DecidableEq, Repr

/-- The result of a run that ended with a fault or without. -/
def Result.ofRun (stdout stderr : Text) (files : FileTree) (f : Option Fault) : Result :=
  match f with
  | none => ⟨0, stdout, stderr, files⟩
  | some f => ⟨1, stdout, stderr ++ faultText f, files⟩

/-- The result of a run that failed before anything was compiled. -/
def Result.ofFault (files : FileTree) (f : Fault) : Result :=
  .ofRun [] [] files (some f)

/-- The source that an opened path gives. -/
def sourceOf (text : Text) (found : FileTree.Found) : Source :=
  match FileTree.content text found with
  | .ok content => ⟨content, none⟩
  | .error f => ⟨[], some f.message⟩

/-- Compiles a source to an output that is empty at first. -/
def compileTo (c : Choices) (outlet : Outlet) (source : Source) : Compilation.Outcome Output :=
  (compilation c).run c.format.emitter (Output.toSink ⟨outlet.room, []⟩) source none

/-- Compiles a source to standard output, which stays open, or to a file. The output
file is made empty before the source is read, so a source that is its own output is
empty. -/
def compileFile (options : Options) (source : Text) (c : Choices) (files : FileTree)
    (outlet : Outlet) : Result :=
  match files.openRead source with
  | .error f => .ofFault files (.noted "failed to open file for compiling" f)
  | .ok (path, found) =>
      if options.output.isEmpty then
        let outcome := compileTo c outlet (sourceOf source found)
        .ofRun outcome.output.sink.stored (runText c.level outcome) files (runFault outcome)
      else
        match files.create options.output with
        | .error f => .ofFault files (.noted "create output" f)
        | .ok (target, created) =>
            let found := if path = target then created.find path else found
            let outcome := compileTo c outlet (sourceOf source found)
            .ofRun [] (runText c.level outcome) (created.put target outcome.output.sink.stored)
              (afterClose outlet.closing (runFault outcome))

/-- Runs a command line on a file tree. Its output, if it comes to that, goes to an
outlet. -/
def execute (args : List Text) (files : FileTree) (outlet : Outlet) : Result :=
  match Request.read args with
  | .error f => ⟨1, [], mistakeText f, files⟩
  | .ok .help => ⟨0, [], help, files⟩
  | .ok (.compile options source) =>
      match choices options files.read with
      | .error f => .ofFault files f
      | .ok c => compileFile options source c files outlet

end NodeAsm.CommandLine
