import NodeAsm.CommandLine.Command

/-!
# The executable

Reads files, carries out what the command line asks for, and writes what comes
of it. Every decision is made by the functions that work on texts.
-/

namespace NodeAsm.CommandLine

/-- The reason that the system gives for a failed operation. -/
def systemReason : IO.Error → String
  | .noFileOrDirectory _ _ details => details
  | .permissionDenied _ _ details => details
  | .inappropriateType _ _ details => details
  | .invalidArgument _ _ details => details
  | .resourceExhausted _ _ details => details
  | e => e.toString

/-- The fault of a failed operation on a path. Reasons start in lower case. -/
def systemFault (operation path : Text) (e : IO.Error) : Fault :=
  .noted (operation ++ " " ++ path) (.plain (Text.ofString (systemReason e).decapitalize))

/-- The name of a file as the system takes it. -/
def systemName (path : Text) : String :=
  (String.fromUTF8? (ByteArray.mk path.toArray)).getD ""

/-- Opens a file. -/
def openFile (path : Text) (mode : IO.FS.Mode) : IO (Except Fault IO.FS.Handle) := do
  try
    return .ok (← IO.FS.Handle.mk (systemName path) mode)
  catch e =>
    return .error (systemFault "open" path e)

/-- Reads an opened file to its end. -/
def readAll (path : Text) (handle : IO.FS.Handle) : IO (Except Fault Text) := do
  try
    return .ok (← handle.readBinToEnd).data.toList
  catch e =>
    return .error (systemFault "read" path e)

/-- Reads a whole file. -/
def readFile (path : Text) : IO (Except Fault Text) := do
  match ← openFile path .read with
  | .error f => return .error f
  | .ok handle => readAll path handle

/-- Writes a text to a stream. -/
def writeText (stream : IO.FS.Stream) (t : Text) : IO Unit := do
  stream.write (ByteArray.mk t.toArray)
  stream.flush

/-- Shows a fault and gives the exit status. -/
def failWith (f : Fault) : IO UInt32 := do
  writeText (← IO.getStderr) (faultText f)
  return 1

/-- Compiles an opened source to an opened output. -/
def compileHandles (c : Choices) (source : Text) (input : IO.FS.Handle) (output : IO.FS.Stream) :
    IO UInt32 := do
  let source : Source :=
    match ← readAll source input with
    | .ok content => ⟨content, none⟩
    | .error f => ⟨[], some f.message⟩
  let outcome := compileTo c .healthy source
  writeText output outcome.output.sink.stored
  writeText (← IO.getStderr) (runText c.level outcome)
  match runFault outcome with
  | none => return 0
  | some f => failWith f

/-- Compiles the source that the options name. -/
def compileNamed (options : Options) (source : Text) (c : Choices) : IO UInt32 := do
  match ← openFile source .read with
  | .error f => failWith (.noted "failed to open file for compiling" f)
  | .ok input =>
      if options.output.isEmpty then compileHandles c source input (← IO.getStdout)
      else
        match ← openFile options.output .write with
        | .error f => failWith (.noted "create output" f)
        | .ok output => compileHandles c source input (.ofHandle output)

/-- Carries out a command line. -/
def perform (args : List Text) : IO UInt32 := do
  match Request.read args with
  | .error f =>
      writeText (← IO.getStderr) (mistakeText f)
      return 1
  | .ok .help =>
      writeText (← IO.getStderr) help
      return 0
  | .ok (.compile options source) =>
      let data ← if options.config.isEmpty then pure (.ok []) else readFile options.config
      match choices options fun _ => data with
      | .error f => failWith f
      | .ok c => compileNamed options source c

end NodeAsm.CommandLine

def main (args : List String) : IO UInt32 :=
  NodeAsm.CommandLine.perform (args.map NodeAsm.Text.ofString)
