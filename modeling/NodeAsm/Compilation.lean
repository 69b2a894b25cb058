import NodeAsm.Diagnostics.Lint
import NodeAsm.Diagnostics.Report
import NodeAsm.Output.Format
import NodeAsm.Transcript

/-!
# Compilations

A compilation reads a source line by line, hands every program to an emitter as
soon as it is complete, and collects the issues. Faults in the source never stop
it. It stops early when the source cannot be read further, when the run is
cancelled, or when the emitter fails; the programs emitted so far are flushed
then.
-/

namespace NodeAsm

/-- A source of lines. -/
structure Source where
  text : Text
  /-- The message that takes the place of the end, if the source cannot be read
  to its end. -/
  readError : Option Text
  deriving DecidableEq, Repr

namespace Source

/-- The complete lines of a text, each with its line feed, and what follows the
last of them. -/
def splitLines : Text → List Text × Text
  | [] => ([], [])
  | b :: rest =>
      let (lines, tail) := splitLines rest
      if b = Text.lf then ([b] :: lines, tail)
      else
        match lines with
        | [] => ([], b :: tail)
        | line :: lines => ((b :: line) :: lines, tail)

/-- Splitting loses nothing. -/
theorem flatten_splitLines (t : Text) : (splitLines t).1.flatten ++ (splitLines t).2 = t := by
  induction t with
  | nil => rfl
  | cons b rest inductionHypothesis =>
      rcases parts : splitLines rest with ⟨lines, tail⟩
      rw [parts] at inductionHypothesis
      simp only [splitLines, parts]
      split
      · simpa using inductionHypothesis
      · cases lines with
        | nil => simpa using inductionHypothesis
        | cons line lines => simpa using inductionHypothesis

/-- How reading stops. -/
inductive Stop where
  /-- The source was read to its end. -/
  | ended
  /-- The source could not be read further. -/
  | unreadable (message : Text)
  /-- The run was cancelled. -/
  | cancelled
  deriving DecidableEq, Repr

/-- The fault that a stop stands for. -/
def Stop.fault? : Stop → Option Fault
  | ended => none
  | unreadable message => some (.noted "read source" (.plain message))
  | cancelled => some (.cause .cancelled)

/-- The lines read until reading stops. A cancellation is seen before each line
read, and text behind the last line feed is read together with the end. -/
def read (source : Source) (cancelAfter : Option Nat) : List Text × Stop :=
  let (lines, tail) := splitLines source.text
  let whole :=
    (lines ++ (if tail.isEmpty then [] else [tail]),
      match source.readError with
      | none => Stop.ended
      | some message => Stop.unreadable message)
  match cancelAfter with
  | none => whole
  | some n => if n ≤ lines.length then (lines.take n, .cancelled) else whole

end Source

/-- The choices of a compilation. -/
structure Compilation where
  overflow : OverflowPolicy
  lint : Bool
  listing : Bool
  deriving DecidableEq, Repr

namespace Compilation

/-- The assembler of a compilation. -/
def assembler (c : Compilation) : Assembler :=
  .build (some .node) c.overflow

/-- The calls of the assembler for the lines read. Only a source that was read
to its end completes its last node. -/
def calls (lines : List Text) : Source.Stop → List Assembler.Call
  | .ended => Assembler.callsOf lines
  | _ => lines.map .feed

/-- Emits programs up to the first failure. -/
def emitAll {σ : Type} (e : Emitter σ) (output : σ) : List Program → σ × Option Fault
  | [] => (output, none)
  | p :: ps =>
      match e.emit output p with
      | (output, none) => emitAll e output ps
      | (output, some f) => (output, some (.noted ("emit node " ++ Numeral.ofInt p.node) f))

/-- How far the steps of an assembler were carried out. -/
structure Emission (σ : Type) where
  output : σ
  /-- The steps carried out. -/
  steps : List Assembler.Step
  /-- Why the last of them failed to emit. -/
  fault : Option Fault

/-- Carries out steps up to the first that fails to emit a program. -/
def emitSteps {σ : Type} (e : Emitter σ) (output : σ) : List Assembler.Step → Emission σ
  | [] => ⟨output, [], none⟩
  | step :: rest =>
      match emitAll e output (Assembler.programs step.events) with
      | (output, some f) => ⟨output, [step], some f⟩
      | (output, none) =>
          let emission := emitSteps e output rest
          { emission with steps := step :: emission.steps }

/-- What a compilation leaves. -/
structure Outcome (σ : Type) where
  programs : List Program
  log : IssueLog
  output : σ
  transcript : List Shown
  /-- Why the source could not be read or the output not be written. -/
  fault : Option Fault

/-- Ends a compilation that was stopped by `f`. A failure to flush is only
recorded. -/
def abort {σ : Type} (e : Emitter σ) (outcome : Outcome σ) (f : Fault) : Outcome σ :=
  let (output, flushFault) := e.flush outcome.output
  { outcome with
    output := output
    transcript := outcome.transcript
      ++ (if flushFault.isSome then [.record Transcript.flushFailed] else [])
    fault := some f }

/-- Ends a compilation that was not stopped. -/
def complete {σ : Type} (c : Compilation) (e : Emitter σ) (outcome : Outcome σ) : Outcome σ :=
  let log := if c.lint then outcome.log.add (Lint.issues outcome.programs) else outcome.log
  let (output, flushFault) := e.flush outcome.output
  { outcome with
    log := log
    output := output
    transcript := outcome.transcript
      ++ [.record (Transcript.compileDone outcome.programs.length log.errors.length
            log.warnings.length)]
    fault := flushFault.map (.noted "flush output") }

/-- Compiles a source. `cancelAfter` is the number of lines after which the run
is cancelled, if it is. -/
def run {σ : Type} (c : Compilation) (e : Emitter σ) (output : σ) (source : Source)
    (cancelAfter : Option Nat) : Outcome σ :=
  let (lines, stop) := source.read cancelAfter
  let emission := emitSteps e output (c.assembler.steps .start (calls lines stop))
  let events := emission.steps.flatMap Assembler.Step.events
  let outcome : Outcome σ :=
    { programs := Assembler.programs events
      log := ⟨(Assembler.faults events).map Issue.ofFault⟩
      output := emission.output
      transcript := emission.steps.flatMap (Transcript.stepShown c.listing)
      fault := none }
  match emission.fault.or stop.fault? with
  | some f => abort e outcome f
  | none => complete c e outcome

end Compilation

end NodeAsm
