import NodeAsm.Assembler
import NodeAsm.Logging.Level
import NodeAsm.Output.Format

/-!
# Settings

The settings of the compiler come in layers: the defaults, a settings file, and
the command line. A layer says for each setting whether it gives a value, and a
later layer wins. The values are names until the settings are checked.
-/

namespace NodeAsm

/-- The settings as they are given. -/
structure Settings where
  format : Text
  overflow : Text
  lint : Bool
  listing : Bool
  logLevel : Text
  deriving DecidableEq, Repr

/-- The settings that a file or a command line gives. -/
structure Layer where
  format : Option Text
  overflow : Option Text
  lint : Option Bool
  listing : Option Bool
  logLevel : Option Text
  deriving DecidableEq, Repr

/-- The layer that gives nothing. -/
def Layer.empty : Layer :=
  ⟨none, none, none, none, none⟩

/-- What checked settings choose. -/
structure Choices where
  format : Format
  overflow : OverflowPolicy
  lint : Bool
  listing : Bool
  level : Level
  deriving DecidableEq, Repr

namespace Settings

/-- The settings without a file and a command line. -/
def default : Settings :=
  ⟨Format.hex.name, OverflowPolicy.wrap.name, false, false, "warn"⟩

/-- The settings with the values of a layer over them. -/
def overlay (s : Settings) (l : Layer) : Settings :=
  { format := l.format.getD s.format
    overflow := l.overflow.getD s.overflow
    lint := l.lint.getD s.lint
    listing := l.listing.getD s.listing
    logLevel := l.logLevel.getD s.logLevel }

/-- Checks that every name is known. The first that is not is reported. -/
def check (s : Settings) : Except Fault Choices := do
  let format ← Format.read s.format
  let overflow ← OverflowPolicy.read s.overflow
  let level ← Level.read s.logLevel
  return ⟨format, overflow, s.lint, s.listing, level⟩

end Settings

end NodeAsm
