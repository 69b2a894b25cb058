import NodeAsm.Text.Basic

/-!
# Usage

The texts that the command shows about itself.
-/

namespace NodeAsm.CommandLine

/-- What the command does. -/
def description : Text :=
  "Tiscc compiles a source file holding one program per node into\n"
    ++ "16-bit instruction words. A line \"@N\" starts node N; every node gets\n"
    ++ "exactly 16 words, unused slots jump to slot 0.\n"
    ++ "\n"
    ++ "All diagnostics are printed before tiscc exits. The exit status is 1 if\n"
    ++ "any compile error was found.\n"

/-- How the command is called. -/
def usage : Text :=
  "Usage:\n"
    ++ "  tiscc [flags] SOURCE\n"
    ++ "\n"
    ++ "Flags:\n"
    ++ "      --config string      YAML configuration file\n"
    ++ "      --format string      output format: hex, yaml or prog\n"
    ++ "  -h, --help               help for tiscc\n"
    ++ "      --lint               report lint warnings\n"
    ++ "      --listing            print a listing of every node to stderr\n"
    ++ "      --log-level string   trace, debug, info, warn or error\n"
    ++ "  -o, --output string      output file (default stdout)\n"
    ++ "      --overflow string    code past slot 15: wrap or discard\n"

/-- The help text. -/
def help : Text :=
  description ++ [Text.lf] ++ usage

end NodeAsm.CommandLine
