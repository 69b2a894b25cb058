import NodeAsm.Assembler
import NodeAsm.CommandLine.Command
import NodeAsm.CommandLine.FileTree
import NodeAsm.CommandLine.Options
import NodeAsm.CommandLine.Usage
import NodeAsm.Compilation
import NodeAsm.Diagnostics.Issue
import NodeAsm.Diagnostics.Lint
import NodeAsm.Diagnostics.Report
import NodeAsm.Fault
import NodeAsm.Listing
import NodeAsm.Logging.Level
import NodeAsm.Logging.Record
import NodeAsm.Machine.Disassembly
import NodeAsm.Machine.InstructionSet
import NodeAsm.Machine.Operand
import NodeAsm.Machine.Register
import NodeAsm.Machine.Word
import NodeAsm.Main
import NodeAsm.Node
import NodeAsm.Output.Buffer
import NodeAsm.Output.Format
import NodeAsm.Output.NodeDocument
import NodeAsm.Output.Sink
import NodeAsm.Program
import NodeAsm.Proofs.Assembler.Causes
import NodeAsm.Proofs.Assembler.Delivery
import NodeAsm.Proofs.Assembler.Discarding
import NodeAsm.Proofs.Assembler.Fitting
import NodeAsm.Proofs.Assembler.Independence
import NodeAsm.Proofs.Assembler.Invariant
import NodeAsm.Proofs.Assembler.Labels
import NodeAsm.Proofs.Assembler.Language
import NodeAsm.Proofs.Assembler.Layout
import NodeAsm.Proofs.Assembler.Recompilation
import NodeAsm.Proofs.Assembler.Run
import NodeAsm.Proofs.Assembler.Section
import NodeAsm.Proofs.Assembler.Wrapping
import NodeAsm.Proofs.CommandLine.Layering
import NodeAsm.Proofs.CommandLine.Product
import NodeAsm.Proofs.Compilation.Protocol
import NodeAsm.Proofs.Compilation.Writing
import NodeAsm.Proofs.Diagnostics.Locating
import NodeAsm.Proofs.Diagnostics.Reporting
import NodeAsm.Proofs.Diagnostics.Shadowing
import NodeAsm.Proofs.Diagnostics.Warnings
import NodeAsm.Proofs.Diagnostics.Wording
import NodeAsm.Proofs.Machine.ClassBits
import NodeAsm.Proofs.Machine.DataWords
import NodeAsm.Proofs.Machine.Encoding
import NodeAsm.Proofs.Machine.NormalForm
import NodeAsm.Proofs.Machine.Registry
import NodeAsm.Proofs.Machine.RoundTrip
import NodeAsm.Proofs.Machine.SourceOperand
import NodeAsm.Proofs.Machine.Target
import NodeAsm.Proofs.Node.Resolution
import NodeAsm.Proofs.Output.Reading
import NodeAsm.Proofs.Output.Truncation
import NodeAsm.Proofs.Source.Index
import NodeAsm.Proofs.Source.Lines
import NodeAsm.Proofs.Source.Words
import NodeAsm.Proofs.Text.Numeral
import NodeAsm.Proofs.Text.OneLine
import NodeAsm.Settings
import NodeAsm.Settings.Decoding
import NodeAsm.Settings.Document
import NodeAsm.Settings.Untyped
import NodeAsm.Source.Directive
import NodeAsm.Source.Statement
import NodeAsm.Table
import NodeAsm.Text.Base64
import NodeAsm.Text.Basic
import NodeAsm.Text.NaturalOrder
import NodeAsm.Text.Numeral
import NodeAsm.Text.Quoted
import NodeAsm.Text.Utf8
import NodeAsm.Transcript
import NodeAsm.Unicode.Basic
import NodeAsm.Unicode.Letter
import NodeAsm.Unicode.Printable
import NodeAsm.Yaml.Characters
import NodeAsm.Yaml.Comment
import NodeAsm.Yaml.CommentReading
import NodeAsm.Yaml.Cursor
import NodeAsm.Yaml.Double
import NodeAsm.Yaml.Lexer
import NodeAsm.Yaml.Mark
import NodeAsm.Yaml.Numeric
import NodeAsm.Yaml.Presentation
import NodeAsm.Yaml.Scalar
import NodeAsm.Yaml.ScalarToken
import NodeAsm.Yaml.Timestamp
import NodeAsm.Yaml.Token
import NodeAsm.Yaml.Tree
