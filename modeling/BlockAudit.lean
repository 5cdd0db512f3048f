import BlockAudit.Block.Attribute
import BlockAudit.Block.Basic
import BlockAudit.Calendar
import BlockAudit.Checks.Check
import BlockAudit.Checks.Decode
import BlockAudit.Checks.Error
import BlockAudit.Checks.Files
import BlockAudit.Checks.Read
import BlockAudit.Checks.Registry
import BlockAudit.CommandLine.Options
import BlockAudit.CommandLine.Parse
import BlockAudit.CommandLine.Run
import BlockAudit.Config.Basic
import BlockAudit.Config.Error
import BlockAudit.Config.Files
import BlockAudit.Evaluation.Bindings
import BlockAudit.Evaluation.Comparison
import BlockAudit.Evaluation.Evaluate
import BlockAudit.Failure
import BlockAudit.Fault
import BlockAudit.FileTree.Basic
import BlockAudit.FileTree.Path
import BlockAudit.FileTree.Write
import BlockAudit.Finding
import BlockAudit.Journal
import BlockAudit.Json.Read
import BlockAudit.Json.Write
import BlockAudit.Main
import BlockAudit.MatchSpec.Action
import BlockAudit.MatchSpec.Basic
import BlockAudit.MatchSpec.Decode
import BlockAudit.MatchSpec.Encode
import BlockAudit.MatchSpec.Problems
import BlockAudit.Module.Load
import BlockAudit.Notice
import BlockAudit.Number.Binary
import BlockAudit.Number.Numeral
import BlockAudit.Number.Shortest
import BlockAudit.Pattern.Match
import BlockAudit.Pattern.Parse
import BlockAudit.Pattern.Reader
import BlockAudit.Pattern.Syntax
import BlockAudit.Pattern.Width
import BlockAudit.Pool
import BlockAudit.Proofs.Pool
import BlockAudit.Proofs.Run
import BlockAudit.Scan
import BlockAudit.ScanResult
import BlockAudit.Severity
import BlockAudit.Sorting
import BlockAudit.Template.Basic
import BlockAudit.Template.Read
import BlockAudit.Text.Blank
import BlockAudit.Text.Case
import BlockAudit.Text.CharName
import BlockAudit.Text.Digit
import BlockAudit.Text.Printable
import BlockAudit.Text.Quoted
import BlockAudit.Text.Range
import BlockAudit.Text.Search
import BlockAudit.Text.Word
import BlockAudit.Value.Basic
import BlockAudit.Value.Convert
import BlockAudit.Value.Equality
import BlockAudit.Value.Text
import BlockAudit.Yaml.Cursor
import BlockAudit.Yaml.Meaning
import BlockAudit.Yaml.Moment
import BlockAudit.Yaml.Node
import BlockAudit.Yaml.Parse
import BlockAudit.Yaml.Read
import BlockAudit.Yaml.Scalar
import BlockAudit.Yaml.Scan.Block
import BlockAudit.Yaml.Scan.Name
import BlockAudit.Yaml.Scan.Plain
import BlockAudit.Yaml.Scan.Quoted
import BlockAudit.Yaml.Scan.Tokens
import BlockAudit.Yaml.Tag
import BlockAudit.Yaml.Token
import BlockAudit.Proofs.Scan.Configuration
import BlockAudit.Proofs.Scan.Isolation
import BlockAudit.Proofs.Evaluation.Node
import BlockAudit.Proofs.Evaluation.Related
import BlockAudit.Proofs.MatchSpec.Nodes
import BlockAudit.Proofs.Evaluation.Simulation
import BlockAudit.Proofs.Evaluation.Bindings
import BlockAudit.Proofs.Evaluation.Noninterference
import BlockAudit.Proofs.Value.Parts
import BlockAudit.Proofs.Value.Strip
import BlockAudit.Proofs.Block.Bare
import BlockAudit.Proofs.Evaluation.Markers
import BlockAudit.Proofs.Template.Strip
import BlockAudit.Proofs.Value.Equality
import BlockAudit.Proofs.Scan.Markers
import BlockAudit.Proofs.Evaluation.Ensures
import BlockAudit.Proofs.Evaluation.Contract
import BlockAudit.Proofs.Evaluation.Provenance
import BlockAudit.Proofs.Evaluation.Permutation
import BlockAudit.Proofs.Block.Reading
import BlockAudit.Proofs.Evaluation.Verdict
import BlockAudit.Proofs.Template.Blocks
import BlockAudit.Proofs.Module.Declared
import BlockAudit.Proofs.Module.Calls
import BlockAudit.Proofs.Module.Reachable
import BlockAudit.Proofs.Evaluation.Companions
import BlockAudit.Proofs.Evaluation.Substitution
import BlockAudit.Proofs.Value.Lines
import BlockAudit.Proofs.Yaml.Arising
import BlockAudit.Proofs.Yaml.Completion
import BlockAudit.Proofs.Yaml.Lines
import BlockAudit.Proofs.Json.LineEnds
import BlockAudit.Proofs.Template.Json
import BlockAudit.Proofs.Checks.Decoding
import BlockAudit.Proofs.FileTree.Directory
import BlockAudit.Proofs.Checks.Registry
import BlockAudit.Proofs.Config.Reading
import BlockAudit.Proofs.CommandLine.Validation
import BlockAudit.Proofs.Yaml.Preserving
import BlockAudit.Proofs.Yaml.Stable
import BlockAudit.Proofs.Yaml.Escapes
import BlockAudit.Proofs.Yaml.Faults
import BlockAudit.Proofs.Yaml.Unreadable
import BlockAudit.Proofs.CommandLine.ExitCode
import BlockAudit.Proofs.ScanResult
import BlockAudit.Proofs.Scan.Recording
import BlockAudit.Proofs.Evaluation.Equivalence
import BlockAudit.Proofs.Evaluation.Recombination
import BlockAudit.Proofs.Evaluation.Preconditions
import BlockAudit.Proofs.Value.Lookup
import BlockAudit.Proofs.Value.Showing
import BlockAudit.Proofs.Number.Numeral
import BlockAudit.Proofs.Block.Paths
import BlockAudit.Proofs.MatchSpec.Places
import BlockAudit.Proofs.MatchSpec.Problems
import BlockAudit.Proofs.MatchSpec.Action
import BlockAudit.Proofs.MatchSpec.Decoding
import BlockAudit.Proofs.MatchSpec.Sites
import BlockAudit.Proofs.MatchSpec.Grammar
import BlockAudit.Proofs.MatchSpec.Encoding
import BlockAudit.Proofs.MatchSpec.Respelling
import BlockAudit.Proofs.Template.Sites
import BlockAudit.Proofs.Template.Spelling
import BlockAudit.Proofs.Evaluation.Leaves
import BlockAudit.Proofs.Text.Substitution
import BlockAudit.Proofs.Checks.Message
import BlockAudit.Proofs.Value.Reordering
import BlockAudit.Proofs.Block.Reordering
import BlockAudit.Proofs.Evaluation.Reordering
import BlockAudit.Proofs.Evaluation.Iteration
import BlockAudit.Proofs.Value.Literal
import BlockAudit.Proofs.Evaluation.Literals
import BlockAudit.Proofs.Ranking
import BlockAudit.Proofs.Config.Layering
import BlockAudit.Proofs.Evaluation.Tags
import BlockAudit.Proofs.Evaluation.Numbers
