import SasMigration.Text.Basic
import SasMigration.Text.Blank
import SasMigration.Text.Alphabet
import SasMigration.Text.Letter
import SasMigration.Text.Quoted
import SasMigration.Text.Identifier
import SasMigration.Text.CharacterName.Ancient
import SasMigration.Text.CharacterName.Brahmic
import SasMigration.Text.CharacterName.Cuneiform
import SasMigration.Text.CharacterName.EastAsian
import SasMigration.Text.CharacterName.European
import SasMigration.Text.CharacterName.Further
import SasMigration.Text.CharacterName.Indic
import SasMigration.Text.CharacterName.Insular
import SasMigration.Text.CharacterName.Musical
import SasMigration.Text.CharacterName.Phonetic
import SasMigration.Text.CharacterName.Pictograph
import SasMigration.Text.CharacterName.Presentation
import SasMigration.Text.CharacterName.Semitic
import SasMigration.Text.CharacterName.Shorthand
import SasMigration.Text.CharacterName.Syllabic
import SasMigration.Text.CharacterName.Symbol
import SasMigration.Text.CharacterName
import SasMigration.Pattern.Basic
import SasMigration.Pattern.Matching
import SasMigration.Pattern.Fault
import SasMigration.Pattern.Reader
import SasMigration.Number.Binary
import SasMigration.Value.Basic
import SasMigration.Value.Display
import SasMigration.Value.Writer
import SasMigration.Value.Reader
import SasMigration.Number.Numeral
import SasMigration.Fault
import SasMigration.Value.Program
import SasMigration.Value.Document
import SasMigration.Value.Pieces
import SasMigration.Program.Macro
import SasMigration.Program.Chunk
import SasMigration.Program.Complexity
import SasMigration.Program.Reference
import SasMigration.Program.DataSet
import SasMigration.Model.Settings
import SasMigration.Model.Prompt
import SasMigration.Model.Consultation
import SasMigration.Model.Chat
import SasMigration.Analysis.Dependencies
import SasMigration.Analysis.Sources
import SasMigration.Database.Library
import SasMigration.Database.Usage
import SasMigration.Database.Analysis
import SasMigration.Files.Utf8
import SasMigration.Files.Path
import SasMigration.Files.Tree
import SasMigration.Conversion.Imports
import SasMigration.Conversion.Requirements
import SasMigration.Conversion.Notes
import SasMigration.Conversion.Connections
import SasMigration.Conversion.Instruction
import SasMigration.Conversion.Completion
import SasMigration.Conversion.Convert
import SasMigration.Conversion.Output
import SasMigration.Files.Glob
import SasMigration.Analysis.Report
import SasMigration.Tasks.Request
import SasMigration.Tasks.Service
import SasMigration.Runner.Packages
import SasMigration.Runner.Stream
import SasMigration.Runner.Script
import SasMigration.Runner.Service
import SasMigration.Runner.Examples
import SasMigration.CommandLine.Options
import SasMigration.CommandLine.Usage
import SasMigration.Runner.Server
import SasMigration.CommandLine.Console
import SasMigration.CommandLine.Analyze
import SasMigration.CommandLine.Submit
import SasMigration.CommandLine.Convert
import SasMigration.CommandLine.Run
import SasMigration.Main
import SasMigration.Proofs.Pattern.Ends
import SasMigration.Proofs.Pattern.Taken
import SasMigration.Proofs.Text.Distinct
import SasMigration.Proofs.Text.Letter
import SasMigration.Proofs.Text.Lines
import SasMigration.Proofs.Text.Replacement
import SasMigration.Proofs.Pattern.Search
import SasMigration.Proofs.Pattern.Scan
import SasMigration.Proofs.Program.Chunk
import SasMigration.Proofs.Program.Grouping
import SasMigration.Proofs.Program.DataSet
import SasMigration.Proofs.Program.Restoration
import SasMigration.Proofs.Value.Association
import SasMigration.Proofs.Database.Session
import SasMigration.Proofs.Database.Independence
import SasMigration.Proofs.Pattern.Reading
import SasMigration.Proofs.Database.Forms
import SasMigration.Proofs.Database.Facts
import SasMigration.Proofs.Database.Scan
import SasMigration.Proofs.Database.History
import SasMigration.Proofs.Runner.Packages
import SasMigration.Proofs.Runner.Forwarding
import SasMigration.Proofs.Runner.Delivery
import SasMigration.Proofs.Runner.Interleaving
import SasMigration.Proofs.Runner.CleanUp
import SasMigration.Proofs.Runner.Streams
import SasMigration.Proofs.Runner.AppendOnly
import SasMigration.Proofs.Value.RoundTrip
import SasMigration.Proofs.Database.Agreement
import SasMigration.Proofs.Analysis.Sources
import SasMigration.Proofs.Analysis.Libraries
import SasMigration.Proofs.Analysis.DataSets
import SasMigration.Proofs.Analysis.Report
import SasMigration.Proofs.Conversion.Imports
import SasMigration.Proofs.Conversion.Assembly
import SasMigration.Proofs.Files.Entry
import SasMigration.Proofs.Analysis.Directory
import SasMigration.Proofs.Runner.Registry
import SasMigration.Proofs.Runner.Storage
import SasMigration.Proofs.CommandLine.Following
import SasMigration.Proofs.Program.Definition
import SasMigration.Proofs.Text.Occurrence
import SasMigration.Proofs.Program.Placement
import SasMigration.Proofs.Pattern.Locality
import SasMigration.Proofs.Database.Statements
import SasMigration.Proofs.Database.Acceptance
import SasMigration.Proofs.Database.Assignments
import SasMigration.Proofs.Database.Resolution
import SasMigration.Proofs.Runner.Paging
import SasMigration.Proofs.Runner.ExitCode
import SasMigration.Proofs.Conversion.Hoisting
import SasMigration.Proofs.Program.Calls
import SasMigration.Proofs.Runner.ImportLine
import SasMigration.Proofs.Pattern.Language
import SasMigration.Proofs.Conversion.Statement
import SasMigration.Proofs.Conversion.Cuts
import SasMigration.Proofs.Conversion.Requirements
import SasMigration.Proofs.Value.Token
import SasMigration.Proofs.Value.Extent
import SasMigration.Proofs.Model.FencedReply
import SasMigration.Proofs.Analysis.Columns
import SasMigration.Proofs.Conversion.Pieces
import SasMigration.Proofs.Conversion.Notes
import SasMigration.Proofs.Program.LineKinds
import SasMigration.Proofs.Pattern.Places
import SasMigration.Proofs.Program.Extraction
import SasMigration.Proofs.Program.Composition
import SasMigration.Proofs.Value.Integer
import SasMigration.Proofs.Value.Piecewise
import SasMigration.Proofs.Files.Bytes
import SasMigration.Proofs.Files.Paths
import SasMigration.Proofs.Files.Writing
import SasMigration.Proofs.Conversion.Saved
