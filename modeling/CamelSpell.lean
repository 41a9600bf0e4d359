import CamelSpell.Base64
import CamelSpell.CommandLine.Arguments
import CamelSpell.CommandLine.Help
import CamelSpell.CommandLine.Similar
import CamelSpell.Config.Document
import CamelSpell.Config.Search
import CamelSpell.Config.Settings
import CamelSpell.Dictionary
import CamelSpell.Dictionary.English
import CamelSpell.Dictionary.Load
import CamelSpell.Discovery
import CamelSpell.Exclusion
import CamelSpell.Failure
import CamelSpell.FileCheck
import CamelSpell.FileSystem.Access
import CamelSpell.FileSystem.Basic
import CamelSpell.FileSystem.Snapshot
import CamelSpell.Glob.Brace
import CamelSpell.Glob.Bracket
import CamelSpell.Glob.Group
import CamelSpell.Glob.Pattern
import CamelSpell.Glob.Segment
import CamelSpell.Json.Printer
import CamelSpell.Json.Reader
import CamelSpell.Log.Logged
import CamelSpell.Log.Logger
import CamelSpell.Log.Record
import CamelSpell.Main
import CamelSpell.Moment
import CamelSpell.Number.Arithmetic
import CamelSpell.Number.Binary64
import CamelSpell.Number.Digits
import CamelSpell.Number.Literal
import CamelSpell.Number.Shortest
import CamelSpell.Path
import CamelSpell.Program.Request
import CamelSpell.Program.Sample
import CamelSpell.Program.Session
import CamelSpell.Regex.Basic
import CamelSpell.Regex.Reader
import CamelSpell.Report
import CamelSpell.Run.Basic
import CamelSpell.Run.Pool
import CamelSpell.Scanner
import CamelSpell.Token
import CamelSpell.Toml.Document
import CamelSpell.Toml.Reader
import CamelSpell.Toml.Statement
import CamelSpell.Unicode.Alphabetic
import CamelSpell.Unicode.Blank
import CamelSpell.Unicode.CaseMap
import CamelSpell.Unicode.Casing
import CamelSpell.Unicode.Category
import CamelSpell.Unicode.LetterCase
import CamelSpell.Unicode.RangeTable
import CamelSpell.Unicode.SigmaContext
import CamelSpell.Unicode.Units
import CamelSpell.Unicode.Utf8
import CamelSpell.Value
import CamelSpell.WordList
import CamelSpell.Yaml.Cursor
import CamelSpell.Yaml.Document
import CamelSpell.Yaml.Node
import CamelSpell.Yaml.Resolve
import CamelSpell.Yaml.Scalar
import CamelSpell.Proofs.MaximalRun
import CamelSpell.Proofs.TextMisspellings
import CamelSpell.Proofs.Pool
import CamelSpell.Proofs.RunSchedule
import CamelSpell.Proofs.Path.Name
import CamelSpell.Proofs.Path.Route
import CamelSpell.Proofs.Path.Normalize
import CamelSpell.Proofs.FileSystem.WellFormed
import CamelSpell.Proofs.FileSystem.Located
import CamelSpell.Proofs.Discovery.Visit
import CamelSpell.Proofs.Discovery.FoundPath
import CamelSpell.Proofs.Discovery.Containment
import CamelSpell.Proofs.Discovery.EachOnce
import CamelSpell.Proofs.Utf8
import CamelSpell.Proofs.FileDecoding
import CamelSpell.Proofs.SubWord
import CamelSpell.Proofs.FirstSubWord
import CamelSpell.Proofs.Capital
import CamelSpell.Proofs.ScannerPosition
import CamelSpell.Proofs.DictionaryEntries
import CamelSpell.Proofs.RunFindings
import CamelSpell.Proofs.AllowedWords
import CamelSpell.Proofs.FileSystem.Child
import CamelSpell.Proofs.UnitOrder
import CamelSpell.Proofs.Discovery.Walk
import CamelSpell.Proofs.Discovery.WalkExact
import CamelSpell.Proofs.AllowedEntry
import CamelSpell.Proofs.FileSystem.Contents
import CamelSpell.Proofs.Discovery.Unread
import CamelSpell.Proofs.ExclusionRules
import CamelSpell.Proofs.Discovery.MoreExclusions
import CamelSpell.Proofs.Discovery.RootSet
import CamelSpell.Proofs.Discovery.Failure
import CamelSpell.Proofs.Config.Candidates
import CamelSpell.Proofs.Config.Loading
import CamelSpell.Proofs.Config.Search
import CamelSpell.Proofs.RunComposition
import CamelSpell.Proofs.MistakenFile
import CamelSpell.Proofs.Program.Reading
import CamelSpell.Proofs.Program.History
import CamelSpell.Proofs.Program.Check
import CamelSpell.Proofs.Program.HelpCommand
import CamelSpell.Proofs.CaseBoundary
import CamelSpell.Proofs.SubWordStart
import CamelSpell.Proofs.ScannerCalls
import CamelSpell.Proofs.Casing
import CamelSpell.Proofs.DictionaryViews
import CamelSpell.Proofs.Number.Value
import CamelSpell.Proofs.Config.Validation
import CamelSpell.Proofs.OneCharacter
import CamelSpell.Proofs.Diagnostic
import CamelSpell.Proofs.LoggerFamily
import CamelSpell.Proofs.WrittenWordList
import CamelSpell.Proofs.FileSystem.Created
import CamelSpell.Proofs.Program.Init
