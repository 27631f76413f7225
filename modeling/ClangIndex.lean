import ClangIndex.Binding.Accounts
import ClangIndex.Binding.Attribute
import ClangIndex.Binding.Bounds
import ClangIndex.Binding.Call
import ClangIndex.Binding.Completion
import ClangIndex.Binding.Cursor
import ClangIndex.Binding.Database
import ClangIndex.Binding.Diagnostic
import ClangIndex.Binding.Disposal
import ClangIndex.Binding.Equality
import ClangIndex.Binding.Hash
import ClangIndex.Binding.Identity
import ClangIndex.Binding.Layout
import ClangIndex.Binding.Marshal
import ClangIndex.Binding.Platform
import ClangIndex.Binding.Sequence
import ClangIndex.Binding.Shown
import ClangIndex.Binding.Source
import ClangIndex.Binding.Tokens
import ClangIndex.Binding.TranslationUnit
import ClangIndex.Binding.Visit
import ClangIndex.Binding.World
import ClangIndex.Enumeration.Basic
import ClangIndex.Enumeration.Flags
import ClangIndex.Failure
import ClangIndex.Files.Tree
import ClangIndex.Interface.Exception
import ClangIndex.Interface.Kinds
import ClangIndex.Interface.Objects
import ClangIndex.Interface.Structures
import ClangIndex.Json.Reader
import ClangIndex.Json.Value
import ClangIndex.Json.Writer
import ClangIndex.Library.Candidates
import ClangIndex.Library.Loader
import ClangIndex.Library.Registration
import ClangIndex.Library.Settings
import ClangIndex.Log.Channel
import ClangIndex.Log.Message
import ClangIndex.Log.Place
import ClangIndex.Log.Program
import ClangIndex.Log.Record
import ClangIndex.Main
import ClangIndex.Native.CType
import ClangIndex.Native.Call
import ClangIndex.Native.Function
import ClangIndex.Native.Script
import ClangIndex.Number.Arithmetic
import ClangIndex.Number.Binary64
import ClangIndex.Number.Integer
import ClangIndex.Number.Residue
import ClangIndex.Number.Rounded
import ClangIndex.Proofs.CheckedCalls
import ClangIndex.Proofs.ChildForest
import ClangIndex.Proofs.DisposalOutcome
import ClangIndex.Proofs.DisposedSequences
import ClangIndex.Proofs.FailureCodes
import ClangIndex.Proofs.GivenBack
import ClangIndex.Proofs.LibraryHistory
import ClangIndex.Proofs.LiveSequences
import ClangIndex.Proofs.LoadingCalls
import ClangIndex.Proofs.MadeCalls
import ClangIndex.Proofs.MarshaledArrays
import ClangIndex.Proofs.OwnedDiagnostics
import ClangIndex.Proofs.PrunedDump
import ClangIndex.Proofs.ReferenceSearch
import ClangIndex.Proofs.ReleaseOnce
import ClangIndex.Proofs.SavedFailure
import ClangIndex.Proofs.SessionStates
import ClangIndex.Proofs.StringOwnership
import ClangIndex.Proofs.ToolReleases
import ClangIndex.Proofs.UnitProvenance
import ClangIndex.Proofs.VisitOrder
import ClangIndex.Proofs.WalkOrder
import ClangIndex.Session.Observation
import ClangIndex.Session.Recording
import ClangIndex.Session.Step
import ClangIndex.Session.Term
import ClangIndex.Text.Base64
import ClangIndex.Text.Blank
import ClangIndex.Text.Literal
import ClangIndex.Text.Path
import ClangIndex.Text.Printable
import ClangIndex.Text.Quoted
import ClangIndex.Text.Utf8
import ClangIndex.Text.Variables
import ClangIndex.Tool.CommandLine
import ClangIndex.Tool.DatabaseDump
import ClangIndex.Tool.Ending
import ClangIndex.Tool.Report
import ClangIndex.Tool.UnitDump
import ClangIndex.Value
import ClangIndex.Value.Conversion
import ClangIndex.Yaml.Datum
import ClangIndex.Yaml.Document
import ClangIndex.Yaml.Node
import ClangIndex.Yaml.Place
import ClangIndex.Yaml.Plain
import ClangIndex.Yaml.Scalar
import ClangIndex.Yaml.Source
import ClangIndex.Yaml.Token
import ClangIndex.Proofs.SettingsModes
import ClangIndex.Proofs.SettingsReading
import ClangIndex.Proofs.SettingsLayers
import ClangIndex.Proofs.DatabaseHandles
import ClangIndex.Proofs.EntryLines
import ClangIndex.Proofs.LongNumbers
import ClangIndex.Proofs.TextRoundTrip
import ClangIndex.Proofs.PassedArguments
import ClangIndex.Proofs.PrintedCommands
import ClangIndex.Proofs.LibrarySearch
import ClangIndex.Proofs.LogContext
import ClangIndex.Proofs.DeclaredFunctions
import ClangIndex.Proofs.OpenKinds
import ClangIndex.Proofs.SortedCompletions
import ClangIndex.Proofs.FailureRecords
import ClangIndex.Proofs.RunReports
