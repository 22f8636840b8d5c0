import TestTransform.Api.Basic
import TestTransform.Api.CommandLine
import TestTransform.Api.Compile
import TestTransform.Api.Config
import TestTransform.Api.Container
import TestTransform.Api.Diagnostics
import TestTransform.Api.Dispatch
import TestTransform.Api.Failure
import TestTransform.Api.Graph
import TestTransform.Api.Options
import TestTransform.Api.Project
import TestTransform.Api.Reply
import TestTransform.Api.Session
import TestTransform.Api.Store
import TestTransform.Api.Table
import TestTransform.Api.Workbench
import TestTransform.Cache.Graph
import TestTransform.Cli.Grammar
import TestTransform.Cli.Help
import TestTransform.Cli.Refusal
import TestTransform.Cli.Scan
import TestTransform.Cli.Tool
import TestTransform.Compiler.Checked
import TestTransform.Compiler.FileTable
import TestTransform.Compiler.Host
import TestTransform.Compiler.Isolated
import TestTransform.Compiler.Output
import TestTransform.Compiler.Standin.Emit
import TestTransform.Compiler.Standin.Service
import TestTransform.Compiler.Standin.Shapes
import TestTransform.Config.CompilerOptions
import TestTransform.Config.Host
import TestTransform.Config.Policy
import TestTransform.Config.Registry
import TestTransform.Config.Settings
import TestTransform.Config.Target
import TestTransform.Config.TsConfig
import TestTransform.Data.Memo
import TestTransform.Data.Table
import TestTransform.Decimal.Binary64
import TestTransform.Diagnostic.Basic
import TestTransform.Diagnostic.Code
import TestTransform.Diagnostic.Format
import TestTransform.Diagnostic.Log
import TestTransform.Error
import TestTransform.FileStore
import TestTransform.Fixture
import TestTransform.Hash.Blake3
import TestTransform.Hash.Key
import TestTransform.Json.Commented
import TestTransform.Json.Fault
import TestTransform.Json.Read
import TestTransform.Json.Shape
import TestTransform.Json.Value
import TestTransform.Json.Write
import TestTransform.Main
import TestTransform.Path
import TestTransform.Pattern.CharClass
import TestTransform.Pattern.Glob
import TestTransform.Pattern.Regex.Bracket
import TestTransform.Pattern.Regex.Escape
import TestTransform.Pattern.Regex.Expr
import TestTransform.Pattern.Regex.Fault
import TestTransform.Pattern.Regex.Footprint
import TestTransform.Pattern.Regex.Nesting
import TestTransform.Pattern.Regex.Parse
import TestTransform.Pattern.Regex.Program
import TestTransform.Pattern.Regex.Property
import TestTransform.Pattern.Regex.Reader
import TestTransform.Pattern.Regex.Search
import TestTransform.Pattern.Regex.Syntax
import TestTransform.Pattern.Regex.Utf8
import TestTransform.Proofs.Base64RoundTrip
import TestTransform.Proofs.Breadth
import TestTransform.Proofs.CheckedOutputs
import TestTransform.Proofs.CommentedJson
import TestTransform.Proofs.CompileOutputs
import TestTransform.Proofs.ConfigEntries
import TestTransform.Proofs.DiagnosticsPolicy
import TestTransform.Proofs.EffectiveOptions
import TestTransform.Proofs.ExtendsUnfolding
import TestTransform.Proofs.GraphFile
import TestTransform.Proofs.HostGrowth
import TestTransform.Proofs.HostRoundTrip
import TestTransform.Proofs.HostVersions
import TestTransform.Proofs.ImportClosure
import TestTransform.Proofs.InlineMaps
import TestTransform.Proofs.KeyStream
import TestTransform.Proofs.LexicalNormalForm
import TestTransform.Proofs.Modes
import TestTransform.Proofs.NumberReading
import TestTransform.Proofs.PassedOptions
import TestTransform.Proofs.PathNormal
import TestTransform.Proofs.PathOrder
import TestTransform.Proofs.QuotedStrings
import TestTransform.Proofs.RecordReading
import TestTransform.Proofs.RecordedModules
import TestTransform.Proofs.RepeatedResolution
import TestTransform.Proofs.RootFiles
import TestTransform.Proofs.ServiceGrowth
import TestTransform.Proofs.ServiceSteps
import TestTransform.Proofs.SettingsStages
import TestTransform.Proofs.ShapeReading
import TestTransform.Proofs.SharedGraphFile
import TestTransform.Proofs.StableKeys
import TestTransform.Proofs.SuccessfulResults
import TestTransform.Proofs.TableLookup
import TestTransform.Proofs.TextVersions
import TestTransform.Proofs.Transformers
import TestTransform.Proofs.TypeChase
import TestTransform.Proofs.ValueReading
import TestTransform.Text.Base64
import TestTransform.Text.Blank
import TestTransform.Text.Lines
import TestTransform.Text.Shown
import TestTransform.Text.Similarity
import TestTransform.Transform
import TestTransform.Unicode.Char
import TestTransform.Unicode.Data.Age
import TestTransform.Unicode.Data.Alias
import TestTransform.Unicode.Data.Category
import TestTransform.Unicode.Data.Classes
import TestTransform.Unicode.Data.Fold
import TestTransform.Unicode.Data.Property
import TestTransform.Unicode.Data.Script
import TestTransform.Unicode.Data.Segment
import TestTransform.Unicode.Property
import TestTransform.Unicode.Table
import TestTransform.Workspace
