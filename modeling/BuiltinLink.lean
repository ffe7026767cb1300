import BuiltinLink.Diagnostic.Basic
import BuiltinLink.Diagnostic.Code
import BuiltinLink.Diagnostic.Label
import BuiltinLink.Diagnostic.Report
import BuiltinLink.Diagnostic.Sink
import BuiltinLink.Diagnostic.Styled
import BuiltinLink.Files.Failure
import BuiltinLink.Files.Path
import BuiltinLink.Files.Tree
import BuiltinLink.Keep.Catalog
import BuiltinLink.Keep.Roots
import BuiltinLink.Library.Image
import BuiltinLink.Library.Key
import BuiltinLink.Library.Registry
import BuiltinLink.Link.BindError
import BuiltinLink.Link.Contribution
import BuiltinLink.Link.Destination
import BuiltinLink.Link.Error
import BuiltinLink.Link.Mode
import BuiltinLink.Link.Pipeline
import BuiltinLink.Link.Record
import BuiltinLink.Link.Renaming
import BuiltinLink.Link.Stage
import BuiltinLink.Link.SymbolName
import BuiltinLink.Log.Basic
import BuiltinLink.Log.Level
import BuiltinLink.Log.Pattern.Lexeme
import BuiltinLink.Log.Pattern.Reader
import BuiltinLink.Log.Pattern.Set
import BuiltinLink.Log.Pattern.Support
import BuiltinLink.Log.Pattern.Tree
import BuiltinLink.Log.Rule
import BuiltinLink.Numeric.Binary64
import BuiltinLink.Numeric.Shortest
import BuiltinLink.Proofs.Library.Flight
import BuiltinLink.Proofs.Library.History
import BuiltinLink.Proofs.Library.SingleFlight
import BuiltinLink.Proofs.Library.Slots
import BuiltinLink.Settings.Basic
import BuiltinLink.Settings.Dump
import BuiltinLink.Settings.Reader
import BuiltinLink.Settings.Shape
import BuiltinLink.Settings.StageSet
import BuiltinLink.Settings.Writer
import BuiltinLink.Symbol.Interner
import BuiltinLink.Symbol.Table
import BuiltinLink.Target.Basic
import BuiltinLink.Target.Document
import BuiltinLink.Target.Isa
import BuiltinLink.Text.Alphanumeric
import BuiltinLink.Text.Blank
import BuiltinLink.Text.EastAsianWide
import BuiltinLink.Text.GraphemeExtend
import BuiltinLink.Text.Hex
import BuiltinLink.Text.Lines
import BuiltinLink.Text.Quoted
import BuiltinLink.Text.Ranges
import BuiltinLink.Text.Unprintable
import BuiltinLink.Text.Utf8
import BuiltinLink.Text.Width
import BuiltinLink.Toml.Key
import BuiltinLink.Toml.Layout
import BuiltinLink.Toml.Number
import BuiltinLink.Toml.Reader
import BuiltinLink.Toml.Table
import BuiltinLink.Toml.Text
import BuiltinLink.Toml.Value
import BuiltinLink.Toml.Writer
import BuiltinLink.Types.Key
import BuiltinLink.Types.Mapper
import BuiltinLink.Types.Source
import BuiltinLink.Types.Table
import BuiltinLink.Vocabulary
import BuiltinLink.Proofs.Link.Resolution
import BuiltinLink.Proofs.Settings.Description
import BuiltinLink.Proofs.Settings.RoundTrip
import BuiltinLink.Proofs.Settings.Language
import BuiltinLink.Proofs.Symbol.Additions
import BuiltinLink.Proofs.Settings.Changes
import BuiltinLink.Proofs.Settings.Report
import BuiltinLink.Proofs.Link.Attribution
import BuiltinLink.Proofs.Types.Inverse
import BuiltinLink.Proofs.Types.Written
import BuiltinLink.Proofs.Diagnostic.Rendering
import BuiltinLink.Proofs.Link.Renaming
import BuiltinLink.Proofs.Link.Provision
import BuiltinLink.Proofs.Settings.DumpFiles
import BuiltinLink.Proofs.Settings.DumpFailure
import BuiltinLink.Proofs.Link.Binding
import BuiltinLink.Proofs.Keep.Insertions
import BuiltinLink.Proofs.Diagnostic.Completion
import BuiltinLink.Proofs.Target.Names
import BuiltinLink.Proofs.Link.RawNames
import BuiltinLink.Proofs.Types.Enumeration
