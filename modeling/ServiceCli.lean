import ServiceCli.Command.Example
import ServiceCli.Command.Flag
import ServiceCli.Command.Name
import ServiceCli.Command.Outline
import ServiceCli.Command.Plan
import ServiceCli.Command.Reading
import ServiceCli.Command.Required
import ServiceCli.CommandLine.Build
import ServiceCli.CommandLine.Command
import ServiceCli.CommandLine.Footprint
import ServiceCli.CommandLine.Inspect
import ServiceCli.CommandLine.Request
import ServiceCli.CommandLine.Run
import ServiceCli.CommandLine.Session
import ServiceCli.CommandLine.Switch
import ServiceCli.Compression.Frame
import ServiceCli.Compression.Inflate
import ServiceCli.Console.CellWidth
import ServiceCli.Console.Color
import ServiceCli.Console.Glyph
import ServiceCli.Console.Manner
import ServiceCli.Console.Markup
import ServiceCli.Console.Panel
import ServiceCli.Console.Pictogram
import ServiceCli.Console.Pictogram.Names
import ServiceCli.Console.Style
import ServiceCli.Console.StyledText
import ServiceCli.Console.Table
import ServiceCli.Console.Wrap
import ServiceCli.Conversion.Lines
import ServiceCli.Conversion.Statement
import ServiceCli.Data.Moment
import ServiceCli.Data.Value
import ServiceCli.Failure
import ServiceCli.Files.Path
import ServiceCli.Files.System
import ServiceCli.Files.Text
import ServiceCli.Files.Tree
import ServiceCli.Json.Printer
import ServiceCli.Json.Quoted
import ServiceCli.Json.Reader
import ServiceCli.Literal.Quoted
import ServiceCli.Literal.Value
import ServiceCli.Main
import ServiceCli.Model.Content
import ServiceCli.Model.Origin
import ServiceCli.Number.Binary64
import ServiceCli.Number.Numeral
import ServiceCli.Number.Shortest
import ServiceCli.Package.BuildFile
import ServiceCli.Package.Client
import ServiceCli.Package.Compile
import ServiceCli.Package.Files
import ServiceCli.Package.Function
import ServiceCli.Package.Header
import ServiceCli.Package.Meta
import ServiceCli.Package.Write
import ServiceCli.Parameters.Access
import ServiceCli.Parameters.Argument
import ServiceCli.Parameters.Blob
import ServiceCli.Parameters.Call
import ServiceCli.Parameters.Merge
import ServiceCli.Parameters.Required
import ServiceCli.Path.AccessPath
import ServiceCli.Path.FieldPath
import ServiceCli.Proofs.Command.Help
import ServiceCli.Proofs.Command.Identifier
import ServiceCli.Proofs.Command.Outline
import ServiceCli.Proofs.Command.OutlineTree
import ServiceCli.Proofs.Command.Parameter
import ServiceCli.Proofs.Command.Plan
import ServiceCli.Proofs.Command.Required
import ServiceCli.Proofs.Command.Stream
import ServiceCli.Proofs.Command.Surface
import ServiceCli.Proofs.Command.Undocumented
import ServiceCli.Proofs.CommandLine.Build
import ServiceCli.Proofs.CommandLine.Line
import ServiceCli.Proofs.CommandLine.ModelFile
import ServiceCli.Proofs.Console.Escape
import ServiceCli.Proofs.Console.Line
import ServiceCli.Proofs.Console.Message
import ServiceCli.Proofs.Console.Styled
import ServiceCli.Proofs.Console.Visible
import ServiceCli.Proofs.Conversion.Converted
import ServiceCli.Proofs.Conversion.Effect
import ServiceCli.Proofs.Conversion.Fragment
import ServiceCli.Proofs.Conversion.Nesting
import ServiceCli.Proofs.Conversion.Opened
import ServiceCli.Proofs.Conversion.Reading
import ServiceCli.Proofs.Conversion.Run
import ServiceCli.Proofs.Conversion.Script
import ServiceCli.Proofs.Conversion.Validation
import ServiceCli.Proofs.Conversion.Wording
import ServiceCli.Proofs.Data.Entries
import ServiceCli.Proofs.Data.JsonLimit
import ServiceCli.Proofs.Data.JsonRoundtrip
import ServiceCli.Proofs.Data.JsonScalar
import ServiceCli.Proofs.Data.JsonValue
import ServiceCli.Proofs.Files.Growth
import ServiceCli.Proofs.Files.Replacement
import ServiceCli.Proofs.Files.Text
import ServiceCli.Proofs.Files.Tree
import ServiceCli.Proofs.Model.Document
import ServiceCli.Proofs.Outcome
import ServiceCli.Proofs.Package.CommandName
import ServiceCli.Proofs.Package.Credential
import ServiceCli.Proofs.Package.FreeText
import ServiceCli.Proofs.Package.Growth
import ServiceCli.Proofs.Package.Import
import ServiceCli.Proofs.Package.Manifest
import ServiceCli.Proofs.Package.MemberLiteral
import ServiceCli.Proofs.Package.Program
import ServiceCli.Proofs.Package.Registration
import ServiceCli.Proofs.Package.Scope
import ServiceCli.Proofs.Package.Write
import ServiceCli.Proofs.Parameters.Document
import ServiceCli.Proofs.Parameters.Inline
import ServiceCli.Proofs.Parameters.Outline
import ServiceCli.Proofs.Parameters.Overlay
import ServiceCli.Proofs.Parameters.PathText
import ServiceCli.Proofs.Parameters.Place
import ServiceCli.Proofs.Parameters.Refusal
import ServiceCli.Proofs.Parameters.Stream
import ServiceCli.Proofs.Parameters.Violation
import ServiceCli.Proofs.Path.Steps
import ServiceCli.Proofs.Report.Plain
import ServiceCli.Proofs.Report.Telling
import ServiceCli.Proofs.Script.Denotation
import ServiceCli.Proofs.Script.Grammar
import ServiceCli.Proofs.Script.Meaning
import ServiceCli.Proofs.Script.Nesting
import ServiceCli.Proofs.Script.Opened
import ServiceCli.Proofs.Script.Outside
import ServiceCli.Proofs.Script.Spelling
import ServiceCli.Proofs.Script.Token
import ServiceCli.Proofs.Service.Locality
import ServiceCli.Proofs.Service.Undocumented
import ServiceCli.Proofs.Settings.Precedence
import ServiceCli.Proofs.Shape.Cycle
import ServiceCli.Proofs.Shape.Layer
import ServiceCli.Proofs.Shape.Malformed
import ServiceCli.Proofs.Shape.MemberName
import ServiceCli.Proofs.Shape.Misfit
import ServiceCli.Proofs.Shape.Reference
import ServiceCli.Proofs.Shape.Undocumented
import ServiceCli.Proofs.Shape.Unfolding
import ServiceCli.Proofs.Source.Skeleton
import ServiceCli.Proofs.Text.Character
import ServiceCli.Proofs.Text.Utf8
import ServiceCli.Proofs.Toml.Reader
import ServiceCli.Proofs.Unused
import ServiceCli.Report.Plain
import ServiceCli.Report.Printer
import ServiceCli.Service.Basic
import ServiceCli.Service.Extract
import ServiceCli.Settings.Basic
import ServiceCli.Settings.Resolve
import ServiceCli.Shape.Model
import ServiceCli.Shape.Ref
import ServiceCli.Shape.Resolve
import ServiceCli.Shape.TypeTree
import ServiceCli.Source.Line
import ServiceCli.Text.Character
import ServiceCli.Text.Charset
import ServiceCli.Text.Charset.Basic
import ServiceCli.Text.Charset.Big5
import ServiceCli.Text.Charset.Chinese
import ServiceCli.Text.Charset.EightBit
import ServiceCli.Text.Charset.Escaped
import ServiceCli.Text.Charset.Gb2312
import ServiceCli.Text.Charset.Grid
import ServiceCli.Text.Charset.Hkscs
import ServiceCli.Text.Charset.Iso2022
import ServiceCli.Text.Charset.Japanese
import ServiceCli.Text.Charset.Jis
import ServiceCli.Text.Charset.Korean
import ServiceCli.Text.Charset.Ksx1001
import ServiceCli.Text.Charset.Punycode
import ServiceCli.Text.Charset.Unicode
import ServiceCli.Text.LetterCase
import ServiceCli.Text.Split
import ServiceCli.Text.Unprintable
import ServiceCli.Text.Utf8
import ServiceCli.Web.ContentCoding
import ServiceCli.Web.Header
import ServiceCli.Web.Parameter
import ServiceCli.World
import ServiceCli.Yaml.Atom
import ServiceCli.Yaml.Block
import ServiceCli.Yaml.Cursor
import ServiceCli.Yaml.Document
import ServiceCli.Yaml.Lexer
import ServiceCli.Yaml.Merge
import ServiceCli.Yaml.Name
import ServiceCli.Yaml.Node
import ServiceCli.Yaml.Plain
import ServiceCli.Yaml.Quoted
import ServiceCli.Yaml.Tag
import ServiceCli.Yaml.Token
