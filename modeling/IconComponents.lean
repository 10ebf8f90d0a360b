import IconComponents.CommandLine.Error
import IconComponents.CommandLine.Help
import IconComponents.CommandLine.Invocation
import IconComponents.CommandLine.Parameter
import IconComponents.CommandLine.Reading
import IconComponents.Component.Payload
import IconComponents.Component.Properties
import IconComponents.Component.Source
import IconComponents.Config.Basic
import IconComponents.Config.Load
import IconComponents.Config.Starter
import IconComponents.Console
import IconComponents.Content
import IconComponents.Engines
import IconComponents.FileSystem
import IconComponents.Generation.Error
import IconComponents.Generation.Run
import IconComponents.Generation.Write
import IconComponents.Glob.Expand
import IconComponents.Glob.Pattern
import IconComponents.Gzip.Archive
import IconComponents.Gzip.Block
import IconComponents.Gzip.PrefixCode
import IconComponents.Icon
import IconComponents.Main
import IconComponents.Markup.CurrentColor
import IconComponents.Markup.DashedName
import IconComponents.Markup.PaintAttribute
import IconComponents.Markup.Placeholder
import IconComponents.Markup.Rewrite
import IconComponents.Markup.SvgTag
import IconComponents.Markup.ViewBox
import IconComponents.Minify
import IconComponents.Name.Component
import IconComponents.Name.Words
import IconComponents.Number.Binary
import IconComponents.Number.Decimal
import IconComponents.Number.Dimension
import IconComponents.Number.Shortest
import IconComponents.Number.SquareRoot
import IconComponents.Outcome
import IconComponents.Path
import IconComponents.Program
import IconComponents.Project.Starter
import IconComponents.Proofs.Component.Agreement
import IconComponents.Proofs.Component.ColourOrder
import IconComponents.Proofs.Component.Instantiate
import IconComponents.Proofs.Component.Json
import IconComponents.Proofs.Component.NaturalSize
import IconComponents.Proofs.Component.Quoted
import IconComponents.Proofs.Config.Entry
import IconComponents.Proofs.Config.Layers
import IconComponents.Proofs.Config.Load
import IconComponents.Proofs.Config.Output
import IconComponents.Proofs.Config.Search
import IconComponents.Proofs.Config.Settings
import IconComponents.Proofs.Config.Starter
import IconComponents.Proofs.Config.Upward
import IconComponents.Proofs.Console.Shown
import IconComponents.Proofs.Console.Terminal
import IconComponents.Proofs.FileSystem.Along
import IconComponents.Proofs.FileSystem.Arrival
import IconComponents.Proofs.FileSystem.Base
import IconComponents.Proofs.FileSystem.Below
import IconComponents.Proofs.FileSystem.Change
import IconComponents.Proofs.FileSystem.Parents
import IconComponents.Proofs.FileSystem.Skeleton
import IconComponents.Proofs.FileSystem.Tree
import IconComponents.Proofs.FileSystem.Walk
import IconComponents.Proofs.Generation.Again
import IconComponents.Proofs.Generation.Collision
import IconComponents.Proofs.Generation.Components
import IconComponents.Proofs.Generation.Contents
import IconComponents.Proofs.Generation.Failure
import IconComponents.Proofs.Generation.Icons
import IconComponents.Proofs.Generation.Identifiers
import IconComponents.Proofs.Generation.Overwrite
import IconComponents.Proofs.Generation.Selection
import IconComponents.Proofs.Generation.Sequence
import IconComponents.Proofs.Generation.Success
import IconComponents.Proofs.Glob.Expansion
import IconComponents.Proofs.Glob.Matching
import IconComponents.Proofs.Markup.Alongside
import IconComponents.Proofs.Markup.Attribute
import IconComponents.Proofs.Markup.CamelCase
import IconComponents.Proofs.Markup.ColourReference
import IconComponents.Proofs.Markup.Document
import IconComponents.Proofs.Markup.Element
import IconComponents.Proofs.Markup.Extraction
import IconComponents.Proofs.Markup.Install
import IconComponents.Proofs.Markup.Key
import IconComponents.Proofs.Markup.Mask
import IconComponents.Proofs.Markup.Occurrence
import IconComponents.Proofs.Markup.OnePass
import IconComponents.Proofs.Markup.Reading
import IconComponents.Proofs.Markup.Renaming
import IconComponents.Proofs.Markup.RootSize
import IconComponents.Proofs.Markup.SizeAttribute
import IconComponents.Proofs.Markup.SvgTag
import IconComponents.Proofs.Markup.Tree
import IconComponents.Proofs.Markup.ViewBox
import IconComponents.Proofs.Markup.WholeWord
import IconComponents.Proofs.Minify
import IconComponents.Proofs.Name.CaseConversion
import IconComponents.Proofs.Name.Component
import IconComponents.Proofs.Name.Kebab
import IconComponents.Proofs.Name.Segmentation
import IconComponents.Proofs.Name.Stretch
import IconComponents.Proofs.Name.TitleCase
import IconComponents.Proofs.Name.Words
import IconComponents.Proofs.Number.Dimension
import IconComponents.Proofs.Number.Numeral
import IconComponents.Proofs.Number.Positive
import IconComponents.Proofs.Number.Reading
import IconComponents.Proofs.Number.Rounding
import IconComponents.Proofs.Path.Above
import IconComponents.Proofs.Path.Order
import IconComponents.Proofs.Path.Spelling
import IconComponents.Proofs.Project.Fresh
import IconComponents.Proofs.Project.Kept
import IconComponents.Proofs.Svg.MaskedAttributes
import IconComponents.Proofs.Svg.MaskedColor
import IconComponents.Proofs.Svg.MaskedDrawing
import IconComponents.Proofs.Svg.MaskedName
import IconComponents.Proofs.Svg.MaskedNumber
import IconComponents.Proofs.Svg.MaskedPaint
import IconComponents.Proofs.Svg.MaskedShape
import IconComponents.Proofs.Svg.MaskedStyle
import IconComponents.Proofs.Svg.MaskedTerm
import IconComponents.Proofs.Svg.PaintParts
import IconComponents.Proofs.Svg.Shapes
import IconComponents.Proofs.Svg.Size
import IconComponents.Proofs.Svg.Spelling
import IconComponents.Proofs.Svg.StandingAlone
import IconComponents.Proofs.Svg.Unmask
import IconComponents.Proofs.Template.Binding
import IconComponents.Proofs.Template.Embedding
import IconComponents.Proofs.Template.Outline
import IconComponents.Proofs.Template.Placement
import IconComponents.Proofs.Template.Provenance
import IconComponents.Proofs.Template.Rendering
import IconComponents.Proofs.Template.Splice
import IconComponents.Proofs.Text.Blank
import IconComponents.Proofs.Text.Digits
import IconComponents.Proofs.Text.Needle
import IconComponents.Proofs.Text.Order
import IconComponents.Proofs.Text.Pieces
import IconComponents.Proofs.Text.Scan
import IconComponents.Proofs.Toml.Document
import IconComponents.Proofs.Toml.Lines
import IconComponents.Proofs.Toml.Quoted
import IconComponents.Proofs.Xml.Front
import IconComponents.Proofs.Xml.Masking
import IconComponents.Proofs.Xml.References
import IconComponents.Proofs.Xml.Tokens
import IconComponents.Proofs.Xml.Tracking
import IconComponents.Svg.Attributes
import IconComponents.Svg.Box
import IconComponents.Svg.Color
import IconComponents.Svg.Declaration
import IconComponents.Svg.Document
import IconComponents.Svg.Drawing
import IconComponents.Svg.Extent
import IconComponents.Svg.Length
import IconComponents.Svg.Number
import IconComponents.Svg.Outline
import IconComponents.Svg.Paint
import IconComponents.Svg.Picture
import IconComponents.Svg.Printer
import IconComponents.Svg.Style
import IconComponents.Template.Basic
import IconComponents.Template.Builtin
import IconComponents.Template.Call
import IconComponents.Template.Layout
import IconComponents.Template.Literal
import IconComponents.Template.Reference
import IconComponents.Template.Render
import IconComponents.Template.Splice
import IconComponents.Template.Tag
import IconComponents.Text.Basic
import IconComponents.Text.Blank
import IconComponents.Text.ControlSequence
import IconComponents.Text.Digits
import IconComponents.Text.Position
import IconComponents.Text.Printable
import IconComponents.Text.Quoted
import IconComponents.Text.Scan
import IconComponents.Text.Transliteration
import IconComponents.Text.WordCharacter
import IconComponents.Toml.Document
import IconComponents.Toml.Quoted
import IconComponents.Toml.Reader
import IconComponents.Toml.Scalar
import IconComponents.Xml.DocumentType
import IconComponents.Xml.Entity
import IconComponents.Xml.Error
import IconComponents.Xml.Reader
import IconComponents.Xml.Token
import IconComponents.Xml.Tree
