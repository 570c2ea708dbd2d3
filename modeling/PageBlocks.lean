import PageBlocks.Asset
import PageBlocks.Audience
import PageBlocks.Batch
import PageBlocks.Block.Basic
import PageBlocks.Block.Mark
import PageBlocks.Block.Scan
import PageBlocks.CommandLine.Arguments
import PageBlocks.CommandLine.Run
import PageBlocks.CommandLine.Usage
import PageBlocks.Config.Basic
import PageBlocks.Config.Load
import PageBlocks.Config.Variables
import PageBlocks.Directive.Basic
import PageBlocks.Directive.Locator
import PageBlocks.Directive.Reader
import PageBlocks.Error
import PageBlocks.FileSystem
import PageBlocks.FileTree
import PageBlocks.Handler.Asset
import PageBlocks.Handler.Attribute
import PageBlocks.Handler.Basic
import PageBlocks.Handler.Declared
import PageBlocks.Handler.Include
import PageBlocks.Handler.Source
import PageBlocks.Json.Basic
import PageBlocks.Json.Printer
import PageBlocks.Main
import PageBlocks.Number.Binary64
import PageBlocks.Options
import PageBlocks.Outcome
import PageBlocks.Path
import PageBlocks.Pattern.Basic
import PageBlocks.Pattern.Class
import PageBlocks.Pattern.Program
import PageBlocks.Pattern.Reader
import PageBlocks.Pattern.Replacement
import PageBlocks.Pattern.Size
import PageBlocks.Pattern.Syntax
import PageBlocks.Processor
import PageBlocks.Registry
import PageBlocks.Template
import PageBlocks.Text.Age
import PageBlocks.Text.Basic
import PageBlocks.Text.CaseFold
import PageBlocks.Text.Category
import PageBlocks.Text.CharSet
import PageBlocks.Text.Line
import PageBlocks.Text.Name
import PageBlocks.Text.Property
import PageBlocks.Text.Quoted
import PageBlocks.Text.Recognise
import PageBlocks.Text.Script
import PageBlocks.Text.Segment
import PageBlocks.Text.Utf8
import PageBlocks.Text.Word
import PageBlocks.Toml.Document
import PageBlocks.Toml.Scalar
import PageBlocks.Toml.Value
import PageBlocks.Proofs.Comment
import PageBlocks.Proofs.Cut
import PageBlocks.Proofs.Document
import PageBlocks.Proofs.Content
import PageBlocks.Proofs.Enclosing
import PageBlocks.Proofs.Row
import PageBlocks.Proofs.Outline
import PageBlocks.Proofs.Expansion
import PageBlocks.Proofs.Removal
import PageBlocks.Proofs.Deletion
import PageBlocks.Proofs.Comparison
import PageBlocks.Proofs.Inclusion
import PageBlocks.Proofs.Run
import PageBlocks.Proofs.Registration
import PageBlocks.Proofs.OpenFiles
import PageBlocks.Proofs.Reading
import PageBlocks.Proofs.Layout
import PageBlocks.Proofs.Concatenation
import PageBlocks.Proofs.Denotation
import PageBlocks.Proofs.Scanner
import PageBlocks.Proofs.Termination
import PageBlocks.Proofs.Keeping
import PageBlocks.Proofs.InPlace
import PageBlocks.Proofs.Stripping
import PageBlocks.Proofs.Offset
import PageBlocks.Proofs.Partition
import PageBlocks.Proofs.CarriageReturn
import PageBlocks.Proofs.LineEnding
import PageBlocks.Proofs.Unread
import PageBlocks.Proofs.Position
import PageBlocks.Proofs.Label
import PageBlocks.Proofs.History
import PageBlocks.Proofs.Accounting
import PageBlocks.Proofs.Separator
import PageBlocks.Proofs.Padding
import PageBlocks.Proofs.Tree
import PageBlocks.Proofs.Overwriting
import PageBlocks.Proofs.Grammar
import PageBlocks.Proofs.Recognition
import PageBlocks.Proofs.ReferenceTag
import PageBlocks.Proofs.Structure
import PageBlocks.Proofs.PatternSize
import PageBlocks.Proofs.Pieces
import PageBlocks.Proofs.Inlining
import PageBlocks.Proofs.Loading
import PageBlocks.Proofs.Declaration
import PageBlocks.Proofs.TemplateBlock
import PageBlocks.Proofs.Union
import PageBlocks.Proofs.Braces
import PageBlocks.Proofs.Slot
import PageBlocks.Proofs.AttributePattern
import PageBlocks.Proofs.AttributeValue
import PageBlocks.Proofs.Search
import PageBlocks.Proofs.PassThrough
import PageBlocks.Proofs.Skipping
import PageBlocks.Proofs.LastLine
import PageBlocks.Proofs.Query
import PageBlocks.Proofs.FailureOrder
import PageBlocks.Proofs.Spelling
import PageBlocks.Proofs.Folding
import PageBlocks.Proofs.Reopening
