import Typewright.Annotations
import Typewright.Command
import Typewright.Command.Arguments
import Typewright.Command.Console
import Typewright.Command.Markup
import Typewright.Command.Switch
import Typewright.Config
import Typewright.Config.File
import Typewright.Config.Layers
import Typewright.Config.Saved
import Typewright.Config.Spelling
import Typewright.Config.Warning
import Typewright.Datamodel
import Typewright.Datamodel.Document
import Typewright.Double
import Typewright.Double.Shortest
import Typewright.Fault
import Typewright.FileTree
import Typewright.FileTree.Outputs
import Typewright.Generation
import Typewright.Json.Octets
import Typewright.Json.Problem
import Typewright.Json.Reader
import Typewright.Json.Writer
import Typewright.Layout
import Typewright.Log
import Typewright.Main
import Typewright.Misuse
import Typewright.Naming
import Typewright.Path
import Typewright.Pg.File
import Typewright.Pg.Import
import Typewright.Pg.Table
import Typewright.Proofs.Annotations.Brackets
import Typewright.Proofs.Annotations.LineRule
import Typewright.Proofs.Annotations.Lines
import Typewright.Proofs.Annotations.Tags
import Typewright.Proofs.Command.Delivery
import Typewright.Proofs.Command.Preparation
import Typewright.Proofs.Command.Withholding
import Typewright.Proofs.Config
import Typewright.Proofs.Config.CustomLayers
import Typewright.Proofs.Config.Layers
import Typewright.Proofs.Config.Precedence
import Typewright.Proofs.Config.Respelling
import Typewright.Proofs.Config.Saved
import Typewright.Proofs.Config.Spelling
import Typewright.Proofs.Config.Usual
import Typewright.Proofs.Config.Words
import Typewright.Proofs.Datamodel.Defects
import Typewright.Proofs.Datamodel.Renamed
import Typewright.Proofs.Entries
import Typewright.Proofs.EnumValues
import Typewright.Proofs.FileTree.Atomicity
import Typewright.Proofs.FileTree.Contents
import Typewright.Proofs.FileTree.Delivery
import Typewright.Proofs.FileTree.Moving
import Typewright.Proofs.FileTree.Places
import Typewright.Proofs.FileTree.Staging
import Typewright.Proofs.Generation
import Typewright.Proofs.Json.ReadBack
import Typewright.Proofs.Json.Scalars
import Typewright.Proofs.Json.Steps
import Typewright.Proofs.Layout.Assembly
import Typewright.Proofs.Layout.Generated
import Typewright.Proofs.Layout.Names
import Typewright.Proofs.Layout.Pieces
import Typewright.Proofs.Layout.Reading
import Typewright.Proofs.Layout.Sections
import Typewright.Proofs.Layout.Tidying
import Typewright.Proofs.Layout.Values
import Typewright.Proofs.NameMap
import Typewright.Proofs.Naming
import Typewright.Proofs.Naming.Collisions
import Typewright.Proofs.Naming.Lookup
import Typewright.Proofs.Outcome
import Typewright.Proofs.Path
import Typewright.Proofs.Pg.Columns
import Typewright.Proofs.Pg.File
import Typewright.Proofs.Pg.HelperTypes
import Typewright.Proofs.Pg.Import
import Typewright.Proofs.Pg.Layout
import Typewright.Proofs.Pg.Specifier
import Typewright.Proofs.Registry
import Typewright.Proofs.Registry.Aliases
import Typewright.Proofs.Registry.Registering
import Typewright.Proofs.Renaming
import Typewright.Proofs.Request
import Typewright.Proofs.Session
import Typewright.Proofs.Source
import Typewright.Proofs.Text.Comments
import Typewright.Proofs.Text.Identifiers
import Typewright.Proofs.Text.LetterCase
import Typewright.Proofs.Text.Pattern
import Typewright.Proofs.Text.Quotations
import Typewright.Proofs.Text.Utf8
import Typewright.Proofs.TypeScript.Acceptance
import Typewright.Proofs.TypeScript.Assembly
import Typewright.Proofs.TypeScript.Documentation
import Typewright.Proofs.TypeScript.File
import Typewright.Proofs.TypeScript.Helpers
import Typewright.Proofs.TypeScript.Layout
import Typewright.Proofs.TypeScript.Mentions
import Typewright.Proofs.TypeScript.OwnNames
import Typewright.Proofs.TypeScript.Recorded
import Typewright.Proofs.TypeScript.References
import Typewright.Proofs.TypeScript.Relations
import Typewright.Proofs.TypeScript.Renamed
import Typewright.Proofs.TypeScript.TopLevel
import Typewright.Proofs.TypeScript.Typing
import Typewright.Proofs.TypeScript.Usage
import Typewright.Proofs.Value
import Typewright.Proofs.Zod.Acceptance
import Typewright.Proofs.Zod.Agreement
import Typewright.Proofs.Zod.File
import Typewright.Proofs.Zod.Layout
import Typewright.Proofs.Zod.Renamed
import Typewright.Registry
import Typewright.Request
import Typewright.Section
import Typewright.Source
import Typewright.Source.Url
import Typewright.Target
import Typewright.Text.Blank
import Typewright.Text.CaseTables
import Typewright.Text.CodeSet
import Typewright.Text.Halves
import Typewright.Text.LetterCase
import Typewright.Text.Lines
import Typewright.Text.Pattern
import Typewright.Text.Printable
import Typewright.Text.Quoted
import Typewright.Text.Utf8
import Typewright.TypeScript.Declaration
import Typewright.TypeScript.File
import Typewright.TypeScript.Helper
import Typewright.TypeScript.Recorded
import Typewright.TypeScript.Scalar
import Typewright.TypeScript.Text
import Typewright.Value
import Typewright.Value.Display
import Typewright.Value.Same
import Typewright.Zod.File
import Typewright.Zod.Schema
