import GoSchema.Text.Property
import GoSchema.Text.CaseMap
import GoSchema.Text.Fold
import GoSchema.Naming
import GoSchema.Text.Quoted
import GoSchema.Go.Token.Scanner
import GoSchema.Go.Declaration
import GoSchema.Go.Cursor
import GoSchema.Log
import GoSchema.Go.TypeExpr.Parser
import GoSchema.Go.File
import GoSchema.Json.Basic
import GoSchema.Json.Printer
import GoSchema.Json.Reader
import GoSchema.TextMap
import GoSchema.Schema.Field
import GoSchema.Schema.Document
import GoSchema.Schema.Verify
import GoSchema.Schema.Comment
import GoSchema.Schema.OptionValue
import GoSchema.Schema.Emit
import GoSchema.Schema.Dump
import GoSchema.Pattern.Basic
import GoSchema.Pattern.Class
import GoSchema.Text.Rest
import GoSchema.Pattern.Parser
import GoSchema.File.Path
import GoSchema.File.Tree
import GoSchema.Error
import GoSchema.Package
import GoSchema.Mapping.Overrides
import GoSchema.Mapping.Mapper
import GoSchema.Mapping.Message
import GoSchema.Mapping.Service
import GoSchema.Mapping.Documents
import GoSchema.Generate
import GoSchema.Cli.Arguments
import GoSchema.Cli.Run
import GoSchema.Main
import GoSchema.Proofs.Distinct
import GoSchema.Proofs.TextMap
import GoSchema.Proofs.Text.Lines
import GoSchema.Proofs.Text.Quoted
import GoSchema.Proofs.Text.Classes
import GoSchema.Proofs.Text.CaseMaps
import GoSchema.Proofs.Naming.Words
import GoSchema.Proofs.Naming.ExportedNames
import GoSchema.Proofs.Naming.SchemaNames
import GoSchema.Proofs.Log
import GoSchema.Proofs.File.Path
import GoSchema.Proofs.File.Writing
import GoSchema.Proofs.Go.Movement
import GoSchema.Proofs.Go.Names
import GoSchema.Proofs.Go.Forms
import GoSchema.Proofs.Go.Tiling
import GoSchema.Proofs.Go.Pieces
import GoSchema.Proofs.Go.TypeForms
import GoSchema.Proofs.Go.TypeText
import GoSchema.Proofs.Go.DocText
import GoSchema.Proofs.Go.FileText
import GoSchema.Proofs.Go.ParameterText
import GoSchema.Proofs.Go.InterfaceText
import GoSchema.Proofs.Go.TagEntries
import GoSchema.Proofs.Go.TagText
import GoSchema.Proofs.Go.TagLiterals
import GoSchema.Proofs.Go.RecordText
import GoSchema.Proofs.Go.Steps
import GoSchema.Proofs.Go.Mirroring
import GoSchema.Proofs.Go.Mirroring.Types
import GoSchema.Proofs.Go.Mirroring.Declarations
import GoSchema.Proofs.Go.Items
import GoSchema.Proofs.Go.Turns
import GoSchema.Proofs.Go.Progress
import GoSchema.Proofs.Go.Insertion
import GoSchema.Proofs.Go.CarriageReturns
import GoSchema.Proofs.Go.LineEndings
import GoSchema.Proofs.Go.Brackets
import GoSchema.Proofs.Go.PassedItems
import GoSchema.Proofs.Go.BracketedTypes
import GoSchema.Proofs.Go.TokenLines
import GoSchema.Proofs.Go.CommentBlocks
import GoSchema.Proofs.Go.ItemEnds
import GoSchema.Proofs.Go.DocumentedItems
import GoSchema.Proofs.Go.ItemDocs
import GoSchema.Proofs.Go.FieldLines
import GoSchema.Proofs.Go.InstanceFields
import GoSchema.Proofs.Schema.Verify
import GoSchema.Proofs.Schema.Layout
import GoSchema.Proofs.Schema.Documentation
import GoSchema.Proofs.Schema.Literals
import GoSchema.Proofs.Schema.FirstFault
import GoSchema.Proofs.Schema.Wrapping
import GoSchema.Proofs.Json.Printing
import GoSchema.Proofs.Mapping.Outcome
import GoSchema.Proofs.Mapping.Resolution
import GoSchema.Proofs.Mapping.Fields
import GoSchema.Proofs.Mapping.Addition
import GoSchema.Proofs.Mapping.Assembly
import GoSchema.Proofs.Mapping.Translation
import GoSchema.Proofs.Mapping.Placement
import GoSchema.Proofs.Mapping.Content
import GoSchema.Proofs.Mapping.Closure
import GoSchema.Proofs.Mapping.Order
import GoSchema.Proofs.Mapping.Documentation
import GoSchema.Proofs.Mapping.Imports
import GoSchema.Proofs.Mapping.Verified
import GoSchema.Proofs.Mapping.Grouping
import GoSchema.Proofs.Mapping.Placeholders
import GoSchema.Proofs.Mapping.Overriding
import GoSchema.Proofs.Mapping.DefinitionChains
import GoSchema.Proofs.Mapping.Growth
import GoSchema.Proofs.Mapping.CollectedTags
import GoSchema.Proofs.Mapping.Wrappers
import GoSchema.Proofs.Mapping.Atomicity
import GoSchema.Proofs.Mapping.ListMessages
import GoSchema.Proofs.Mapping.Consistency
import GoSchema.Proofs.Mapping.Labels
import GoSchema.Proofs.Mapping.SourceNames
import GoSchema.Proofs.Mapping.DeclaredDocs
import GoSchema.Proofs.Cli.Effect
import GoSchema.Proofs.Mapping.PrintedTypes
import GoSchema.Proofs.File.Listings
import GoSchema.Proofs.Go.Relocation
import GoSchema.Proofs.Mapping.Listings
import GoSchema.Proofs.Go.Adjacency
import GoSchema.Proofs.Go.CompactText
import GoSchema.Proofs.Go.VerbatimTypes
import GoSchema.Proofs.Mapping.OverrideKeys
import GoSchema.Proofs.Naming.Collisions
