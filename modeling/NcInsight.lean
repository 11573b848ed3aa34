import NcInsight.Editor.Completion
import NcInsight.Editor.Diagnostic
import NcInsight.Editor.Lenses
import NcInsight.Editor.Outline
import NcInsight.Editor.Navigation
import NcInsight.Editor.Position
import NcInsight.Editor.Rename
import NcInsight.Editor.Session
import NcInsight.Editor.Settings
import NcInsight.Json.Basic
import NcInsight.Json.Reader
import NcInsight.Json.Record
import NcInsight.Json.Writer
import NcInsight.Lint.Facts
import NcInsight.Lint.Finding
import NcInsight.Lint.Report
import NcInsight.Lint.Rule
import NcInsight.Number.Binary
import NcInsight.Number.Digits
import NcInsight.Signature.Basic
import NcInsight.Signature.Builtin
import NcInsight.Signature.Help
import NcInsight.Signature.Interchange
import NcInsight.Text.Parts
import NcInsight.Text.Bytes
import NcInsight.Text.Composition
import NcInsight.Text.Direction
import NcInsight.Text.Graphic
import NcInsight.Text.Joining
import NcInsight.Text.Mark
import NcInsight.Toml.Document
import NcInsight.Toml.Reader
import NcInsight.Toml.Scalar
import NcInsight.Tree.Annotate
import NcInsight.Tree.Basic
import NcInsight.Tree.Builder
import NcInsight.Tree.Defect
import NcInsight.Tree.Display
import NcInsight.Tree.Interchange
import NcInsight.Tree.Kind
import NcInsight.Tree.ReferenceTypes
import NcInsight.Tree.Walk
import NcInsight.Url.Basic
import NcInsight.Url.Domain
import NcInsight.Url.Domain.Folding
import NcInsight.Url.Domain.Label
import NcInsight.Url.Host
import NcInsight.Url.Path
import NcInsight.Url.Percent
import NcInsight.Url.Punycode
import NcInsight.Url.Reader
import NcInsight.Workspace.Basic
import NcInsight.Workspace.Record
import NcInsight.Workspace.Reference
import NcInsight.Workspace.Scope
import NcInsight.Proofs.Text.Cut
import NcInsight.Proofs.Tree.Nesting
import NcInsight.Proofs.Tree.Shape
import NcInsight.Proofs.Tree.Building
import NcInsight.Proofs.Tree.Layout
import NcInsight.Proofs.Tree.Cursor
import NcInsight.Proofs.Tree.Pieces
import NcInsight.Proofs.Tree.Annotation
import NcInsight.Proofs.Tree.Renaming
import NcInsight.Proofs.Tree.Validity
import NcInsight.Proofs.Tree.Links
import NcInsight.Proofs.Tree.Walking
import NcInsight.Proofs.Tree.Growth
import NcInsight.Proofs.Workspace.Scripted
import NcInsight.Proofs.Workspace.Files
import NcInsight.Proofs.Workspace.NameIndex
import NcInsight.Proofs.Workspace.Symbols
import NcInsight.Proofs.Editor.Position
import NcInsight.Proofs.Editor.Occurrences
import NcInsight.Proofs.Editor.RenameEdits
import NcInsight.Proofs.Editor.Binding
import NcInsight.Proofs.Editor.AppliedEdits
import NcInsight.Proofs.Editor.Declarations
import NcInsight.Proofs.Editor.RenameRoundTrip
import NcInsight.Proofs.Editor.PreparedRename
import NcInsight.Proofs.Json.Text
import NcInsight.Proofs.Tree.ReferenceTypes
import NcInsight.Proofs.Tree.Interchange
import NcInsight.Proofs.Lint.Run
import NcInsight.Proofs.Lint.Reports
import NcInsight.Proofs.Lint.Provenance
import NcInsight.Proofs.Editor.Resolution
import NcInsight.Proofs.Editor.LinkedNames
import NcInsight.Proofs.Editor.Definition
import NcInsight.Proofs.Editor.Locality
import NcInsight.Proofs.Lint.Includes
import NcInsight.Proofs.Lint.Depth
import NcInsight.Proofs.Lint.Loops
import NcInsight.Proofs.Lint.Conditions
import NcInsight.Proofs.Lint.JumpTargets
import NcInsight.Proofs.Lint.Gotos
import NcInsight.Proofs.Lint.MissingJumps
import NcInsight.Proofs.Tree.Descent
import NcInsight.Proofs.Tree.Traversal
import NcInsight.Proofs.Workspace.History
import NcInsight.Proofs.Lint.Names
import NcInsight.Proofs.Lint.SharedValues
import NcInsight.Proofs.Lint.AddedGotos
import NcInsight.Proofs.Editor.Keywords
import NcInsight.Proofs.Editor.Lines
import NcInsight.Proofs.Signature.Marks
import NcInsight.Proofs.Editor.NextNumber
import NcInsight.Proofs.Workspace.FirstMatch
import NcInsight.Proofs.Tree.Definitions
import NcInsight.Proofs.Workspace.TaggedNames
import NcInsight.Proofs.Editor.TypedWord
