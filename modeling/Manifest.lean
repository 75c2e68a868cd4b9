import Manifest.Collection.Absorb
import Manifest.Collection.Basic
import Manifest.Collection.Equality
import Manifest.Collection.Error
import Manifest.Collection.Patch
import Manifest.Collection.Pool
import Manifest.Collection.Query
import Manifest.Collection.Workspace
import Manifest.Fields
import Manifest.Identity.Gvk
import Manifest.Identity.Kind
import Manifest.Identity.ResourceId
import Manifest.Json.Basic
import Manifest.Json.Number
import Manifest.Json.Outline
import Manifest.Json.Printer
import Manifest.Json.Reader
import Manifest.Node.Basic
import Manifest.Node.Decode
import Manifest.Node.Edit
import Manifest.Node.Equality
import Manifest.Node.Error
import Manifest.Node.Lookup
import Manifest.Node.Metadata
import Manifest.Node.Scalar
import Manifest.Number.Binary64
import Manifest.Number.Decimal
import Manifest.Number.FloatText
import Manifest.Number.Shortest
import Manifest.Outcome
import Manifest.Patch.Comparison
import Manifest.Patch.Directive
import Manifest.Patch.Overlay
import Manifest.Patch.Strategic
import Manifest.Path
import Manifest.Pattern.Assertion
import Manifest.Pattern.Automaton
import Manifest.Pattern.Basic
import Manifest.Pattern.ByteRange
import Manifest.Pattern.Matching
import Manifest.Pattern.Meaning
import Manifest.Pattern.Notation
import Manifest.Pattern.OfText
import Manifest.Pattern.Property
import Manifest.Pattern.Reader
import Manifest.Proofs.Change.Atomic
import Manifest.Proofs.Change.Simulation
import Manifest.Proofs.Collection.Aliasing
import Manifest.Proofs.Collection.Annotated
import Manifest.Proofs.Collection.Appended
import Manifest.Proofs.Collection.Batch
import Manifest.Proofs.Collection.Distinct
import Manifest.Proofs.Collection.Draft
import Manifest.Proofs.Collection.Equality
import Manifest.Proofs.Collection.Following
import Manifest.Proofs.Collection.Grouping
import Manifest.Proofs.Collection.Operation
import Manifest.Proofs.Collection.Patched
import Manifest.Proofs.Collection.Pointwise
import Manifest.Proofs.Collection.Position
import Manifest.Proofs.Collection.References
import Manifest.Proofs.Collection.Reload
import Manifest.Proofs.Collection.Reordering
import Manifest.Proofs.Collection.Resolution
import Manifest.Proofs.Collection.RoundTrip
import Manifest.Proofs.Collection.Run
import Manifest.Proofs.Collection.Sharing
import Manifest.Proofs.Collection.Stripped
import Manifest.Proofs.Collection.Targets
import Manifest.Proofs.Collection.Workspace
import Manifest.Proofs.Fields
import Manifest.Proofs.Fields.Edit
import Manifest.Proofs.Identity.Gvk
import Manifest.Proofs.Node.Decode
import Manifest.Proofs.Node.Edit
import Manifest.Proofs.Node.Fields
import Manifest.Proofs.Node.Leaf
import Manifest.Proofs.Node.Lookup
import Manifest.Proofs.Node.Metadata
import Manifest.Proofs.Node.Overlaid
import Manifest.Proofs.Node.Overlay
import Manifest.Proofs.Node.Printed
import Manifest.Proofs.Node.Refused
import Manifest.Proofs.Node.Same
import Manifest.Proofs.Node.Setter
import Manifest.Proofs.Node.Similar
import Manifest.Proofs.Node.Unwrapped
import Manifest.Proofs.Node.Walk
import Manifest.Proofs.Node.WellFormed
import Manifest.Proofs.Node.Written
import Manifest.Proofs.Patch.Agreement
import Manifest.Proofs.Patch.Annotations
import Manifest.Proofs.Patch.Comparison
import Manifest.Proofs.Patch.Decoded
import Manifest.Proofs.Patch.Deletion
import Manifest.Proofs.Patch.Difference
import Manifest.Proofs.Patch.Directive
import Manifest.Proofs.Patch.DirectiveFree
import Manifest.Proofs.Patch.Elements
import Manifest.Proofs.Patch.Frame
import Manifest.Proofs.Patch.Keyed
import Manifest.Proofs.Patch.Metadata
import Manifest.Proofs.Patch.Paired
import Manifest.Proofs.Patch.Printed
import Manifest.Proofs.Patch.Refusal
import Manifest.Proofs.Patch.Repeated
import Manifest.Proofs.Patch.Strategic
import Manifest.Proofs.Path
import Manifest.Proofs.Path.Printed
import Manifest.Proofs.Pattern.Anchored
import Manifest.Proofs.Pattern.AnchoredReading
import Manifest.Proofs.Pattern.Bounds
import Manifest.Proofs.Pattern.Frame
import Manifest.Proofs.Pattern.FramedBrackets
import Manifest.Proofs.Pattern.FramedEscapes
import Manifest.Proofs.Pattern.FramedGroups
import Manifest.Proofs.Pattern.FramedText
import Manifest.Proofs.Pattern.Matching
import Manifest.Proofs.Pattern.Positions
import Manifest.Proofs.Resource.Annotated
import Manifest.Proofs.Resource.Equality
import Manifest.Proofs.Resource.Merge
import Manifest.Proofs.Resource.Printed
import Manifest.Proofs.Resource.Refused
import Manifest.Proofs.Resource.Reload
import Manifest.Proofs.Resource.Remerged
import Manifest.Proofs.Resource.Renaming
import Manifest.Proofs.Resource.Retyped
import Manifest.Proofs.Resource.Stream
import Manifest.Proofs.Resource.Stripped
import Manifest.Proofs.Resource.Unfolding
import Manifest.Proofs.Result
import Manifest.Proofs.Selector.Anchored
import Manifest.Proofs.Selector.Grammar
import Manifest.Proofs.Selector.Printed
import Manifest.Proofs.Text
import Manifest.Proofs.Value
import Manifest.Proofs.Value.Fields
import Manifest.Proofs.Value.Overlay
import Manifest.Proofs.Value.Write
import Manifest.Proofs.Yaml.Constant
import Manifest.Proofs.Yaml.Constant.Printing
import Manifest.Proofs.Yaml.Constant.Reading
import Manifest.Proofs.Yaml.Loaded
import Manifest.Record.Basic
import Manifest.Record.Json
import Manifest.Record.Source
import Manifest.Record.Yaml
import Manifest.Resource.Basic
import Manifest.Resource.Behavior
import Manifest.Resource.BuildNote
import Manifest.Resource.Stream
import Manifest.Selector.Basic
import Manifest.Selector.Error
import Manifest.Selector.LabelSelector
import Manifest.Selector.Requirement
import Manifest.Selector.Token
import Manifest.StringMap
import Manifest.Text.Age
import Manifest.Text.Blank
import Manifest.Text.Boundary
import Manifest.Text.CaseChange
import Manifest.Text.CaseFold
import Manifest.Text.Category
import Manifest.Text.CodeRun
import Manifest.Text.CodeSet
import Manifest.Text.Emoji
import Manifest.Text.Identifier
import Manifest.Text.Ideograph
import Manifest.Text.Letter
import Manifest.Text.Mark
import Manifest.Text.NamedSet
import Manifest.Text.Numeral
import Manifest.Text.Pieces
import Manifest.Text.Property
import Manifest.Text.Quoted
import Manifest.Text.Script
import Manifest.Text.Sign
import Manifest.Text.Visible
import Manifest.Transformer.FileTree
import Manifest.Transformer.Finding
import Manifest.Transformer.Patch
import Manifest.Value
import Manifest.Yaml.Atom
import Manifest.Yaml.Character
import Manifest.Yaml.Cursor
import Manifest.Yaml.Document
import Manifest.Yaml.Expansion
import Manifest.Yaml.Printer
import Manifest.Yaml.Skeleton
import Manifest.Yaml.Tag
import Manifest.Yaml.Token.Basic
import Manifest.Yaml.Token.Mark
import Manifest.Yaml.Token.Scalar
import Manifest.Yaml.Token.Scan
import Manifest.Yaml.Tree
