import SvgPage.Color.Device
import SvgPage.Color.Named
import SvgPage.Color.Read
import SvgPage.Content.LineStyle
import SvgPage.Content.Literal
import SvgPage.Content.Operator
import SvgPage.Content.Outline
import SvgPage.Content.Resource
import SvgPage.Content.Shading
import SvgPage.Content.TextRun
import SvgPage.Converter
import SvgPage.Css.BlendMode
import SvgPage.Css.ClipInsets
import SvgPage.Css.Component
import SvgPage.Css.Declarations
import SvgPage.Css.Escape
import SvgPage.Css.Font
import SvgPage.Css.Length
import SvgPage.Css.Lexeme
import SvgPage.Css.Reference
import SvgPage.Css.Reserved
import SvgPage.Css.Value
import SvgPage.DataUri
import SvgPage.Drawing.Clip
import SvgPage.Drawing.Closing
import SvgPage.Drawing.Convert
import SvgPage.Drawing.Document
import SvgPage.Drawing.Draw
import SvgPage.Drawing.Failure
import SvgPage.Drawing.Ledger
import SvgPage.Drawing.Notice
import SvgPage.Drawing.Opening
import SvgPage.Drawing.Paint
import SvgPage.Drawing.Record
import SvgPage.Drawing.Text
import SvgPage.Drawing.Viewport
import SvgPage.Element.Kind
import SvgPage.Element.Shape
import SvgPage.Element.Use
import SvgPage.Geometry.Arc
import SvgPage.Geometry.Box
import SvgPage.Geometry.Matrix
import SvgPage.Gradient.Basic
import SvgPage.Gradient.Resolve
import SvgPage.Markup.Character
import SvgPage.Markup.Entity
import SvgPage.Markup.Event
import SvgPage.Markup.Reader
import SvgPage.Numeric.Binary
import SvgPage.Numeric.Double
import SvgPage.Numeric.Fixed
import SvgPage.Numeric.Numeral
import SvgPage.Numeric.Scalar
import SvgPage.Numeric.Shortest
import SvgPage.Path.Command
import SvgPage.Path.Pen
import SvgPage.Path.Segment
import SvgPage.Proofs.Color.Read
import SvgPage.Proofs.Content.Fragment
import SvgPage.Proofs.Content.GraphicsState
import SvgPage.Proofs.Content.Numbering
import SvgPage.Proofs.Content.Page
import SvgPage.Proofs.Content.Painting
import SvgPage.Proofs.Content.Pieces
import SvgPage.Proofs.Content.Scanner
import SvgPage.Proofs.Content.Shading
import SvgPage.Proofs.Content.Stitching
import SvgPage.Proofs.Content.Stream
import SvgPage.Proofs.Css.ClipInsets
import SvgPage.Proofs.Css.Declarations
import SvgPage.Proofs.Css.Escape
import SvgPage.Proofs.Css.Lexeme
import SvgPage.Proofs.Css.Value
import SvgPage.Proofs.DataUri
import SvgPage.Proofs.Drawing.Adds
import SvgPage.Proofs.Drawing.Colors
import SvgPage.Proofs.Drawing.Draws
import SvgPage.Proofs.Drawing.Figures
import SvgPage.Proofs.Drawing.Hidden
import SvgPage.Proofs.Drawing.Intends
import SvgPage.Proofs.Drawing.Naming
import SvgPage.Proofs.Drawing.Opacities
import SvgPage.Proofs.Drawing.Opens
import SvgPage.Proofs.Drawing.Outlined
import SvgPage.Proofs.Drawing.Plain
import SvgPage.Proofs.Drawing.Quiet
import SvgPage.Proofs.Drawing.Realizes
import SvgPage.Proofs.Drawing.Records
import SvgPage.Proofs.Drawing.Scope
import SvgPage.Proofs.Drawing.Sheet
import SvgPage.Proofs.Drawing.Spares
import SvgPage.Proofs.Drawing.Tracks
import SvgPage.Proofs.Drawing.Withheld
import SvgPage.Proofs.Element.Alike
import SvgPage.Proofs.Element.Merge
import SvgPage.Proofs.Element.Moved
import SvgPage.Proofs.Element.Reference
import SvgPage.Proofs.Exact
import SvgPage.Proofs.Geometry.Arc
import SvgPage.Proofs.Geometry.Ellipse
import SvgPage.Proofs.Geometry.Fit
import SvgPage.Proofs.Geometry.Flip
import SvgPage.Proofs.Geometry.Insets
import SvgPage.Proofs.Geometry.Outline
import SvgPage.Proofs.Geometry.Transform
import SvgPage.Proofs.Gradient.Chain
import SvgPage.Proofs.Gradient.Coordinates
import SvgPage.Proofs.Gradient.Fractions
import SvgPage.Proofs.Gradient.Placement
import SvgPage.Proofs.Gradient.Resolution
import SvgPage.Proofs.Markup.Matched
import SvgPage.Proofs.Markup.Rooted
import SvgPage.Proofs.Numeric.Bounded
import SvgPage.Proofs.Numeric.FixedPoint
import SvgPage.Proofs.Numeric.Laws
import SvgPage.Proofs.Numeric.Measured
import SvgPage.Proofs.Numeric.Numeral
import SvgPage.Proofs.Numeric.Ordered
import SvgPage.Proofs.Numeric.Rounding
import SvgPage.Proofs.Numeric.SignedZero
import SvgPage.Proofs.Numeric.UnitInterval
import SvgPage.Proofs.Path.Arcs
import SvgPage.Proofs.Path.Bounds
import SvgPage.Proofs.Path.Desugar
import SvgPage.Proofs.Path.Groups
import SvgPage.Proofs.Path.Leading
import SvgPage.Proofs.Path.Printing
import SvgPage.Proofs.Session.Calls
import SvgPage.Proofs.Session.Colors
import SvgPage.Proofs.Session.History
import SvgPage.Proofs.Style.Cascade
import SvgPage.Proofs.Style.Override
import SvgPage.Proofs.Table
import SvgPage.Proofs.Text.Advance
import SvgPage.Proofs.Text.Blank
import SvgPage.Proofs.Text.Encoding
import SvgPage.Proofs.Text.Lays
import SvgPage.Proofs.Text.Stretch
import SvgPage.Proofs.Text.Styling
import SvgPage.Proofs.Text.Whitespace
import SvgPage.Proofs.Traversal.Action
import SvgPage.Proofs.Traversal.Balance
import SvgPage.Proofs.Traversal.Behind
import SvgPage.Proofs.Traversal.Captures
import SvgPage.Proofs.Traversal.ClipPaths
import SvgPage.Proofs.Traversal.ClipStyles
import SvgPage.Proofs.Traversal.Collects
import SvgPage.Proofs.Traversal.Colors
import SvgPage.Proofs.Traversal.Conversion
import SvgPage.Proofs.Traversal.Definitions
import SvgPage.Proofs.Traversal.Embeds
import SvgPage.Proofs.Traversal.Enclosed
import SvgPage.Proofs.Traversal.Expansion
import SvgPage.Proofs.Traversal.Handles
import SvgPage.Proofs.Traversal.Hidden
import SvgPage.Proofs.Traversal.Inlining
import SvgPage.Proofs.Traversal.Keeps
import SvgPage.Proofs.Traversal.Layers
import SvgPage.Proofs.Traversal.Layout
import SvgPage.Proofs.Traversal.Limits
import SvgPage.Proofs.Traversal.Lineages
import SvgPage.Proofs.Traversal.Mirror
import SvgPage.Proofs.Traversal.Moved
import SvgPage.Proofs.Traversal.Naming
import SvgPage.Proofs.Traversal.Nesting
import SvgPage.Proofs.Traversal.Opacities
import SvgPage.Proofs.Traversal.Opacity
import SvgPage.Proofs.Traversal.Output
import SvgPage.Proofs.Traversal.Reached
import SvgPage.Proofs.Traversal.Recorded
import SvgPage.Proofs.Traversal.Restores
import SvgPage.Proofs.Traversal.Rules
import SvgPage.Proofs.Traversal.Run
import SvgPage.Proofs.Traversal.Shown
import SvgPage.Proofs.Traversal.Spares
import SvgPage.Proofs.Traversal.Stage
import SvgPage.Proofs.Traversal.Tag
import SvgPage.Proofs.Traversal.Transcript
import SvgPage.Proofs.Traversal.Transforms
import SvgPage.Proofs.Traversal.Trees
import SvgPage.Proofs.Traversal.Turns
import SvgPage.Proofs.Traversal.Unlinked
import SvgPage.Proofs.Traversal.Unseen
import SvgPage.Proofs.Traversal.Uses
import SvgPage.Style.Basic
import SvgPage.Style.Changes
import SvgPage.Style.Property
import SvgPage.Style.Stroke
import SvgPage.Table
import SvgPage.Text.Base64
import SvgPage.Text.Blank
import SvgPage.Text.Case
import SvgPage.Text.CaseRuns
import SvgPage.Text.Percent
import SvgPage.Text.Units
import SvgPage.Text.Utf8
import SvgPage.Transform
import SvgPage.Viewport
