import VegaAxes.Service
import VegaAxes.Proofs.Builder.DrawnMarks
import VegaAxes.Proofs.Builder.Runs
import VegaAxes.Proofs.Json.Growth
import VegaAxes.Proofs.Builder.Conservation
import VegaAxes.Proofs.Builder.MetricAxes
import VegaAxes.Proofs.Builder.Resumption
import VegaAxes.Proofs.Document.Validity
import VegaAxes.Proofs.Text.Endings
import VegaAxes.Proofs.Builder.GeneratedNames
import VegaAxes.Proofs.Builder.GroupValidity
import VegaAxes.Proofs.Builder.MarkValidity
import VegaAxes.Proofs.Builder.WellFormed
import VegaAxes.Proofs.Compile
import VegaAxes.Proofs.Scale.Names
import VegaAxes.Proofs.Builder.OpposingTypes
import VegaAxes.Proofs.Builder.ScaleRanges
import VegaAxes.Proofs.Builder.Unshown
import VegaAxes.Proofs.Builder.NotePieces
import VegaAxes.Proofs.Builder.Sides
import VegaAxes.Proofs.Builder.UndrawnLines
import VegaAxes.Proofs.Builder.UndrawnThumbnails
import VegaAxes.Proofs.Builder.GridLines
import VegaAxes.Proofs.Builder.FacetScales
import VegaAxes.Proofs.Builder.BaselineScales
import VegaAxes.Proofs.Service.Answers
import VegaAxes.Proofs.Document.Unread
import VegaAxes.Proofs.Document.Grammar
import VegaAxes.Proofs.Service.Agreement
import VegaAxes.Proofs.Builder.BareFacets
import VegaAxes.Proofs.Builder.Layers
import VegaAxes.Proofs.Builder.MarkNames
import VegaAxes.Proofs.Builder.Nulls
import VegaAxes.Proofs.Builder.AxisShape
import VegaAxes.Proofs.Builder.Lifecycle
import VegaAxes.Proofs.Builder.Indices
import VegaAxes.Proofs.Builder.Baselines
import VegaAxes.Proofs.Axis.Fallbacks
import VegaAxes.Proofs.Options.Normalization
import VegaAxes.Proofs.Builder.Domains
import VegaAxes.Proofs.Axis.RawLabels
import VegaAxes.Proofs.Builder.LabelSignals
import VegaAxes.Proofs.Axis.RoleStyle
import VegaAxes.Proofs.Axis.QuotedValues
import VegaAxes.Proofs.Builder.Truncation
import VegaAxes.Proofs.Builder.Spelling
import VegaAxes.Proofs.Json.MergeAlgebra
