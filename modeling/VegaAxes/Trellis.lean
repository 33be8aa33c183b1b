import VegaAxes.Encoding
import VegaAxes.Json.Access
import VegaAxes.Json.Ascii
import VegaAxes.Options.Written
import VegaAxes.Scale.Name

/-!
# Trellis charts

A trellised chart repeats its marks in a group per facet. The axes of the facets
are drawn inside the group, and a band scale lays the facets out: its own axis
becomes their header.
-/

namespace VegaAxes.Trellis

def groupNames : List String :=
  ["xTrellisGroup", "yTrellisGroup"]

/-- Whether the text of the document mentions a trellis group anywhere. -/
def isMentioned (document : Json) : Bool :=
  groupNames.any fun name => Text.occursIn name.toList document.ascii

def markName (mark : Json) : Except Error Json :=
  (mark.field "name").map (·.orElse (.str ""))

def findGroup? : (start : Nat) → List Json → Except Error (Option Nat)
  | _, [] => .ok none
  | start, mark :: marks => do
    if ← (← markName mark).holds "Trellis" then return some start
    findGroup? (start + 1) marks

def orientation (group : Json) : Except Error Orientation := do
  match ← markName group with
  | .str name => return if Text.startsWith name 'x' then .horizontal else .vertical
  | _ => throw (.unfit .opening)

structure Header where
  position : Position
  /-- Shifts the labels half a band, so that they stand over the facet. -/
  labelOffset : String
  labelPadding : Int
deriving DecidableEq, Repr

namespace Header

/-- Axes on a band scale of facets, and no others, are headers. -/
def ofScale? (scaleName : ScaleName) : Except Error (Option Header) := do
  scaleName.checkSearchable
  if !scaleName.mentions "TrellisBand" then return none
  let half := s!"bandwidth('{scaleName.spliced}') / -2"
  match scaleName.value with
  | .str name =>
    return some (if Text.startsWith name 'x' then ⟨.top, half, 8⟩ else ⟨.left, s!"{half} - 8", 0⟩)
  | _ => throw (.unfit .opening)

def toJson (h : Header) : Json :=
  .obj [("position", Vocabulary.toJson h.position), ("label_font_weight", .str "bold"),
    ("label_align", .null), ("title", .null), ("vega_label_align", .str "left"),
    ("vega_label_baseline", .str "bottom"),
    ("vega_label_offset", Encoding.signal h.labelOffset),
    ("vega_label_padding", .int h.labelPadding)]

def apply (h : Header) (o : ResolvedAxis) : ResolvedAxis :=
  { o with
    position := h.position
    labelFontWeight := "bold"
    labelAlign := none
    title := none
    vegaLabelAlign := some "left"
    vegaLabelBaseline := some "bottom"
    vegaLabelOffset := some (.encoding [("signal", .str h.labelOffset)])
    vegaLabelPadding := some (.int h.labelPadding) }

end Header

def withHeader (scaleName : ScaleName) (o : ResolvedAxis) : Except Error ResolvedAxis :=
  (Header.ofScale? scaleName).map fun
    | some header => header.apply o
    | none => o

structure Facet where
  groupBy : Json
  name : Json
  /-- The band scale that lays the facets out. -/
  scaleName : String

namespace Facet

def ofGroup (group : Json) : Except Error Facet := do
  let source := (← group.field? "from").getD (.obj [])
  let facet := (← source.field? "facet").getD (.obj [])
  let groupBy ← facet.field "groupby"
  let name ← facet.field "name"
  let letter ← ((← group.field "name").orElse (.str "x")).first
  return ⟨groupBy, name, s!"{letter.spliced}TrellisBand"⟩

def toJson (f : Facet) : Json :=
  .obj [("facet_group_by", f.groupBy), ("facet_name", f.name),
    ("trellis_scale_name", .str f.scaleName)]

def isFirst (f : Facet) : String :=
  s!"info(domain('{f.scaleName}')[0] === data('{f.name.spliced}')[0].{f.groupBy.spliced})"

def titleEncoding (f : Facet) : Json :=
  .obj [("update", .obj [("opacity",
    .arr [Encoding.testedValue f.isFirst (.int 1), Encoding.number 0])])]

/-- Shows the axis's title, if it has one, in the first facet only. -/
def encodeTitle (f : Facet) (axis : Json) : Except Error Json := do
  let fields ← axis.fields
  if (fields.getD "title").truthy then
    let encode ← ((fields.get? "encode").getD (.obj [])).spread
    return .obj (fields.set "encode" (.obj (encode.set "title" f.titleEncoding)))
  else return axis

end Facet

def encodeTitles (axes group : Json) : Except Error (List Json) := do
  let facet ← Facet.ofGroup group
  (← axes.elements).mapM facet.encodeTitle

end VegaAxes.Trellis
