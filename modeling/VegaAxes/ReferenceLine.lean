import VegaAxes.Axis.Parts
import VegaAxes.Theme

/-!
# Reference lines and baselines

A reference line crosses the plot area at one value of an axis, with an icon and a
label if they are given. Axis labels too close to a centered icon or label are hidden.
Across a linear scale the baseline of an axis is a mark as well, at an offset on that
scale.
-/

namespace VegaAxes

structure ReferenceLine where
  name : String
  value : AxisValue
  color : String
  colorScheme : ColorScheme
  icon : Option String
  iconColor : String
  label : Option String
  labelColor : String
  labelFontWeight : String
  layer : Layer
  position : LinePosition
  strokeDash : List Number
deriving DecidableEq

namespace ReferenceLine

def ofOptions (o : ResolvedAxis) (index : Nat) (line : ReferenceLineOptions) : ReferenceLine where
  name := s!"{o.name}ReferenceLine{index}"
  value := line.value
  color := (given line.color).getD Theme.referenceLineColor
  colorScheme := o.colorScheme
  icon := line.icon
  iconColor := (given line.iconColor).getD Theme.fontColor
  label := line.label
  labelColor := (given line.labelColor).getD Theme.fontColor
  labelFontWeight := (given line.labelFontWeight).getD Theme.labelFontWeight
  layer := line.layer
  position := line.position
  strokeDash := Theme.strokeDash line.lineStyle

def all (o : ResolvedAxis) : List ReferenceLine :=
  o.referenceLines.mapIdx (ofOptions o)

def toJson (l : ReferenceLine) : Json :=
  .obj [("name", .str l.name), ("value", l.value.toJson), ("color", .str l.color),
    ("color_scheme", Vocabulary.toJson l.colorScheme), ("icon", textJson l.icon),
    ("icon_color", .str l.iconColor), ("label", textJson l.label),
    ("label_color", .str l.labelColor), ("label_font_weight", .str l.labelFontWeight),
    ("layer", Vocabulary.toJson l.layer), ("position", Vocabulary.toJson l.position),
    ("stroke_dash", .arr (l.strokeDash.map Number.toJson))]

def literal : AxisValue → String
  | .text s => s!"'{s}'"
  | .float x => Decimal.Style.plain.text x
  | .int n => toString n

/-- Whether the line has something drawn where its value's axis label stands. -/
def coversLabels (l : ReferenceLine) : Bool :=
  ((given l.icon).isSome || (given l.label).isSome) && l.position = .center

/-- Labels closer than this are hidden. -/
def clearance : Nat := 30

/-- Blanks the label of a value that is too close to the line. -/
def hidingRule (scaleName : ScaleName) (l : ReferenceLine) : Json :=
  let name := scaleName.spliced
  Encoding.testedValue
    s!"abs(scale('{name}', {literal l.value}) - scale('{name}', datum.value)) < {clearance}"
    (.str "")

def hidingRules (o : ResolvedAxis) (scaleName : ScaleName) : List Json :=
  ((all o).filter coversLabels).map (hidingRule scaleName)

/-- Puts the hiding rules before the text rules of the axis, if it has a list of them. -/
def hideLabels (axis : Fields) (o : ResolvedAxis) (scaleName : ScaleName) :
    Except Error Fields := do
  match ← (Json.obj axis).descend Encoding.labelTextPath with
  | some (.arr rules) =>
    return axis.modifyPath (fun _ => .arr (hidingRules o scaleName ++ rules))
      Encoding.labelTextPath
  | _ => return axis

def place (scaleName : ScaleName) (l : ReferenceLine) : Fields :=
  [("scale", scaleName.value), ("value", l.value.toJson)]

def ruleUpdate (o : ResolvedAxis) (place : Fields) : Fields :=
  let start : Int := if o.ticks then 9 else 0
  match o.position with
  | .top => [("x", .obj place), ("y", Encoding.number (-start)), ("y2", Encoding.signal "height")]
  | .bottom =>
    [("x", .obj place), ("y", Encoding.number 0), ("y2", Encoding.signal s!"height + {start}")]
  | .left => [("x", Encoding.number (-start)), ("x2", Encoding.signal "width"), ("y", .obj place)]
  | .right =>
    [("x", Encoding.number 0), ("x2", Encoding.signal s!"width + {start}"), ("y", .obj place)]

def ruleMark (o : ResolvedAxis) (scaleName : ScaleName) (l : ReferenceLine) : Json :=
  .obj [("name", .str l.name),
    ("type", .str "rule"),
    ("interactive", .bool false),
    ("encode", .obj [
      ("enter", .obj [("stroke", Encoding.text (Theme.color l.colorScheme l.color)),
        ("strokeDash", Encoding.value (.arr (l.strokeDash.map Number.toJson)))]),
      ("update", .obj (ruleUpdate o (place scaleName l)))])]

/-- Outside the plot area by an offset; beside a vertical axis possibly shifted off the line. -/
def outside (p : Position) (offset : Int) (place : Fields) (sideShift : Option Int) : Fields :=
  let side := place ++ match sideShift with
    | some shift => [("offset", .int shift)]
    | none => []
  match p with
  | .top => [("x", .obj place), ("y", Encoding.number (-offset))]
  | .bottom => [("x", .obj place), ("y", Encoding.signal s!"height + {offset}")]
  | .left => [("x", Encoding.number (-offset)), ("y", .obj side)]
  | .right => [("x", Encoding.signal s!"width + {offset}"), ("y", .obj side)]

def symbolMark (o : ResolvedAxis) (scaleName : ScaleName) (l : ReferenceLine) (icon : String) :
    Json :=
  .obj [("name", .str s!"{l.name}_symbol"),
    ("type", .str "symbol"),
    ("encode", .obj [
      ("enter", .obj [("shape", Encoding.text (Theme.iconPath icon)),
        ("size", Encoding.number 324),
        ("fill", Encoding.text (Theme.color l.colorScheme l.iconColor))]),
      ("update", .obj (outside o.position 24 (place scaleName l) none))])]

/-- The label stands outside the icon when both are drawn. -/
def textMark (o : ResolvedAxis) (scaleName : ScaleName) (l : ReferenceLine) (label : String) :
    Json :=
  let offset := if (given l.icon).isSome then 50 else 28
  let centering := if o.position.isVertical then ("baseline", Encoding.text "middle")
    else ("align", Encoding.text "center")
  .obj [("name", .str s!"{l.name}_label"),
    ("type", .str "text"),
    ("encode", .obj [("update", .obj (
      [("text", .arr [Encoding.text label]),
        ("fontWeight", .arr [Encoding.text l.labelFontWeight]),
        ("fill", Encoding.text (Theme.color l.colorScheme l.labelColor)),
        centering] ++
      outside o.position offset (place scaleName l) (some 4)))])]

def marks (o : ResolvedAxis) (scaleName : ScaleName) (l : ReferenceLine) : List Json :=
  ruleMark o scaleName l ::
    ((given l.icon).toList.map (symbolMark o scaleName l) ++
      (given l.label).toList.map (textMark o scaleName l))

def layerMarks (o : ResolvedAxis) (scaleName : ScaleName) (layer : Layer) : List Json :=
  ((all o).filter (·.layer = layer)).flatMap (marks o scaleName)

end ReferenceLine

namespace Baseline

def name (p : Position) : String :=
  if p.isVertical then "yBaseline" else "xBaseline"

def update (offset : Json) (p : Position) : Fields :=
  let place := Json.obj [("scale", .str p.opposingExtent.defaultScaleName), ("value", offset)]
  if p.isVertical then
    [("x", place), ("y", Encoding.number 0), ("y2", Encoding.signal "height")]
  else [("x", Encoding.number 0), ("x2", Encoding.signal "width"), ("y", place)]

def rule (offset : Json) (p : Position) : Json :=
  .obj [("name", .str (name p)),
    ("description", .str (name p)),
    ("type", .str "rule"),
    ("interactive", .bool false),
    ("encode", .obj [("update", .obj (update offset p))])]

end Baseline

end VegaAxes
