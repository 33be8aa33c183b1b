import VegaAxes.Json
import VegaAxes.Number
import VegaAxes.Vocabulary

/-!
# Axis descriptions

`AxisOptions` is what a caller describes, `ResolvedAxis` the same axis with
every default filled in for one compile pass. Both share `AxisFeatures`.
-/

namespace VegaAxes

inductive AxisValue where
  | text (s : String)
  | float (x : Float)
  | int (n : Int)
deriving DecidableEq

structure Label where
  value : AxisValue
  label : Option String := none
  align : Option LabelAlign := none
  fontWeight : Option String := none
deriving DecidableEq

inductive AxisLabel where
  | plain (value : AxisValue)
  | styled (label : Label)
deriving DecidableEq

namespace AxisLabel

def value : AxisLabel → AxisValue
  | plain v => v
  | styled l => l.value

def style? : AxisLabel → Option Label
  | plain _ => none
  | styled l => some l

end AxisLabel

structure SubLabel where
  value : AxisValue
  subLabel : String
  align : Option LabelAlign := none
  fontWeight : Option String := none
deriving DecidableEq

inductive LineStyle where
  | named (type : LineType)
  | dashes (lengths : List Number)
deriving DecidableEq

structure ReferenceLineOptions where
  value : AxisValue
  icon : Option String := none
  label : Option String := none
  color : Option String := none
  iconColor : Option String := none
  labelColor : Option String := none
  labelFontWeight : Option String := none
  layer : Layer := .front
  position : LinePosition := .center
  lineStyle : LineStyle := .named .solid
deriving DecidableEq

structure NoteDetail where
  id : String
  color : Option String := none
deriving DecidableEq

structure NoteOptions where
  name : Option String := none
  format : Option NoteFormat := none
  offset : Option Number := none
  color : Option String := none
  dataKey : Option String := none
  details : List NoteDetail := []
  hasPopover : Bool := false
deriving DecidableEq

structure ThumbnailOptions where
  urlKey : Option String := none
deriving DecidableEq

inductive Title where
  | line (s : String)
  | lines (ss : List String)
deriving DecidableEq

inductive LabelOffset where
  | pixels (x : Float)
  | encoding (fields : Fields)
deriving DecidableEq

structure AxisFeatures where
  position : Position
  baseline : Bool := false
  baselineOffset : Float := 0
  granularity : Granularity := .day
  grid : Bool := false
  hideDefaultLabels : Bool := false
  labelFontWeight : String := "normal"
  labelOrientation : Orientation := .horizontal
  labels : List AxisLabel := []
  numberFormat : String := "shortNumber"
  range : Option (Float × Float) := none
  subLabels : List SubLabel := []
  ticks : Bool := false
  tickCountLimit : Option Int := none
  tickMinStep : Option Float := none
  title : Option Title := none
  truncateLabels : Bool := false
  hasTooltip : Bool := false
  dualMetricAxis : Option Bool := none
  referenceLines : List ReferenceLineOptions := []
  notes : List NoteOptions := []
  thumbnails : List ThumbnailOptions := []
  /-- Raw label properties, written to the axis as they are. -/
  vegaLabelAlign : Option String := none
  vegaLabelBaseline : Option String := none
  vegaLabelOffset : Option LabelOffset := none
  vegaLabelPadding : Option Number := none
deriving DecidableEq

structure AxisOptions extends AxisFeatures where
  /-- The scale's name, where the caller knows it. -/
  name : Option String := none
  labelAlign : LabelAlign := .center
  labelFormat : Option LabelFormat := none
deriving DecidableEq

structure ResolvedAxis extends AxisFeatures where
  /-- Starts the names of all that is generated for the axis. -/
  name : String
  index : Int := 0
  colorScheme : ColorScheme := .light
  scaleType : String := "linear"
  labelAlign : Option LabelAlign := some .center
  labelFormat : LabelFormat := .linear
deriving DecidableEq

/-- What to read as unset: an absent text and an empty one. -/
def given : Option String → Option String
  | some "" => none
  | s => s

def defaultLabelFormat (scaleType : String) : LabelFormat :=
  if scaleType = "time" ∨ scaleType = "utc" then .time else .linear

def AxisOptions.resolve (o : AxisOptions) (scaleType : Option String) (colorScheme : ColorScheme)
    (index : Int) : ResolvedAxis :=
  let scaleType := (given scaleType).getD "linear"
  { o.toAxisFeatures with
    name := s!"axis{index}"
    index
    colorScheme
    scaleType
    labelAlign := some o.labelAlign
    labelFormat := o.labelFormat.getD (defaultLabelFormat scaleType) }

end VegaAxes
