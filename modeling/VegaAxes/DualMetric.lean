import VegaAxes.Attempt
import VegaAxes.Axis.Parts
import VegaAxes.Context
import VegaAxes.Theme

/-!
# Dual metric axes

A chart with two metrics has a primary and a secondary metric axis, each with a
scale of its own. The first metric axis of a build is primary and all later ones
are secondary; an axis and its sub-label companion count as one.
-/

namespace VegaAxes

inductive MetricRole where
  | primary | secondary
deriving DecidableEq, Repr

namespace MetricRole

def scaleName (scaleName : String) : MetricRole → String
  | primary => s!"{scaleName}Primary"
  | secondary => s!"{scaleName}Secondary"

end MetricRole

/-- Vertical charts measure along the left and right axes, horizontal ones along top and bottom. -/
def Position.isMetric (p : Position) (chart : Orientation) : Bool :=
  match chart with
  | .vertical => p.isVertical
  | .horizontal => !p.isVertical

namespace DualMetric

def fade (test : String) : Json :=
  .arr [Encoding.testedValue test (.float 0.2)]

def seriesColor (series : String) : String :=
  s!"scale('{Theme.colorScale}', {series})"

/-- Colored like the series if only one is drawn; faded while the other series is hovered. -/
def primaryStyle (scheme : ColorScheme) : Json :=
  let oneSeries := s!"length(domain('{Theme.colorScale}')) -1 === 1"
  .obj [("update", .obj [
    ("fill", .arr [Encoding.testedSignal oneSeries (seriesColor Theme.firstSeries),
      Encoding.text (Theme.color scheme Theme.fontColor)]),
    ("fillOpacity", fade s!"{Theme.hoveredSeries} === {Theme.lastSeries}")])]

def secondaryStyle : Json :=
  let hovered := Theme.hoveredSeries
  .obj [("enter", .obj [("fill", .arr [Encoding.signal (seriesColor Theme.lastSeries)])]),
    ("update", .obj [
      ("fillOpacity", fade s!"isValid({hovered}) && {hovered} !== {Theme.lastSeries}")])]

def style (scheme : ColorScheme) : MetricRole → Json
  | .primary => primaryStyle scheme
  | .secondary => secondaryStyle

/-- Labels and title have the same style. -/
def encodings (scheme : ColorScheme) (role : MetricRole) : Fields :=
  [("labels", style scheme role), ("title", style scheme role)]

def applyStyle (scheme : ColorScheme) (role : MetricRole) (axis : Fields) : Except Error Fields :=
  Axis.mergeEncode axis (encodings scheme role)

structure Slot where
  context : Context
  axis : Json
deriving DecidableEq

/-- Gives the axis, which must be an object, the scale and the style of its role. -/
def assign (role : MetricRole) (scaleName : String) (scheme : ColorScheme) : Attempt Json Unit := do
  let axis := (← (← get).record).set "scale" (.str (role.scaleName scaleName))
  set (Json.obj axis)
  set (Json.obj (← applyStyle scheme role axis))

def nextRole (count : Json) : MetricRole :=
  if count.isZero then .primary else .secondary

/-- Gives the axis its role if it is a metric axis. Of an axis and its companion,
only the axis itself is counted. -/
def coordinate (dualMetric : Bool) (scaleName : String) (p : Position) (counted : Bool) :
    Attempt Slot Unit := do
  let context := (← get).context
  if dualMetric && p.isMetric context.orientation then
    let count := if context.metricAxisCount = .null then .int 0 else context.metricAxisCount
    modify fun s => { s with context.metricAxisCount := count }
    Attempt.within Slot.axis (fun s axis => { s with axis })
      (assign (nextRole count) scaleName context.colorScheme)
    if counted then
      let next ← count.successor
      modify fun s => { s with context.metricAxisCount := next }

end DualMetric

end VegaAxes
