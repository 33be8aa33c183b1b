import VegaAxes.Note.Tables
import VegaAxes.Builder.Marks
import VegaAxes.Options.Schema

/-!
# Adding axes

An axis leaves data, signals, axes and marks in the document, in this order. What
was added before a failure stays.
-/

namespace VegaAxes.Builder

def axisSignals (o : ResolvedAxis) (scaleName : String) : List Json :=
  (if o.labels.isEmpty then []
    else [Encoding.namedValue (Axis.labelSignal o)
      (.arr (Label.signalEntries o.labels o.position o.labelOrientation))]) ++
  (if o.hasSubLabels then
    [Encoding.namedValue (Axis.subLabelSignal o) (.arr (SubLabel.signalEntries o))] else []) ++
  (Note.all o).flatMap Note.signals ++
  (Thumbnail.all o).map fun t => Thumbnail.sizeSignal t.name scaleName

/-- Whether the axis is one of two metrics: as described, or else if the chart has series
signals. -/
def isDualMetric (o : AxisOptions) : Build Bool := do
  match o.dualMetricAxis with
  | some dual => return dual
  | none => (← get).hasSignal (.str Theme.firstSeries)

def addData (o : ResolvedAxis) : Build Unit :=
  Attempt.update fun b => do
    return { b with data := ← grow b.data ((Note.all o).flatMap Note.tables) }

def addSignals (o : ResolvedAxis) (scaleName : String) : Build Unit :=
  Attempt.update fun b => do
    return { b with signals := ← grow b.signals (axisSignals o scaleName) }

/-- The axis at chart level, which leaves the grid to the facets of a trellised chart. -/
def chartLevel (b : Builder) (o : ResolvedAxis) : ResolvedAxis :=
  { o with grid := o.grid && !Trellis.isMentioned b.toJson }

/-- Nothing is built where there is no list to take the axes. -/
def addAxes (o : ResolvedAxis) (binding : Axis.Binding) : Build Unit := do
  let _ ← (← get).axes.append []
  let axes ← bundle (chartLevel (← get) o) binding
  Attempt.update fun b => do return { b with axes := ← b.axes.append (axes.map .obj) }

/-- Adds an axis to the document. A null index is the next one. -/
def add (options : AxisOptions) (index : Json) : Build Unit := do
  ensureOpen
  let index ← takeIndex index
  let scale ← bindScale options
  let o ← options.resolveFor scale.type (← get).context.colorScheme index
  let dualMetric ← isDualMetric options
  addData o
  addSignals o scale.name.spliced
  narrowDomain options.range scale
  let binding : Axis.Binding :=
    { scaleName := ⟨scale.name⟩, opposingType := scale.opposingType, dualMetric }
  addAxes o binding
  addMarks o binding scale.dataField

def addDescribed (options index : Json) : Build Unit := do
  ensureOpen
  add (← AxisOptions.ofJson options) index

end VegaAxes.Builder
