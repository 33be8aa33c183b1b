import VegaAxes.Note
import VegaAxes.DualMetric
import VegaAxes.ReferenceLine
import VegaAxes.Thumbnail
import VegaAxes.Trellis

/-!
# Axis bundles

All axes of one description: one or two that show its labels, the companion with
its sub-labels, and an empty one for each note. The first axis carries the
baseline and makes room for reference lines.
-/

namespace VegaAxes.Axis

structure Binding where
  scaleName : ScaleName
  /-- The type of the scale across; a linear one has the baseline as a mark. -/
  opposingType : Json
  dualMetric : Bool
deriving DecidableEq

namespace Binding

def opposesLinear (b : Binding) : Bool :=
  b.opposingType = .str "linear"

end Binding

def coordinated (b : Binding) (p : Position) (counted : Bool) (axis : Fields) :
    Attempt Context Fields := fun context =>
  match DualMetric.coordinate b.dualMetric b.scaleName.spliced p counted
    |>.run ⟨context, .obj axis⟩ with
  | .ok _ slot => .ok slot.axis.ownFields slot.context
  | .error e slot => .error e slot.context

/-- The axis that the title stands at, with room for sub-labels if there are any. -/
def titled (o : ResolvedAxis) (axis : Fields) : Fields :=
  if o.hasSubLabels then padTitle axis else axis

def timeBundle (o : ResolvedAxis) (b : Binding) : List Fields :=
  titled o (secondaryTime b.scaleName o) :: (time b.scaleName o).tail ++
    if o.hasSubLabels then [subLabels o b.scaleName] else []

/-- The axis and its companion; the companion takes its role first, and is not counted. -/
def plainBundle (o : ResolvedAxis) (b : Binding) : Attempt Context (List Fields) := do
  let companion ←
    if o.hasSubLabels then
      pure [← coordinated b o.position false (subLabels o b.scaleName)]
    else pure []
  let axis ← coordinated b o.position true (titled o (base o b.scaleName))
  return axis :: companion

def labelled (o : ResolvedAxis) (b : Binding) : Attempt Context (List Fields) :=
  match o.labelFormat with
  | .time => pure (timeBundle o b)
  | _ => plainBundle o b

def onFirst (f : Fields → Except Error Fields) : List Fields → Except Error (List Fields)
  | [] => .ok []
  | axis :: axes => (f axis).map (· :: axes)

/-- Draws the baseline along the axis, unless it is a mark. -/
def drawBaseline (o : ResolvedAxis) (b : Binding) (axis : Fields) : Fields :=
  if b.opposesLinear then axis else withBaseline axis (.bool o.baseline)

def hideCovered (o : ResolvedAxis) (b : Binding) (axis : Fields) : Except Error Fields :=
  if Scale.supportsReferenceLines o.scaleType then ReferenceLine.hideLabels axis o b.scaleName
  else .ok axis

def clearThumbnails (o : ResolvedAxis) (axes : List Fields) : Except Error (List Fields) :=
  if Scale.supportsThumbnails o.scaleType then
    (Thumbnail.all o).foldlM
      (fun axes t => axes.mapM (mergeEncode · (t.labelEncoding o.position))) axes
  else .ok axes

def decorate (o : ResolvedAxis) (b : Binding) (axes : List Fields) :
    Except Error (List Fields) := do
  let axes ← onFirst (fun axis => hideCovered o b (drawBaseline o b axis)) axes
  let axes ← clearThumbnails o axes
  return axes ++ (Note.all o).map (Note.layoutAxis b.scaleName)

/-- Every axis of the description, as a header where its scale lays out facets. -/
def bundle (o : ResolvedAxis) (b : Binding) : Attempt Context (List Fields) := do
  let o ← Trellis.withHeader b.scaleName o
  let axes ← labelled o b
  decorate o b axes

end VegaAxes.Axis
