import VegaAxes.Axis.Bundle
import VegaAxes.Builder
import VegaAxes.Builder.ScaleBinding

/-!
# Axes of facets

In a trellised chart every axis is repeated within the trellis group. Along the
facets it is bound to a scale of the group; across them it is drawn bare.
-/

namespace VegaAxes.Builder

def markAt (b : Builder) (place : Nat) : Fields :=
  match b.marks with
  | .arr marks => match marks[place]? with
    | some (.obj fs) => fs
    | _ => []
  | _ => []

def setMark (b : Builder) (place : Nat) (fs : Fields) : Builder :=
  match b.marks with
  | .arr marks => { b with marks := .arr (marks.set place (.obj fs)) }
  | _ => b

def onMark (place : Nat) (x : Attempt Fields α) : Build α :=
  Attempt.within (·.markAt place) (·.setMark place) x

def bundle (o : ResolvedAxis) (binding : Axis.Binding) : Build (List Fields) :=
  Attempt.within Builder.context (fun b context => { b with context }) (Axis.bundle o binding)

/-- The scale of an axis within a group. One that is added is kept only if the group has scales. -/
def bindGroupScale (p : Position) : Attempt Fields Fields := do
  let given := (← get).get? "scales"
  let bound ← Scale.resolve (given.getD (.arr [])) p
  if given.isSome then modify (·.set "scales" bound.scales)
  bound.scale.fields

/-- The axis within a facet of the direction across: without labels, and the title
already stands at chart level. -/
def acrossFacets (o : ResolvedAxis) : ResolvedAxis :=
  { o with hideDefaultLabels := true, title := none }

def facetBundle (o : ResolvedAxis) (binding : Axis.Binding) (place : Nat) :
    Build (List Fields) := do
  let direction ← Trellis.orientation (.obj ((← get).markAt place))
  if direction = o.position.orientation then
    let scale ← onMark place (bindGroupScale o.position)
    let name ← nameOf scale
    let type := (scale.getD "type").orElse (.str "linear")
    let axes ← bundle { o with scaleType := type.spliced }
      { binding with scaleName := ⟨name⟩, dualMetric := false }
    type.checkWord
    return axes
  else bundle (acrossFacets o) { binding with dualMetric := false }

def addFacetAxes (o : ResolvedAxis) (binding : Axis.Binding) (place : Nat) : Build Unit := do
  let axes ← facetBundle o binding place
  onMark place <| Attempt.update fun group => do
    let old ← ((group.get? "axes").getD (.arr [])).elements
    let new ← Trellis.encodeTitles (.arr (axes.map .obj)) (.obj group)
    return group.set "axes" (.arr (old ++ new))

end VegaAxes.Builder
