import VegaAxes.Note.Marks
import VegaAxes.Builder.Facets

/-!
# Marks of axes

Reference lines under and over all other marks, the baseline across a linear
scale, the axes of facets, notes and thumbnails, in this order.
-/

namespace VegaAxes.Builder

def addReferenceLines (o : ResolvedAxis) (scaleName : ScaleName) : Build Unit := do
  if Scale.supportsReferenceLines o.scaleType then
    Attempt.update fun b => do
      return { b with marks := ← b.marks.insertBlock (ReferenceLine.layerMarks o scaleName .back) }
    Attempt.update fun b => do
      return { b with marks := ← b.marks.append (ReferenceLine.layerMarks o scaleName .front) }

/-- Marks with a baseline: over the data at zero, and under it at any other offset. -/
def withBaseline (o : ResolvedAxis) (marks : Json) : Except Error Json :=
  let rule := Baseline.rule (.float o.baselineOffset) o.position
  if o.baselineOffset == 0 then marks.append [rule] else marks.prepend rule

/-- Draws the baseline as a mark of the trellis group, or of the document where it has none. -/
def addBaseline (o : ResolvedAxis) (group : Option Nat) : Build Unit :=
  match group with
  | some place => onMark place <| Attempt.update fun fs => do
    return fs.set "marks" (← withBaseline o ((fs.get? "marks").getD (.arr [])))
  | none => Attempt.update fun b => do return { b with marks := ← withBaseline o b.marks }

def addNoteMarks (o : ResolvedAxis) (scaleName : ScaleName) : Build Unit :=
  Attempt.update fun b => do
    return { b with marks := ← grow b.marks ((Note.all o).map (Note.mark scaleName)) }

/-- Thumbnails need a band scale that draws on a data field. -/
def addThumbnailMarks (o : ResolvedAxis) (scaleName : ScaleName) (dataField : Option String) :
    Build Unit := do
  match given dataField with
  | some field =>
    if Scale.supportsThumbnails o.scaleType then
      Attempt.update fun b => do
        return { b with marks := ← b.marks.append (Thumbnail.marks o scaleName.spliced field) }
  | none => return

def addMarks (o : ResolvedAxis) (binding : Axis.Binding) (dataField : Option String) :
    Build Unit := do
  addReferenceLines o binding.scaleName
  let group ← Trellis.findGroup? 0 (← (← get).marks.elements)
  if o.baseline && binding.opposesLinear then addBaseline o group
  if let some place := group then addFacetAxes o binding place
  addNoteMarks o binding.scaleName
  addThumbnailMarks o binding.scaleName dataField

end VegaAxes.Builder
