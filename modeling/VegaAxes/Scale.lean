import VegaAxes.Json.Access

/-!
# Scales

An axis binds to the scale that occupies its range of the plot area. Where no
scale does, a linear one is added to the document's scales, so that later axes
of the same build find it.
-/

namespace VegaAxes

inductive Extent where
  | width | height
deriving DecidableEq, Repr

namespace Extent

def word : Extent → String
  | width => "width"
  | height => "height"

def other : Extent → Extent
  | width => height
  | height => width

def defaultScaleName : Extent → String
  | width => "xLinear"
  | height => "yLinear"

def defaultScale (e : Extent) : Json :=
  .obj [("name", .str e.defaultScaleName), ("type", .str "linear"), ("range", .str e.word)]

end Extent

namespace Position

def extent (p : Position) : Extent :=
  if p.isVertical then .height else .width

def opposingExtent (p : Position) : Extent :=
  p.extent.other

end Position

namespace Scale

def occupies (e : Extent) (scale : Json) : Except Error Bool :=
  (scale.field "range").map fun range => decide (range = .str e.word)

/-- The places of the scales that occupy the range, `start` being the place of the first one. -/
def occupants (e : Extent) : (start : Nat) → List Json → Except Error (List Nat)
  | _, [] => .ok []
  | start, scale :: scales => do
    let here ← occupies e scale
    let rest ← occupants e (start + 1) scales
    return if here then start :: rest else rest

def firstTrellis? : (start : Nat) → List Json → Except Error (Option Nat)
  | _, [] => .ok none
  | start, scale :: scales => do
    let name ← scale.field? "name"
    if ← (name.getD (.str "")).holds "Trellis" then return some start
    firstTrellis? (start + 1) scales

/-- The place of the scale that an axis of the range binds to. With several
occupants a facet scale of the document goes before the first of them. -/
def find? (e : Extent) (scales : List Json) : Except Error (Option Nat) := do
  match ← occupants e 0 scales with
  | [] => return none
  | [place] => return some place
  | place :: _ => return some ((← firstTrellis? 0 scales).getD place)

structure Bound where
  scales : Json
  place : Nat
  scale : Json

/-- The scale for an axis, added if no scale occupies its range. -/
def resolve (scales : Json) (p : Position) : Except Error Bound := do
  let items ← scales.elements
  match ← find? p.extent items with
  | some place => return ⟨scales, place, items.getD place .null⟩
  | none =>
    let scale := p.extent.defaultScale
    return ⟨← scales.append [scale], items.length, scale⟩

def firstType? (e : Extent) : List Json → Except Error (Option Json)
  | [] => .ok none
  | scale :: scales => do
    if ← occupies e scale then
      return some ((← scale.field? "type").getD (.str "linear"))
    firstType? e scales

/-- The type of the first scale of the other range, added if there is none. -/
def resolveOpposingType (scales : Json) (p : Position) : Except Error (Json × Json) := do
  match ← firstType? p.opposingExtent (← scales.elements) with
  | some type => return (scales, type)
  | none => return (← scales.append [p.opposingExtent.defaultScale], .str "linear")

def dataField? (scale : Json) : Except Error (Option String) := do
  match ← scale.field "domain" with
  | .obj domain =>
    match Fields.get? domain "field" with
    | some (.str field) => return some field
    | _ => return none
  | _ => return none

/-- Narrows a scale to a domain of the caller's; one that does not start at zero gives zero up. -/
def setDomain (low high : Float) (scale : Fields) : Fields :=
  let scale := scale.set "domain" (.arr [.float low, .float high])
  if low != 0 then scale.set "zero" (.bool false) else scale

def supportsReferenceLines (scaleType : String) : Bool :=
  scaleType ∈ ["linear", "time", "utc"]

def supportsThumbnails (scaleType : String) : Bool :=
  scaleType = "band"

end Scale

end VegaAxes
