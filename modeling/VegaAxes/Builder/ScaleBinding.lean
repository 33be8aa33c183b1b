import VegaAxes.Builder
import VegaAxes.Scale

/-!
# Binding axes to scales

The scale of an axis and the one across from it are found in the document, or
added to it. An axis may narrow the domain of its scale.
-/

namespace VegaAxes.Builder

def nameOf (scale : Fields) : Except Error Json :=
  match scale.get? "name" with
  | some name => .ok name
  | none => .error (.absent "name")

structure BoundScale where
  place : Nat
  fields : Fields
  name : Json
  type : Json
  dataField : Option String
  /-- The type of the scale across. -/
  opposingType : Json

/-- Binds an axis to the scale of its range. The caller's name for it goes before its own. -/
def bindScale (o : AxisOptions) : Build BoundScale := do
  let bound ← Scale.resolve (← get).scales o.position
  modify fun b => { b with scales := bound.scales }
  let fields ← bound.scale.fields
  let name ← match given o.name with
    | some name => pure (.str name)
    | none => nameOf fields
  let type := (fields.getD "type").orElse (.str "linear")
  let dataField ← Scale.dataField? bound.scale
  let (scales, opposingType) ← Scale.resolveOpposingType (← get).scales o.position
  modify fun b => { b with scales }
  return { place := bound.place, fields, name, type, dataField, opposingType }

def setScale (b : Builder) (place : Nat) (fs : Fields) : Builder :=
  match b.scales with
  | .arr scales => { b with scales := .arr (scales.set place (.obj fs)) }
  | _ => b

/-- A range narrows the domain of linear and time scales. -/
def narrowDomain (range : Option (Float × Float)) (scale : BoundScale) : Build Unit := do
  match range with
  | some (low, high) =>
    if scale.type = .str "linear" ∨ scale.type = .str "time" then
      modify fun b => b.setScale scale.place (Scale.setDomain low high scale.fields)
  | none => return

end VegaAxes.Builder
