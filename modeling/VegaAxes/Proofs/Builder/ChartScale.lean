import VegaAxes.Proofs.Builder.ScaleRanges
import VegaAxes.Proofs.Builder.WellFormed

/-!
# The scale of an axis at chart level

What an axis is drawn for, read from the builder as it stands when the axis is added: the type, the
name and the data field of its scale. `Addition.axis_resolved`: the axis is resolved for that type.
-/

namespace VegaAxes.Builder

open Scale

variable {b : Builder} {o : AxisOptions} {index : Json}

def chartType (b : Builder) (o : AxisOptions) : String :=
  boundType (itemsOf b.scales) o.position

def chartName (b : Builder) (o : AxisOptions) : String :=
  ((boundScale b.scales o).toOption.map (·.1.name.spliced)).getD ""

def chartField (b : Builder) (o : AxisOptions) : Option String :=
  (boundScale b.scales o).toOption.bind (·.1.dataField)

theorem orElse_truthy {v w : Json} (hw : w.truthy = true) : (v.orElse w).truthy = true := by
  unfold Json.orElse
  split
  · assumption
  · exact hw

namespace Addition

theorem axis_resolved (a : Addition b o index) :
    a.axis.scaleType = chartType b o ∧
      ∃ i name, a.axis =
        { o.resolve (some (chartType b o)) b.context.colorScheme i with name } := by
  obtain ⟨i, s, -, hs, haxis⟩ := AxisOptions.resolveFor_ok.mp a.axis_eq
  have hbound := a.bound_eq
  obtain ⟨items, hitems⟩ := a.scales_list
  rw [hitems] at hbound
  obtain ⟨⟨r, hr, -, hscale⟩, htype, -⟩ := boundScale_arr hbound
  have htruthy : a.bound.type.truthy = true := htype ▸ orElse_truthy rfl
  rw [Json.orElse, if_pos htruthy] at hs
  have hchart : chartType b o = s := by
    have htext : typeOf r.scale = .str s := by
      rw [typeOf, hscale, ← hs, htype]
      rfl
    rw [chartType, hitems, itemsOf, boundType_eq hr, htext]
    rfl
  have hgiven : given (some s) = some s := by
    unfold given
    split
    · next heq =>
      rw [hs, Option.some.inj heq] at htruthy
      cases htruthy
    · rfl
  rw [hchart, ← haxis]
  refine ⟨?_, i, _, rfl⟩
  show (given (some s)).getD "linear" = s
  rw [hgiven]
  rfl

theorem chartName_eq (a : Addition b o index) : chartName b o = a.bound.name.spliced := by
  rw [chartName, a.bound_eq]
  rfl

theorem chartField_eq (a : Addition b o index) : chartField b o = a.bound.dataField := by
  rw [chartField, a.bound_eq]
  rfl

end Addition

end VegaAxes.Builder
