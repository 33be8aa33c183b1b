import VegaAxes.Proofs.Axis.Bundle
import VegaAxes.Proofs.Builder.Addition

/-!
# The metric axis count

A count is unset or a number. `Addition.context_ok`: an axis leaves all of the context but the
count as it was, and counts on only from what can be counted on from.
-/

namespace VegaAxes.Builder

variable {b : Builder} {o : AxisOptions} {index v w next : Json} {context : Context}

def IsCount (v : Json) : Prop :=
  v = .null ∨ v.number?.isSome = true

theorem successor_number (h : v.successor = .ok next) :
    v.number?.isSome = true ∧ next.number?.isSome = true := by
  unfold Json.successor at h
  split at h
  · next m hm =>
    cases h
    rw [hm]
    cases m <;> exact ⟨rfl, rfl⟩
  · cases h

/-- The count stays as it is, or goes from one that can be counted on from to a number. -/
def CountsOn (v w : Json) : Prop :=
  w = v ∨ IsCount v ∧ w.number?.isSome = true

theorem CountsOn.trans {u v w : Json} (h : CountsOn u v) (h' : CountsOn v w) : CountsOn u w := by
  rcases h with rfl | ⟨hu, hv⟩
  · exact h'
  · rcases h' with rfl | ⟨-, hw⟩
    · exact .inr ⟨hu, hv⟩
    · exact .inr ⟨hu, hw⟩

theorem Addition.context_ok (a : Addition b o index) :
    CountsOn b.context.metricAxisCount a.context.metricAxisCount ∧
      { a.context with metricAxisCount := b.context.metricAxisCount } = b.context := by
  obtain ⟨o', labels, -, hlabels, -⟩ := Axis.bundle_run_ok.mp a.axes_eq
  cases hr : Axis.takesRole o' a.binding b.context with
  | false =>
    obtain ⟨-, heq⟩ := EStateM.Result.ok.inj ((Axis.labelled_off hr).symm.trans hlabels)
    rw [← heq]
    exact ⟨.inl rfl, rfl⟩
  | true =>
    obtain ⟨-, next, hnext, heq⟩ := (Axis.labelled_ok hr).mp hlabels
    obtain ⟨hstarted, hnumber⟩ := successor_number hnext
    rw [← heq]
    refine ⟨.inr ⟨?_, hnumber⟩, rfl⟩
    unfold DualMetric.startedCount at hstarted
    split at hstarted
    · next hnull => exact .inl hnull
    · exact .inr hstarted

theorem CountsOn.isCount (h : CountsOn v w) (hv : IsCount v) : IsCount w := by
  rcases h with rfl | ⟨-, hw⟩
  · exact hv
  · exact .inr hw

theorem startedCount_succeeds (h : IsCount context.metricAxisCount) :
    ∃ next, (DualMetric.startedCount context).successor = .ok next := by
  unfold DualMetric.startedCount
  split
  · exact ⟨_, rfl⟩
  · next hset =>
    obtain ⟨n, hn⟩ := Option.isSome_iff_exists.mp (h.resolve_left hset)
    exact ⟨n.successor.toJson, by rw [Json.successor, hn]⟩

end VegaAxes.Builder
