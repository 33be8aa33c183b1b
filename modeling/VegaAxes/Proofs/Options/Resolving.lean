import VegaAxes.Options.Schema

/-!
# What resolving an axis does

`resolveFor_ok`: an axis resolves for a scale whose type is a text and for an index that is
read as an integer, and then has all features of its description.
-/

namespace VegaAxes.AxisOptions

variable {o : AxisOptions} {type index : Json} {scheme : ColorScheme} {axis : ResolvedAxis}

theorem resolveFor_ok :
    o.resolveFor type scheme index = .ok axis ↔ ∃ i s, Reader.integer index = .ok i ∧
      type.orElse (.str "linear") = .str s ∧
      { o.resolve (some s) scheme i with name := s!"axis{index.spliced}" } = axis := by
  have htext (v : Json) (s : String) : Reader.text v = .ok s ↔ v = .str s := by
    cases v <;> simp [Reader.text, Checked.fail]
  unfold resolveFor
  constructor
  · intro h
    dsimp only at h
    split at h
    · next resolved hread =>
      cases h
      simp only [Checked.seq_eq_ok, Checked.map_eq_ok, Checked.under_eq_ok, htext] at hread
      obtain ⟨_, s, ⟨i, hi, rfl⟩, hs, rfl⟩ := hread
      exact ⟨i, s, hi, hs, rfl⟩
    · cases h
  · rintro ⟨i, s, hi, hs, rfl⟩
    rw [hi, hs]
    rfl

theorem resolveFor_features (h : o.resolveFor type scheme index = .ok axis) :
    axis.toAxisFeatures = o.toAxisFeatures := by
  obtain ⟨i, s, -, -, rfl⟩ := resolveFor_ok.mp h
  rfl

end VegaAxes.AxisOptions
