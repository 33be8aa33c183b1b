import VegaAxes.Compile
import VegaAxes.Proofs.Options.Resolving
import VegaAxes.Proofs.Trellis.Header

/-!
# What an axis does not show

Sub-labels are shown under horizontal labels only, and notes at the bottom only. Those that are
not shown leave no trace: `bundle_reshown` for the axes of one description, `add_onlyShown` for
one call, and `compileAxes_onlyShown` for a whole chart, which compiles or fails alike.
-/

namespace VegaAxes

namespace AxisFeatures

def shownSubLabels (f : AxisFeatures) : List SubLabel :=
  if f.labelOrientation = .horizontal then f.subLabels else []

def shownNotes (f : AxisFeatures) : List NoteOptions :=
  if f.position = .bottom then f.notes else []

end AxisFeatures

/-- The axis without the sub-labels and notes that it does not show. -/
def AxisOptions.onlyShown (o : AxisOptions) : AxisOptions :=
  { o with subLabels := o.shownSubLabels, notes := o.shownNotes }

namespace ResolvedAxis

def reshown (o : ResolvedAxis) (subLabels : List SubLabel) (notes : List NoteOptions) :
    ResolvedAxis :=
  { o with subLabels, notes }

@[simp] theorem reshown_position (o : ResolvedAxis) (subLabels : List SubLabel)
    (notes : List NoteOptions) : (o.reshown subLabels notes).position = o.position :=
  rfl

/-- The lists differ from the axis's own at most where it shows none. -/
structure ShowsAlike (o : ResolvedAxis) (subLabels : List SubLabel) (notes : List NoteOptions) :
    Prop where
  subLabels : o.labelOrientation = .horizontal → subLabels = o.subLabels
  notes : o.position = .bottom → notes = o.notes

end ResolvedAxis

open ResolvedAxis

variable {o : ResolvedAxis} {subLabels : List SubLabel} {notes : List NoteOptions}

-- ---------------------------------------------------------------------------
-- The axes of one description
-- ---------------------------------------------------------------------------

theorem reshown_notes (h : ShowsAlike o subLabels notes) :
    Note.all (o.reshown subLabels notes) = Note.all o := by
  by_cases hp : o.position = .bottom
  · rw [Note.all, Note.all, reshown, h.notes hp]
    rfl
  · have hnone : ¬o.position.supportsNotes = true := by simpa [Position.supportsNotes] using hp
    rw [Note.all, Note.all, if_neg hnone]
    exact if_neg hnone

theorem subLabels_reshown (h : ShowsAlike o subLabels notes) :
    subLabels = o.subLabels ∨
      (o.hasSubLabels = false ∧ (o.reshown subLabels notes).hasSubLabels = false) := by
  by_cases hp : o.labelOrientation = .horizontal
  · exact .inl (h.subLabels hp)
  · have hnone (some : Bool) : (some && decide (o.labelOrientation = .horizontal)) = false := by
      rw [decide_eq_false hp, Bool.and_false]
    exact .inr ⟨hnone _, hnone _⟩

namespace Axis

variable {binding : Binding}

theorem labelled_reshown (h : ShowsAlike o subLabels notes) :
    labelled (o.reshown subLabels notes) binding = labelled o binding := by
  rcases subLabels_reshown h with rfl | ⟨hnone, hnone'⟩
  · rfl
  · unfold labelled timeBundle plainBundle titled
    rw [hnone, hnone']
    rfl

theorem decorate_reshown (h : ShowsAlike o subLabels notes) (axes : List Fields) :
    decorate (o.reshown subLabels notes) binding axes = decorate o binding axes := by
  unfold decorate
  rw [reshown_notes h]
  rfl

theorem bundle_reshown (h : ShowsAlike o subLabels notes) :
    bundle (o.reshown subLabels notes) binding = bundle o binding := by
  have hrest {o : ResolvedAxis} (h : ShowsAlike o subLabels notes) :
      (labelled (o.reshown subLabels notes) binding >>= fun axes =>
          decorate (o.reshown subLabels notes) binding axes : Attempt Context (List Fields)) =
        labelled o binding >>= fun axes => decorate o binding axes := by
    rw [labelled_reshown h]
    exact bind_congr fun axes => congrArg liftM (decorate_reshown h axes)
  unfold bundle Trellis.withHeader
  cases hheader : Trellis.Header.ofScale? binding.scaleName with
  | error e => rfl
  | ok header =>
    obtain ⟨-, hposition⟩ := Trellis.ofScale?_ok hheader
    cases header with
    | none => exact hrest h
    | some header =>
      -- no header stands at the bottom, so that notes are shown on it neither way
      exact hrest (o := header.apply o) ⟨h.subLabels, fun hp =>
        absurd ((hposition header rfl).symm.trans hp) Trellis.headerSide_ne_bottom⟩

end Axis

-- ---------------------------------------------------------------------------
-- One call
-- ---------------------------------------------------------------------------

theorem lift_map_bind_congr {σ α β γ : Type} {x : Except Error α} {f : α → β}
    {k : β → Attempt σ γ} {k' : α → Attempt σ γ} (h : ∀ a, x = .ok a → k (f a) = k' a) :
    (liftM (x.map f) >>= k : Attempt σ γ) = liftM x >>= k' := by
  cases x with
  | error e => rfl
  | ok a => exact h a rfl

namespace Builder

variable {binding : Axis.Binding} {a : AxisOptions}

theorem facetBundle_reshown (h : ShowsAlike o subLabels notes) (place : Nat) :
    facetBundle (o.reshown subLabels notes) binding place = facetBundle o binding place := by
  have hbundle {o : ResolvedAxis} {binding : Axis.Binding} (h : ShowsAlike o subLabels notes) :
      bundle (o.reshown subLabels notes) binding = bundle o binding := by
    rw [bundle, bundle, Axis.bundle_reshown h]
  unfold facetBundle
  refine bind_congr fun b => bind_congr fun direction => ?_
  rw [reshown_position]
  split
  · refine bind_congr fun scale => bind_congr fun name => ?_
    have htyped (type : String) (binding : Axis.Binding) :
        bundle { o.reshown subLabels notes with scaleType := type } binding =
          bundle { o with scaleType := type } binding :=
      hbundle (o := { o with scaleType := type }) ⟨h.subLabels, h.notes⟩
    simp only [htyped]
  · exact hbundle (o := acrossFacets o) ⟨h.subLabels, h.notes⟩

theorem addMarks_reshown (h : ShowsAlike o subLabels notes) (dataField : Option String) :
    addMarks (o.reshown subLabels notes) binding dataField = addMarks o binding dataField := by
  have hfacets (place : Nat) :
      addFacetAxes (o.reshown subLabels notes) binding place = addFacetAxes o binding place := by
    rw [addFacetAxes, addFacetAxes, facetBundle_reshown h]
  have hnotes : addNoteMarks (o.reshown subLabels notes) binding.scaleName =
      addNoteMarks o binding.scaleName := by
    rw [addNoteMarks, addNoteMarks, reshown_notes h]
  unfold addMarks
  simp only [hfacets, hnotes]
  rfl

theorem axisSignals_reshown (h : ShowsAlike o subLabels notes) (scaleName : String) :
    axisSignals (o.reshown subLabels notes) scaleName = axisSignals o scaleName := by
  rw [axisSignals, axisSignals, reshown_notes h]
  rcases subLabels_reshown h with rfl | ⟨hnone, hnone'⟩
  · rfl
  · rw [hnone, hnone']
    rfl

theorem addAxes_reshown (h : ShowsAlike o subLabels notes) :
    addAxes (o.reshown subLabels notes) binding = addAxes o binding := by
  unfold addAxes
  refine bind_congr fun b => bind_congr fun _ => bind_congr fun b => ?_
  have hbundle : bundle (chartLevel b (o.reshown subLabels notes)) binding =
      bundle (chartLevel b o) binding := by
    rw [bundle, bundle]
    exact congrArg _ (Axis.bundle_reshown (o := chartLevel b o) ⟨h.subLabels, h.notes⟩)
  rw [hbundle]

/-- The axis without what it does not show resolves where the axis does, and shows the same. -/
theorem resolveFor_onlyShown (a : AxisOptions) (type index : Json) (scheme : ColorScheme) :
    a.onlyShown.resolveFor type scheme index =
      (a.resolveFor type scheme index).map (·.reshown a.shownSubLabels a.shownNotes) := by
  unfold AxisOptions.resolveFor
  cases Reader.integer index <;> cases Reader.text (type.orElse (.str "linear")) <;> rfl

theorem resolveFor_showsAlike {type index : Json} {scheme : ColorScheme}
    (h : a.resolveFor type scheme index = .ok o) :
    ShowsAlike o a.shownSubLabels a.shownNotes := by
  have hfeatures := AxisOptions.resolveFor_features h
  refine ⟨fun hp => ?_, fun hp => ?_⟩
  · rw [hfeatures] at hp ⊢
    exact if_pos hp
  · rw [hfeatures] at hp ⊢
    exact if_pos hp

theorem add_onlyShown (a : AxisOptions) (index : Json) : add a.onlyShown index = add a index := by
  unfold add
  refine bind_congr fun _ => bind_congr fun index => bind_congr fun scale => bind_congr fun b => ?_
  rw [resolveFor_onlyShown]
  refine lift_map_bind_congr fun o ho => ?_
  have h := resolveFor_showsAlike ho
  have hdata : addData (o.reshown a.shownSubLabels a.shownNotes) = addData o := by
    rw [addData, addData, reshown_notes h]
  have hsignals (scaleName : String) :
      addSignals (o.reshown a.shownSubLabels a.shownNotes) scaleName = addSignals o scaleName := by
    rw [addSignals, addSignals, axisSignals_reshown h]
  simp only [hdata, hsignals, addAxes_reshown h, addMarks_reshown h]
  rfl

-- ---------------------------------------------------------------------------
-- Whole charts
-- ---------------------------------------------------------------------------

theorem addEach_onlyShown (index : Nat) (axes : List AxisOptions) :
    addEach add index (axes.map AxisOptions.onlyShown) = addEach add index axes := by
  induction axes generalizing index with
  | nil => rfl
  | cons a axes ih =>
    rw [List.map_cons, addEach, addEach, add_onlyShown, ih]

end Builder

/-- A chart compiles to the same document, or fails, without what its axes do not show. The build
leaves the same builder either way, and with it the same count of metric axes. -/
theorem compileAxes_onlyShown (settings : Settings) (document : Json) (axes : List AxisOptions)
    (context : Option Context) (validated : Option Bool) :
    compileAxes settings document (axes.map AxisOptions.onlyShown) context validated =
        compileAxes settings document axes context validated ∧
      ∀ b, Attempt.outcome (do
            Builder.addEach Builder.add 0 (axes.map AxisOptions.onlyShown); Builder.finish) b =
          Attempt.outcome (do Builder.addEach Builder.add 0 axes; Builder.finish) b := by
  rw [compileAxes, compileAxes, Builder.addEach_onlyShown]
  exact ⟨rfl, fun _ => rfl⟩

end VegaAxes
