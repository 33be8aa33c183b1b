import VegaAxes.Proofs.Axis.MovedLabels
import VegaAxes.Proofs.Builder.GridLines
import VegaAxes.Proofs.Builder.UndrawnLines

/-!
# Bare axes

Where axes are to hide their labels, all say so but the two halves of a time axis, which say nothing
of it (`bundle_labels`). Across the facets of a trellised chart an axis hides its labels and has no
title: it is bare unless its labels are times (`hidden_labels`).
-/

namespace VegaAxes

namespace Axis

variable {axis axis' : Fields} {axes axes' : List Fields} {o o' : ResolvedAxis} {b : Binding}
  {context context' : Context} {shown : Bool} {format : LabelFormat}

/-- The axis is one half of a time axis. -/
def FormatsTime (axis : Fields) : Prop :=
  axis.get? "formatType" = some (.str "time")

instance (axis : Fields) : Decidable (FormatsTime axis) :=
  inferInstanceAs (Decidable (axis.get? "formatType" = some (.str "time")))

/-- Of the axes that show anything all say whether they have labels, but for the halves of a time
axis. There are none of these unless the labels are times. -/
structure LabelsStated (shown : Bool) (format : LabelFormat) (axes : List Fields) : Prop where
  each : ∀ axis ∈ axes, ¬IsEmpty axis →
    axis.get? "labels" = if FormatsTime axis then none else some (.bool shown)
  all_iff : (∀ axis ∈ axes, ¬IsEmpty axis → axis.get? "labels" = some (.bool shown)) ↔
    format ≠ .time

theorem ComesFrom.isEmpty_iff (h : ComesFrom axis' axis) : IsEmpty axis' ↔ IsEmpty axis := by
  rw [IsEmpty, IsEmpty, h "values" (by simp [decoratedKeys])]

theorem formatsTime_congr (h : axis'.get? "formatType" = axis.get? "formatType") :
    FormatsTime axis' ↔ FormatsTime axis := by
  rw [FormatsTime, FormatsTime, h]

theorem LabelsStated.of_allComeFrom (h : LabelsStated shown format axes)
    (horigin : AllComeFrom axes' axes) : LabelsStated shown format axes' where
  each := by
    refine (horigin.forall_iff fun {axis axis'} hcomes => ?_).mpr h.each
    have htypes := formatsTime_congr (hcomes "formatType" (by simp [decoratedKeys]))
    simp only [hcomes.isEmpty_iff, htypes, hcomes "labels" (by simp [decoratedKeys])]
  all_iff := by
    refine (horigin.forall_iff fun {axis axis'} hcomes => ?_).trans h.all_iff
    rw [hcomes.isEmpty_iff, hcomes "labels" (by simp [decoratedKeys])]

theorem LabelsStated.append_empty (h : LabelsStated shown format axes)
    (hempty : ∀ axis ∈ axes', IsEmpty axis) : LabelsStated shown format (axes ++ axes') where
  each axis haxis hshown := by
    rcases List.mem_append.mp haxis with haxis | haxis
    · exact h.each axis haxis hshown
    · exact absurd (hempty axis haxis) hshown
  all_iff := by
    refine .trans ⟨fun hall axis haxis => hall axis (List.mem_append_left _ haxis), ?_⟩ h.all_iff
    intro hall axis haxis hshown
    rcases List.mem_append.mp haxis with haxis | haxis
    · exact hall axis haxis hshown
    · exact absurd (hempty axis haxis) hshown

-- ---------------------------------------------------------------------------
-- The axes of a description
-- ---------------------------------------------------------------------------

theorem formatsTime_secondaryTime (scaleName : ScaleName) :
    FormatsTime (titled o (secondaryTime scaleName o)) := by
  rw [formatsTime_congr (titled_get? (by simp))]
  exact Fields.get?_present rfl (by simp)

theorem formatsTime_primaryTime (scaleName : ScaleName) : FormatsTime (primaryTime scaleName o) :=
  Fields.get?_present rfl (by simp)

theorem plain_formatType (scaleName : ScaleName) :
    (plain o scaleName).get? "formatType" = none :=
  Fields.get?_present_none rfl

theorem plain_labels (scaleName : ScaleName) :
    (plain o scaleName).get? "labels" = some (.bool !o.hideDefaultLabels) :=
  Fields.get?_present rfl (by simp)

theorem subLabels_get? {key : String}
    (hkey : key ∉ ["domain", "grid", "labelPadding", "ticks", "encode", "values", "title",
      "domainWidth"]) (scaleName : ScaleName) :
    (subLabels o scaleName).get? key = (plain o scaleName).get? key := by
  simp only [List.mem_cons, List.not_mem_nil, or_false, not_or] at hkey
  rw [subLabels, get?_erase_title (by simp [hkey]) (by simp [hkey]),
    Fields.get?_overlay (companion_unique ..), Fields.get?_append,
    get?_valuesField (by simp [hkey])]
  simp [Fields.get?_cons, hkey]

theorem labels_eq (h : axis ∈ labelAxes o b) :
    axis.get? "labels" = if FormatsTime axis then none else some (.bool !o.hideDefaultLabels) := by
  rcases mem_labelAxes h with rfl | rfl | rfl | rfl
  · have htype : ¬FormatsTime (titled o (base o b.scaleName)) := by
      rw [FormatsTime, titled_get? (by simp), base_get? o (by simp) (by simp), plain_formatType]
      simp
    rw [if_neg htype, titled_get? (by simp), base_get? o (by simp) (by simp), plain_labels]
  · rw [if_pos (formatsTime_secondaryTime _), titled_get? (by simp)]
    refine Fields.get?_present_none ?_
    unfold secondaryTimeFormat
    split <;> rfl
  · rw [if_pos (formatsTime_primaryTime _)]
    exact Fields.get?_present_none rfl
  · have htype : ¬FormatsTime (subLabels o b.scaleName) := by
      rw [FormatsTime, subLabels_get? (by simp), plain_formatType]
      simp
    rw [if_neg htype, subLabels_get? (by simp), plain_labels]

theorem labelAxes_labels (o : ResolvedAxis) (b : Binding) :
    LabelsStated (!o.hideDefaultLabels) o.labelFormat (labelAxes o b) where
  each axis haxis _ := labels_eq haxis
  all_iff := by
    constructor
    · intro hall hformat
      have hfirst : titled o (secondaryTime b.scaleName o) ∈ labelAxes o b := by
        rw [labelAxes, hformat]
        exact List.mem_cons_self
      have hlabels := hall _ hfirst (not_isEmpty_labelAxes hfirst)
      rw [labels_eq hfirst, if_pos (formatsTime_secondaryTime _)] at hlabels
      cases hlabels
    · intro hformat axis haxis _
      have hplain : axis ∈ plainAxes o b := by
        unfold labelAxes at haxis
        split at haxis
        · next htime => exact absurd htime hformat
        · exact haxis
      rcases List.mem_cons.mp hplain with rfl | hplain
      · rw [titled_get? (by simp), base_get? o (by simp) (by simp), plain_labels]
      · split at hplain
        · obtain rfl := List.mem_singleton.mp hplain
          rw [subLabels_get? (by simp), plain_labels]
        · cases hplain

theorem labelAxes_untitled (htitle : o.title = none) (h : axis ∈ labelAxes o b) :
    axis.get? "title" = none := by
  have hnull {v : Json} (hv : v = Json.ofOption Title.toJson o.title) : v = .null := by
    rw [hv, htitle]
    rfl
  rcases mem_labelAxes h with rfl | rfl | rfl | rfl
  · rw [titled_get? (by simp), base_get? o (by simp) (by simp)]
    exact Fields.get?_present_null fun v hv =>
      hnull (by simpa [anchorFields, Label.anchorFields] using hv)
  · rw [titled_get? (by simp)]
    refine Fields.get?_present_null fun v hv => hnull ?_
    unfold secondaryTimeFormat at hv
    split at hv <;> simpa [anchorFields, Label.anchorFields] using hv
  · exact Fields.get?_present_none rfl
  · rw [subLabels, Fields.get?_erase, Fields.get?_erase]
    rfl

-- ---------------------------------------------------------------------------
-- Bundles
-- ---------------------------------------------------------------------------

/-- The axes that show labels come first, before the empty axes of notes. -/
theorem bundle_origin (h : (bundle o b).run context = .ok axes context') :
    ∃ o' labels, Trellis.withHeader b.scaleName o = .ok o' ∧
      axes = labels ++ (Note.all o').map (Note.layoutAxis b.scaleName) ∧
      AllComeFrom labels (labelAxes o' b) := by
  obtain ⟨o', labels, ho', hlabels, hdecorate⟩ := bundle_run_ok.mp h
  obtain ⟨labels', rfl, horigin⟩ := decorate_origin hdecorate
  exact ⟨o', labels', ho', rfl, horigin.trans (labelled_origin hlabels)⟩

theorem bundle_labels (h : (bundle o b).run context = .ok axes context') :
    LabelsStated (!o.hideDefaultLabels) o.labelFormat axes := by
  obtain ⟨o', labels, ho', rfl, horigin⟩ := bundle_origin h
  have hhide : o'.hideDefaultLabels = o.hideDefaultLabels :=
    Trellis.withHeader_keeps (F := (·.hideDefaultLabels)) (fun _ _ => rfl) ho'
  have hformat : o'.labelFormat = o.labelFormat :=
    Trellis.withHeader_keeps (F := (·.labelFormat)) (fun _ _ => rfl) ho'
  rw [← hhide, ← hformat]
  refine ((labelAxes_labels o' b).of_allComeFrom horigin).append_empty fun axis haxis => ?_
  obtain ⟨a, -, rfl⟩ := List.mem_map.mp haxis
  exact isEmpty_layoutAxis b.scaleName a

theorem bundle_untitled (htitle : o.title = none)
    (h : (bundle o b).run context = .ok axes context') :
    ∀ axis ∈ axes, axis.get? "title" = none := by
  obtain ⟨o', labels, ho', rfl, horigin⟩ := bundle_origin h
  have htitle' : o'.title = none := by
    rcases Trellis.withHeader_ok ho' with ⟨-, rfl⟩ | ⟨-, header, -, rfl⟩
    · exact htitle
    · rfl
  intro axis haxis
  rcases List.mem_append.mp haxis with haxis | haxis
  · obtain ⟨first, hfirst, hcomes⟩ := horigin.origin haxis
    exact (hcomes "title" (by simp [decoratedKeys])).trans (labelAxes_untitled htitle' hfirst)
  · obtain ⟨a, -, rfl⟩ := List.mem_map.mp haxis
    rfl

end Axis

namespace Builder

open Axis Trellis

variable {b b' : Builder} {o : AxisOptions} {index : Json} {r : ResolvedAxis}
  {binding : Axis.Binding}
  {context : Context} {g : Fields} {ms : List Json} {place : Nat}

-- ---------------------------------------------------------------------------
-- Facets
-- ---------------------------------------------------------------------------

theorem encodeTitle_fields {f : Facet} {axis : Fields} {m : Json}
    (h : f.encodeTitle (.obj axis) = .ok m) : m = .obj m.ownFields := by
  obtain ⟨fs, -, h⟩ := bind_ok.mp h
  split at h
  · obtain ⟨encode, -, h⟩ := bind_ok.mp h
    cases h
    rfl
  · cases h
    rfl

/-- The axes that the group takes are those of the facets, each with its title in the first
facet only. -/
theorem FacetAddition.result_titled (f : FacetAddition r binding context g) :
    ∃ (facet : Facet) (old : List Json) (facets : List Fields),
      ((g.get? "axes").getD (.arr [])).elements = .ok old ∧
      f.result.get? "axes" = some (.arr (old ++ facets.map .obj)) ∧
      List.Forall₂ (fun axis axis' => facet.encodeTitle (.obj axis) = .ok (.obj axis'))
        f.axes facets := by
  have h := f.result_eq
  simp only [withFacetAxes, encodeTitles, Json.elements, bind_ok, pure_ok, Except.ok.injEq,
    exists_eq_left'] at h
  obtain ⟨old, hold, new, ⟨facet, -, hnew⟩, hresult⟩ := h
  have htitled := List.forall₂_map_left_iff.mp (forall₂_of_mapM hnew)
  have hfields : new = (new.map Json.ownFields).map .obj := by
    rw [List.map_map]
    refine (List.map_id new).symm.trans (List.map_congr_left fun m hm => ?_)
    obtain ⟨_, haxis, heq⟩ := mapM_mem hnew m hm
    obtain ⟨axis, -, rfl⟩ := List.mem_map.mp haxis
    exact encodeTitle_fields heq
  refine ⟨facet, old, new.map Json.ownFields, ?_, ?_, ?_⟩
  · rw [← f.based_get? (by simp), ← f.form_ok.1 "axes" (by simp)]
    exact hold
  · rw [← hresult, ← hfields, Fields.get?_set_self]
  · refine List.forall₂_map_right_iff.mpr (htitled.imp fun axis m heq => ?_)
    rw [← encodeTitle_fields heq]
    exact heq

theorem FacetAddition.result_keys (f : FacetAddition r binding context g) :
    ∃ (old : List Json) (facets : List Fields),
      ((g.get? "axes").getD (.arr [])).elements = .ok old ∧
      f.result.get? "axes" = some (.arr (old ++ facets.map .obj)) ∧
      ∀ key, key ≠ "encode" → facets.map (·.get? key) = f.axes.map (·.get? key) := by
  obtain ⟨facet, old, facets, hold, hnew, htitled⟩ := f.result_titled
  refine ⟨old, facets, hold, hnew, fun key hkey => ?_⟩
  clear hnew
  generalize f.axes = axes at htitled
  induction htitled with
  | nil => rfl
  | cons htitle _ ih => exact congrArg₂ List.cons (encodeTitle_get? htitle hkey) ih

theorem FacetAddition.result_facets (f : FacetAddition r binding context g) :
    ∃ (old : List Json) (facets : List Fields),
      ((g.get? "axes").getD (.arr [])).elements = .ok old ∧
      f.result.get? "axes" = some (.arr (old ++ facets.map .obj)) ∧ AllComeFrom facets f.axes := by
  obtain ⟨old, facets, hold, hnew, hkeys⟩ := f.result_keys
  refine ⟨old, facets, hold, hnew, fun key hkey => hkeys key ?_⟩
  rintro rfl
  exact hkey (by simp [decoratedKeys])

theorem FacetAddition.axis_across (f : FacetAddition r binding context g)
    (h : orientation (.obj g) ≠ .ok r.position.orientation) : f.axis = acrossFacets r := by
  obtain ⟨type, htype, haxis⟩ := f.axis_eq
  cases type with
  | none => exact haxis
  | some type =>
    obtain ⟨direction, hdirection, htype⟩ := bind_ok.mp htype
    split at htype
    · next heq => exact absurd (hdirection.trans (congrArg _ heq)) h
    · cases htype

/-- Axes that are to hide their labels do so but for the halves of a time axis; so do the axes
that a trellis group takes whose facets run across, and none of these has a title. -/
theorem hidden_labels (r : ResolvedAxis) (binding : Axis.Binding) (context : Context) (b : Builder)
    (o : AxisOptions) (index : Json) :
    (∀ (axes : List Fields) (context' : Context), r.hideDefaultLabels = true →
      (Axis.bundle r binding).run context = .ok axes context' →
      LabelsStated false r.labelFormat axes) ∧
    ∀ (b' : Builder) (ms : List Json) (place : Nat) (g : Fields),
      b.marks = .arr ms → IsGroupAt ms place → ms[place]? = some (.obj g) →
      orientation (.obj g) ≠ .ok o.position.orientation → (add o index).run b = .ok () b' →
      ∃ (a : Addition b o index) (facets : List Fields), FacetsAdded b b' (facets.map .obj) ∧
        (∀ axis ∈ facets, axis.get? "title" = none) ∧
        LabelsStated false a.axis.labelFormat facets := by
  refine ⟨fun axes context' hhide hrun => ?_, fun b' ms place g hm hgroup hg hacross h => ?_⟩
  · have hstated := bundle_labels hrun
    rwa [hhide] at hstated
  · obtain ⟨a, f, ms', place', rfl, hgroup', hg'⟩ := add_group hm hgroup hg h
    obtain ⟨old, facets, hold, hnew, horigin⟩ := f.result_facets
    have hposition : a.axis.position = o.position := position_resolved a.axis_eq
    have haxis := f.axis_across (by rwa [hposition])
    have hstated := bundle_labels f.axes_eq
    have huntitled := bundle_untitled (by rw [haxis]; rfl) f.axes_eq
    rw [haxis] at hstated
    refine ⟨a, facets, .group hm hgroup hg rfl hgroup' hg' hold hnew, ?_,
      hstated.of_allComeFrom horigin⟩
    refine (horigin.forall_iff fun hcomes => ?_).mpr huntitled
    rw [hcomes "title" (by simp [decoratedKeys])]

def stackedGroup : Fields :=
  [("name", .str "yTrellisGroup"), ("type", .str "group")]

def stacked (type : String) : Builder :=
  { bars with
    scales := .arr [.obj [("name", .str "xScale"), ("type", .str type), ("range", .str "width")]]
    marks := .arr [.obj stackedGroup] }

theorem orientation_stackedGroup : orientation (.obj stackedGroup) = .ok .vertical :=
  rfl

theorem stackedGroup_across :
    orientation (.obj stackedGroup) ≠ .ok Position.bottom.orientation := by
  rw [orientation_stackedGroup]
  intro heq
  cases heq

theorem stacked_bare :
    orientation (.obj stackedGroup) ≠ .ok Position.bottom.orientation ∧
      ∃ (b' : Builder) (a : Addition (stacked "linear") { position := .bottom } .null)
        (facets : List Fields) (r : ResolvedAxis) (binding : Axis.Binding) (context : Context)
        (axes : List Fields),
        (add { position := .bottom } .null).run (stacked "linear") = .ok () b' ∧
        FacetsAdded (stacked "linear") b' (facets.map .obj) ∧
        (∀ axis ∈ facets, axis.get? "title" = none) ∧
        LabelsStated false a.axis.labelFormat facets ∧
        r.hideDefaultLabels = true ∧ (Axis.bundle r binding).run context = .ok axes context ∧
        LabelsStated false r.labelFormat axes := by
  have hsome : (after (stacked "linear") [.read { position := .bottom } .null]).isSome = true := by
    decide +kernel
  obtain ⟨b', hb'⟩ := Option.isSome_iff_exists.mp hsome
  have hadd : (add { position := .bottom } .null).run (stacked "linear") = .ok () b' :=
    runs_single.mp (after_eq_some.mp hb')
  have hgroup : IsGroupAt [.obj stackedGroup] 0 := rfl
  obtain ⟨a', f, -, -, -⟩ := add_group (b := stacked "linear") rfl hgroup rfl hadd
  have haxis := f.axis_across (by rw [position_resolved a'.axis_eq]; exact stackedGroup_across)
  have hhide : f.axis.hideDefaultLabels = true := by rw [haxis]; rfl
  have haxes := f.axes_eq
  rw [f.context_eq] at haxes
  obtain ⟨hbundle, hcall⟩ := hidden_labels f.axis f.facetBinding a'.context (stacked "linear")
    { position := .bottom } .null
  obtain ⟨a, facets, hfacets, huntitled, hstated⟩ :=
    hcall b' _ 0 stackedGroup rfl hgroup rfl stackedGroup_across hadd
  exact ⟨stackedGroup_across, b', a, facets, f.axis, f.facetBinding, a'.context, f.axes,
    hadd, hfacets, huntitled, hstated, hhide, haxes, hbundle _ _ hhide haxes⟩

/-- For each axis within the marks, whether it is empty, and what it says of its labels. -/
def facetLabels (b : Builder) : List (Bool × Option Json) :=
  (itemsOf b.marks).flatMap fun g => (itemsOf (Fields.getD g.ownFields "axes")).map fun axis =>
    (decide (Axis.IsEmpty axis.ownFields), Fields.get? axis.ownFields "labels")

/-- Across the facets the halves of a time axis are not told to hide their labels. -/
theorem stacked_timed :
    orientation (.obj stackedGroup) ≠ .ok Position.bottom.orientation ∧
      (after (stacked "time") [.read { position := .bottom } .null]).map facetLabels =
        some [(false, none), (false, none)] :=
  ⟨stackedGroup_across, by decide +kernel⟩

end Builder

end VegaAxes
