import VegaAxes.Proofs.Axis.Nulls
import VegaAxes.Proofs.Builder.BareFacets
import VegaAxes.Proofs.Builder.Layers

/-!
# Axes and marks without nulls

The names of scales are all that goes from a document into what is drawn for an axis. They are
taken as they are, so that a null within one of them is repeated; any other null would be one of
the builder's own, and there is none (`add_nullFree`): neither in axes and marks that are added to
the document, nor in those that a trellis group takes (`FacetAddition.takesClean`).
-/

namespace VegaAxes

open Json

variable {r : ResolvedAxis} {scaleName : ScaleName} {name v m : Json} {spot : Fields}
  {spared : String × Json → Bool}

/-- The property that holds the name of a scale; null is no name. -/
def bindsTo (name : Json) (field : String × Json) : Bool :=
  decide (field = ("scale", name) ∧ name ≠ .null)

/-- No null is in the value, at any depth, save in the name of the scale where it is bound to it. -/
def CleanFor (name v : Json) : Prop :=
  v.nullFreeExcept (bindsTo name) = true

theorem CleanFor.nullFree (h : CleanFor name v) (hname : name.nullFree = true) :
    v.nullFree = true := by
  refine nullFreeExcept_imp (fun field hfield => .inr ?_) v h
  obtain ⟨rfl, -⟩ := of_decide_eq_true hfield
  exact hname

theorem Axis.CleanOn.cleanFor {axis : Fields} (h : CleanOn name axis) (hname : name ≠ .null) :
    CleanFor name (.obj axis) := by
  rw [CleanFor, nullFree_obj, List.all_eq_true]
  intro field hfield
  rw [Bool.or_eq_true]
  rcases h field hfield with rfl | hfree
  · exact .inl (decide_eq_true ⟨rfl, hname⟩)
  · exact .inr (nullFree.except hfree _)

-- ---------------------------------------------------------------------------
-- Marks
-- ---------------------------------------------------------------------------

theorem bindsTo_self (hname : name ≠ .null) : bindsTo name ("scale", name) = true :=
  decide_eq_true ⟨rfl, hname⟩

namespace ReferenceLine

theorem place_clean (hname : scaleName.value ≠ .null) (l : ReferenceLine) :
    CleanFor scaleName.value (.obj (place scaleName l)) := by
  simp [CleanFor, place, bindsTo_self hname]

theorem nullFree_ruleUpdate (r : ResolvedAxis) (h : (obj spot).nullFreeExcept spared = true) :
    (obj (ruleUpdate r spot)).nullFreeExcept spared = true := by
  unfold ruleUpdate
  cases r.position <;> simp [h]

theorem nullFree_outside (p : Position) (offset : Int) (sideShift : Option Int)
    (h : (obj spot).nullFreeExcept spared = true) :
    (obj (outside p offset spot sideShift)).nullFreeExcept spared = true := by
  unfold outside
  cases p <;> cases sideShift <;> simp [h]

theorem layerMarks_clean (hname : scaleName.value ≠ .null) (layer : Layer) :
    ∀ m ∈ layerMarks r scaleName layer, CleanFor scaleName.value m := by
  intro m hm
  obtain ⟨l, -, hm⟩ := List.mem_flatMap.mp hm
  have hplace := place_clean hname l
  rcases List.mem_cons.mp hm with rfl | hm
  · have hupdate := nullFree_ruleUpdate r hplace
    simp [CleanFor, ruleMark, hupdate]
  rcases List.mem_append.mp hm with hm | hm
  · obtain ⟨icon, -, rfl⟩ := List.mem_map.mp hm
    have houtside := nullFree_outside r.position 24 none hplace
    simp [CleanFor, symbolMark, houtside]
  · obtain ⟨label, -, rfl⟩ := List.mem_map.mp hm
    have houtside :=
      nullFree_outside r.position (if (given l.icon).isSome then 50 else 28) (some 4) hplace
    unfold textMark
    by_cases hp : r.position.isVertical = true <;> simp [CleanFor, houtside, hp]

end ReferenceLine

theorem Baseline.nullFree_rule (x : Float) (p : Position) :
    (rule (.float x) p).nullFree = true := by
  unfold rule update
  split <;> simp

namespace Note

theorem nullFree_iconEnter (a : Note) : (iconEnter a).nullFreeExcept spared = true := by
  unfold iconEnter
  split <;> simp

theorem atField_clean (hname : scaleName.value ≠ .null) (field : String) :
    (atField scaleName field).nullFreeExcept (bindsTo scaleName.value) = true := by
  simp [atField, bindsTo_self hname]

theorem mark_clean (hname : scaleName.value ≠ .null) (a : Note) :
    CleanFor scaleName.value (a.mark scaleName) := by
  have hfield := atField_clean hname
  unfold mark
  cases a.format with
  | summary => simp [CleanFor, summaryMark, sourceField, nullFree_iconEnter, colorField, below]
  | span =>
    have hbracket :
        (arr (bracket scaleName a)).nullFreeExcept (bindsTo scaleName.value) = true := by
      simp [bracket, bracketPart, sourceField, colorField, below, hfield]
    simp [CleanFor, spanMark, hbracket, sourceField, nullFree_iconEnter, colorField, below, hfield]

end Note

theorem Thumbnail.nullFree_marks {m : Json} {scale field : String} (hm : m ∈ marks r scale field) :
    m.nullFree = true := by
  obtain ⟨t, -, rfl⟩ := List.mem_map.mp hm
  have hplace : (obj (Thumbnail.place scale field r.position t.name)).nullFree = true := by
    unfold Thumbnail.place
    cases r.position <;> simp
  simp [mark, hplace, whenHidden]

namespace Builder

open Trellis Axis

variable {b b' : Builder} {o : AxisOptions} {index : Json} {ms : List Json} {binding : Binding}
  {context : Context} {g g' : Fields} {axes : List Fields}

theorem decorations_clean (hname : scaleName.value ≠ .null) (dataField : Option String) :
    ∀ m ∈ decorations r scaleName dataField, CleanFor scaleName.value m := by
  intro m hm
  rcases List.mem_append.mp hm with hm | hm
  · obtain ⟨a, -, rfl⟩ := List.mem_map.mp hm
    exact Note.mark_clean hname a
  · split at hm
    · split at hm
      · exact nullFree.except (Thumbnail.nullFree_marks hm) _
      · cases hm
    · cases hm

namespace Drawing

variable {d : Drawing}

theorem lines_clean (hname : d.scaleName.value ≠ .null) (layer : Layer) :
    ∀ m ∈ d.lines layer, CleanFor d.scaleName.value m := by
  unfold lines
  split
  · exact ReferenceLine.layerMarks_clean hname layer
  · simp

theorem baseline_clean (d : Drawing) (layer : Layer) :
    ∀ m ∈ d.baseline layer, CleanFor d.scaleName.value m := by
  unfold baseline
  split
  · intro m hm
    obtain rfl := List.mem_singleton.mp hm
    exact nullFree.except (Baseline.nullFree_rule _ _) _
  · simp

/-- No mark has a null, unless in the name of the scale that it is drawn on. -/
theorem marks_clean (hname : d.scaleName.value ≠ .null) :
    ∀ m ∈ d.beneath ++ d.above, CleanFor d.scaleName.value m := by
  simp only [beneath, above, List.forall_mem_append]
  exact ⟨⟨baseline_clean d .back, lines_clean hname .back⟩,
    ⟨lines_clean hname .front, baseline_clean d .front⟩, decorations_clean hname d.dataField⟩

end Drawing

-- ---------------------------------------------------------------------------
-- Facets
-- ---------------------------------------------------------------------------

theorem spread_ok {fs : Fields} : v.spread = .ok fs ↔ v = .obj fs := by
  cases v <;> simp [Json.spread]

theorem encodeTitle_clean {axis : Fields} (f : Facet) (h : CleanOn name axis)
    (heq : f.encodeTitle (.obj axis) = .ok v) : ∃ axis', v = .obj axis' ∧ CleanOn name axis' := by
  simp only [Facet.encodeTitle, Json.fields, bind_ok, Except.ok.injEq, exists_eq_left'] at heq
  split at heq
  · obtain ⟨encode, hencode, heq⟩ := bind_ok.mp heq
    obtain rfl := pure_ok.mp heq
    have hold : (obj encode).nullFree = true := by
      cases hfound : axis.get? "encode" with
      | none =>
        rw [hfound] at hencode
        cases hencode
        exact nullFree_obj_nil _
      | some w =>
        rw [hfound, Option.getD_some, spread_ok] at hencode
        exact hencode ▸ h.get? (by simp) hfound
    refine ⟨_, rfl, h.set _ (nullFree_set hold ?_)⟩
    simp [Facet.titleEncoding]
  · obtain rfl := pure_ok.mp heq
    exact ⟨axis, rfl, h⟩

theorem withFacetAxes_clean (haxes : ∀ axis ∈ axes, CleanOn name axis)
    (h : withFacetAxes axes g = .ok g') :
    ∃ old new, ((g.get? "axes").getD (.arr [])).elements = .ok old ∧
      g'.get? "axes" = some (.arr (old ++ new)) ∧
      ∀ m ∈ new, ∃ axis, m = .obj axis ∧ CleanOn name axis := by
  simp only [withFacetAxes, encodeTitles, Json.elements, bind_ok, pure_ok, Except.ok.injEq,
    exists_eq_left'] at h
  obtain ⟨old, hold, new, ⟨facet, -, hnew⟩, rfl⟩ := h
  refine ⟨old, new, hold, Fields.get?_set_self _ _ _, fun m hm => ?_⟩
  obtain ⟨_, hmem, heq⟩ := mapM_mem hnew m hm
  obtain ⟨axis, haxis, rfl⟩ := List.mem_map.mp hmem
  exact encodeTitle_clean facet (haxes axis haxis) heq

/-- The name of the scale that an axis is on in a group: the one that it has at chart level, or
that of a scale of the group. -/
def IsFacetScale (p : Position) (g : Fields) (chart name : Json) : Prop :=
  name = chart ∨ ∃ (bound : Scale.Bound) (scale : Fields),
    Scale.resolve ((g.get? "scales").getD (.arr [])) p = .ok bound ∧ bound.scale = .obj scale ∧
      scale.get? "name" = some name

/-- What a trellis group takes for an axis, with no null save in the names of scales: axes after
those that it has, and marks around those that it has. -/
structure TakesClean (p : Position) (chart : Json) (g g' : Fields) : Prop where
  axes : ∃ old new name, ((g.get? "axes").getD (.arr [])).elements = .ok old ∧
    g'.get? "axes" = some (.arr (old ++ new)) ∧ IsFacetScale p g chart name ∧
    ∀ axis ∈ new, CleanFor name axis
  marks : g'.get? "marks" = g.get? "marks" ∨ ∃ before old after,
    (g.get? "marks").getD (.arr []) = .arr old ∧
    g'.get? "marks" = some (.arr (before ++ old ++ after)) ∧
    ∀ m ∈ before ++ after, m.nullFree = true

theorem withBaseline_list {marks : Json} (h : withBaseline r v = .ok marks) :
    ∃ old, v = .arr old := by
  unfold withBaseline at h
  split at h
  · obtain ⟨old, hold, -⟩ := append_ok.mp h
    exact ⟨old, hold⟩
  · cases v with
    | arr old => exact ⟨old, rfl⟩
    | _ => cases h

theorem withGroupBaseline_marks (h : withGroupBaseline r binding g = .ok g') :
    g'.get? "marks" = g.get? "marks" ∨ ∃ before old after,
      (g.get? "marks").getD (.arr []) = .arr old ∧
      g'.get? "marks" = some (.arr (before ++ old ++ after)) ∧
      ∀ m ∈ before ++ after, m.nullFree = true := by
  have hrule := Baseline.nullFree_rule r.baselineOffset r.position
  unfold withGroupBaseline at h
  split at h
  · obtain ⟨marks, hmarks, rfl⟩ := map_ok.mp h
    obtain ⟨old, hold⟩ := withBaseline_list hmarks
    rw [hold, withBaseline_arr] at hmarks
    obtain rfl := Except.ok.inj hmarks
    rw [Fields.get?_set_self]
    generalize Baseline.rule (.float r.baselineOffset) r.position = rule at hrule
    refine .inr ?_
    split
    · exact ⟨[], old, [rule], hold, by simp, by simpa using hrule⟩
    · exact ⟨[rule], old, [], hold, by simp, by simpa using hrule⟩
  · obtain rfl := Except.ok.inj h
    exact .inl rfl

theorem rawOffsetFree_facet (f : FacetAddition r binding context g) (h : r.RawOffsetFree) :
    f.axis.RawOffsetFree := by
  obtain ⟨type, -, haxis⟩ := f.axis_eq
  rw [haxis]
  cases type <;> exact h

theorem FacetAddition.takesClean (f : FacetAddition r binding context g) (h : r.RawOffsetFree) :
    TakesClean r.position binding.scaleName.value g f.result where
  axes := by
    have hname := bundle_named f.axes_eq
    obtain ⟨hothers, hscale⟩ := f.form_ok
    obtain ⟨old, new, hold, hresult, hnew⟩ :=
      withFacetAxes_clean (bundle_clean (rawOffsetFree_facet f h) f.axes_eq) f.result_eq
    rw [hothers "axes" (by simp), f.based_get? (by simp)] at hold
    refine ⟨old, new, _, hold, hresult, hscale.imp_left (congrArg ScaleName.value), fun m hm => ?_⟩
    obtain ⟨axis, rfl, haxis⟩ := hnew m hm
    exact haxis.cleanFor hname
  marks := by
    rw [withFacetAxes_get? f.result_eq (by simp), f.form_ok.1 "marks" (by simp)]
    exact withGroupBaseline_marks f.based_eq

-- ---------------------------------------------------------------------------
-- One call
-- ---------------------------------------------------------------------------

/-- Whatever an axis adds to a document or to its trellis group has no null of its own, at any
depth: where there is one, it is within the name of the scale that the axis is on. -/
theorem add_nullFree (h : o.RawOffsetFree) (hrun : (add o index).run b = .ok () b') :
    ∃ (bound : BoundScale) (scales : Json) (old new : List Json),
      boundScale b.scales o = .ok (bound, scales) ∧
      b.axes = .arr old ∧ b'.axes = .arr (old ++ new) ∧ (∀ axis ∈ new, CleanFor bound.name axis) ∧
      ((∀ ms, b.marks ≠ .arr ms) → b'.marks = b.marks) ∧
      (∀ ms, b.marks = .arr ms → ∃ before kept after, b'.marks = .arr (before ++ kept ++ after) ∧
        (∀ m ∈ before ++ after, CleanFor bound.name m) ∧
        ChangedAt (IsGroupAt ms) (TakesClean o.position bound.name) ms kept) ∧
      ∀ name v, CleanFor name v → name.nullFree = true → v.nullFree = true := by
  obtain ⟨a, hmarks⟩ := add_ok.mp hrun
  have hfeatures := AxisOptions.resolveFor_features a.axis_eq
  have hraw : a.axis.RawOffsetFree := by
    rw [hfeatures]
    exact h
  have hname : a.bound.name ≠ .null := bundle_named a.axes_eq
  refine ⟨a.bound, a.scales, a.oldAxes, a.axes.map .obj, a.bound_eq, a.oldAxes_eq, ?_,
    ?_, ?_, ?_, ?_⟩
  · rw [← addMarks_frame hmarks]
    rfl
  · intro axis haxis
    obtain ⟨axis, hmem, rfl⟩ := List.mem_map.mp haxis
    refine (bundle_clean ?_ a.axes_eq axis hmem).cleanFor hname
    exact hraw
  · intro hm
    rw [addMarks_unlisted (b := a.unmarked) hm hmarks]
    rfl
  · intro ms hm
    obtain ⟨kept, hkept, hchanged⟩ := add_layers hm a hmarks
    refine ⟨_, kept, _, hkept, Drawing.marks_clean (d := a.drawing) hname, hchanged.imp ?_⟩
    rintro _ _ _ - - ⟨f, rfl⟩
    have htakes := f.takesClean hraw
    rwa [position_resolved a.axis_eq] at htakes
  · exact fun name v hclean hfree => hclean.nullFree hfree

def offsetAxis : AxisOptions :=
  { position := .bottom, baseline := true, title := some (.line "days"),
    referenceLines :=
      [{ value := .int 1 }, { value := .int 2, icon := some "date", layer := .back }],
    notes := [{ format := some .span }],
    vegaLabelOffset := some (.encoding [("signal", .str "4")]) }

theorem stacked_nullFree :
    offsetAxis.RawOffsetFree ∧ ∃ (b' : Builder) (new before kept after : List Json),
      (add offsetAxis .null).run (stacked "linear") = .ok () b' ∧
      b'.axes = .arr new ∧ (∀ axis ∈ new, axis.nullFree = true) ∧
      b'.marks = .arr (before ++ kept ++ after) ∧ (∀ m ∈ before ++ after, m.nullFree = true) ∧
      ChangedAt (IsGroupAt [.obj stackedGroup]) (TakesClean .bottom (.str "xScale"))
        [.obj stackedGroup] kept := by
  have hraw : offsetAxis.RawOffsetFree := by
    rintro fs ⟨⟩
    simp
  have hsome : (after (stacked "linear") [.read offsetAxis .null]).isSome = true := by
    decide +kernel
  obtain ⟨b', hb'⟩ := Option.isSome_iff_exists.mp hsome
  have hadd : (add offsetAxis .null).run (stacked "linear") = .ok () b' :=
    runs_single.mp (after_eq_some.mp hb')
  obtain ⟨bound, scales, old, new, hbound, hold, hnew, hclean, -, hmarks, hfree⟩ :=
    add_nullFree hraw hadd
  have hname : bound.name = .str "xScale" := by
    have heq : (boundScale (stacked "linear").scales offsetAxis).toOption.map (·.1.name) =
        some (.str "xScale") := by decide +kernel
    rw [hbound] at heq
    exact Option.some.inj heq
  obtain rfl : [] = old := by
    have heq : Json.arr [] = .arr old := hold
    simpa using heq
  obtain ⟨before, kept, above, hmarks', hclean', hchanged⟩ := hmarks [.obj stackedGroup] rfl
  rw [hname] at hclean hclean' hchanged
  exact ⟨hraw, b', new, before, kept, above, hadd, hnew,
    fun axis haxis => hfree _ _ (hclean axis haxis) (nullFree_str _ _), hmarks',
    fun m hm => hfree _ _ (hclean' m hm) (nullFree_str _ _), hchanged⟩

def listNamed : Builder :=
  { bars with
    scales := .arr [.obj [("name", .arr [.null]), ("type", .str "linear"),
      ("range", .str "width")]] }

/-- The null of the name is in the axis, and in the mark of its line. -/
theorem listNamed_nulls :
    ({ position := .bottom, referenceLines := [{ value := .int 1 }] } : AxisOptions).RawOffsetFree ∧
      (after listNamed [.read { position := .bottom, referenceLines := [{ value := .int 1 }] }
          .null]).map (fun b => ((itemsOf b.axes).map Json.nullFree,
            (itemsOf b.marks).map Json.nullFree)) =
        some ([false], [true, false]) := by
  refine ⟨?_, by decide +kernel⟩
  rintro fs ⟨⟩

end Builder

end VegaAxes
