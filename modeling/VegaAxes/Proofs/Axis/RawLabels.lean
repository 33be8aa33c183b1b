import VegaAxes.Proofs.Builder.AxisShape

/-!
# Raw label properties

`plain` writes all raw label properties that are set, as they are; the halves of a time axis take
only those of the anchor. `bundle_rawLabels`: they reach every axis that shows labels, save that an
offset or a padding is lost where labels are of times.
-/

namespace VegaAxes.Axis

variable {axis axis' : Fields} {axes : List Fields} {o : ResolvedAxis} {scaleName : ScaleName}
  {context context' : Context} {name : String}

structure RawAnchor (o : ResolvedAxis) (axis : Fields) : Prop where
  align : ∀ s, o.vegaLabelAlign = some s → s ≠ "" → axis.get? "labelAlign" = some (.str s)
  baseline : ∀ s, o.vegaLabelBaseline = some s → s ≠ "" → axis.get? "labelBaseline" = some (.str s)

/-- All raw label properties that are set stand on the axis. -/
structure RawLabels (o : ResolvedAxis) (axis : Fields) : Prop extends RawAnchor o axis where
  offset : ∀ x, o.vegaLabelOffset = some x → axis.get? "labelOffset" = some x.toJson
  padding : ∀ x, o.vegaLabelPadding = some x → axis.get? "labelPadding" = some x.toJson

/-- The axis has neither of the properties that go with labels at a distance. -/
structure Unspaced (axis : Fields) : Prop where
  offset : axis.get? "labelOffset" = none
  padding : axis.get? "labelPadding" = none

def rawKeys : List String :=
  ["labelAlign", "labelBaseline", "labelOffset", "labelPadding"]

theorem RawAnchor.congr (h : RawAnchor o axis)
    (hsame : ∀ key ∈ rawKeys, axis'.get? key = axis.get? key) : RawAnchor o axis' where
  align s hs hne := (hsame _ (by simp [rawKeys])).trans (h.align s hs hne)
  baseline s hs hne := (hsame _ (by simp [rawKeys])).trans (h.baseline s hs hne)

theorem RawLabels.congr (h : RawLabels o axis)
    (hsame : ∀ key ∈ rawKeys, axis'.get? key = axis.get? key) : RawLabels o axis' where
  toRawAnchor := h.toRawAnchor.congr hsame
  offset x hx := (hsame _ (by simp [rawKeys])).trans (h.offset x hx)
  padding x hx := (hsame _ (by simp [rawKeys])).trans (h.padding x hx)

theorem Unspaced.congr (h : Unspaced axis)
    (hsame : ∀ key ∈ rawKeys, axis'.get? key = axis.get? key) : Unspaced axis' where
  offset := (hsame _ (by simp [rawKeys])).trans h.offset
  padding := (hsame _ (by simp [rawKeys])).trans h.padding

theorem RawAnchor.rawLabels_iff (h : RawAnchor o axis) (hunspaced : Unspaced axis) :
    RawLabels o axis ↔ o.vegaLabelOffset = none ∧ o.vegaLabelPadding = none := by
  constructor
  · intro hraw
    refine ⟨Option.eq_none_iff_forall_ne_some.mpr fun x hx => ?_,
      Option.eq_none_iff_forall_ne_some.mpr fun x hx => ?_⟩
    · cases hunspaced.offset.symm.trans (hraw.offset x hx)
    · cases hunspaced.padding.symm.trans (hraw.padding x hx)
  · rintro ⟨hoffset, hpadding⟩
    exact ⟨h, by simp [hoffset], by simp [hpadding]⟩

theorem forall_rawLabels_iff (hsome : axes ≠ [])
    (h : ∀ axis ∈ axes, RawAnchor o axis ∧ Unspaced axis) :
    (∀ axis ∈ axes, RawLabels o axis) ↔ o.vegaLabelOffset = none ∧ o.vegaLabelPadding = none := by
  obtain ⟨first, hfirst⟩ := List.exists_mem_of_ne_nil axes hsome
  constructor
  · intro hall
    obtain ⟨hanchor, hunspaced⟩ := h first hfirst
    exact (hanchor.rawLabels_iff hunspaced).mp (hall first hfirst)
  · intro hnone axis haxis
    obtain ⟨hanchor, hunspaced⟩ := h axis haxis
    exact (hanchor.rawLabels_iff hunspaced).mpr hnone

-- ---------------------------------------------------------------------------
-- The axes as they are first made
-- ---------------------------------------------------------------------------

theorem orElse_text {s : String} (h : s ≠ "") (alternative : Json) :
    (textJson (some s)).orElse alternative = .str s := by
  simp [textJson, Json.ofOption, Json.orElse, Json.truthy, h]

/-- A raw property goes before the one of the anchor. -/
theorem rawAnchor_of_present {fs : Fields} {align baseline : Json}
    (halign : fs.get? "labelAlign" = some ((textJson o.vegaLabelAlign).orElse align))
    (hbaseline : fs.get? "labelBaseline" = some ((textJson o.vegaLabelBaseline).orElse baseline)) :
    RawAnchor o fs.present where
  align s hs hne := by
    rw [hs, orElse_text hne] at halign
    exact Fields.get?_present halign (by simp)
  baseline s hs hne := by
    rw [hs, orElse_text hne] at hbaseline
    exact Fields.get?_present hbaseline (by simp)

theorem plain_rawLabels (o : ResolvedAxis) (scaleName : ScaleName) :
    RawLabels o (plain o scaleName) where
  toRawAnchor := rawAnchor_of_present rfl rfl
  offset x hx := by
    have hset : x.toJson ≠ .null := by cases x <;> simp [LabelOffset.toJson]
    refine Fields.get?_present (congrArg some ?_) hset
    rw [hx]
    exact if_pos hset
  padding x hx := by
    have hset : x.toJson ≠ .null := by cases x <;> simp [Number.toJson]
    refine Fields.get?_present (congrArg some ?_) hset
    rw [hx]
    rfl

theorem secondaryTime_rawAnchor (o : ResolvedAxis) (scaleName : ScaleName) :
    RawAnchor o (secondaryTime scaleName o) ∧ Unspaced (secondaryTime scaleName o) := by
  unfold secondaryTime secondaryTimeFormat
  split
  · exact ⟨rawAnchor_of_present rfl rfl, Fields.get?_present_none rfl, Fields.get?_present_none rfl⟩
  · exact ⟨rawAnchor_of_present rfl rfl, Fields.get?_present_none rfl, Fields.get?_present_none rfl⟩

theorem primaryTime_rawAnchor (o : ResolvedAxis) (scaleName : ScaleName) :
    RawAnchor o (primaryTime scaleName o) ∧ Unspaced (primaryTime scaleName o) :=
  ⟨rawAnchor_of_present rfl rfl, Fields.get?_present_none rfl, Fields.get?_present_none rfl⟩

-- ---------------------------------------------------------------------------
-- The axes that show labels
-- ---------------------------------------------------------------------------

theorem titled_rawKeys : ∀ key ∈ rawKeys, (titled o axis).get? key = axis.get? key :=
  fun _ hkey => titled_get? ((by decide : ∀ key ∈ rawKeys, key ≠ "titlePadding") _ hkey)

theorem base_rawKeys :
    ∀ key ∈ rawKeys, (base o scaleName).get? key = (plain o scaleName).get? key :=
  fun _ hkey => base_get? o ((by decide : ∀ key ∈ rawKeys, key ≠ "values") _ hkey)
    ((by decide : ∀ key ∈ rawKeys, key ≠ "encode") _ hkey)

theorem ComesFrom.rawKeys (h : ComesFrom axis' axis) :
    ∀ key ∈ rawKeys, axis'.get? key = axis.get? key :=
  fun _ hkey => h _ ((by decide : ∀ key ∈ Axis.rawKeys, key ∉ decoratedKeys) _ hkey)

theorem baseAxes_rawLabels (h : o.labelFormat ≠ .time) :
    ∀ axis ∈ baseAxes o scaleName, RawLabels o axis := by
  rw [baseAxes, if_neg h]
  simp only [List.mem_singleton, forall_eq]
  exact ((plain_rawLabels o scaleName).congr base_rawKeys).congr titled_rawKeys

theorem baseAxes_rawAnchor (h : o.labelFormat = .time) :
    ∀ axis ∈ baseAxes o scaleName, RawAnchor o axis ∧ Unspaced axis := by
  rw [baseAxes, if_pos h, List.forall_mem_cons]
  obtain ⟨hanchor, hunspaced⟩ := secondaryTime_rawAnchor o scaleName
  refine ⟨⟨hanchor.congr titled_rawKeys, hunspaced.congr titled_rawKeys⟩, ?_⟩
  unfold time
  split
  · simp
  · simpa using primaryTime_rawAnchor o scaleName

/-- The axes that show labels come first, and what is raw of them is as it was made. -/
theorem bundle_bases {opposingType : Json} {dualMetric : Bool}
    (hname : Trellis.laysOutFacets ⟨.str name⟩ = false)
    (h : (bundle o ⟨⟨.str name⟩, opposingType, dualMetric⟩).run context = .ok axes context') :
    ∃ bases companions layouts, axes = bases ++ companions ++ layouts ∧
      bases.length =
        (if o.labelFormat = .time ∧ (o.position = .top ∨ o.position = .bottom) then 2 else 1) ∧
      ∀ axis ∈ bases, ∃ base ∈ baseAxes o ⟨.str name⟩,
        ∀ key ∈ rawKeys, axis.get? key = base.get? key := by
  obtain ⟨bases, companions, layouts, rfl, hshape⟩ := shape_of_bundle rfl h
  have hlength := hshape.bases_length
  simp only [Trellis.drawnSide, hname, Bool.false_eq_true, if_false] at hlength
  obtain ⟨drawn, hdrawn, horigin, -⟩ := hshape.origin
  obtain ⟨-, rfl⟩ | ⟨htrellis, -⟩ := Trellis.withHeader_ok hdrawn
  · refine ⟨bases, companions, layouts, rfl, hlength, fun axis haxis => ?_⟩
    obtain ⟨base, hbase, hcomes⟩ := horigin.origin haxis
    exact ⟨base, hbase, hcomes.rawKeys⟩
  · cases hname.symm.trans htrellis

/-- Every axis that shows labels has the raw anchor. It has the raw offset and padding too, but for
times: no half of their axis has any. So all that is set is there exactly if neither is set for
times. -/
theorem bundle_rawLabels (o : ResolvedAxis) (name : String) (opposingType : Json)
    (dualMetric : Bool)
    (context : Context) (hname : Text.contains name "TrellisBand" = false) :
    (Builder.IsCount context.metricAxisCount → ∃ axes context',
      (bundle o ⟨⟨.str name⟩, opposingType, dualMetric⟩).run context = .ok axes context') ∧
    ∀ axes context', (bundle o ⟨⟨.str name⟩, opposingType, dualMetric⟩).run context =
      .ok axes context' →
      ∃ bases companions layouts, axes = bases ++ companions ++ layouts ∧
        bases.length =
          (if o.labelFormat = .time ∧ (o.position = .top ∨ o.position = .bottom) then 2 else 1) ∧
        (∀ axis ∈ bases, RawAnchor o axis) ∧
        (o.labelFormat = .time → ∀ axis ∈ bases, Unspaced axis) ∧
        ((∀ axis ∈ bases, RawLabels o axis) ↔
          (o.labelFormat = .time → o.vegaLabelOffset = none ∧ o.vegaLabelPadding = none)) := by
  have hplain : Trellis.laysOutFacets ⟨.str name⟩ = false := hname
  refine ⟨fun hcount => ?_, fun axes context' h => ?_⟩
  · obtain ⟨o', hheader⟩ := Builder.withHeader_text name o
    exact bundle_succeeds hheader (Builder.startedCount_succeeds hcount)
  obtain ⟨bases, companions, layouts, rfl, hlength, horigin⟩ := bundle_bases hplain h
  refine ⟨bases, companions, layouts, rfl, hlength, ?_⟩
  by_cases htime : o.labelFormat = .time
  · have hbases : ∀ axis ∈ bases, RawAnchor o axis ∧ Unspaced axis := by
      intro axis haxis
      obtain ⟨base, hbase, hsame⟩ := horigin axis haxis
      obtain ⟨hanchor, hunspaced⟩ := baseAxes_rawAnchor htime base hbase
      exact ⟨hanchor.congr hsame, hunspaced.congr hsame⟩
    have hsome : bases ≠ [] := by
      rintro rfl
      rw [List.length_nil] at hlength
      split at hlength <;> omega
    refine ⟨fun axis haxis => (hbases axis haxis).1, fun _ axis haxis => (hbases axis haxis).2, ?_⟩
    rw [forall_rawLabels_iff hsome hbases, imp_iff_right htime]
  · have hbases : ∀ axis ∈ bases, RawLabels o axis := by
      intro axis haxis
      obtain ⟨base, hbase, hsame⟩ := horigin axis haxis
      exact (baseAxes_rawLabels htime base hbase).congr hsame
    refine ⟨fun axis haxis => (hbases axis haxis).toRawAnchor, fun h => absurd h htime, ?_⟩
    exact iff_of_true hbases fun h => absurd h htime

def spacedTimes : ResolvedAxis where
  position := .bottom
  name := "axis0"
  scaleType := "time"
  labelFormat := .time
  vegaLabelAlign := some "left"
  vegaLabelOffset := some (.pixels 4)
  vegaLabelPadding := some (.float 8)

theorem spacedTimes_rawLabels :
    Text.contains "xTime" "TrellisBand" = false ∧
      ∃ bases companions layouts context',
        (bundle spacedTimes ⟨⟨.str "xTime"⟩, .str "linear", false⟩).run ⟨.vertical, .light, .null⟩ =
          .ok (bases ++ companions ++ layouts) context' ∧
        bases.length = 2 ∧ (∀ axis ∈ bases, RawAnchor spacedTimes axis) ∧
        ¬∀ axis ∈ bases, RawLabels spacedTimes axis := by
  have hname : Text.contains "xTime" "TrellisBand" = false := by decide +kernel
  obtain ⟨hreturns, hraw⟩ :=
    bundle_rawLabels spacedTimes "xTime" (.str "linear") false ⟨.vertical, .light, .null⟩ hname
  obtain ⟨axes, context', hrun⟩ := hreturns (.inl rfl)
  obtain ⟨bases, companions, layouts, rfl, hlength, hanchors, -, hiff⟩ := hraw axes context' hrun
  refine ⟨hname, bases, companions, layouts, context', hrun, hlength, hanchors, fun hall => ?_⟩
  cases (hiff.mp hall rfl).1

theorem spacedTimes_unpadded :
    spacedTimes.vegaLabelPadding = some (.float 8) ∧ Text.contains "xTime" "TrellisBand" = false ∧
      ∃ axes context',
        (bundle spacedTimes ⟨⟨.str "xTime"⟩, .str "linear", false⟩).run ⟨.vertical, .light, .null⟩ =
          .ok axes context' ∧
        axes.length = 2 ∧ ∀ axis ∈ axes, axis.get? "labelPadding" ≠ some (.float 8) :=
  ⟨rfl, by decide +kernel, _, _, rfl, rfl, by decide +kernel⟩

end VegaAxes.Axis
