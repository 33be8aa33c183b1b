import VegaAxes.Proofs.Builder.Conservation
import VegaAxes.Proofs.Options.Resolving
import VegaAxes.Proofs.Scale.Preference

/-!
# Axes on scales of their own range

Where ranges are unmixed among the scales of a document and those of its trellis group
(`Ranged`), every axis of a build is bound to a scale of its own range, at chart level and within
facets, and leaves the scales of the other range as they are (`InRange`). `add_ranged` is one
call, `runs_ranged` a run of them. Among mixed ranges the axis may be bound across
(`crossed_bottom`).
-/

namespace VegaAxes.Builder

open Scale Trellis

variable {b b' b₁ b₂ : Builder} {o : AxisOptions} {index : Json} {calls : List Call} {c : Call}

def RangedScales (scales : Json) : Prop :=
  ∀ items, scales = .arr items → Scale.Ranged items

def RangedGroup (g : Fields) : Prop :=
  RangedScales (g.getD "scales" (.arr []))

/-- Ranges are unmixed among the scales of the document, and among those of its trellis group. -/
structure Ranged (b : Builder) : Prop where
  scales : RangedScales b.scales
  group : ∀ ms, b.marks = .arr ms → GroupHas RangedGroup ms

/-- A trellis group before and after it takes the axes of its facets. They are on the scale of the
axis at chart level, or on one of the group that has the axis's range. No scale of the group
is changed. -/
structure InRangeWithin (scale : Json) (p : Position) (g g' : Fields) : Prop where
  axes : ∃ old new scale', ((g.get? "axes").getD (.arr [])).elements = .ok old ∧
    g'.get? "axes" = some (.arr (old ++ new)) ∧
    (∀ m ∈ new, ∃ axis : Fields, m = .obj axis ∧ axis.get? "scale" = some scale') ∧
    (scale' = scale ∨ ∃ (bound : Bound) (fs : Fields),
      resolve (g.getD "scales" (.arr [])) p = .ok bound ∧ bound.scale = .obj fs ∧
        hasRange p.extent bound.scale = true ∧ fs.get? "name" = some scale')
  scales : g'.get? "scales" = g.get? "scales" ∨
    ∃ items, g.get? "scales" = some (.arr items) ∧
      g'.get? "scales" = some (.arr (items ++ missing p.extent items))

/-- The axis is bound to a scale of its range, by the scale's name if it is given none. Scales
without the range are left as they are. -/
structure InRange (a : Addition b o index) (b' : Builder) : Prop where
  bound : hasRange o.position.extent (.obj a.bound.fields) = true
  name : given o.name = none → a.bound.fields.get? "name" = some a.bound.name
  others : ∃ old new, b.scales = .arr old ∧ b'.scales = .arr new ∧
    ∀ (place : Nat) (scale : Json), (completed o.position old)[place]? = some scale →
      hasRange o.position.extent scale = false → new[place]? = some scale
  facets : ∀ ms place, b.marks = .arr ms →
    findGroup? 0 (lined a.axis ⟨a.bound.name⟩ ms) = .ok (some place) →
    ∃ (ms' : List Json) (g g' : Fields), (lined a.axis ⟨a.bound.name⟩ ms)[place]? = some (.obj g) ∧
      b'.marks = .arr ms' ∧ ms'[place]? = some (.obj g') ∧
      InRangeWithin a.bound.name o.position g g'

-- ---------------------------------------------------------------------------
-- The trellis group
-- ---------------------------------------------------------------------------

theorem drawn_ranged {g : Fields} (h : Drawn (.obj g)) : RangedGroup g := by
  obtain ⟨_, heq, h⟩ := h
  cases heq
  intro items hitems
  rw [Fields.getD, h.scales] at hitems
  cases hitems
  exact ⟨by simp, fun e => by cases e <;> decide⟩

theorem Faceted.ranged {r : ResolvedAxis} {binding : Axis.Binding} {context : Context}
    {g g' : Fields} (h : Faceted r binding context g g') (hg : RangedGroup g) : RangedGroup g' := by
  obtain ⟨a, rfl⟩ := h
  intro items hitems
  rcases a.result_scales with heq | ⟨old, hold, hnew⟩
  · exact hg items (Fields.getD_eq_of_get? heq _ ▸ hitems)
  · rw [Fields.getD, hnew] at hitems
    cases hitems
    exact (hg old (by rw [Fields.getD, hold]; rfl)).append_missing _

theorem FacetAddition.inRange {r : ResolvedAxis} {binding : Axis.Binding} {context : Context}
    {g : Fields} (a : FacetAddition r binding context g) (hg : RangedGroup g) :
    InRangeWithin binding.scaleName.value r.position g a.result where
  axes := by
    obtain ⟨old, new, hold, hresult, -, hnew⟩ := a.result_ok
    refine ⟨old, new, a.facetBinding.scaleName.value, hold, hresult, fun m hm => ?_, ?_⟩
    · obtain ⟨axis, rfl, haxis⟩ := hnew m hm
      exact ⟨axis, rfl, haxis.scale⟩
    · rcases a.form_ok.2 with hname | ⟨bound, fs, hbound, hfs, hname⟩
      · exact .inl (congrArg ScaleName.value hname)
      · obtain ⟨items, hitems⟩ := resolve_list hbound
        refine .inr ⟨bound, fs, hbound, hfs, ?_, hname⟩
        exact (hg items hitems).hasRange_resolve (hitems ▸ hbound)
  scales := a.result_scales

-- ---------------------------------------------------------------------------
-- One call
-- ---------------------------------------------------------------------------

theorem Addition.scales_list (a : Addition b o index) : ∃ items, b.scales = .arr items := by
  have hbound := a.bound_eq
  simp only [boundScale, bind_ok] at hbound
  obtain ⟨r, hr, -⟩ := hbound
  exact resolve_list hr

theorem Addition.bound_name (a : Addition b o index) (h : given o.name = none) :
    a.bound.fields.get? "name" = some a.bound.name := by
  have hbound := a.bound_eq
  simp only [boundScale, boundName, h, bind_ok, pure_ok, Prod.mk.injEq] at hbound
  obtain ⟨_, -, fields, -, name, hname, _, -, _, -, hbound, -⟩ := hbound
  rw [← hbound]
  exact nameOf_ok.mp hname

theorem position_resolved {r : ResolvedAxis} {type : Json} {scheme : ColorScheme} {index : Json}
    (h : o.resolveFor type scheme index = .ok r) : r.position = o.position :=
  congrArg AxisFeatures.position (AxisOptions.resolveFor_features h)

theorem add_ranged (hb : b.Ranged) (h : (add o index).run b = .ok () b') :
    b'.Ranged ∧ ∃ a : Addition b o index, InRange a b' := by
  obtain ⟨a, h⟩ := add_ok.mp h
  obtain ⟨items, hitems⟩ := a.scales_list
  have hbound := a.bound_eq
  rw [hitems] at hbound
  have hranged := hb.scales items hitems
  obtain ⟨⟨r, hr, -, hscale⟩, -, -, hplace⟩ := boundScale_arr hbound
  obtain ⟨new, hnew, hchanged⟩ := narrowedScales_ok hbound
  have hrange : hasRange o.position.extent (.obj a.bound.fields) = true :=
    hscale ▸ hranged.hasRange_resolve hr
  have hframe := addMarks_frame h
  have hscales : b'.scales = .arr new := by
    rw [← hframe]
    exact hnew
  refine ⟨⟨fun all hall => ?_, fun ms' hms' => ?_⟩, a, hrange, a.bound_name, ?_, ?_⟩
  · obtain rfl := Json.arr.inj (hscales.symm.trans hall)
    exact ((hranged.append_missing _).append_missing _).narrowed hchanged
  · cases hms : b.marks with
    | arr ms =>
      obtain ⟨_, rfl, hgroup⟩ := addMarks_groupHas (b := a.unmarked) drawn_ranged Faceted.ranged hms
        (hb.group ms hms) h
      cases hms'
      exact hgroup
    | _ =>
      obtain rfl := addMarks_unlisted (b := a.unmarked) (by simp [Addition.unmarked, hms]) h
      simp [Addition.unmarked, hms] at hms'
  · refine ⟨items, new, hitems, hscales, fun place scale hold hother => ?_⟩
    have hlt := (List.getElem?_eq_some_iff.mp hold).1
    obtain ⟨y, hy⟩ : ∃ y, new[place]? = some y :=
      ⟨_, List.getElem?_eq_getElem (hchanged.1 ▸ hlt)⟩
    rcases hchanged.2 place _ _ hold hy with rfl | ⟨⟨rfl, -⟩, -⟩
    · exact hy
    · -- the one scale that is changed has the range
      rw [hplace] at hold
      cases hold
      rw [hrange] at hother
      cases hother
  · intro ms place hms hgroup
    rw [← a.binding_scaleName] at hgroup ⊢
    obtain ⟨ms', g, f, hg, hms', hplace'⟩ := addMarks_facets (b := a.unmarked) hms hgroup h
    refine ⟨ms', g, f.result, hg, hms', hplace', ?_⟩
    rw [← position_resolved a.axis_eq]
    exact f.inRange (lined_groupHas drawn_ranged (hb.group ms hms) _ _ place g hgroup hg)

-- ---------------------------------------------------------------------------
-- Runs
-- ---------------------------------------------------------------------------

theorem runs_ranged (h : Runs b calls b') (hb : b.Ranged) : b'.Ranged := by
  induction h with
  | nil => exact hb
  | cons head _ ih =>
    obtain ⟨o, -, hadd⟩ := Call.run_ok.mp head
    exact ih (add_ranged hb hadd).1

/-- The scale for an axis has the axis's range exactly where ranges are unmixed, and is then the
preferred one of the range. In a build over such scales every axis is bound in range, whatever was
added before it. -/
theorem bound_in_range (items : List Json) (p : Position) (b b₁ b₂ : Builder) (calls : List Call)
    (c : Call) (o : AxisOptions) :
    ((∀ scale ∈ items, isReadable scale = true) →
      ∃ bound, resolve (.arr items) p = .ok bound ∧
        (hasRange p.extent bound.scale = true ↔ Unmixed p.extent items) ∧
        (Unmixed p.extent items →
          bound.place = (preferred? p.extent items).getD items.length ∧
            bound.scale = preferredScale p.extent items)) ∧
    (b.Ranged → Runs b calls b₁ → c.run.run b₁ = .ok () b₂ → c.options = .ok o →
      ∃ a : Addition b₁ o c.index, InRange a b₂) := by
  refine ⟨fun h => ⟨_, resolve_eq h p, hasRange_chosenScale_iff, fun hunmixed => ⟨?_, ?_⟩⟩,
    fun hb hruns hcall ho => ?_⟩
  · rw [chosenPlace, chosen?_eq_preferred? hunmixed]
  · exact chosenScale_eq_preferredScale hunmixed
  · obtain ⟨o', ho', hadd⟩ := Call.run_ok.mp hcall
    cases ho.symm.trans ho'
    exact (add_ranged (runs_ranged hruns hb) hadd).2

def facetScales : List Json :=
  [.obj [("name", .str "xScale"), ("type", .str "linear"), ("range", .str "width")],
    .obj [("name", .str "yScale"), ("type", .str "linear"), ("range", .str "height")],
    .obj [("name", .str "xTrellisBand"), ("type", .str "band"), ("range", .str "width")]]

def facetMarks : List Json :=
  [.obj [("name", .str "xTrellisGroup"), ("type", .str "group"),
    ("scales", .arr [.obj [("name", .str "xInner"), ("type", .str "linear"),
      ("range", .str "width")]])]]

def facetBars : Builder :=
  { bars with scales := .arr facetScales, marks := .arr facetMarks }

theorem facetBars_inRange :
    facetBars.Ranged ∧
      (∃ bound, resolve (.arr facetScales) .bottom = .ok bound ∧
        hasRange .width bound.scale = true) ∧
      ∃ (b₁ b₂ : Builder) (a : Addition b₁ { position := .bottom } .null),
        Runs facetBars [.read { position := .left, range := some (1, 5) } .null] b₁ ∧
          InRange a b₂ := by
  have hranged : facetBars.Ranged := by
    refine ⟨?_, ?_⟩
    · rintro _ ⟨⟩
      exact ⟨by decide, fun e => by cases e <;> decide⟩
    · rintro _ ⟨⟩ place g hplace hg
      have hfirst : IsGroupAt facetMarks 0 := rfl
      cases hfirst.symm.trans hplace
      cases hg
      rintro _ ⟨⟩
      exact ⟨by decide, fun e => by cases e <;> decide⟩
  have hsome : (after facetBars [.read { position := .left, range := some (1, 5) } .null,
      .read { position := .bottom } .null]).isSome = true := by decide +kernel
  obtain ⟨b₂, hb₂⟩ := Option.isSome_iff_exists.mp hsome
  obtain _ | ⟨hfirst, hlast⟩ := after_eq_some.mp hb₂
  have hruns := runs_single.mpr hfirst
  obtain ⟨hresolve, hbuild⟩ := bound_in_range facetScales .bottom facetBars _ b₂ _
    (.read { position := .bottom } .null) { position := .bottom }
  obtain ⟨bound, hbound, hiff, -⟩ := hresolve (by decide)
  obtain ⟨a, ha⟩ := hbuild hranged hruns (runs_single.mp hlast) rfl
  exact ⟨hranged, ⟨bound, hbound, hiff.mpr (by decide)⟩, _, b₂, a, hruns, ha⟩

def crossed : List Json :=
  [.obj [("name", .str "xLinear"), ("type", .str "linear"), ("range", .str "width")],
    .obj [("name", .str "xTime"), ("type", .str "time"), ("range", .str "width")],
    .obj [("name", .str "yTrellisLinear"), ("type", .str "linear"), ("range", .str "height")]]

theorem crossed_bottom :
    (∀ scale ∈ crossed, isReadable scale = true) ∧
      ∃ bound, resolve (.arr crossed) .bottom = .ok bound ∧ hasRange .width bound.scale = false ∧
        hasRange .height bound.scale = true ∧
        NarrowsAt { bars with scales := .arr crossed }
          { position := .bottom, range := some (5, 8) } bound.place :=
  ⟨by decide, _, rfl, by decide, by decide, rfl, _, rfl, rfl, by decide⟩

end VegaAxes.Builder
