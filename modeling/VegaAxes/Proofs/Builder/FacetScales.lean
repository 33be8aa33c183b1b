import VegaAxes.Proofs.Builder.FacetAxes
import VegaAxes.Proofs.Builder.ScaleRanges
import VegaAxes.Proofs.Builder.WellFormed

/-!
# Scales of facet axes

All axes that a call adds to the trellis group are on one scale. It is one of the group or of the
document, unless it was made up for a group that has no list to keep it (`facetAxes_inScope_iff`).
In a group with scales every axis of a build stays on one that is there (`runs_inScope`).
-/

namespace VegaAxes

namespace Scale

variable {name : Json} {items : List Json}

def isNamed (name scales : Json) : Bool :=
  match scales with
  | .arr items => items.any fun scale => decide (Fields.get? scale.ownFields "name" = some name)
  | _ => false

theorem isNamed_of_mem {fs : Fields} (hmem : .obj fs ∈ items) (hname : fs.get? "name" = some name) :
    isNamed name (.arr items) = true :=
  List.any_eq_true.mpr ⟨_, hmem, decide_eq_true hname⟩

theorem isNamed_append (name : Json) (xs ys : List Json) :
    isNamed name (.arr (xs ++ ys)) = (isNamed name (.arr xs) || isNamed name (.arr ys)) :=
  List.any_append

theorem isNamed_narrowed {narrowed : Nat → Prop} {new : List Json}
    (h : ChangedAt narrowed (Fields.SameExcept ["domain", "zero"]) items new) :
    isNamed name (.arr new) = isNamed name (.arr items) := by
  have hnames := h.map_eq (F := fun scale => Fields.get? scale.ownFields "name")
    fun h => h "name" (by simp)
  have hany (xs : List Json) : isNamed name (.arr xs) =
      (xs.map fun scale => Fields.get? scale.ownFields "name").any (decide <| · = some name) := by
    rw [List.any_map]
    rfl
  rw [hany, hany, hnames]

theorem isNamed_default_completed (e : Extent) (p : Position) (items : List Json) :
    isNamed (.str e.defaultScaleName) (.arr (completed p items)) =
      (isNamed (.str e.defaultScaleName) (.arr items) || !isOccupied e items) := by
  refine any_completed ?_ ?_ p items
  · cases e <;> decide
  · cases e <;> decide

end Scale

namespace Builder

open Scale Trellis

variable {b b' : Builder} {o : AxisOptions} {index : Json} {calls : List Call} {ms : List Json}
  {place : Nat} {g : Fields} {name scales : Json}

def inScope (name : Json) (g : Fields) (scales : Json) : Bool :=
  isNamed name (g.getD "scales" (.arr [])) || isNamed name scales

/-- The scale of the facets is kept in no list: the axis runs along them, their group has no scales,
and those of the document have the range, but none the name of the scale that is made up. -/
structure Unkept (p : Position) (g : Fields) (items : List Json) : Prop where
  along : orientation (.obj g) = .ok p.orientation
  bare : g.get? "scales" = none
  occupied : isOccupied p.extent items = true
  unnamed : isNamed (.str p.extent.defaultScaleName) (.arr items) = false

-- ---------------------------------------------------------------------------
-- The trellis group
-- ---------------------------------------------------------------------------

/-- Across the facets the axis keeps its scale, along them it gets one of the group. -/
theorem FacetAddition.inScope_iff {r : ResolvedAxis} {binding : Axis.Binding} {context : Context}
    (f : FacetAddition r binding context g)
    (hchart : isNamed binding.scaleName.value scales = true) :
    inScope f.facetBinding.scaleName.value f.result scales = true ↔
      (orientation (.obj g) = .ok r.position.orientation → g.get? "scales" = none →
        isNamed (.str r.position.extent.defaultScaleName) scales = true) := by
  have hresult : f.result.get? "scales" = f.scaled.get? "scales" :=
    withFacetAxes_get? f.result_eq (by simp)
  have hgroup : f.based.get? "scales" = g.get? "scales" := f.based_get? (by simp)
  have hname : f.based.get? "name" = g.get? "name" := f.based_get? (by simp)
  have horientation : orientation (.obj f.based) = orientation (.obj g) := by
    simp only [orientation, markName, Json.field, Json.fields, Except.map,
      Fields.getD_eq_of_get? hname .null]
  rw [inScope, Bool.or_eq_true]
  rcases facetForm_ok f.form_eq with
    ⟨hacross, -, hsame⟩ | ⟨halong, bound, scale, hbound, hscale, hown, hscaled⟩
  · rw [hsame]
    exact iff_of_true (.inr hchart) fun halong => absurd (horientation.trans halong) hacross
  · rw [hgroup] at hbound hscaled
    cases hscales : g.get? "scales" with
    | some given =>
      -- the group's list takes what is missing in it
      rw [hscales, Option.getD_some] at hbound
      obtain ⟨items, rfl⟩ := resolve_list hbound
      obtain ⟨hall, hplace⟩ := resolve_ok hbound
      have hkept : f.result.getD "scales" (.arr []) =
          .arr (items ++ missing r.position.extent items) := by
        rw [Fields.getD, hresult, hscaled, hscales, Option.isSome_some, if_pos rfl,
          Fields.get?_set_self, hall]
        rfl
      refine iff_of_true (.inl ?_) fun _ hbare => absurd hbare (Option.some_ne_none _)
      rw [hkept]
      exact isNamed_of_mem (hscale ▸ List.mem_of_getElem? hplace) hown
    | none =>
      rw [hscales] at hbound
      have hdefault : f.facetBinding.scaleName.value = .str r.position.extent.defaultScaleName := by
        cases hbound
        cases hscale
        exact (Option.some.inj hown).symm
      have hbare : f.result.getD "scales" (.arr []) = .arr [] := by
        rw [Fields.getD, hresult, hscaled, hscales, if_neg (by simp), hgroup, hscales]
        rfl
      rw [hbare, hdefault]
      exact ⟨fun h _ _ => h.resolve_left Bool.false_ne_true,
        fun h => .inr (h (horientation ▸ halong) rfl)⟩

-- ---------------------------------------------------------------------------
-- One call
-- ---------------------------------------------------------------------------

theorem Addition.isNamed_scales (a : Addition b o index) {items : List Json}
    (hitems : b.scales = .arr items) (name : Json) :
    isNamed name a.unmarked.scales = isNamed name (.arr (completed o.position items)) := by
  have hbound := a.bound_eq
  rw [hitems] at hbound
  obtain ⟨new, hnew, hchanged⟩ := narrowedScales_ok hbound
  rw [Addition.unmarked, hnew, isNamed_narrowed hchanged]

theorem Addition.isNamed_bound (a : Addition b o index) (hname : given o.name = none) :
    isNamed a.bound.name a.unmarked.scales = true := by
  obtain ⟨items, hitems⟩ := a.scales_list
  have hbound := a.bound_eq
  rw [hitems] at hbound
  obtain ⟨-, -, -, hplace⟩ := boundScale_arr hbound
  rw [a.isNamed_scales hitems]
  exact isNamed_of_mem (List.mem_of_getElem? hplace) (a.bound_name hname)

/-- All axes that a call adds to the trellis group are on one scale, which stands among those of the
group or of the document after the call, if it is kept anywhere. -/
theorem facetAxes_inScope_iff (hname : given o.name = none) (hm : b.marks = .arr ms)
    (hgroup : IsGroupAt ms place) (h : (add o index).run b = .ok () b') :
    ∃ (items : List Json) (g g' : Fields) (ms' : List Json) (place' : Nat) (old new : List Json)
      (name : Json), b.scales = .arr items ∧ ms[place]? = some (.obj g) ∧ b'.marks = .arr ms' ∧
      IsGroupAt ms' place' ∧ ms'[place']? = some (.obj g') ∧
      ((g.get? "axes").getD (.arr [])).elements = .ok old ∧
      g'.get? "axes" = some (.arr (old ++ new)) ∧ new ≠ [] ∧
      (∀ axis ∈ new, ∃ fs : Fields, axis = .obj fs ∧ fs.get? "scale" = some name) ∧
      (inScope name g' b'.scales = true ↔ ¬Unkept o.position g items) := by
  obtain ⟨-, g, hg⟩ := findGroup?_obj hgroup
  rw [Nat.sub_zero] at hg
  obtain ⟨a, f, ms', place', rfl, hgroup', hg'⟩ := add_group hm hgroup hg h
  obtain ⟨items, hitems⟩ := a.scales_list
  obtain ⟨old, new, hold, hresult, hlength, hnew⟩ := f.result_ok
  refine ⟨items, g, f.result, ms', place', old, new, f.facetBinding.scaleName.value,
    hitems, hg, rfl, hgroup', hg', hold, hresult, ?_, fun axis haxis => ?_, ?_⟩
  · rw [← List.length_pos_iff, hlength]
    exact Axis.bundle_length_pos f.axes_eq
  · obtain ⟨fs, rfl, hformed⟩ := hnew axis haxis
    exact ⟨fs, rfl, hformed.scale⟩
  · have hposition : a.axis.position = o.position := position_resolved a.axis_eq
    rw [f.inScope_iff (a.isNamed_bound hname), hposition, a.isNamed_scales hitems,
      isNamed_default_completed]
    constructor
    · intro hkept hunkept
      have := hkept hunkept.along hunkept.bare
      rw [hunkept.unnamed, hunkept.occupied] at this
      cases this
    · intro hkept halong hbare
      rw [Bool.or_eq_true, Bool.not_eq_true']
      by_cases hoccupied : isOccupied o.position.extent items = true
      · refine .inl (Bool.of_not_eq_false fun hunnamed => ?_)
        exact hkept ⟨halong, hbare, hoccupied, hunnamed⟩
      · exact .inr (Bool.eq_false_iff.mpr hoccupied)

theorem facetBars_kept :
    given (none : Option String) = none ∧ IsGroupAt facetMarks 0 ∧
      ∃ (b' : Builder) (g' : Fields) (ms' : List Json) (place' : Nat) (new : List Json)
        (name : Json), (add { position := .bottom } .null).run facetBars = .ok () b' ∧
        b'.marks = .arr ms' ∧ ms'[place']? = some (.obj g') ∧
        g'.get? "axes" = some (.arr new) ∧ new ≠ [] ∧
        (∀ axis ∈ new, ∃ fs : Fields, axis = .obj fs ∧ fs.get? "scale" = some name) ∧
        inScope name g' b'.scales = true := by
  have hsome : (after facetBars [.read { position := .bottom } .null]).isSome = true := by
    decide +kernel
  obtain ⟨b', hb'⟩ := Option.isSome_iff_exists.mp hsome
  have hadd : (add { position := .bottom } .null).run facetBars = .ok () b' :=
    runs_single.mp (after_eq_some.mp hb')
  have hgroup : IsGroupAt facetMarks 0 := rfl
  obtain ⟨items, g, g', ms', place', old, new, name, -, hg, hms', -, hg', hold, haxes, hne, hnew,
    hscope⟩ := facetAxes_inScope_iff rfl rfl hgroup hadd
  cases hg
  cases hold
  exact ⟨rfl, hgroup, b', g', ms', place', new, name, hadd, hms', hg', haxes, hne, hnew,
    hscope.mpr fun h => nomatch h.bare⟩

def bareFacets : Builder :=
  { bars with
    scales := .arr
      [.obj [("name", .str "xTrellisBand"), ("type", .str "band"), ("range", .str "width")]]
    marks := .arr [.obj [("name", .str "xTrellisGroup"), ("type", .str "group")]] }

/-- The scales that axes within marks are on, and whether these stand anywhere. -/
def scopes (b : Builder) : List (Option Json × Bool) :=
  (itemsOf b.marks).flatMap fun g => (itemsOf (Fields.getD g.ownFields "axes")).map fun axis =>
    let name := Fields.get? axis.ownFields "scale"
    (name, name.any (inScope · g.ownFields b.scales))

theorem bareFacets_unkept :
    (after bareFacets [.read { position := .bottom } .null]).map scopes =
      some [(some (.str "xLinear"), false)] := by
  decide +kernel

-- ---------------------------------------------------------------------------
-- Runs
-- ---------------------------------------------------------------------------

/-- The group has a list of scales, and all its axes are on scales that stand there or in the
document. -/
structure AxesInScope (g : Fields) (chart : Json) : Prop where
  scales : ∃ items, g.get? "scales" = some (.arr items)
  axes : ∃ items, ((g.get? "axes").getD (.arr [])).elements = .ok items ∧ ∀ axis ∈ items,
    ∃ (fs : Fields) (name : Json), axis = .obj fs ∧ fs.get? "scale" = some name ∧
      inScope name g chart = true

def GroupInScope (b : Builder) : Prop :=
  ∃ ms place g, b.marks = .arr ms ∧ IsGroupAt ms place ∧ ms[place]? = some (.obj g) ∧
    AxesInScope g b.scales

theorem FacetAddition.inScope_mono {r : ResolvedAxis} {binding : Axis.Binding} {context : Context}
    (f : FacetAddition r binding context g) {scales' : Json}
    (hscales : isNamed name scales = true → isNamed name scales' = true)
    (h : inScope name g scales = true) : inScope name f.result scales' = true := by
  rw [inScope, Bool.or_eq_true] at h ⊢
  refine h.imp (fun h => ?_) hscales
  rcases f.result_scales with heq | ⟨items, hold, hnew⟩
  · rwa [Fields.getD_eq_of_get? heq]
  · rw [Fields.getD, hold, Option.getD_some] at h
    rw [Fields.getD, hnew, Option.getD_some, isNamed_append, h, Bool.true_or]

theorem add_inScope (hname : given o.name = none) (hb : GroupInScope b)
    (h : (add o index).run b = .ok () b') : GroupInScope b' := by
  obtain ⟨ms, place, g, hm, hgroup, hg, ⟨scales, hscales⟩, items, hitems, haxes⟩ := hb
  obtain ⟨a, f, ms', place', rfl, hgroup', hg'⟩ := add_group hm hgroup hg h
  obtain ⟨chart, hchart⟩ := a.scales_list
  have hgrown (name : Json) (hname : isNamed name b.scales = true) :
      isNamed name a.unmarked.scales = true := by
    rw [hchart] at hname
    rw [a.isNamed_scales hchart, completed, isNamed_append, isNamed_append, hname]
    rfl
  obtain ⟨old, new, hold, hresult, -, hnew⟩ := f.result_ok
  obtain rfl : items = old := Except.ok.inj (hitems.symm.trans hold)
  refine ⟨ms', place', f.result, rfl, hgroup', hg', ?_, items ++ new, by rw [hresult]; rfl, ?_⟩
  · rcases f.result_scales with heq | ⟨items, -, heq⟩
    · exact ⟨scales, heq.trans hscales⟩
    · exact ⟨_, heq⟩
  · intro axis haxis
    rcases List.mem_append.mp haxis with haxis | haxis
    · obtain ⟨fs, name, rfl, hscale, hscope⟩ := haxes axis haxis
      exact ⟨fs, name, rfl, hscale, f.inScope_mono (hgrown name) hscope⟩
    · obtain ⟨fs, rfl, hformed⟩ := hnew axis haxis
      refine ⟨fs, _, rfl, hformed.scale, (f.inScope_iff (a.isNamed_bound hname)).mpr ?_⟩
      intro _ hbare
      cases hscales.symm.trans hbare

theorem runs_inScope (h : Runs b calls b')
    (hnames : ∀ c ∈ calls, ∀ o, c.options = .ok o → given o.name = none) (hb : GroupInScope b) :
    GroupInScope b' := by
  induction h with
  | nil => exact hb
  | cons head _ ih =>
    obtain ⟨o, ho, hadd⟩ := Call.run_ok.mp head
    simp only [List.mem_cons, forall_eq_or_imp] at hnames
    exact ih hnames.2 (add_inScope (hnames.1 o ho) hb hadd)

end Builder

end VegaAxes
