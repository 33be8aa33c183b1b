import VegaAxes.Proofs.Axis.HiddenLabels
import VegaAxes.Proofs.Builder.Changes
import VegaAxes.Proofs.Builder.ChartScale
import VegaAxes.Proofs.Builder.FacetAxes
import VegaAxes.Proofs.Trellis.Facets

/-!
# Reference lines that are not drawn

An axis whose scale at chart level has no reference lines draws none, but its copies in the facets
may stand on a scale of the trellis group that has them, and then blank labels for lines that
are not there (`blanksUndrawn`). `compileAxes_undrawn`: exactly then a chart is changed by lines
that are not drawn.
-/

namespace VegaAxes

def AxisOptions.relined (o : AxisOptions) (lines : List ReferenceLineOptions) : AxisOptions :=
  { o with referenceLines := lines }

def ResolvedAxis.relined (o : ResolvedAxis) (lines : List ReferenceLineOptions) : ResolvedAxis :=
  { o with referenceLines := lines }

variable {r : ResolvedAxis} {lines : List ReferenceLineOptions}

theorem ResolvedAxis.hidesLabels_unsupported
    (h : Scale.supportsReferenceLines r.scaleType = false) :
    r.hidesLabels = false := by
  rw [hidesLabels, h]
  rfl

theorem Axis.bundle_relined {b : Binding} {context context' : Context} {axes : List Fields}
    (hdual : Scale.supportsReferenceLines r.scaleType = true → b.dualMetric = false)
    (h : r.hidesLabels = false) (h' : (r.relined lines).hidesLabels = false) :
    (bundle (r.relined lines) b).run context = .ok axes context' ↔
      (bundle r b).run context = .ok axes context' :=
  (bundle_unlined (o := r.relined lines) hdual h').symm.trans (bundle_unlined hdual h)

namespace Builder

open Scale

variable {b b' : Builder} {o : AxisOptions} {index : Json} {binding : Axis.Binding} {g : Fields}
  {context : Context} {ms : List Json} {place : Nat}

-- ---------------------------------------------------------------------------
-- Types of scales
-- ---------------------------------------------------------------------------

/-- The type of the scale that axes along the facets of a group are bound to within them; axes
across them are bound to none. -/
def groupType (p : Position) (g : Fields) : Except Error (Option String) := do
  let direction ← Trellis.orientation (.obj g)
  if direction = p.orientation then
    let (_, scale) ← groupScale p g
    return some ((scale.getD "type").orElse (.str "linear")).spliced
  else return none

def facetType (b : Builder) (p : Position) : Option String :=
  match Trellis.findGroup? 0 (itemsOf b.marks) with
  | .ok (some place) => (groupType p (b.markAt place)).toOption.join
  | _ => none

theorem groupType_congr {g' : Fields} {p : Position} (hname : g'.get? "name" = g.get? "name")
    (hscales : g'.get? "scales" = g.get? "scales") : groupType p g' = groupType p g := by
  have hdirection : Trellis.orientation (.obj g') = Trellis.orientation (.obj g) := by
    simp only [Trellis.orientation, Trellis.markName, Json.field, Json.fields, Except.map,
      Fields.getD_eq_of_get? hname .null]
  unfold groupType groupScale
  rw [hdirection, hscales]
  refine bind_congr fun direction => ?_
  split
  · cases resolve ((g.get? "scales").getD (.arr [])) p with
    | error e => rfl
    | ok bound =>
      simp only [bind, Except.bind]
      cases bound.scale.fields <;> rfl
  · rfl

def facetAxis (r : ResolvedAxis) : Option String → ResolvedAxis
  | some type => { r with scaleType := type }
  | none => acrossFacets r

theorem FacetAddition.axis_eq (f : FacetAddition r binding context g) :
    ∃ type, groupType r.position g = .ok type ∧ f.axis = facetAxis r type := by
  have htype : groupType r.position g = groupType r.position f.based :=
    groupType_congr (f.based_get? (by simp)).symm (f.based_get? (by simp)).symm
  have hform := f.form_eq
  rw [htype]
  simp only [facetForm, groupType, bind_ok] at hform ⊢
  obtain ⟨direction, hdirection, hform⟩ := hform
  split at hform
  · next heq =>
    simp only [bind_ok, pure_ok, Prod.mk.injEq] at hform
    obtain ⟨⟨_, scale⟩, hscale, _, -, _, -, -, hr, -⟩ := hform
    refine ⟨some _, ⟨direction, hdirection, ?_⟩, hr.symm⟩
    rw [if_pos heq]
    exact bind_ok.mpr ⟨_, hscale, rfl⟩
  · next hne =>
    simp only [pure_ok, Prod.mk.injEq] at hform
    refine ⟨none, ⟨direction, hdirection, ?_⟩, hform.2.1.symm⟩
    rw [if_neg hne]
    rfl

-- ---------------------------------------------------------------------------
-- Calls that do not notice lines
-- ---------------------------------------------------------------------------

theorem resolveFor_relined (o : AxisOptions) (lines : List ReferenceLineOptions) (type index : Json)
    (scheme : ColorScheme) :
    (o.relined lines).resolveFor type scheme index =
      (o.resolveFor type scheme index).map (·.relined lines) := by
  unfold AxisOptions.resolveFor
  cases Reader.integer index <;> cases Reader.text (type.orElse (.str "linear")) <;> rfl

def Addition.relined (a : Addition b o index) (lines : List ReferenceLineOptions)
    (h : supportsReferenceLines a.axis.scaleType = false) : Addition b (o.relined lines) index :=
  { a with
    axis := a.axis.relined lines
    axis_eq := by rw [resolveFor_relined, a.axis_eq]; rfl
    axes_eq := by
      refine (Axis.bundle_relined (r := chartLevel _ a.axis) ?_ ?_ ?_).mpr a.axes_eq
      · exact fun hs => absurd hs (by simp [chartLevel, h])
      · exact ResolvedAxis.hidesLabels_unsupported h
      · exact ResolvedAxis.hidesLabels_unsupported h }

theorem facetForm_relined {r' : ResolvedAxis} {binding' : Axis.Binding} {g' : Fields}
    (h : facetForm r binding g = .ok (g', r', binding')) (lines : List ReferenceLineOptions) :
    facetForm (r.relined lines) binding g = .ok (g', r'.relined lines, binding') := by
  simp only [facetForm, bind_ok] at h ⊢
  obtain ⟨direction, hdirection, h⟩ := h
  refine ⟨direction, hdirection, ?_⟩
  split at h
  · next heq =>
    simp only [bind_ok, pure_ok, Prod.mk.injEq] at h
    obtain ⟨⟨_, scale⟩, hscale, name, hname, _, hword, rfl, rfl, rfl⟩ := h
    rw [show (r.relined lines).position = r.position from rfl, if_pos heq]
    exact bind_ok.mpr ⟨_, hscale, bind_ok.mpr ⟨name, hname, bind_ok.mpr ⟨(), hword, rfl⟩⟩⟩
  · next hne =>
    simp only [pure_ok, Prod.mk.injEq] at h
    obtain ⟨rfl, rfl, rfl⟩ := h
    rw [show (r.relined lines).position = r.position from rfl, if_neg hne]
    rfl

/-- The same addition to a group, where the axis hides no labels for the one lines or the others. -/
def FacetAddition.relined (f : FacetAddition r binding context g)
    (lines : List ReferenceLineOptions)
    (h : f.axis.hidesLabels = false) (h' : (f.axis.relined lines).hidesLabels = false) :
    FacetAddition (r.relined lines) binding context g :=
  { f with
    axis := f.axis.relined lines
    form_eq := facetForm_relined f.form_eq lines
    axes_eq := (Axis.bundle_relined (fun _ => f.facetBinding_dualMetric) h h').mpr f.axes_eq }

theorem lined_unsupported (h : supportsReferenceLines r.scaleType = false) (scaleName : ScaleName) :
    lined r scaleName ms = ms :=
  if_neg (by simp [h])

theorem addMarks_relined_unlisted {dataField : Option String} (hm : ∀ ms, b.marks ≠ .arr ms)
    (h : supportsReferenceLines r.scaleType = false)
    (hrun : (addMarks r binding dataField).run b = .ok () b') :
    (addMarks (r.relined lines) binding dataField).run b = .ok () b' := by
  have hlines {r : ResolvedAxis} (h : supportsReferenceLines r.scaleType = false) :
      addReferenceLines r binding.scaleName = pure () := if_neg (by simp [h])
  unfold addMarks at hrun ⊢
  rw [hlines h, pure_bind] at hrun
  rw [hlines (r := r.relined lines) h, pure_bind]
  simp only [run_bind_ok, run_get_ok, run_lift_ok, and_assoc, exists_and_left,
    exists_eq_left'] at hrun ⊢
  obtain ⟨items, hitems, found, hfound, hrun⟩ := hrun
  obtain rfl := findGroup?_unlisted (elements_unlisted hm hitems) hfound
  exact ⟨items, hitems, none, hfound, hrun⟩

/-- The marks of an axis that has no reference lines at chart level are the same whatever its lines,
as far as it hides no labels in the facets. -/
theorem addMarks_relined {dataField : Option String}
    (h : supportsReferenceLines r.scaleType = false)
    (hfacets : ∀ ms place g, ∀ f : FacetAddition r binding b.context g, b.marks = .arr ms →
      IsGroupAt ms place → ms[place]? = some (.obj g) →
      f.axis.hidesLabels = false ∧ (f.axis.relined lines).hidesLabels = false)
    (hrun : (addMarks r binding dataField).run b = .ok () b') :
    (addMarks (r.relined lines) binding dataField).run b = .ok () b' := by
  cases hm : b.marks with
  | arr ms =>
    have hsame : lined (r.relined lines) binding.scaleName ms = lined r binding.scaleName ms :=
      (lined_unsupported (r := r.relined lines) h _).trans (lined_unsupported h _).symm
    rw [addMarks_ok hm, hsame]
    rcases (addMarks_ok hm).mp hrun with hplain | ⟨place, g, f, hgroup, hg, hmarks⟩
    · exact .inl hplain
    · refine .inr ⟨place, g, ?_⟩
      rw [lined_unsupported h] at hgroup hg
      obtain ⟨hhides, hhides'⟩ := hfacets ms place g f hm hgroup hg
      exact ⟨f.relined lines hhides hhides', by rwa [lined_unsupported h],
        by rwa [lined_unsupported h], hmarks⟩
  | _ => exact addMarks_relined_unlisted (by simp [hm]) h hrun

-- ---------------------------------------------------------------------------
-- Blanked labels
-- ---------------------------------------------------------------------------

/-- Whether the axis is to blank labels in the facets for lines that it does not draw: at chart
level its scale has no reference lines, but in the facets it hides labels for them. -/
def blanksUndrawn (b : Builder) (o : AxisOptions) : Bool :=
  !supportsReferenceLines (chartType b o) && (facetType b o.position).any fun type =>
    { o.resolve (some (chartType b o)) b.context.colorScheme 0 with
      scaleType := type : ResolvedAxis }.hidesLabels

def withoutUndrawn (b : Builder) (o : AxisOptions) : AxisOptions :=
  if supportsReferenceLines (chartType b o) then o else o.relined []

/-- An axis hides labels in the facets exactly if it blanks them for lines that are not drawn. -/
theorem Addition.hidesLabels_eq (a : Addition b o index)
    (h : supportsReferenceLines (chartType b o) = false) (hm : b.marks = .arr ms)
    (hgroup : IsGroupAt ms place) (hg : ms[place]? = some (.obj g)) {type : Option String}
    (htype : groupType o.position g = .ok type) :
    (facetAxis a.axis type).hidesLabels = blanksUndrawn b o := by
  obtain ⟨hchart, i, name, haxis⟩ := a.axis_resolved
  have hfacet : facetType b o.position = type := by
    rw [facetType, hm, itemsOf, show Trellis.findGroup? 0 ms = _ from hgroup]
    refine (congrArg (fun g => (groupType o.position g).toOption.join) (markAt_eq hm hg)).trans ?_
    rw [htype]
    rfl
  rw [blanksUndrawn, h, hfacet]
  cases type with
  | some type => exact ResolvedAxis.hidesLabels_congr (by rw [haxis]; rfl) rfl (by rw [haxis]; rfl)
  | none => exact ResolvedAxis.hidesLabels_unsupported (r := acrossFacets a.axis) (hchart ▸ h)

theorem add_relined (lines : List ReferenceLineOptions)
    (hchart : supportsReferenceLines (chartType b o) = false) (h : blanksUndrawn b o = false)
    (h' : blanksUndrawn b (o.relined lines) = false) (hrun : (add o index).run b = .ok () b') :
    (add (o.relined lines) index).run b = .ok () b' := by
  obtain ⟨a, hmarks⟩ := add_ok.mp hrun
  obtain ⟨htype, i, name, haxis⟩ := a.axis_resolved
  have hposition : a.axis.position = o.position := by
    rw [haxis]
    rfl
  have hplain := htype ▸ hchart
  refine add_ok.mpr ⟨a.relined lines hplain, addMarks_relined hplain ?_ hmarks⟩
  intro ms place g f hm hgroup hg
  obtain ⟨type, htype, heq⟩ := f.axis_eq
  rw [hposition] at htype
  have hrelined : f.axis.relined lines = facetAxis (a.relined lines hplain).axis type := by
    rw [heq]
    cases type <;> rfl
  rw [hrelined, heq, a.hidesLabels_eq hchart hm hgroup hg htype,
    (a.relined lines hplain).hidesLabels_eq hchart hm hgroup hg htype]
  exact ⟨h, h'⟩

theorem blanksUndrawn_lineless : blanksUndrawn b (o.relined []) = false := by
  have hnone : (facetType b o.position).any (fun type => { (o.relined []).resolve
      (some (chartType b o)) b.context.colorScheme 0 with
        scaleType := type : ResolvedAxis }.hidesLabels) = false := by
    cases facetType b o.position with
    | none => rfl
    | some type => exact Bool.and_false _
  exact Bool.and_eq_false_iff.mpr (.inr hnone)

/-- A call notices no lines that are not drawn, unless it blanks labels for them. -/
theorem unnoticed_undrawn (b : Builder) (o : AxisOptions) (h : blanksUndrawn b o = false) :
    Unnoticed withoutUndrawn b o := by
  intro index b'
  unfold withoutUndrawn
  split
  · rfl
  · next hchart =>
    have hchart : supportsReferenceLines (chartType b o) = false := by simpa using hchart
    constructor
    · exact add_relined (o := o.relined []) o.referenceLines hchart blanksUndrawn_lineless h
    · exact add_relined [] hchart h blanksUndrawn_lineless

-- ---------------------------------------------------------------------------
-- Calls that blank labels
-- ---------------------------------------------------------------------------

theorem withFacetAxes_text {axis : Fields} {rest : List Fields} {g' : Fields} {text : Option Json}
    (h : withFacetAxes (axis :: rest) g = .ok g')
    (htext : (Json.obj axis).descend Encoding.labelTextPath = .ok text) :
    ∃ old axis' new, ((g.get? "axes").getD (.arr [])).elements = .ok old ∧
      g'.get? "axes" = some (.arr (old ++ .obj axis' :: new)) ∧ new.length = rest.length ∧
      (Json.obj axis').descend Encoding.labelTextPath = .ok text := by
  simp only [withFacetAxes, Trellis.encodeTitles, Json.elements, List.map_cons, List.mapM_cons,
    bind_ok, pure_ok, Except.ok.injEq, exists_eq_left'] at h
  obtain ⟨old, hold, _, ⟨facet, -, _, haxis, new, hnew, rfl⟩, rfl⟩ := h
  obtain ⟨axis', heq, htext'⟩ := Trellis.encodeTitle_text facet htext
  cases heq.symm.trans haxis
  refine ⟨old, axis', new, hold, Fields.get?_set_self _ _ _, ?_, htext'⟩
  simpa using mapM_length hnew

/-- Where an axis hides labels in the facets, the group's axes differ from those without
its lines. -/
theorem FacetAddition.diverges {context' : Context} (f : FacetAddition r binding context g)
    (f' : FacetAddition (r.relined []) binding context' g) (h : f.axis.hidesLabels = true) :
    ∃ items items', f.result.get? "axes" = some (.arr items) ∧
      f'.result.get? "axes" = some (.arr items') ∧ items.length = items'.length ∧
        items ≠ items' := by
  have hbased : f'.based = f.based := Except.ok.inj (f'.based_eq.symm.trans f.based_eq)
  have hform := f'.form_eq
  rw [hbased, facetForm_relined f.form_eq] at hform
  obtain ⟨hscaled, haxis, hbinding⟩ : f.scaled = f'.scaled ∧ f.axis.relined [] = f'.axis ∧
      f.facetBinding = f'.facetBinding := by
    simpa using hform
  have haxis : f.axis.unlined = f'.axis := haxis
  obtain ⟨r₁, axis, rest, text, hheader, haxes, hlength, htext, hrules⟩ :=
    Axis.bundle_text f.facetBinding_dualMetric f.axes_eq
  obtain ⟨r₁', axis', rest', text', hheader', haxes', hlength', htext', hrules'⟩ :=
    Axis.bundle_text f'.facetBinding_dualMetric f'.axes_eq
  -- both are headers, or neither is
  rw [← haxis, ← hbinding, Axis.withHeader_unlined, hheader] at hheader'
  obtain rfl : r₁.unlined = r₁' := Except.ok.inj hheader'
  rw [← hbinding] at hlength' htext'
  obtain rfl : text = text' := Except.ok.inj (htext.symm.trans htext')
  rw [Axis.addedRules_unlined, Axis.withRules_nil] at hrules'
  have hhides : r₁.hidesLabels = true := (Axis.hidesLabels_header hheader).trans h
  obtain ⟨_, htext₀, hlists⟩ := Axis.mainText_ok r₁ f.facetBinding
  cases htext.symm.trans htext₀
  have hlisted : r₁.listsTextRules = true := by
    simp only [ResolvedAxis.hidesLabels, Bool.and_eq_true] at hhides
    exact hhides.1.2
  obtain ⟨rules, rfl⟩ := hlists.mp hlisted
  have hresult := f.result_eq
  have hresult' := f'.result_eq
  rw [haxes] at hresult
  rw [haxes', ← hscaled] at hresult'
  obtain ⟨old, x, new, hold, hitems, hnew, hx⟩ := withFacetAxes_text hresult hrules
  obtain ⟨_, x', new', hold', hitems', hnew', hx'⟩ := withFacetAxes_text hresult' hrules'
  cases hold.symm.trans hold'
  refine ⟨_, _, hitems, hitems', ?_, fun heq => ?_⟩
  · have hsame : f.axes.length = f'.axes.length := hlength.trans hlength'.symm
    rw [haxes, haxes', List.length_cons, List.length_cons] at hsame
    rw [List.length_append, List.length_append, List.length_cons, List.length_cons,
      hnew, hnew', hsame]
  · obtain ⟨hxx, -⟩ := List.cons.inj (List.append_cancel_left heq)
    cases hxx
    have hboth := Json.arr.inj (Option.some.inj (Except.ok.inj (hx.symm.trans hx')))
    have hnil := List.append_left_eq_self.mp hboth
    exact Axis.addedRules_ne_nil hhides hnil

theorem chartType_of_blanks (h : blanksUndrawn b o = true) :
    supportsReferenceLines (chartType b o) = false := by
  rw [blanksUndrawn, Bool.and_eq_true, Bool.not_eq_true'] at h
  exact h.1

theorem group_of_blanks (h : blanksUndrawn b o = true) :
    ∃ ms place, b.marks = .arr ms ∧ IsGroupAt ms place := by
  unfold blanksUndrawn facetType at h
  cases hgroup : Trellis.findGroup? 0 (itemsOf b.marks) with
  | error e => simp [hgroup] at h
  | ok found =>
    cases found with
    | none => simp [hgroup] at h
    | some place =>
      cases hm : b.marks with
      | arr ms => exact ⟨ms, place, rfl, by rwa [hm] at hgroup⟩
      | _ =>
        rw [hm] at hgroup
        cases hgroup

theorem Addition.relined_eq {lines : List ReferenceLineOptions} (a : Addition b o index)
    (a' : Addition b (o.relined lines) index) :
    a'.axis = a.axis.relined lines ∧ a'.binding = a.binding := by
  have hbound : a'.bound = a.bound :=
    congrArg Prod.fst (Except.ok.inj (a'.bound_eq.symm.trans a.bound_eq))
  have hdual : a'.dualMetric = a.dualMetric :=
    Except.ok.inj (a'.dualMetric_eq.symm.trans a.dualMetric_eq)
  have haxis := a'.axis_eq
  rw [resolveFor_relined, hbound, a.axis_eq] at haxis
  refine ⟨(Except.ok.inj haxis).symm, ?_⟩
  rw [binding, binding, hbound, hdual]

theorem add_diverges {b₁ b₂ : Builder} (h : blanksUndrawn b o = true)
    (hrun : (add o index).run b = .ok () b₁)
    (hrun' : (add (withoutUndrawn b o) index).run b = .ok () b₂) :
    ∃ items items', GroupAxes b₁ items ∧ GroupAxes b₂ items' ∧ items.length = items'.length ∧
      items ≠ items' := by
  have hchart := chartType_of_blanks h
  rw [withoutUndrawn, if_neg (by simp [hchart])] at hrun'
  obtain ⟨ms, place, hm, hgroup⟩ := group_of_blanks h
  obtain ⟨a, hmarks⟩ := add_ok.mp hrun
  obtain ⟨a', hmarks'⟩ := add_ok.mp hrun'
  obtain ⟨haxis, hbinding⟩ := a.relined_eq a'
  rw [haxis, hbinding] at hmarks'
  have hplain : supportsReferenceLines a.axis.scaleType = false := a.axis_resolved.1 ▸ hchart
  have hlined : lined a.axis a.binding.scaleName ms = ms := lined_unsupported hplain _
  have hlined' : lined (a.axis.relined []) a.binding.scaleName ms = ms :=
    lined_unsupported (r := a.axis.relined []) hplain _
  have hfacets := (addMarks_ok (b := a.unmarked) hm).mp hmarks
  have hfacets' := (addMarks_ok (b := a'.unmarked) hm).mp hmarks'
  rw [hlined] at hfacets
  rw [hlined'] at hfacets'
  rcases hfacets with ⟨hnone, -⟩ | ⟨_, g, f, hplace, hg, heq⟩
  · cases hgroup.symm.trans hnone
  rcases hfacets' with ⟨hnone, -⟩ | ⟨_, g', f', hplace', hg', heq'⟩
  · cases hgroup.symm.trans hnone
  cases hplace.symm.trans hplace'
  cases hg.symm.trans hg'
  cases hgroup.symm.trans hplace
  have hhides : f.axis.hidesLabels = true := by
    obtain ⟨type, htype, hfacet⟩ := f.axis_eq
    obtain ⟨-, i, name, hresolved⟩ := a.axis_resolved
    have hposition : a.axis.position = o.position := by
      rw [hresolved]
      rfl
    rw [hfacet, a.hidesLabels_eq hchart hm hgroup hg (hposition ▸ htype), h]
  obtain ⟨items, items', hitems, hitems', hlength, hne⟩ := f.diverges f' hhides
  exact ⟨items, items', groupAxes_result f hgroup hg (by rw [← heq]) hitems,
    groupAxes_result f' hgroup hg (by rw [← heq']) hitems', hlength, hne⟩

/-- If a build leaves the same marks with and without the lines that are not drawn, no call blanks
labels for them. -/
theorem throughout_of_same {axes : List AxisOptions} {n : Nat} {b₁ b₂ : Builder}
    (hrun : (addEach add n axes).run b = .ok () b₁)
    (hrun' : (addEach add n (changeEach withoutUndrawn b n axes)).run b = .ok () b₂)
    (hmarks : b₂.marks = b₁.marks) :
    Throughout (fun b o => blanksUndrawn b o = false) b n axes := by
  induction axes generalizing b n with
  | nil => trivial
  | cons o axes ih =>
    obtain ⟨_, b', hadd, hrest⟩ := run_bind_ok.mp hrun
    rw [changeEach_cons hadd] at hrun'
    obtain ⟨_, c', hadd', hrest'⟩ := run_bind_ok.mp hrun'
    cases hblanks : blanksUndrawn b o with
    | false =>
      cases hadd.symm.trans ((unnoticed_undrawn b o hblanks _ _).mp hadd')
      refine ⟨hblanks, fun d hd => ?_⟩
      cases hadd.symm.trans hd
      exact ih hrest hrest'
    | true =>
      -- the axes of the group differ from here on, since later calls only add more of them
      exfalso
      obtain ⟨items, items', hitems, hitems', hlength, hne⟩ := add_diverges hblanks hadd hadd'
      obtain ⟨more, hmore⟩ := addEach_groupAxes hitems hrest
      obtain ⟨more', hmore'⟩ := addEach_groupAxes hitems' hrest'
      have hsame : GroupAxes b₁ (items' ++ more') := by
        unfold GroupAxes at hmore' ⊢
        rwa [hmarks] at hmore'
      exact hne (List.append_inj (hmore.unique hsame).symm hlength).1

theorem finish_marks {d : Document} (h : finish.run b = .ok d b') : d.marks.thaw = b.marks := by
  obtain ⟨-, _, -, rfl, -⟩ := finish_run_ok.mp h
  exact thaw_freeze b.marks

end Builder

open Builder

/-- A chart compiles to the same without the reference lines that are not drawn, as long as no axis
blanks labels for them in the facets. Where one does, it compiles to another document. -/
theorem compileAxes_undrawn {settings : Settings} {document : Json} {axes : List AxisOptions}
    {context : Option Context} {validated : Option Bool} {b : Builder}
    (hb : ofDocument settings document context = .ok b) :
    (Throughout (fun b o => blanksUndrawn b o = false) b 0 axes → ∀ c,
      compileAxes settings document (changeEach withoutUndrawn b 0 axes) context validated = .ok c ↔
        compileAxes settings document axes context validated = .ok c) ∧
    ∀ c c', compileAxes settings document axes context validated = .ok c →
      compileAxes settings document (changeEach withoutUndrawn b 0 axes) context validated =
        .ok c' →
      c'.document = c.document → Throughout (fun b o => blanksUndrawn b o = false) b 0 axes := by
  refine ⟨fun h c => compileAxes_changed hb unnoticed_undrawn h, fun c c' hc hc' hsame => ?_⟩
  have hdocument {axes : List AxisOptions} {c : Compiled}
      (hc : compileAxes settings document axes context validated = .ok c) :
      ∃ b₁, (addEach add 0 axes).run b = .ok () b₁ ∧ c.document.marks.thaw = b₁.marks := by
    rw [compileAxes, hb] at hc
    obtain ⟨d, b', hrun, -, hc⟩ := compile_ok.mp hc
    obtain ⟨_, b₁, hrun, hfinish⟩ := run_bind_ok.mp hrun
    refine ⟨b₁, hrun, ?_⟩
    simp only [Compiled.ofDocument, bind_ok, pure_ok] at hc
    obtain ⟨_, -, _, -, rfl⟩ := hc
    exact finish_marks hfinish
  obtain ⟨b₁, hrun, hmarks⟩ := hdocument hc
  obtain ⟨b₂, hrun', hmarks'⟩ := hdocument hc'
  exact throughout_of_same hrun hrun' (by rw [← hmarks', ← hmarks, hsame])

def bandTrellis (type : String) : Json :=
  .obj [("scales", .arr [.obj [("name", .str "xTrellisBand"), ("type", .str "band"),
      ("range", .str "width")]]),
    ("marks", .arr [.obj [("name", .str "xTrellisGroup"), ("type", .str "group"),
      ("scales", .arr [.obj [("name", .str "xWithin"), ("type", .str type),
        ("range", .str "width")]])]])]

def marked : AxisOptions where
  position := .bottom
  referenceLines := [{ value := .int 1, label := some "a" }]

theorem bandTrellis_lineless :
    ∃ c, compileAxes (.ofEnvironment {}) (bandTrellis "band") [marked]
        (some ⟨.vertical, .light, .null⟩) none = .ok c ∧
      compileAxes (.ofEnvironment {}) (bandTrellis "band") [marked.relined []]
        (some ⟨.vertical, .light, .null⟩) none = .ok c := by
  have hsome : (compileAxes (.ofEnvironment {}) (bandTrellis "band") [marked]
      (some ⟨.vertical, .light, .null⟩) none).toOption.isSome = true := by decide +kernel
  have hkept : ((ofDocument (.ofEnvironment {}) (bandTrellis "band")
      (some ⟨.vertical, .light, .null⟩)).toOption.map fun b =>
        (blanksUndrawn b marked, withoutUndrawn b marked)) =
      some (false, marked.relined []) := by decide +kernel
  obtain ⟨c, hc⟩ := Option.isSome_iff_exists.mp hsome
  obtain ⟨b, hb, hkept⟩ := Option.map_eq_some_iff.mp hkept
  obtain ⟨hblanks, hwithout⟩ := Prod.mk.inj hkept
  have hc := toOption_eq_some.mp hc
  have hchanged : changeEach withoutUndrawn b 0 [marked] = [marked.relined []] := by
    rw [changeEach, hwithout]
    split <;> rfl
  have hthroughout : Throughout (fun b o => blanksUndrawn b o = false) b 0 [marked] :=
    ⟨hblanks, fun _ _ => trivial⟩
  refine ⟨c, hc, ?_⟩
  rw [← hchanged]
  exact ((compileAxes_undrawn (toOption_eq_some.mp hb)).1 hthroughout c).mpr hc

theorem linearTrellis_blanks :
    ∃ c c', compileAxes (.ofEnvironment {}) (bandTrellis "linear") [marked]
        (some ⟨.vertical, .light, .null⟩) none = .ok c ∧
      compileAxes (.ofEnvironment {}) (bandTrellis "linear") [marked.relined []]
        (some ⟨.vertical, .light, .null⟩) none = .ok c' ∧ c'.document ≠ c.document :=
  documents_differ Document.marks (by decide +kernel)

end VegaAxes
