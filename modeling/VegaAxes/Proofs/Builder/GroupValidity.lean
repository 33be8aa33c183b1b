import VegaAxes.Proofs.Builder.MarkGrowth
import VegaAxes.Proofs.Builder.ScaleBinding
import VegaAxes.Proofs.Document.Verdicts
import VegaAxes.Proofs.Trellis.Facets

/-!
# Trellis groups that take axes

`facetAddition_succeeds`: a trellis group that can be read takes the axes of its facets, with
their baseline and their scale. It is `Extended` by them, and so can take more, and is valid, or
legible, if it was.
-/

namespace VegaAxes

open Document

def Json.GrownBy (P : Json → Prop) (v w : Json) : Prop :=
  ∃ old new, v = .arr old ∧ w = .arr new ∧ ∀ x ∈ new, x ∈ old ∨ P x

theorem Json.GrownBy.refl {P : Json → Prop} (items : List Json) :
    GrownBy P (.arr items) (.arr items) :=
  ⟨items, items, rfl, rfl, fun _ => .inl⟩

theorem Json.GrownBy.trans {P : Json → Prop} {u v w : Json} (h : u.GrownBy P v)
    (h' : v.GrownBy P w) : u.GrownBy P w := by
  obtain ⟨old, mid, rfl, rfl, hmid⟩ := h
  obtain ⟨_, new, heq, rfl, hnew⟩ := h'
  cases heq
  exact ⟨old, new, rfl, rfl, fun x hx => (hnew x hx).elim (hmid x) .inr⟩

theorem Json.GrownBy.elements {P : Json → Prop} {v w : Json} {items : List Json}
    (h : v.GrownBy P w) (hv : v.elements = .ok items) :
    ∃ new, w.elements = .ok new ∧ ∀ x ∈ new, x ∈ items ∨ P x := by
  obtain ⟨old, new, rfl, rfl, hnew⟩ := h
  cases hv
  exact ⟨new, rfl, hnew⟩

theorem Axis.Formed.valid {name : String} {style : Json} {axis : Fields}
    (h : Axis.Formed (.str name) style axis) (hne : name ≠ "") : ValidAxis (.obj axis) := by
  refine ⟨axis, rfl, ⟨name, by rw [Fields.getD, h.scale]; rfl, hne⟩, ?_, h.text⟩
  obtain ⟨p, hp⟩ := h.orient
  refine ⟨Vocabulary.word p, by rw [Fields.getD, hp]; rfl, ?_⟩
  cases p <;> decide

namespace Trellis

open Scale

variable {g g' g'' : Fields}

/-- A mark that can be a trellis group: its lists are lists, axes can be bound to its scales,
and the source of its facets can be read. -/
structure Ready (g : Fields) : Prop where
  scales : ∃ items, g.getD "scales" (.arr []) = .arr items ∧ ∀ scale ∈ items, Bindable scale
  axes : ∃ items, g.getD "axes" (.arr []) = .arr items
  marks : ∃ items, g.getD "marks" (.arr []) = .arr items
  source : ∃ source facet : Fields, g.getD "from" (.obj []) = .obj source ∧
    source.getD "facet" (.obj []) = .obj facet

structure NamedGroup (g : Fields) : Prop extends Ready g where
  name : ∃ name, g.get? "name" = some (.str name) ∧ name ≠ ""

theorem Ready.hasLists (h : Ready g) : HasLists g := by
  intro key hkey
  simp only [listKeys, List.mem_cons, List.not_mem_nil, or_false] at hkey
  rcases hkey with rfl | rfl | rfl
  · exact h.axes
  · exact h.marks
  · obtain ⟨items, hitems, -⟩ := h.scales
    exact ⟨items, hitems⟩

structure Extended (g g' : Fields) : Prop where
  others : Fields.SameExcept listKeys g g'
  axes : (g.getD "axes" (.arr [])).GrownBy ValidAxis (g'.getD "axes" (.arr []))
  marks : (g.getD "marks" (.arr [])).GrownBy ValidMark (g'.getD "marks" (.arr []))
  scales : (g.getD "scales" (.arr [])).GrownBy Bindable (g'.getD "scales" (.arr []))

theorem Extended.refl (h : HasLists g) : Extended g g := by
  obtain ⟨axes, haxes⟩ := h "axes" (by simp [listKeys])
  obtain ⟨marks, hmarks⟩ := h "marks" (by simp [listKeys])
  obtain ⟨scales, hscales⟩ := h "scales" (by simp [listKeys])
  exact ⟨.refl _ _, haxes ▸ .refl axes, hmarks ▸ .refl marks, hscales ▸ .refl scales⟩

theorem Extended.trans (h : Extended g g') (h' : Extended g' g'') : Extended g g'' :=
  ⟨h.others.trans h'.others, h.axes.trans h'.axes, h.marks.trans h'.marks,
    h.scales.trans h'.scales⟩

theorem Extended.set_axes (h : HasLists g) {axes : Json}
    (haxes : (g.getD "axes" (.arr [])).GrownBy ValidAxis axes) :
    Extended g (g.set "axes" axes) where
  others := .set _ _ (by simp [listKeys])
  axes := by rwa [getD_set_self]
  marks := by
    rw [getD_set_of_ne _ _ _ (by simp)]
    exact (refl h).marks
  scales := by
    rw [getD_set_of_ne _ _ _ (by simp)]
    exact (refl h).scales

theorem Extended.set_marks (h : HasLists g) {marks : Json}
    (hmarks : (g.getD "marks" (.arr [])).GrownBy ValidMark marks) :
    Extended g (g.set "marks" marks) where
  others := .set _ _ (by simp [listKeys])
  axes := by
    rw [getD_set_of_ne _ _ _ (by simp)]
    exact (refl h).axes
  marks := by rwa [getD_set_self]
  scales := by
    rw [getD_set_of_ne _ _ _ (by simp)]
    exact (refl h).scales

theorem Extended.set_scales (h : HasLists g) {scales : Json}
    (hscales : (g.getD "scales" (.arr [])).GrownBy Bindable scales) :
    Extended g (g.set "scales" scales) where
  others := .set _ _ (by simp [listKeys])
  axes := by
    rw [getD_set_of_ne _ _ _ (by simp)]
    exact (refl h).axes
  marks := by
    rw [getD_set_of_ne _ _ _ (by simp)]
    exact (refl h).marks
  scales := by rwa [getD_set_self]

theorem Extended.namedGroup (h : Extended g g') (hg : NamedGroup g) : NamedGroup g' := by
  obtain ⟨-, axes, -, haxes, -⟩ := h.axes
  obtain ⟨-, marks, -, hmarks, -⟩ := h.marks
  obtain ⟨old, scales, hold, hscales, hnew⟩ := h.scales
  refine ⟨⟨⟨scales, hscales, fun scale hscale => ?_⟩, ⟨axes, haxes⟩, ⟨marks, hmarks⟩, ?_⟩, ?_⟩
  · obtain ⟨items, hitems, hbindable⟩ := hg.scales
    obtain rfl := Json.arr.inj (hold.symm.trans hitems)
    exact (hnew scale hscale).elim (hbindable scale) id
  · rw [h.others.getD (show "from" ∉ listKeys by simp [listKeys]) (.obj [])]
    exact hg.source
  · rw [h.others "name" (by simp [listKeys])]
    exact hg.name

theorem Extended.valid (h : Extended g g') (hg : ValidMark (.obj g)) : ValidMark (.obj g') := by
  have htype := h.others.getD (show "type" ∉ listKeys by simp [listKeys]) .null
  cases hg with
  | plain htext hplain => exact .plain (htype.trans htext) hplain
  | group htext haxes hmarks hvalidAxes hvalidMarks =>
    obtain ⟨axes, haxes', hnewAxes⟩ := h.axes.elements haxes
    obtain ⟨marks, hmarks', hnewMarks⟩ := h.marks.elements hmarks
    refine .group (htype.trans htext) haxes' hmarks' (fun axis haxis => ?_) fun mark hmark => ?_
    · exact (hnewAxes axis haxis).elim (hvalidAxes axis) id
    · exact (hnewMarks mark hmark).elim (hvalidMarks mark) id

theorem Extended.legible (h : Extended g g') (hg : LegibleMark (.obj g)) :
    LegibleMark (.obj g') := by
  have htype := h.others.getD (show "type" ∉ listKeys by simp [listKeys]) .null
  cases hg with
  | plain isPlain =>
    refine .plain ?_
    rintro _ ⟨⟩
    rw [htype]
    exact isPlain g rfl
  | group haxes hmarks hlegibleAxes hlegibleMarks =>
    obtain ⟨axes, haxes', hnewAxes⟩ := h.axes.elements haxes
    obtain ⟨marks, hmarks', hnewMarks⟩ := h.marks.elements hmarks
    refine .group haxes' hmarks' (fun axis haxis => ?_) fun mark hmark => ?_
    · exact (hnewAxes axis haxis).elim (hlegibleAxes axis) ValidAxis.legible
    · exact (hnewMarks mark hmark).elim (hlegibleMarks mark) ValidMark.legible

-- ---------------------------------------------------------------------------
-- What is read of a group
-- ---------------------------------------------------------------------------

theorem NamedGroup.markName_ok (h : NamedGroup g) :
    ∃ name, markName (.obj g) = .ok (.str name) ∧ name ≠ "" := by
  obtain ⟨name, hname, hne⟩ := h.name
  refine ⟨name, ?_, hne⟩
  simp [markName, Json.field, Json.fields, Except.map, Fields.getD, hname, Json.orElse, Json.truthy,
    hne]

theorem NamedGroup.orientation_ok (h : NamedGroup g) :
    ∃ direction, orientation (.obj g) = .ok direction := by
  obtain ⟨name, hname, -⟩ := h.markName_ok
  simp only [orientation, hname, bind_ok, Except.ok.injEq, exists_eq_left']
  exact ⟨_, rfl⟩

theorem letters_ne_nil {s : String} (h : s ≠ "") : Text.letters s ≠ [] := by
  intro hnil
  refine h (String.toList_inj.mp ?_)
  unfold Text.letters at hnil
  rcases hs : s.toList with _ | ⟨c, _ | ⟨d, cs⟩⟩
  · rfl
  · simp [hs, Text.Letter.ofChars] at hnil
  · rw [hs, Text.Letter.ofChars] at hnil
    split at hnil <;> cases hnil

theorem NamedGroup.facet_ok (h : NamedGroup g) : ∃ facet, Facet.ofGroup (.obj g) = .ok facet := by
  obtain ⟨name, hname, hne⟩ := h.name
  obtain ⟨source, facet, hsource, hfacet⟩ := h.source
  obtain ⟨letter, letters, hletters⟩ := List.exists_cons_of_ne_nil (letters_ne_nil hne)
  have hfirst : (Json.orElse (.str name) (.str "x")).first =
      .ok (.str (Text.ofLetters [letter])) := by
    simp [Json.orElse, Json.truthy, hne, Json.first, hletters]
  rw [Fields.getD] at hsource hfacet
  simp only [Facet.ofGroup, Json.field?, Json.field, Json.fields, Except.map, hsource, hfacet,
    Fields.getD, hname, Option.getD_some, hfirst, bind_ok, Except.ok.injEq, exists_eq_left']
  exact ⟨_, rfl⟩

end Trellis

namespace Builder

open Axis Scale Trellis

variable {o : ResolvedAxis} {binding : Axis.Binding} {g g' : Fields} {context : Context}
  {name : String}

-- ---------------------------------------------------------------------------
-- The steps of a facet addition
-- ---------------------------------------------------------------------------

theorem withGroupBaseline_succeeds (o : ResolvedAxis) (binding : Axis.Binding) (hg : Ready g) :
    ∃ g', withGroupBaseline o binding g = .ok g' ∧ Extended g g' := by
  obtain ⟨marks, hmarks⟩ := hg.marks
  unfold withGroupBaseline
  split
  · rw [← Fields.getD, hmarks, withBaseline_arr]
    refine ⟨_, rfl, .set_marks hg.hasLists ⟨marks, _, hmarks, rfl, fun mark hmark => ?_⟩⟩
    have hrule : ValidMark (Baseline.rule (.float o.baselineOffset) o.position) :=
      validMark_plain "rule" rfl (by simp)
    split at hmark
    · rcases List.mem_append.mp hmark with hmark | hmark
      · exact .inl hmark
      · exact .inr (List.mem_singleton.mp hmark ▸ hrule)
    · rcases List.mem_cons.mp hmark with rfl | hmark
      · exact .inr hrule
      · exact .inl hmark
  · exact ⟨g, rfl, .refl hg.hasLists⟩

theorem groupScale_succeeds (hg : Ready g) (p : Position) :
    ∃ g' scale, groupScale p g = .ok (g', scale) ∧ Extended g g' ∧ Bindable (.obj scale) := by
  obtain ⟨items, hitems, hbindable⟩ := hg.scales
  obtain ⟨bound, hbound, hscale⟩ := resolve_succeeds hbindable p
  obtain ⟨fs, -, hfs, -⟩ := hscale.fields
  rw [hfs] at hscale
  have hget : (g.get? "scales").getD (.arr []) = .arr items := hitems
  refine ⟨if (g.get? "scales").isSome then g.set "scales" bound.scales else g, fs, ?_, ?_, hscale⟩
  · simp only [groupScale, hget, hbound, hfs, Json.fields, bind_ok, pure_ok, Except.ok.injEq,
      exists_eq_left']
  · split
    · refine .set_scales hg.hasLists ⟨items, _, hitems, (resolve_ok hbound).1, fun scale hmem => ?_⟩
      exact (List.mem_append.mp hmem).imp_right (bindable_missing _ _ scale)
    · exact .refl hg.hasLists

theorem facetForm_succeeds (hg : NamedGroup g) (hname : binding.scaleName = ⟨.str name⟩)
    (hne : name ≠ "") :
    ∃ g' o' binding' name', facetForm o binding g = .ok (g', o', binding') ∧ Extended g g' ∧
      binding'.scaleName = ⟨.str name'⟩ ∧ name' ≠ "" := by
  obtain ⟨direction, hdirection⟩ := hg.orientation_ok
  by_cases heq : direction = o.position.orientation
  · obtain ⟨g', scale, hscale, hg', hbindable⟩ := groupScale_succeeds hg.toReady o.position
    obtain ⟨fs, own, hfs, hown, hne', -⟩ := hbindable.fields
    cases hfs
    obtain ⟨type, htype, -⟩ := hbindable.typeOf_text
    have htype : (Fields.getD scale "type").orElse (.str "linear") = .str type := htype
    refine ⟨g', { o with scaleType := type },
      { binding with scaleName := ⟨.str own⟩, dualMetric := false }, own, ?_, hg', rfl, hne'⟩
    simp only [facetForm, hdirection, heq, if_true, hscale, nameOf, hown, htype, Json.checkWord,
      bind_ok, pure_ok, Except.ok.injEq, exists_eq_left', exists_const]
    exact ⟨trivial, rfl⟩
  · refine ⟨g, acrossFacets o, { binding with dualMetric := false }, name, ?_,
      .refl hg.hasLists, hname, hne⟩
    simp only [facetForm, hdirection, heq, if_false, bind_ok, pure_ok, Except.ok.injEq,
      exists_eq_left']

theorem withHeader_text (name : String) (o : ResolvedAxis) :
    ∃ o', Trellis.withHeader ⟨.str name⟩ o = .ok o' := by
  unfold Trellis.withHeader Header.ofScale?
  simp only [ScaleName.checkSearchable, ScaleName.isSearchable, if_true, bind, Except.bind]
  split
  · exact ⟨_, rfl⟩
  · exact ⟨_, rfl⟩

theorem withFacetAxes_succeeds (hg : NamedGroup g) (hne : name ≠ "") {axes : List Fields}
    (haxes : ∀ axis ∈ axes, Formed (.str name) noStyle axis) :
    ∃ g', withFacetAxes axes g = .ok g' ∧ Extended g g' := by
  obtain ⟨old, hold⟩ := hg.axes
  obtain ⟨facet, hfacet⟩ := hg.facet_ok
  have hstep : ∀ m, (∃ axis, m = .obj axis ∧ Formed (.str name) noStyle axis) →
      ∃ m', facet.encodeTitle m = .ok m' ∧ ValidAxis m' := by
    rintro _ ⟨axis, rfl, haxis⟩
    obtain ⟨axis', heq, haxis'⟩ := encodeTitle_formed facet haxis
    exact ⟨_, heq, haxis'.valid hne⟩
  have hmem : ∀ m ∈ axes.map Json.obj, ∃ axis, m = .obj axis ∧ Formed (.str name) noStyle axis := by
    intro m hm
    obtain ⟨axis, haxis, rfl⟩ := List.mem_map.mp hm
    exact ⟨axis, rfl, haxes axis haxis⟩
  obtain ⟨new, hnew, -, hvalid⟩ := mapM_succeeds hstep hmem
  have hget : (g.get? "axes").getD (.arr []) = .arr old := hold
  refine ⟨_, ?_, .set_axes hg.hasLists ⟨old, old ++ new, hold, rfl, fun axis haxis => ?_⟩⟩
  · simp only [withFacetAxes, hget, encodeTitles, hfacet, Json.elements, bind_ok, pure_ok,
      Except.ok.injEq, exists_eq_left', hnew]
  · exact (List.mem_append.mp haxis).imp_right (hvalid axis)

theorem facetAddition_succeeds (hg : NamedGroup g) (hname : binding.scaleName = ⟨.str name⟩)
    (hne : name ≠ "") (hcount : ∃ next, (DualMetric.startedCount context).successor = .ok next) :
    ∃ a : FacetAddition o binding context g, Extended g a.result := by
  obtain ⟨based, hbased, hbasedExt⟩ := withGroupBaseline_succeeds o binding hg.toReady
  have hbasedGroup := hbasedExt.namedGroup hg
  obtain ⟨scaled, o', binding', name', hform, hscaledExt, hname', hne'⟩ :=
    facetForm_succeeds (o := o) hbasedGroup hname hne
  obtain ⟨o'', hheader⟩ := withHeader_text name' o'
  obtain ⟨axes, context', haxes⟩ := bundle_succeeds (hname' ▸ hheader) hcount
  have hformed := plainBundle_formed (facetForm_dualMetric hform) haxes
  rw [hname'] at hformed
  obtain ⟨result, hresult, hresultExt⟩ :=
    withFacetAxes_succeeds (hscaledExt.namedGroup hbasedGroup) hne' hformed
  exact ⟨⟨based, scaled, o', binding', axes, context', result, hbased, hform, haxes, hresult⟩,
    hbasedExt.trans (hscaledExt.trans hresultExt)⟩

end Builder

end VegaAxes
