import VegaAxes.Proofs.Axis.Decoration
import VegaAxes.Proofs.Builder.MarkAddition
import VegaAxes.Proofs.Scale.Binding

/-!
# Axes within facets

The axes that a trellis group takes are formed and have no role (`FacetAddition.axes_formed`),
and come after the group's older ones (`withFacetAxes_ok`).
-/

namespace VegaAxes

namespace Trellis

open Axis

variable {axis : Fields} {scale : Json}

theorem encodeTitle_ok (f : Facet) {text : Option Json}
    (htext : (Json.obj axis).descend Encoding.labelTextPath = .ok text) :
    f.encodeTitle (.obj axis) = .ok (.obj axis) ∨
      ∃ encode : Fields,
        f.encodeTitle (.obj axis) =
          .ok (.obj (axis.set "encode" (.obj (encode.set "title" f.titleEncoding)))) ∧
        ∀ key keys, (Json.obj axis).descend ("encode" :: key :: keys) =
          (Json.obj encode).descend (key :: keys) := by
  by_cases htitle : (axis.getD "title").truthy = true
  · obtain ⟨encode, hencode, hpaths⟩ : ∃ encode : Fields,
        ((axis.get? "encode").getD (.obj [])).spread = .ok encode ∧
        ∀ key keys, (Json.obj axis).descend ("encode" :: key :: keys) =
          (Json.obj encode).descend (key :: keys) := by
      rcases Json.descend_cons_ok.mp htext with ⟨v, hv, hvx⟩ | ⟨hnone, -⟩
      · obtain ⟨encode, rfl⟩ := Json.descend_cons_object hvx
        refine ⟨encode, by rw [hv]; rfl, fun key keys => ?_⟩
        rw [Json.descend, Json.field?, Json.fields, Except.map, hv]
        rfl
      · refine ⟨[], by rw [hnone]; rfl, fun key keys => ?_⟩
        rw [Json.descend_cons_ok.mpr (.inr ⟨hnone, rfl⟩)]
        rfl
    refine .inr ⟨encode, ?_, hpaths⟩
    simp only [Facet.encodeTitle, Json.fields, bind_ok, Except.ok.injEq, exists_eq_left', htitle,
      if_true, hencode, pure_ok]
  · refine .inl ?_
    simp only [Facet.encodeTitle, Json.fields, bind_ok, Except.ok.injEq, exists_eq_left', htitle,
      Bool.false_eq_true, if_false, pure_ok]

theorem descend_encodeTitle {f : Facet} {encode : Fields} (keys : List String)
    (h : ∀ key keys, (Json.obj axis).descend ("encode" :: key :: keys) =
      (Json.obj encode).descend (key :: keys)) :
    (Json.obj (axis.set "encode" (.obj (encode.set "title" f.titleEncoding)))).descend
        ("encode" :: "labels" :: keys) =
      (Json.obj axis).descend ("encode" :: "labels" :: keys) := by
  rw [Json.descend_set_self, Json.descend_set_of_ne (by simp), h]

theorem encodeTitle_text (f : Facet) {text : Option Json}
    (htext : (Json.obj axis).descend Encoding.labelTextPath = .ok text) :
    ∃ axis', f.encodeTitle (.obj axis) = .ok (.obj axis') ∧
      (Json.obj axis').descend Encoding.labelTextPath = .ok text := by
  rcases encodeTitle_ok f htext with heq | ⟨encode, heq, hpaths⟩
  · exact ⟨axis, heq, htext⟩
  · exact ⟨_, heq, (descend_encodeTitle _ hpaths).trans htext⟩

theorem encodeTitle_formed (f : Facet) (h : Formed scale noStyle axis) :
    ∃ axis', f.encodeTitle (.obj axis) = .ok (.obj axis') ∧ Formed scale noStyle axis' := by
  obtain ⟨text, htext, hrules⟩ := h.text
  rcases encodeTitle_ok f htext with heq | ⟨encode, heq, hpaths⟩
  · exact ⟨axis, heq, h⟩
  · refine ⟨_, heq, ?_, ?_, ⟨text, (descend_encodeTitle _ hpaths).trans htext, hrules⟩,
      fun part hpart time htime key hkey => ?_⟩
    · rw [Fields.get?_set_of_ne _ _ (by simp)]
      exact h.scale
    · rw [Fields.get?_set_of_ne _ _ (by simp)]
      exact h.orient
    · simp only [List.mem_cons, List.not_mem_nil, or_false] at hpart htime hkey
      rcases hpart with rfl | rfl
      · rw [descend_encodeTitle _ hpaths]
        exact h.style _ (by simp) time (by simpa using htime) key (by simpa using hkey)
      · rw [Json.descend_set_self, Json.descend_set_self]
        refine ⟨none, rfl, ?_⟩
        rcases htime with rfl | rfl <;> rcases hkey with rfl | rfl <;> rfl

theorem encodeTitles_formed {axes : List Fields} {g : Fields} {new : List Json}
    (haxes : ∀ axis ∈ axes, Formed scale noStyle axis)
    (h : encodeTitles (.arr (axes.map .obj)) (.obj g) = .ok new) :
    new.length = axes.length ∧ ∀ m ∈ new, ∃ axis, m = .obj axis ∧ Formed scale noStyle axis := by
  simp only [encodeTitles, Json.elements, bind_ok, Except.ok.injEq, exists_eq_left'] at h
  obtain ⟨facet, -, h⟩ := h
  have hmem : ∀ m ∈ axes.map Json.obj, ∃ axis, m = .obj axis ∧ Formed scale noStyle axis := by
    intro m hm
    obtain ⟨axis, haxis, rfl⟩ := List.mem_map.mp hm
    exact ⟨axis, rfl, haxes axis haxis⟩
  have hstep : ∀ m, (∃ axis, m = .obj axis ∧ Formed scale noStyle axis) →
      ∃ m', facet.encodeTitle m = .ok m' ∧ ∃ axis, m' = .obj axis ∧ Formed scale noStyle axis := by
    rintro _ ⟨axis, rfl, haxis⟩
    obtain ⟨axis', heq, haxis'⟩ := encodeTitle_formed facet haxis
    exact ⟨_, heq, axis', rfl, haxis'⟩
  obtain ⟨new', heq, hlen, hnew⟩ := mapM_succeeds hstep hmem
  cases h.symm.trans heq
  exact ⟨by simpa using hlen, hnew⟩

end Trellis

namespace Builder

open Axis

variable {o : ResolvedAxis} {binding : Axis.Binding} {g g' : Fields} {axes : List Fields}
  {scale : Json}

theorem plainBundle_formed {context context' : Context} (hdual : binding.dualMetric = false)
    (h : (Axis.bundle o binding).run context = .ok axes context') :
    ∀ axis ∈ axes, Formed binding.scaleName.value noStyle axis := by
  obtain ⟨o', labels, -, rfl, -, hlabels, hlayout⟩ := bundle_formed h
  have hrole : roleOf o' binding context = none := by
    simp [roleOf, takesRole, Binding.coordinates, hdual]
  rw [hrole] at hlabels
  intro axis haxis
  rcases List.mem_append.mp haxis with haxis | haxis
  · exact hlabels axis haxis
  · exact hlayout axis haxis

theorem withFacetAxes_ok (haxes : ∀ axis ∈ axes, Formed scale noStyle axis)
    (h : withFacetAxes axes g = .ok g') :
    ∃ old new, ((g.get? "axes").getD (.arr [])).elements = .ok old ∧
      g' = g.set "axes" (.arr (old ++ new)) ∧ new.length = axes.length ∧
      ∀ m ∈ new, ∃ axis, m = .obj axis ∧ Formed scale noStyle axis := by
  simp only [withFacetAxes, bind_ok, pure_ok] at h
  obtain ⟨old, hold, new, hnew, rfl⟩ := h
  obtain ⟨hlen, hformed⟩ := Trellis.encodeTitles_formed haxes hnew
  exact ⟨old, new, hold, rfl, hlen, hformed⟩

theorem withFacetAxes_get? (h : withFacetAxes axes g = .ok g') {key : String}
    (hkey : key ≠ "axes") : g'.get? key = g.get? key := by
  simp only [withFacetAxes, bind_ok, pure_ok] at h
  obtain ⟨_, -, _, -, rfl⟩ := h
  exact Fields.get?_set_of_ne _ _ hkey

/-- Along the facets the axis is bound among the group's scales; across them it stays on its own. -/
theorem facetForm_ok {o' : ResolvedAxis} {binding' : Axis.Binding}
    (h : facetForm o binding g = .ok (g', o', binding')) :
    (Trellis.orientation (.obj g) ≠ .ok o.position.orientation ∧ g' = g ∧
        binding'.scaleName = binding.scaleName) ∨
      Trellis.orientation (.obj g) = .ok o.position.orientation ∧
        ∃ (bound : Scale.Bound) (scale : Fields),
          Scale.resolve ((g.get? "scales").getD (.arr [])) o.position = .ok bound ∧
          bound.scale = .obj scale ∧ scale.get? "name" = some binding'.scaleName.value ∧
          g' = if (g.get? "scales").isSome then g.set "scales" bound.scales else g := by
  rcases facetForm_cases h with
    ⟨scale, name, type, hdirection, hgroup, hname, -, rfl⟩ | ⟨hdirection, rfl, -, rfl⟩
  · simp only [groupScale, bind_ok, pure_ok, Prod.mk.injEq] at hgroup
    obtain ⟨bound, hbound, _, hscale, rfl, rfl⟩ := hgroup
    exact .inr ⟨hdirection, bound, _, hbound, fields_ok.mp hscale, nameOf_ok.mp hname, rfl⟩
  · exact .inl ⟨hdirection, rfl, rfl⟩

namespace FacetAddition

variable {before : Context}

theorem based_get? (a : FacetAddition o binding before g) {key : String} (hkey : key ≠ "marks") :
    a.based.get? key = g.get? key := by
  have h := a.based_eq
  unfold withGroupBaseline at h
  split at h
  · obtain ⟨marks, -, heq⟩ := map_ok.mp h
    rw [← heq, Fields.get?_set_of_ne _ _ hkey]
  · exact congrArg (Fields.get? · key) (Except.ok.inj h).symm

theorem form_ok (a : FacetAddition o binding before g) :
    (∀ key, key ≠ "scales" → a.scaled.get? key = a.based.get? key) ∧
      (a.facetBinding.scaleName = binding.scaleName ∨
        ∃ (bound : Scale.Bound) (scale : Fields),
          Scale.resolve ((g.get? "scales").getD (.arr [])) o.position = .ok bound ∧
          bound.scale = .obj scale ∧ scale.get? "name" = some a.facetBinding.scaleName.value) := by
  rcases facetForm_ok a.form_eq with
    ⟨-, hscaled, hname⟩ | ⟨-, bound, scale, hbound, hscale, hname, hscaled⟩
  · exact ⟨fun _ _ => by rw [hscaled], .inl hname⟩
  · refine ⟨fun key hkey => ?_, .inr ⟨bound, scale, ?_, hscale, hname⟩⟩
    · rw [hscaled]
      split
      · exact Fields.get?_set_of_ne _ _ hkey
      · rfl
    · rw [← a.based_get? (by simp)]
      exact hbound

theorem axes_formed (a : FacetAddition o binding before g) :
    ∀ axis ∈ a.axes, Formed a.facetBinding.scaleName.value noStyle axis :=
  plainBundle_formed a.facetBinding_dualMetric a.axes_eq

theorem result_ok (a : FacetAddition o binding before g) :
    ∃ old new, ((g.get? "axes").getD (.arr [])).elements = .ok old ∧
      a.result.get? "axes" = some (.arr (old ++ new)) ∧ new.length = a.axes.length ∧
      ∀ m ∈ new, ∃ axis, m = .obj axis ∧ Formed a.facetBinding.scaleName.value noStyle axis := by
  obtain ⟨old, new, hold, hresult, hlen, hnew⟩ := withFacetAxes_ok a.axes_formed a.result_eq
  refine ⟨old, new, ?_, ?_, hlen, hnew⟩
  · rw [← a.based_get? (by simp), ← a.form_ok.1 "axes" (by simp)]
    exact hold
  · rw [hresult, Fields.get?_set_self]

theorem result_get? (a : FacetAddition o binding before g) {key : String}
    (hkey : key ∉ ["axes", "marks", "scales"]) : a.result.get? key = g.get? key := by
  simp only [List.mem_cons, List.not_mem_nil, or_false, not_or] at hkey
  rw [withFacetAxes_get? a.result_eq hkey.1, a.form_ok.1 key hkey.2.2, a.based_get? hkey.2.1]

theorem result_name (a : FacetAddition o binding before g) :
    a.result.get? "name" = g.get? "name" :=
  a.result_get? (by simp)

theorem result_scales (a : FacetAddition o binding before g) :
    a.result.get? "scales" = g.get? "scales" ∨
      ∃ items, g.get? "scales" = some (.arr items) ∧
        a.result.get? "scales" = some (.arr (items ++ Scale.missing o.position.extent items)) := by
  rw [withFacetAxes_get? a.result_eq (by simp), ← a.based_get? (show "scales" ≠ "marks" by simp)]
  rcases facetForm_ok a.form_eq with ⟨-, hscaled, -⟩ | ⟨-, bound, _, hbound, -, -, hscaled⟩
  · rw [hscaled]
    exact .inl rfl
  · rw [hscaled]
    cases hscales : a.based.get? "scales" with
    | none =>
      rw [if_neg (by simp)]
      exact .inl hscales
    | some scales =>
      rw [hscales, Option.getD_some] at hbound
      obtain ⟨items, rfl⟩ := Scale.resolve_list hbound
      rw [if_pos (by simp), Fields.get?_set_self, (Scale.resolve_ok hbound).1]
      exact .inr ⟨items, rfl, rfl⟩

end FacetAddition

end Builder

end VegaAxes
