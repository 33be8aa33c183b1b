import VegaAxes.Proofs.Axis.Bundle
import VegaAxes.Proofs.Builder.Addition
import VegaAxes.Proofs.Trellis.Group

/-!
# What adding the marks of an axis does

`addMarks_ok`: to a list of marks, marks are added at both ends, and the trellis
group, if there is one, is changed where it stands. The group's own share is a
`FacetAddition`.
-/

namespace VegaAxes.Builder

variable {b b' : Builder} {o : ResolvedAxis} {binding : Axis.Binding} {u : Unit}
  {ms : List Json} {g : Fields} {place : Nat}

theorem set_self {x : α} {xs : List α} (h : xs[i]? = some x) : xs.set i x = xs := by
  obtain ⟨hi, rfl⟩ := List.getElem?_eq_some_iff.mp h
  exact List.set_getElem_self hi

-- ---------------------------------------------------------------------------
-- One mark
-- ---------------------------------------------------------------------------

theorem markAt_eq (hm : b.marks = .arr ms) (hg : ms[place]? = some (.obj g)) :
    b.markAt place = g := by
  simp [markAt, hm, hg]

theorem setMark_eq (hm : b.marks = .arr ms) (fs : Fields) :
    b.setMark place fs = { b with marks := .arr (ms.set place (.obj fs)) } := by
  simp [setMark, hm]

theorem onMark_ok {x : Attempt Fields α} {a : α} (hm : b.marks = .arr ms)
    (hg : ms[place]? = some (.obj g)) :
    (onMark place x).run b = .ok a b' ↔
      ∃ g', x.run g = .ok a g' ∧ { b with marks := .arr (ms.set place (.obj g')) } = b' := by
  simp only [onMark, run_within_ok, markAt_eq hm hg, setMark_eq hm]

/-- The group with the scale of an axis among its own, if it has scales, and that scale. -/
def groupScale (p : Position) (g : Fields) : Except Error (Fields × Fields) := do
  let bound ← Scale.resolve ((g.get? "scales").getD (.arr [])) p
  let scale ← bound.scale.fields
  return (if (g.get? "scales").isSome then g.set "scales" bound.scales else g, scale)

theorem bindGroupScale_ok {p : Position} {scale g' : Fields} :
    (bindGroupScale p).run g = .ok scale g' ↔ groupScale p g = .ok (g', scale) := by
  simp only [bindGroupScale, groupScale, run_bind_ok, run_get_ok, run_lift_ok, bind_ok, pure_ok,
    and_assoc, exists_and_left, exists_eq_left']
  cases (g.get? "scales").isSome <;> simp [run_lift_ok]

-- ---------------------------------------------------------------------------
-- Facets
-- ---------------------------------------------------------------------------

/-- The axis and its binding within the facets of a group, and the group with the axis's scale. -/
def facetForm (o : ResolvedAxis) (binding : Axis.Binding) (g : Fields) :
    Except Error (Fields × ResolvedAxis × Axis.Binding) := do
  let direction ← Trellis.orientation (.obj g)
  if direction = o.position.orientation then
    let (g, scale) ← groupScale o.position g
    let name ← nameOf scale
    let type := (scale.getD "type").orElse (.str "linear")
    type.checkWord
    return (g, { o with scaleType := type.spliced },
      { binding with scaleName := ⟨name⟩, dualMetric := false })
  else return (g, acrossFacets o, { binding with dualMetric := false })

section

variable {g' : Fields} {o' : ResolvedAxis} {binding' : Axis.Binding}

theorem facetForm_cases (h : facetForm o binding g = .ok (g', o', binding')) :
    (∃ scale name type, Trellis.orientation (.obj g) = .ok o.position.orientation ∧
        groupScale o.position g = .ok (g', scale) ∧ nameOf scale = .ok name ∧
        o' = { o with scaleType := type } ∧
        binding' = { binding with scaleName := ⟨name⟩, dualMetric := false }) ∨
      Trellis.orientation (.obj g) ≠ .ok o.position.orientation ∧ g' = g ∧ o' = acrossFacets o ∧
        binding' = { binding with dualMetric := false } := by
  simp only [facetForm, bind_ok] at h
  obtain ⟨direction, hdirection, h⟩ := h
  rw [hdirection]
  split at h
  · next heq =>
    simp only [bind_ok, pure_ok, Prod.mk.injEq] at h
    obtain ⟨⟨_, scale⟩, hscale, name, hname, _, -, rfl, ho, hbinding⟩ := h
    exact .inl ⟨scale, name, _, congrArg _ heq, hscale, hname, ho.symm, hbinding.symm⟩
  · next hne =>
    simp only [pure_ok, Prod.mk.injEq] at h
    obtain ⟨hg, ho, hbinding⟩ := h
    exact .inr ⟨fun heq => hne (Except.ok.inj heq), hg.symm, ho.symm, hbinding.symm⟩

theorem facetForm_dualMetric (h : facetForm o binding g = .ok (g', o', binding')) :
    binding'.dualMetric = false := by
  rcases facetForm_cases h with ⟨scale, name, type, -, -, -, -, rfl⟩ | ⟨-, -, -, rfl⟩ <;> rfl

end

theorem facetBundle_ok {axes : List Fields} (hm : b.marks = .arr ms)
    (hg : ms[place]? = some (.obj g)) :
    (facetBundle o binding place).run b = .ok axes b' ↔
      ∃ g' o' binding' context, facetForm o binding g = .ok (g', o', binding') ∧
        (Axis.bundle o' binding').run b.context = .ok axes context ∧
        { b with marks := .arr (ms.set place (.obj g')), context } = b' := by
  simp only [facetBundle, facetForm, run_bind_ok, run_get_ok, run_lift_ok, bind_ok,
    and_assoc, exists_and_left, exists_eq_left', markAt_eq hm hg]
  constructor
  · rintro ⟨direction, hd, h⟩
    split at h
    · next heq =>
      simp only [run_bind_ok, run_lift_ok, onMark_ok hm hg, bindGroupScale_ok, bundle_ok,
        run_pure_ok] at h
      obtain ⟨scale, _, ⟨_, hscale, rfl⟩, name, _, ⟨hname, rfl⟩, axes, _,
        ⟨context, haxes, rfl⟩, _, _, ⟨hword, rfl⟩, rfl, rfl⟩ := h
      refine ⟨_, _, _, ⟨direction, hd, ?_⟩, context, haxes, rfl⟩
      simp only [if_pos heq, bind_ok, pure_ok]
      exact ⟨_, hscale, name, hname, (), hword, rfl⟩
    · next hne =>
      simp only [bundle_ok] at h
      obtain ⟨context, haxes, rfl⟩ := h
      refine ⟨g, _, _, ⟨direction, hd, by simp only [if_neg hne, pure_ok]⟩, context, haxes, ?_⟩
      rw [set_self hg, ← hm]
  · rintro ⟨g', o', binding', ⟨direction, hd, hform⟩, context, haxes, rfl⟩
    refine ⟨direction, hd, ?_⟩
    split at hform
    · next heq =>
      simp only [bind_ok, pure_ok] at hform
      obtain ⟨⟨_, scale⟩, hscale, name, hname, _, hword, hform⟩ := hform
      obtain ⟨rfl, rfl, rfl⟩ : _ ∧ _ ∧ _ := by simpa using hform
      simp only [if_pos heq, run_bind_ok, run_lift_ok, onMark_ok hm hg,
        bindGroupScale_ok, bundle_ok, run_pure_ok]
      exact ⟨scale, _, ⟨_, hscale, rfl⟩, name, _, ⟨hname, rfl⟩, axes, _,
        ⟨context, haxes, rfl⟩, (), _, ⟨hword, rfl⟩, rfl, rfl⟩
    · next hne =>
      cases hform
      simp only [if_neg hne, bundle_ok]
      refine ⟨context, haxes, ?_⟩
      rw [set_self hg, ← hm]

def withFacetAxes (axes : List Fields) (g : Fields) : Except Error Fields := do
  let old ← ((g.get? "axes").getD (.arr [])).elements
  let new ← Trellis.encodeTitles (.arr (axes.map .obj)) (.obj g)
  return g.set "axes" (.arr (old ++ new))

theorem addFacetAxes_ok (hm : b.marks = .arr ms) (hg : ms[place]? = some (.obj g)) :
    (addFacetAxes o binding place).run b = .ok u b' ↔
      ∃ g₁ o' binding' axes context g₂, facetForm o binding g = .ok (g₁, o', binding') ∧
        (Axis.bundle o' binding').run b.context = .ok axes context ∧
        withFacetAxes axes g₁ = .ok g₂ ∧
        { b with marks := .arr (ms.set place (.obj g₂)), context } = b' := by
  have hplace (g₁ : Fields) : (ms.set place (.obj g₁))[place]? = some (.obj g₁) :=
    List.getElem?_set_self (List.getElem?_eq_some_iff.mp hg).1
  simp only [addFacetAxes, run_bind_ok, facetBundle_ok hm hg]
  constructor
  · rintro ⟨axes, _, ⟨g₁, o', binding', context, hform, haxes, rfl⟩, h⟩
    rw [onMark_ok rfl (hplace g₁)] at h
    simp only [run_update_ok, List.set_set] at h
    obtain ⟨g₂, h, rfl⟩ := h
    exact ⟨g₁, o', binding', axes, context, g₂, hform, haxes, h, rfl⟩
  · rintro ⟨g₁, o', binding', axes, context, g₂, hform, haxes, h, rfl⟩
    refine ⟨axes, _, ⟨g₁, o', binding', context, hform, haxes, rfl⟩, ?_⟩
    rw [onMark_ok rfl (hplace g₁)]
    simp only [run_update_ok, List.set_set]
    exact ⟨g₂, h, rfl⟩

-- ---------------------------------------------------------------------------
-- All marks
-- ---------------------------------------------------------------------------

def lined (o : ResolvedAxis) (scaleName : ScaleName) (ms : List Json) : List Json :=
  if Scale.supportsReferenceLines o.scaleType then
    ReferenceLine.layerMarks o scaleName .back ++ ms ++ ReferenceLine.layerMarks o scaleName .front
  else ms

theorem addReferenceLines_ok {scaleName : ScaleName} (hm : b.marks = .arr ms) :
    (addReferenceLines o scaleName).run b = .ok u b' ↔
      { b with marks := .arr (lined o scaleName ms) } = b' := by
  simp only [addReferenceLines, lined, run_ite_ok, run_bind_ok, run_update_ok, run_pure_ok, bind_ok,
    pure_ok, true_and]
  by_cases h : Scale.supportsReferenceLines o.scaleType
  · simp [h, hm, Json.insertBlock, Json.append]
  · simp [h, ← hm]

def based (o : ResolvedAxis) (binding : Axis.Binding) (ms : List Json) : List Json :=
  if o.baseline && binding.opposesLinear then
    if o.baselineOffset == 0 then ms ++ [Baseline.rule (.float o.baselineOffset) o.position]
    else Baseline.rule (.float o.baselineOffset) o.position :: ms
  else ms

def withGroupBaseline (o : ResolvedAxis) (binding : Axis.Binding) (g : Fields) :
    Except Error Fields :=
  if o.baseline && binding.opposesLinear then
    (withBaseline o ((g.get? "marks").getD (.arr []))).map (g.set "marks")
  else .ok g

def decorations (o : ResolvedAxis) (scaleName : ScaleName) (dataField : Option String) :
    List Json :=
  (Note.all o).map (Note.mark scaleName) ++ match given dataField with
    | some field =>
      if Scale.supportsThumbnails o.scaleType then Thumbnail.marks o scaleName.spliced field else []
    | none => []

theorem grow_arr {items : List Json} : grow (.arr ms) items = .ok (.arr (ms ++ items)) := by
  cases items <;> simp [grow, Json.append]

theorem addDecorations_ok {scaleName : ScaleName} {dataField : Option String}
    (hm : b.marks = .arr ms) :
    (do addNoteMarks o scaleName; addThumbnailMarks o scaleName dataField).run b = .ok u b' ↔
      { b with marks := .arr (ms ++ decorations o scaleName dataField) } = b' := by
  simp only [addNoteMarks, addThumbnailMarks, decorations, run_bind_ok, run_update_ok, bind_ok,
    pure_ok, hm, grow_arr, Except.ok.injEq, exists_eq_left', exists_const]
  cases given dataField with
  | none => simp
  | some field =>
    by_cases h : Scale.supportsThumbnails o.scaleType
    · simp only [h, if_true, run_update_ok, bind_ok, pure_ok, Json.append, Except.ok.injEq,
        exists_eq_left', List.append_assoc]
    · simp [h]

theorem addBaseline_none_ok (hm : b.marks = .arr ms) :
    (addBaseline o none).run b = .ok u b' ↔
      ∃ marks, withBaseline o (.arr ms) = .ok marks ∧ { b with marks } = b' := by
  simp only [addBaseline, run_update_ok, bind_ok, pure_ok, hm]

theorem addBaseline_some_ok (hm : b.marks = .arr ms) (hg : ms[place]? = some (.obj g)) :
    (addBaseline o (some place)).run b = .ok u b' ↔
      ∃ marks, withBaseline o ((g.get? "marks").getD (.arr [])) = .ok marks ∧
        { b with marks := .arr (ms.set place (.obj (g.set "marks" marks))) } = b' := by
  simp only [addBaseline, onMark_ok hm hg, run_update_ok, bind_ok, pure_ok]
  constructor
  · rintro ⟨_, ⟨marks, h, rfl⟩, rfl⟩
    exact ⟨marks, h, rfl⟩
  · rintro ⟨marks, h, rfl⟩
    exact ⟨_, ⟨marks, h, rfl⟩, rfl⟩

theorem withBaseline_arr :
    withBaseline o (.arr ms) =
      .ok (.arr (if o.baselineOffset == 0 then ms ++
        [Baseline.rule (.float o.baselineOffset) o.position]
        else Baseline.rule (.float o.baselineOffset) o.position :: ms)) := by
  unfold withBaseline
  split <;> rfl

theorem groupBaseline_ok {rest : Build Unit} (hm : b.marks = .arr ms)
    (hg : ms[place]? = some (.obj g)) :
    (if o.baseline && binding.opposesLinear then do addBaseline o (some place); rest
      else rest).run b =
        .ok u b' ↔
      ∃ g', withGroupBaseline o binding g = .ok g' ∧
        rest.run { b with marks := .arr (ms.set place (.obj g')) } = .ok u b' := by
  by_cases hc : o.baseline && binding.opposesLinear
  · simp only [if_pos hc, withGroupBaseline, run_bind_ok, addBaseline_some_ok hm hg, map_ok]
    constructor
    · rintro ⟨_, _, ⟨marks, h, rfl⟩, h'⟩
      exact ⟨_, ⟨marks, h, rfl⟩, h'⟩
    · rintro ⟨_, ⟨marks, h, rfl⟩, h'⟩
      exact ⟨(), _, ⟨marks, h, rfl⟩, h'⟩
  · simp only [if_neg hc, withGroupBaseline, Except.ok.injEq, exists_eq_left', set_self hg, ← hm]

theorem addFacetAxes_decorations_ok {dataField : Option String} (hm : b.marks = .arr ms)
    (hg : ms[place]? = some (.obj g)) :
    (do addFacetAxes o binding place; addNoteMarks o binding.scaleName
        addThumbnailMarks o binding.scaleName dataField).run b = .ok u b' ↔
      ∃ g₁ o' binding' axes context g₂, facetForm o binding g = .ok (g₁, o', binding') ∧
        (Axis.bundle o' binding').run b.context = .ok axes context ∧
        withFacetAxes axes g₁ = .ok g₂ ∧
        { b with
          marks := .arr (ms.set place (.obj g₂) ++ decorations o binding.scaleName dataField)
          context } = b' := by
  rw [run_bind_ok]
  constructor
  · rintro ⟨_, _, h, h'⟩
    rw [addFacetAxes_ok hm hg] at h
    obtain ⟨g₁, o', binding', axes, context, g₂, hform, haxes, hresult, rfl⟩ := h
    rw [addDecorations_ok rfl] at h'
    exact ⟨g₁, o', binding', axes, context, g₂, hform, haxes, hresult, h'⟩
  · rintro ⟨g₁, o', binding', axes, context, g₂, hform, haxes, hresult, rfl⟩
    refine ⟨(), _, (addFacetAxes_ok hm hg).mpr
      ⟨g₁, o', binding', axes, context, g₂, hform, haxes, hresult, rfl⟩, ?_⟩
    rw [addDecorations_ok rfl]

/-- Everything that is read and written when an axis is repeated in a trellis group. -/
structure FacetAddition (o : ResolvedAxis) (binding : Axis.Binding) (before : Context)
    (g : Fields) where
  /-- The group with the baseline. -/
  based : Fields
  /-- The group with the scale of the facets' axes too. -/
  scaled : Fields
  axis : ResolvedAxis
  facetBinding : Axis.Binding
  axes : List Fields
  context : Context
  result : Fields
  based_eq : withGroupBaseline o binding g = .ok based
  form_eq : facetForm o binding based = .ok (scaled, axis, facetBinding)
  axes_eq : (Axis.bundle axis facetBinding).run before = .ok axes context
  result_eq : withFacetAxes axes scaled = .ok result

namespace FacetAddition

variable {before : Context}

theorem facetBinding_dualMetric (a : FacetAddition o binding before g) :
    a.facetBinding.dualMetric = false :=
  facetForm_dualMetric a.form_eq

theorem context_eq (a : FacetAddition o binding before g) : a.context = before :=
  Axis.bundle_context a.facetBinding_dualMetric a.axes_eq

end FacetAddition

theorem addMarks_ok {dataField : Option String} (hm : b.marks = .arr ms) :
    (addMarks o binding dataField).run b = .ok () b' ↔
      (Trellis.findGroup? 0 (lined o binding.scaleName ms) = .ok none ∧
        { b with marks := .arr (based o binding (lined o binding.scaleName ms) ++
            decorations o binding.scaleName dataField) } = b') ∨
      ∃ place g, ∃ a : FacetAddition o binding b.context g,
        Trellis.findGroup? 0 (lined o binding.scaleName ms) = .ok (some place) ∧
        (lined o binding.scaleName ms)[place]? = some (.obj g) ∧
        { b with marks := .arr ((lined o binding.scaleName ms).set place (.obj a.result) ++
            decorations o binding.scaleName dataField) } = b' := by
  simp only [addMarks, run_bind_ok, run_get_ok, run_lift_ok, addReferenceLines_ok hm, and_assoc,
    exists_and_left, exists_eq_left', exists_const, Json.elements, Except.ok.injEq]
  generalize lined o binding.scaleName ms = ms
  cases hfound : Trellis.findGroup? 0 ms with
  | error e => simp
  | ok found =>
    simp only [Except.ok.injEq, exists_eq_left']
    cases found with
    | none =>
      simp only [true_and, reduceCtorEq, false_and, exists_false, or_false]
      by_cases hc : o.baseline && binding.opposesLinear
      · rw [if_pos hc, run_bind_ok, based, if_pos hc]
        constructor
        · rintro ⟨_, _, h, h'⟩
          rw [addBaseline_none_ok rfl, withBaseline_arr] at h
          obtain ⟨_, heq, rfl⟩ := h
          cases heq
          rwa [addDecorations_ok rfl] at h'
        · intro h
          refine ⟨(), _, (addBaseline_none_ok rfl).mpr ⟨_, withBaseline_arr, rfl⟩, ?_⟩
          rwa [addDecorations_ok rfl]
      · rw [if_neg hc, addDecorations_ok rfl, based, if_neg hc]
    | some place =>
      simp only [reduceCtorEq, false_and, false_or, Option.some.injEq]
      obtain ⟨-, g, hg⟩ := Trellis.findGroup?_obj hfound
      simp only [Nat.sub_zero] at hg
      have hset (g₁ : Fields) : (ms.set place (.obj g₁))[place]? = some (.obj g₁) :=
        List.getElem?_set_self (List.getElem?_eq_some_iff.mp hg).1
      rw [groupBaseline_ok rfl hg]
      constructor
      · rintro ⟨based, hbased, h⟩
        rw [addFacetAxes_decorations_ok rfl (hset based)] at h
        obtain ⟨scaled, o', binding', axes, context, result, hform, haxes, hresult, h⟩ := h
        rw [List.set_set] at h
        let a : FacetAddition o binding b.context g :=
          ⟨based, scaled, o', binding', axes, context, result, hbased, hform, haxes, hresult⟩
        obtain rfl : context = b.context := a.context_eq
        exact ⟨place, rfl, g, hg, a, h⟩
      · rintro ⟨_, rfl, _, hg', a, h⟩
        obtain rfl : g = _ := by simpa [hg] using hg'
        refine ⟨a.based, a.based_eq, ?_⟩
        rw [addFacetAxes_decorations_ok rfl (hset a.based)]
        refine ⟨a.scaled, a.axis, a.facetBinding, a.axes, a.context, a.result, a.form_eq, a.axes_eq,
          a.result_eq, ?_⟩
        rw [List.set_set, a.context_eq]
        exact h

theorem addMarks_facets {dataField : Option String} (hm : b.marks = .arr ms)
    (hgroup : Trellis.findGroup? 0 (lined o binding.scaleName ms) = .ok (some place))
    (h : (addMarks o binding dataField).run b = .ok () b') :
    ∃ (ms' : List Json) (g : Fields) (a : FacetAddition o binding b.context g),
      (lined o binding.scaleName ms)[place]? = some (.obj g) ∧ b'.marks = .arr ms' ∧
        ms'[place]? = some (.obj a.result) := by
  rcases (addMarks_ok hm).mp h with ⟨hnone, -⟩ | ⟨place', g, a, hplace, hg, rfl⟩
  · cases hgroup.symm.trans hnone
  · cases hgroup.symm.trans hplace
    refine ⟨_, g, a, hg, rfl, ?_⟩
    have hlt := (List.getElem?_eq_some_iff.mp hg).1
    rw [List.getElem?_append_left (by simpa using hlt), List.getElem?_set_self hlt]

theorem findGroup?_unlisted {start : Nat} {found : Option Nat} (hms : ∀ m ∈ ms, ∀ fs, m ≠ .obj fs)
    (h : Trellis.findGroup? start ms = .ok found) : found = none := by
  cases found with
  | none => rfl
  | some place =>
    obtain ⟨-, g, hg⟩ := Trellis.findGroup?_obj h
    exact absurd rfl (hms _ (List.mem_of_getElem? hg) g)

theorem elements_unlisted {v : Json} {items : List Json} (hv : ∀ ms, v ≠ .arr ms)
    (h : v.elements = .ok items) : ∀ m ∈ items, ∀ fs, m ≠ .obj fs := by
  intro m hmem
  cases v with
  | arr ms => exact absurd rfl (hv ms)
  | obj fs =>
    cases h
    obtain ⟨_, -, rfl⟩ := List.mem_map.mp hmem
    simp
  | str s =>
    cases h
    obtain ⟨_, -, rfl⟩ := List.mem_map.mp hmem
    simp
  | _ => cases h

theorem insertBlock_unlisted {v w : Json} (hv : ∀ ms, v ≠ .arr ms) (items : List Json) :
    v.insertBlock items ≠ .ok w := by
  cases v <;> simp [Json.insertBlock]
  exact absurd rfl (hv _)

theorem addReferenceLines_markless {scaleName : ScaleName} (hm : ∀ ms, b.marks ≠ .arr ms)
    (h : (addReferenceLines o scaleName).run b = .ok u b') : b = b' := by
  simp only [addReferenceLines, run_ite_ok, run_bind_ok, run_update_ok, bind_ok, run_pure_ok,
    insertBlock_unlisted hm, false_and, exists_false, and_false, false_or, true_and] at h
  exact h.2

/-- Where marks are searched that are no list, there are none. -/
theorem addMarks_elements {dataField : Option String} (hm : ∀ ms, b.marks ≠ .arr ms)
    (h : (addMarks o binding dataField).run b = .ok () b') : b.marks.elements = .ok [] := by
  simp only [addMarks, run_bind_ok, run_get_ok, run_lift_ok, and_assoc, exists_and_left,
    exists_eq_left'] at h
  obtain ⟨_, b₁, hlines, items, hitems, found, hfound, -⟩ := h
  obtain rfl := addReferenceLines_markless hm hlines
  cases items with
  | nil => exact hitems
  | cons item items =>
    simp only [Trellis.findGroup?, bind_ok] at hfound
    obtain ⟨name, hname, -⟩ := hfound
    obtain ⟨fs, rfl⟩ := Trellis.markName_object hname
    exact absurd rfl (elements_unlisted hm hitems _ (by simp) fs)

theorem append_unlisted {v w : Json} (hv : ∀ ms, v ≠ .arr ms) (items : List Json) :
    v.append items ≠ .ok w := by
  intro h
  obtain ⟨old, rfl, -⟩ := append_ok.mp h
  exact hv old rfl

theorem withBaseline_unlisted {v w : Json} (hv : ∀ ms, v ≠ .arr ms) : withBaseline o v ≠ .ok w := by
  unfold withBaseline
  split
  · exact append_unlisted hv _
  · cases v <;> simp [Json.prepend]
    exact absurd rfl (hv _)

theorem grow_unlisted {v w : Json} {items : List Json} (hv : ∀ ms, v ≠ .arr ms)
    (h : grow v items = .ok w) : w = v ∧ items = [] := by
  unfold grow at h
  split at h
  · next hempty => exact ⟨(Except.ok.inj h).symm, List.isEmpty_iff.mp hempty⟩
  · exact absurd h (append_unlisted hv items)

/-- Marks that are no list take nothing, neither notes and thumbnails nor a baseline. -/
theorem addMarks_markless {dataField : Option String} (hm : ∀ ms, b.marks ≠ .arr ms)
    (h : (addMarks o binding dataField).run b = .ok () b') :
    b' = b ∧ decorations o binding.scaleName dataField = [] ∧
      (o.baseline && binding.opposesLinear) = false := by
  simp only [addMarks, run_bind_ok, run_get_ok, run_lift_ok, and_assoc, exists_and_left,
    exists_eq_left'] at h
  obtain ⟨_, b₁, hlines, items, hitems, found, hfound, h⟩ := h
  obtain rfl := addReferenceLines_markless hm hlines
  obtain rfl : found = none := findGroup?_unlisted (elements_unlisted hm hitems) hfound
  have hrest (h : (do addNoteMarks o binding.scaleName
                      addThumbnailMarks o binding.scaleName dataField).run b = .ok () b') :
    b' = b ∧ decorations o binding.scaleName dataField = [] := by
    simp only [addNoteMarks, addThumbnailMarks, run_bind_ok, run_update_ok, bind_ok, pure_ok] at h
    obtain ⟨_, _, ⟨v, hv, rfl⟩, h⟩ := h
    obtain ⟨rfl, hnotes⟩ := grow_unlisted hm hv
    rw [decorations, hnotes, List.nil_append]
    cases hfield : given dataField with
    | none =>
      rw [hfield] at h
      exact ⟨(run_pure_ok.mp h).2.symm, rfl⟩
    | some field =>
      simp only [hfield, run_ite_ok, run_update_ok, bind_ok, append_unlisted hm,
        false_and, exists_false, and_false, false_or, run_pure_ok, true_and] at h
      exact ⟨h.2.symm, if_neg h.1⟩
  split at h
  · simp only [run_bind_ok, addBaseline, run_update_ok, bind_ok,
      withBaseline_unlisted hm, false_and, exists_false] at h
  · next hundrawn =>
    obtain ⟨heq, hnone⟩ := hrest h
    exact ⟨heq, hnone, Bool.not_eq_true _ ▸ hundrawn⟩

theorem addMarks_unlisted {dataField : Option String} (hm : ∀ ms, b.marks ≠ .arr ms)
    (h : (addMarks o binding dataField).run b = .ok () b') : b' = b :=
  (addMarks_markless hm h).1

theorem addMarks_frame {dataField : Option String}
    (h : (addMarks o binding dataField).run b = .ok () b') : { b with marks := b'.marks } = b' := by
  cases hm : b.marks with
  | arr ms =>
    rcases (addMarks_ok hm).mp h with ⟨-, rfl⟩ | ⟨_, _, _, -, -, rfl⟩ <;> rfl
  | _ =>
    obtain rfl := addMarks_unlisted (by simp [hm]) h
    rfl

end VegaAxes.Builder
