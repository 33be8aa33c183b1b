import VegaAxes.Proofs.Builder.DrawnMarks
import VegaAxes.Proofs.Json.Growth
import VegaAxes.Proofs.Scale.Growth
import VegaAxes.Proofs.Trellis.Facets

/-!
# Growth of marks

`Grown`: of a trellis group only the lists of axes, marks and scales change, and
those only grow. `MarksKept`: among newer marks the older ones stand as a block,
with nothing but the trellis group grown. Adding an axis keeps all marks
(`FacetAddition.grown`, `addMarks_kept`).
-/

namespace VegaAxes

namespace Trellis

def listKeys : List String :=
  ["axes", "marks", "scales"]

def HasLists (g : Fields) : Prop :=
  ∀ key ∈ listKeys, ∃ items, g.getD key (.arr []) = .arr items

/-- Only the lists change. Axes and scales come after the older ones, marks around them. -/
structure Grown (g g' : Fields) : Prop where
  others : Fields.SameExcept listKeys g g'
  axes : (g.getD "axes" (.arr [])).Extends (g'.getD "axes" (.arr []))
  marks : (g.getD "marks" (.arr [])).Surrounds (g'.getD "marks" (.arr []))
  scales : (g.getD "scales" (.arr [])).Extends (g'.getD "scales" (.arr []))

variable {g g' g'' : Fields} {items added before after : List Json}

theorem HasLists.refl (h : HasLists g) : Grown g g := by
  obtain ⟨axes, haxes⟩ := h "axes" (by simp [listKeys])
  obtain ⟨marks, hmarks⟩ := h "marks" (by simp [listKeys])
  obtain ⟨scales, hscales⟩ := h "scales" (by simp [listKeys])
  exact ⟨.refl _ _, haxes ▸ .refl axes, hmarks ▸ .refl marks, hscales ▸ .refl scales⟩

theorem Grown.trans (h : Grown g g') (h' : Grown g' g'') : Grown g g'' :=
  ⟨h.others.trans h'.others, h.axes.trans h'.axes, h.marks.trans h'.marks, h.scales.trans h'.scales⟩

theorem Grown.hasLists (h : Grown g g') : HasLists g' := by
  intro key hkey
  simp only [listKeys, List.mem_cons, List.not_mem_nil, or_false] at hkey
  rcases hkey with rfl | rfl | rfl
  · obtain ⟨_, _, -, haxes⟩ := h.axes
    exact ⟨_, haxes⟩
  · obtain ⟨_, _, _, -, hmarks⟩ := h.marks
    exact ⟨_, hmarks⟩
  · obtain ⟨_, _, -, hscales⟩ := h.scales
    exact ⟨_, hscales⟩

theorem getD_set_self (g : Fields) (key : String) (v default : Json) :
    (g.set key v).getD key default = v := by
  simp [Fields.getD]

theorem getD_set_of_ne (g : Fields) {key other : String} (v default : Json) (h : other ≠ key) :
    (g.set key v).getD other default = g.getD other default :=
  Fields.getD_eq_of_get? (Fields.get?_set_of_ne g v h) default

theorem HasLists.set_axes (h : HasLists g) (haxes : g.getD "axes" (.arr []) = .arr items) :
    Grown g (g.set "axes" (.arr (items ++ added))) where
  others := .set _ _ (by simp [listKeys])
  axes := by
    rw [getD_set_self, haxes]
    exact ⟨_, _, rfl, rfl⟩
  marks := by
    rw [getD_set_of_ne _ _ _ (by simp)]
    exact h.refl.marks
  scales := by
    rw [getD_set_of_ne _ _ _ (by simp)]
    exact h.refl.scales

theorem HasLists.set_marks (h : HasLists g) (hmarks : g.getD "marks" (.arr []) = .arr items)
    (before after : List Json) :
    Grown g (g.set "marks" (.arr (before ++ items ++ after))) where
  others := .set _ _ (by simp [listKeys])
  axes := by
    rw [getD_set_of_ne _ _ _ (by simp)]
    exact h.refl.axes
  marks := by
    rw [getD_set_self, hmarks]
    exact ⟨_, _, _, rfl, rfl⟩
  scales := by
    rw [getD_set_of_ne _ _ _ (by simp)]
    exact h.refl.scales

theorem HasLists.set_scales (h : HasLists g) (hscales : g.getD "scales" (.arr []) = .arr items) :
    Grown g (g.set "scales" (.arr (items ++ added))) where
  others := .set _ _ (by simp [listKeys])
  axes := by
    rw [getD_set_of_ne _ _ _ (by simp)]
    exact h.refl.axes
  marks := by
    rw [getD_set_of_ne _ _ _ (by simp)]
    exact h.refl.marks
  scales := by
    rw [getD_set_self, hscales]
    exact ⟨_, _, rfl, rfl⟩

end Trellis

theorem Fields.IsDrawn.hasLists {g : Fields} (h : g.IsDrawn) : Trellis.HasLists g := by
  intro key hkey
  simp only [Trellis.listKeys, List.mem_cons, List.not_mem_nil, or_false] at hkey
  rcases hkey with rfl | rfl | rfl
  · exact ⟨[], by rw [Fields.getD, h.axes]; rfl⟩
  · cases hmarks : g.get? "marks" with
    | none => exact ⟨[], by rw [Fields.getD, hmarks]; rfl⟩
    | some v =>
      obtain ⟨ms, rfl⟩ := h.marks v hmarks
      exact ⟨ms, by rw [Fields.getD, hmarks]; rfl⟩
  · exact ⟨[], by rw [Fields.getD, h.scales]; rfl⟩

namespace Builder

open Trellis

variable {o : ResolvedAxis} {binding : Axis.Binding} {g g' : Fields}

-- ---------------------------------------------------------------------------
-- The group of an addition
-- ---------------------------------------------------------------------------

theorem withGroupBaseline_grown (hg : HasLists g) (h : withGroupBaseline o binding g = .ok g') :
    Grown g g' := by
  obtain ⟨marks, hmarks⟩ := hg "marks" (by simp [listKeys])
  unfold withGroupBaseline at h
  split at h
  · rw [← Fields.getD, hmarks, withBaseline_arr] at h
    obtain rfl := Except.ok.inj h
    split
    · exact hg.set_marks hmarks [] _
    · rw [← List.append_nil (_ :: marks)]
      exact hg.set_marks hmarks [_] []
  · obtain rfl := Except.ok.inj h
    exact hg.refl

theorem groupScale_grown {p : Position} {scale : Fields} (hg : HasLists g)
    (h : groupScale p g = .ok (g', scale)) : Grown g g' := by
  obtain ⟨scales, hscales⟩ := hg "scales" (by simp [listKeys])
  simp only [groupScale, bind_ok, pure_ok, Prod.mk.injEq] at h
  obtain ⟨bound, hbound, _, -, rfl, rfl⟩ := h
  rw [← Fields.getD, hscales] at hbound
  split
  · rw [(Scale.resolve_ok hbound).1]
    exact hg.set_scales hscales
  · exact hg.refl

theorem facetForm_grown {o' : ResolvedAxis} {binding' : Axis.Binding} (hg : HasLists g)
    (h : facetForm o binding g = .ok (g', o', binding')) : Grown g g' := by
  rcases facetForm_cases h with ⟨scale, name, type, -, hscale, -⟩ | ⟨-, rfl, -⟩
  · exact groupScale_grown hg hscale
  · exact hg.refl

theorem withFacetAxes_grown {axes : List Fields} (hg : HasLists g)
    (h : withFacetAxes axes g = .ok g') : Grown g g' := by
  obtain ⟨old, hold⟩ := hg "axes" (by simp [listKeys])
  rw [withFacetAxes, ← Fields.getD, hold] at h
  simp only [Json.elements, bind_ok, pure_ok, Except.ok.injEq, exists_eq_left'] at h
  obtain ⟨new, -, rfl⟩ := h
  exact hg.set_axes hold

theorem FacetAddition.grown {before : Context} (a : FacetAddition o binding before g)
    (hg : HasLists g) : Grown g a.result := by
  have hbased := withGroupBaseline_grown hg a.based_eq
  have hscaled := facetForm_grown hbased.hasLists a.form_eq
  exact hbased.trans (hscaled.trans (withFacetAxes_grown hscaled.hasLists a.result_eq))

def Faceted (o : ResolvedAxis) (binding : Axis.Binding) (context : Context) (g g' : Fields) :
    Prop :=
  ∃ a : FacetAddition o binding context g, a.result = g'

-- ---------------------------------------------------------------------------
-- Blocks of marks
-- ---------------------------------------------------------------------------

variable {ms ns kept before after old new newer : List Json} {place : Nat} {x y m : Json}

def IsGroupAt (ms : List Json) (place : Nat) : Prop :=
  findGroup? 0 ms = .ok (some place)

def GroupHas (P : Fields → Prop) (ms : List Json) : Prop :=
  ∀ place g, IsGroupAt ms place → ms[place]? = some (.obj g) → P g

def GroupHasLists (ms : List Json) : Prop :=
  ∀ place g, IsGroupAt ms place → ms[place]? = some (.obj g) → HasLists g

/-- The older marks stand as a block, with nothing but the trellis group grown. -/
def MarksKept (old new : List Json) : Prop :=
  ∃ before kept after, new = before ++ kept ++ after ∧ ChangedAt (IsGroupAt old) Grown old kept

theorem isGroupAt_of_names {R : Fields → Fields → Prop} (h : ChangedAt places R old kept)
    (hR : ∀ {g g'}, R g g' → Fields.get? g' "name" = Fields.get? g "name") :
    IsGroupAt kept = IsGroupAt old := by
  have hnames : kept.map markName = old.map markName := h.map_eq fun {g g'} hg => by
    simp only [markName, Json.field, Json.fields, Except.map, Fields.getD_eq_of_get? (hR hg) .null]
  funext place
  rw [IsGroupAt, IsGroupAt, findGroup?_congr hnames]

theorem isGroupAt_congr (h : ChangedAt places Grown old kept) : IsGroupAt kept = IsGroupAt old :=
  isGroupAt_of_names h fun hgrown => hgrown.others "name" (by simp [listKeys])

theorem MarksKept.refl (ms : List Json) : MarksKept ms ms :=
  ⟨[], ms, [], by simp, .refl _ _ _⟩

theorem MarksKept.trans (h : MarksKept old new) (h' : MarksKept new newer) :
    MarksKept old newer := by
  obtain ⟨before, kept, after, rfl, hkept⟩ := h
  obtain ⟨earlier, whole, later, rfl, hwhole⟩ := h'
  obtain ⟨rest, after', rfl, hrest, -⟩ := hwhole.append_left
  obtain ⟨before', kept', rfl, hkept', hlen⟩ := hrest.append_right
  refine ⟨earlier ++ before', kept', after' ++ later, by simp, hkept.trans .trans ?_⟩
  rw [← isGroupAt_congr hkept]
  exact hkept'.mono fun i ⟨hi, hgroup⟩ => findGroup?_middle hi (hlen ▸ hgroup)

theorem getElem?_block (h : (before ++ ms ++ after)[place]? = some x) :
    x ∈ before ++ after ∨ ∃ i, place = before.length + i ∧ ms[i]? = some x := by
  rw [List.append_assoc] at h
  by_cases hbefore : place < before.length
  · rw [List.getElem?_append_left hbefore] at h
    exact .inl (List.mem_append_left _ (List.mem_of_getElem? h))
  rw [List.getElem?_append_right (by omega)] at h
  by_cases hms : place - before.length < ms.length
  · rw [List.getElem?_append_left hms] at h
    exact .inr ⟨_, by omega, h⟩
  · rw [List.getElem?_append_right (by omega)] at h
    exact .inl (List.mem_append_right _ (List.mem_of_getElem? h))

theorem set_block (h : (before ++ ms ++ after)[place]? = some x) (y : Json) :
    (x ∈ before ++ after ∧ ∃ before' after',
        (before ++ ms ++ after).set place y = before' ++ ms ++ after' ∧
        ∀ m ∈ before' ++ after', m ∈ before ++ after ∨ m = y) ∨
      ∃ i, place = before.length + i ∧ ms[i]? = some x ∧
        (before ++ ms ++ after).set place y = before ++ ms.set i y ++ after := by
  rw [List.append_assoc] at h ⊢
  by_cases hbefore : place < before.length
  · rw [List.getElem?_append_left hbefore] at h
    refine .inl ⟨List.mem_append_left _ (List.mem_of_getElem? h), before.set place y, after, ?_, ?_⟩
    · rw [List.set_append_left _ _ hbefore, List.append_assoc]
    · intro m hm
      rcases List.mem_append.mp hm with hm | hm
      · exact (List.mem_or_eq_of_mem_set hm).imp_left (List.mem_append_left _)
      · exact .inl (List.mem_append_right _ hm)
  rw [List.getElem?_append_right (by omega)] at h
  rw [List.set_append_right _ _ (by omega)]
  by_cases hms : place - before.length < ms.length
  · rw [List.getElem?_append_left hms] at h
    refine .inr ⟨_, by omega, h, ?_⟩
    rw [List.set_append_left _ _ hms, List.append_assoc]
  · rw [List.getElem?_append_right (by omega)] at h
    rw [List.set_append_right _ _ (by omega)]
    refine .inl ⟨List.mem_append_right _ (List.mem_of_getElem? h), before, _,
      (List.append_assoc ..).symm, ?_⟩
    intro m hm
    rcases List.mem_append.mp hm with hm | hm
    · exact .inl (List.mem_append_left _ hm)
    · exact (List.mem_or_eq_of_mem_set hm).imp_left (List.mem_append_right _)

/-- Marks that stand around others may be the trellis group themselves, if they have the
property. -/
theorem groupHas_block {P : Fields → Prop} {R : Fields → Fields → Prop} (hms : GroupHas P ms)
    (hkept : ChangedAt (IsGroupAt ms) R ms kept)
    (hname : ∀ {g g'}, R g g' → Fields.get? g' "name" = Fields.get? g "name")
    (hP : ∀ {g g'}, R g g' → P g → P g') (haround : ∀ g, .obj g ∈ before ++ after → P g) :
    GroupHas P (before ++ kept ++ after) := by
  intro place g hgroup hg
  rcases getElem?_block hg with hg | ⟨i, rfl, hy⟩
  · exact haround g hg
  · have hi := (List.getElem?_eq_some_iff.mp hy).1
    have hgroup : IsGroupAt ms i := by
      rw [← isGroupAt_of_names hkept hname]
      exact findGroup?_middle hi hgroup
    obtain ⟨x, hx⟩ : ∃ x, ms[i]? = some x := ⟨_, List.getElem?_eq_getElem (hkept.1 ▸ hi)⟩
    rcases hkept.2 i _ _ hx hy with heq | ⟨-, g₀, _, rfl, heq, hchanged⟩
    · exact hms i g hgroup (heq ▸ hx)
    · cases heq
      exact hP hchanged (hms i g₀ hgroup hx)

/-- The marks that an axis leaves: the older ones as a block, with the trellis group changed by
the axis, between marks that it has drawn. One of these may be the trellis group itself. -/
theorem addMarks_block {b b' : Builder} {dataField : Option String} (hm : b.marks = .arr ms)
    (h : (addMarks o binding dataField).run b = .ok () b') :
    ∃ before kept after, { b with marks := .arr (before ++ kept ++ after) } = b' ∧
      ChangedAt (IsGroupAt ms) (Faceted o binding b.context) ms kept ∧
      ∀ m ∈ before ++ after, Drawn m ∨
        ∃ g g', Drawn (.obj g) ∧ m = .obj g' ∧ Faceted o binding b.context g g' := by
  obtain ⟨before, after, hlined, hdrawn⟩ := lined_drawn o binding.scaleName ms
  have hends {m : Json} (hm : m ∈ decorations o binding.scaleName dataField) : Drawn m :=
    decorations_drawn hm
  rcases (addMarks_ok hm).mp h with ⟨-, rfl⟩ | ⟨place, g, a, hgroup, hg, rfl⟩
  · obtain ⟨before', after', hbased, hdrawn'⟩ :=
      based_drawn o binding (lined o binding.scaleName ms)
    refine ⟨before' ++ before, ms, after ++ after' ++ decorations o binding.scaleName dataField,
      by rw [hbased, hlined]; simp, .refl _ _ _, fun m hm => .inl ?_⟩
    simp only [List.mem_append] at hm hdrawn hdrawn'
    rcases hm with (hm | hm) | (hm | hm) | hm
    · exact hdrawn' _ (.inl hm)
    · exact hdrawn _ (.inl hm)
    · exact hdrawn _ (.inr hm)
    · exact hdrawn' _ (.inr hm)
    · exact hends hm
  · rw [hlined] at hg hgroup ⊢
    rcases set_block hg (.obj a.result) with
      ⟨hmem, before', after', hset, hdrawn'⟩ | ⟨i, rfl, hi, hset⟩
    · -- the group is a mark drawn just now
      refine ⟨before', ms, after' ++ decorations o binding.scaleName dataField,
        by rw [hset, List.append_assoc _ after'], .refl _ _ _, fun m hm => ?_⟩
      rw [← List.append_assoc] at hm
      rcases List.mem_append.mp hm with hm | hm
      · exact (hdrawn' m hm).imp (hdrawn m) fun heq => ⟨g, _, hdrawn _ hmem, heq, a, rfl⟩
      · exact .inl (hends hm)
    · have hgroup : IsGroupAt ms i := findGroup?_middle (List.getElem?_eq_some_iff.mp hi).1 hgroup
      refine ⟨before, _, after ++ decorations o binding.scaleName dataField,
        by rw [hset, List.append_assoc _ after], .set hgroup hi ⟨a, rfl⟩, fun m hm => .inl ?_⟩
      rw [← List.append_assoc] at hm
      exact (List.mem_append.mp hm).elim (hdrawn m) hends

/-- What marks have when they are drawn, and keep when axes of facets are added to them, the
trellis group has throughout. -/
theorem addMarks_groupHas {P : Fields → Prop} {b b' : Builder} {dataField : Option String}
    (hdrawn : ∀ {g}, Drawn (.obj g) → P g)
    (hfaceted : ∀ {g g'}, Faceted o binding b.context g g' → P g → P g')
    (hm : b.marks = .arr ms) (hms : GroupHas P ms)
    (h : (addMarks o binding dataField).run b = .ok () b') :
    ∃ ms', { b with marks := .arr ms' } = b' ∧ GroupHas P ms' := by
  obtain ⟨before, kept, after, rfl, hkept, haround⟩ := addMarks_block hm h
  refine ⟨_, rfl, groupHas_block hms hkept (fun ⟨a, heq⟩ => heq ▸ a.result_name) hfaceted ?_⟩
  intro g hg
  rcases haround _ hg with hg | ⟨_, _, hg₀, heq, hchanged⟩
  · exact hdrawn hg
  · cases heq
    exact hfaceted hchanged (hdrawn hg₀)

theorem lined_groupHas {P : Fields → Prop} (hdrawn : ∀ {g}, Drawn (.obj g) → P g)
    (hms : GroupHas P ms) (o : ResolvedAxis) (scaleName : ScaleName) :
    GroupHas P (lined o scaleName ms) := by
  obtain ⟨before, after, hlined, haround⟩ := lined_drawn o scaleName ms
  rw [hlined]
  refine groupHas_block (R := (· = ·)) hms (.refl _ _ _) ?_ ?_ fun g hg => hdrawn (haround _ hg)
  · rintro g _ rfl
    rfl
  · rintro g _ rfl hg
    exact hg

theorem addMarks_kept {b b' : Builder} {dataField : Option String} (hm : b.marks = .arr ms)
    (hms : GroupHasLists ms) (h : (addMarks o binding dataField).run b = .ok () b') :
    ∃ ms', { b with marks := .arr ms' } = b' ∧ MarksKept ms ms' ∧ GroupHasLists ms' := by
  have hdrawn {g : Fields} (hg : Drawn (.obj g)) : HasLists g := by
    obtain ⟨_, heq, hg⟩ := hg
    cases heq
    exact hg.hasLists
  have hgrown {g g' : Fields} (hg' : Faceted o binding b.context g g') (hg : HasLists g) :
      Grown g g' := by
    obtain ⟨a, rfl⟩ := hg'
    exact a.grown hg
  obtain ⟨before, kept, after, heq, hkept, -⟩ := addMarks_block hm h
  obtain ⟨_, rfl, hlists⟩ := addMarks_groupHas hdrawn
    (fun hg' hg => (hgrown hg' hg).hasLists) hm hms h
  have hmarks := Json.arr.inj (congrArg Builder.marks heq)
  refine ⟨_, rfl, ⟨before, kept, after, hmarks.symm, ?_⟩, hlists⟩
  exact hkept.imp fun hgroup hg hchanged => hgrown hchanged (hms _ _ hgroup hg)

end Builder

end VegaAxes
