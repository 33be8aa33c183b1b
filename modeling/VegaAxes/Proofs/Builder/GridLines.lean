import VegaAxes.Proofs.Axis.Untouched
import VegaAxes.Proofs.Builder.FacetAxes
import VegaAxes.Proofs.Builder.ScaleRanges
import VegaAxes.Proofs.Builder.WellFormed

/-!
# Where the grid is drawn

At chart level the grid is left to the facets where the text of the document mentions a trellis
group anywhere, and facets are drawn where the name of a mark says so. `grid_once_iff`: the grid
is drawn once, at one of the two places, exactly where both say the same.
-/

namespace VegaAxes

open Scale (isReadable isReadable_iff namesTrellis)

namespace Trellis

variable {ms : List Json} {m m' : Json}

/-- Among marks whose names can be read the search ends at the first group. -/
theorem findGroup?_eq (h : ∀ m ∈ ms, isReadable m = true) (start : Nat) :
    findGroup? start ms = .ok ((ms.findIdx? namesTrellis).map (· + start)) := by
  induction ms generalizing start with
  | nil => rfl
  | cons m ms ih =>
    have hrest := ih (fun m hm => h m (List.mem_cons_of_mem _ hm)) (start + 1)
    obtain ⟨fs, rfl, hname⟩ := isReadable_iff.mp (h m (by simp))
    obtain ⟨name, hmark, hheld⟩ : ∃ name, markName (.obj fs) = .ok name ∧
        name.holds "Trellis" = .ok (namesTrellis (.obj fs)) := by
      rw [namesTrellis, Json.ownFields, markName, Json.field, Json.fields, Except.map, Except.map,
        Fields.getD]
      rcases hname with hname | ⟨name, hname⟩
      · rw [hname]
        exact ⟨.str "", rfl, rfl⟩
      · rw [hname]
        by_cases hempty : name = ""
        · subst hempty
          exact ⟨.str "", rfl, rfl⟩
        · exact ⟨.str name, by simp [Json.orElse, Json.truthy, hempty], rfl⟩
    rw [findGroup?, hrest, hmark, List.findIdx?_cons]
    simp only [bind, Except.bind, hheld]
    cases namesTrellis (.obj fs)
    · simp [Function.comp_def, Nat.add_right_comm, Nat.add_assoc]
    · simp [pure, Except.pure]

theorem encodeTitle_get? {f : Facet} (h : f.encodeTitle m = .ok m') {key : String}
    (hkey : key ≠ "encode") :
    Fields.get? m'.ownFields key = Fields.get? m.ownFields key := by
  simp only [Facet.encodeTitle, bind_ok] at h
  obtain ⟨fs, hfs, h⟩ := h
  obtain rfl := Builder.fields_ok.mp hfs
  split at h
  · obtain ⟨encode, -, h⟩ := bind_ok.mp h
    cases h
    exact Fields.get?_set_of_ne _ _ hkey
  · cases h
    rfl

end Trellis

namespace Builder

open Trellis

variable {b b' : Builder} {o : AxisOptions} {index : Json} {ms : List Json}

def gridOf (axis : Json) : Option Json :=
  Fields.get? axis.ownFields "grid"

def drawsGrid (axis : Json) : Bool :=
  decide (gridOf axis = some (.bool true))

theorem countP_drawsGrid {axes : List Json} {grid : Bool} {rest : List (Option Json)}
    (h : axes.map gridOf = some (.bool grid) :: rest) (hrest : ∀ g ∈ rest, g ≠ some (.bool true)) :
    axes.countP drawsGrid = grid.toNat := by
  have hmap : axes.countP drawsGrid =
      (axes.map gridOf).countP (decide <| · = some (.bool true)) := by
    rw [List.countP_map]
    rfl
  have hzero : rest.countP (decide <| · = some (.bool true)) = 0 := by
    simpa [List.countP_eq_zero] using hrest
  rw [hmap, h, List.countP_cons, hzero]
  cases grid <;> rfl

-- ---------------------------------------------------------------------------
-- The facets
-- ---------------------------------------------------------------------------

theorem facetForm_grid {r r' : ResolvedAxis} {binding binding' : Axis.Binding} {g g' : Fields}
    (h : facetForm r binding g = .ok (g', r', binding')) : r'.grid = r.grid := by
  rcases facetForm_cases h with ⟨scale, name, type, -, -, -, rfl, -⟩ | ⟨-, -, rfl, -⟩ <;> rfl

/-- In the facets the first axis has the grid as it is described. -/
theorem FacetAddition.result_grids {r : ResolvedAxis} {binding : Axis.Binding} {context : Context}
    {g : Fields} (f : FacetAddition r binding context g) :
    ∃ old new rest, ((g.get? "axes").getD (.arr [])).elements = .ok old ∧
      f.result.get? "axes" = some (.arr (old ++ new)) ∧
      new.map gridOf = some (.bool r.grid) :: rest ∧ ∀ grid ∈ rest, grid ≠ some (.bool true) := by
  obtain ⟨rest, hgrids, hrest⟩ := Axis.bundle_grids f.axes_eq
  have h := f.result_eq
  simp only [withFacetAxes, encodeTitles, Json.elements, bind_ok, pure_ok, Except.ok.injEq,
    exists_eq_left'] at h
  obtain ⟨old, hold, new, ⟨facet, -, hnew⟩, hresult⟩ := h
  have hsame : new.map gridOf = (f.axes.map .obj).map gridOf :=
    mapM_map_eq (fun heq => encodeTitle_get? heq (by simp)) hnew
  refine ⟨old, new, rest, ?_, ?_, ?_, hrest⟩
  · rw [← f.based_get? (by simp), ← f.form_ok.1 "axes" (by simp)]
    exact hold
  · rw [← hresult, Fields.get?_set_self]
  · rw [hsame, List.map_map, ← facetForm_grid f.form_eq]
    exact hgrids

/-- The axes that the trellis group has more in the newer builder; none where there is no group. -/
inductive FacetsAdded (b b' : Builder) : List Json → Prop where
  | groupless {ms : List Json} (marks : b.marks = .arr ms) (group : findGroup? 0 ms = .ok none) :
    FacetsAdded b b' []
  | group {ms ms' old new : List Json} {place place' : Nat} {g g' : Fields}
    (marks : b.marks = .arr ms) (group : IsGroupAt ms place)
    (old_group : ms[place]? = some (.obj g))
    (marks' : b'.marks = .arr ms') (group' : IsGroupAt ms' place')
    (new_group : ms'[place']? = some (.obj g'))
    (old_axes : ((g.get? "axes").getD (.arr [])).elements = .ok old)
    (new_axes : g'.get? "axes" = some (.arr (old ++ new))) : FacetsAdded b b' new

-- ---------------------------------------------------------------------------
-- One call
-- ---------------------------------------------------------------------------

/-- The builder in which the axes at chart level are drawn. -/
def beforeAxes (b b' : Builder) : Builder :=
  { b' with axes := b.axes, marks := b.marks }

theorem Addition.axes_grids (a : Addition b o index) :
    ∃ rest, a.axes.map (·.get? "grid") =
        some (.bool (o.grid && !isMentioned (beforeAxes b a.unmarked).toJson)) :: rest ∧
      ∀ grid ∈ rest, grid ≠ some (.bool true) := by
  obtain ⟨rest, hgrids, hrest⟩ := Axis.bundle_grids a.axes_eq
  refine ⟨rest, ?_, hrest⟩
  rw [hgrids, chartLevel, congrArg AxisFeatures.grid (AxisOptions.resolveFor_features a.axis_eq)]
  rfl

theorem Addition.base_grid (a : Addition b o index) (hgrid : o.grid = true) :
    ∃ base, (a.axes.map .obj).head? = some base ∧
      gridOf base = some (.bool !isMentioned (beforeAxes b a.unmarked).toJson) ∧
      (a.axes.map .obj).countP drawsGrid =
        (!isMentioned (beforeAxes b a.unmarked).toJson).toNat := by
  obtain ⟨rest, hgrids, hrest⟩ := a.axes_grids
  rw [hgrid, Bool.true_and] at hgrids
  have hmap : (a.axes.map Json.obj).map gridOf = _ := List.map_map.trans hgrids
  obtain ⟨base, axes, haxes, hbase, -⟩ := List.map_eq_cons_iff.mp hmap
  exact ⟨base, by rw [haxes]; rfl, hbase, countP_drawsGrid hmap hrest⟩

/-- An axis with a grid leaves it to the facets where the document mentions a trellis group, and
is repeated in facets where a mark is named for one. The grid is drawn exactly once where the
two agree. -/
theorem grid_once_iff (hgrid : o.grid = true) (hm : b.marks = .arr ms)
    (hnames : ∀ m ∈ ms, isReadable m = true) (h : (add o index).run b = .ok () b') :
    ∃ (old new facets : List Json) (base : Json), b.axes = .arr old ∧ b'.axes = .arr (old ++ new) ∧
      new.head? = some base ∧ FacetsAdded b b' facets ∧
      gridOf base = some (.bool !isMentioned (beforeAxes b b').toJson) ∧
      (facets ≠ [] ↔ ∃ m ∈ ms, namesTrellis m = true) ∧
      (new.countP drawsGrid + facets.countP drawsGrid = 1 ↔
        (isMentioned (beforeAxes b b').toJson = true ↔ ∃ m ∈ ms, namesTrellis m = true)) := by
  have hfound := findGroup?_eq hnames 0
  simp only [Nat.add_zero, Option.map_id_fun', id_eq] at hfound
  cases hplace : ms.findIdx? namesTrellis with
  | none =>
    rw [hplace] at hfound
    obtain ⟨a, heq⟩ := add_groupless hm hfound h
    have hbefore : beforeAxes b b' = beforeAxes b a.unmarked := by
      rw [← heq]
      rfl
    obtain ⟨base, hhead, hbase, hcount⟩ := hbefore ▸ a.base_grid hgrid
    have hnone : ¬∃ m ∈ ms, namesTrellis m = true := by simpa using hplace
    refine ⟨a.oldAxes, _, [], base, a.oldAxes_eq, by rw [← heq]; rfl, hhead, .groupless hm hfound,
      hbase, ?_, ?_⟩
    · exact iff_of_false (fun h => h rfl) hnone
    · rw [hcount, iff_false_right hnone]
      cases isMentioned (beforeAxes b b').toJson <;> simp
  | some place =>
    rw [hplace] at hfound
    obtain ⟨-, g, hg⟩ := findGroup?_obj hfound
    rw [Nat.sub_zero] at hg
    obtain ⟨a, f, ms', place', heq, hgroup', hg'⟩ := add_group hm hfound hg h
    have hbefore : beforeAxes b b' = beforeAxes b a.unmarked := by
      rw [← heq]
      rfl
    obtain ⟨base, hhead, hbase, hcount⟩ := hbefore ▸ a.base_grid hgrid
    obtain ⟨old, new, rest, hold, hnew, hgrids, hrest⟩ := f.result_grids
    have hsome : ∃ m ∈ ms, namesTrellis m = true := by
      obtain ⟨hlt, hm, -⟩ := List.findIdx?_eq_some_iff_getElem.mp hplace
      exact ⟨_, List.getElem_mem hlt, hm⟩
    have hfeatures : a.axis.grid = true :=
      (congrArg AxisFeatures.grid (AxisOptions.resolveFor_features a.axis_eq)).trans hgrid
    refine ⟨a.oldAxes, _, new, base, a.oldAxes_eq, by rw [← heq]; rfl, hhead,
      .group hm hfound hg (by rw [← heq]) hgroup' hg' hold hnew, hbase, ?_, ?_⟩
    · refine iff_of_true (fun hnil => ?_) hsome
      rw [hnil] at hgrids
      cases hgrids
    · rw [hcount, countP_drawsGrid hgrids hrest, hfeatures, iff_true_right hsome]
      cases isMentioned (beforeAxes b b').toJson <;> simp

theorem facetBars_grid :
    facetBars.marks = .arr facetMarks ∧ (∀ m ∈ facetMarks, isReadable m = true) ∧
      ∃ (b' : Builder) (old new facets : List Json),
        (add { position := .bottom, grid := true } .null).run facetBars = .ok () b' ∧
        facetBars.axes = .arr old ∧ b'.axes = .arr (old ++ new) ∧ FacetsAdded facetBars b' facets ∧
        new.countP drawsGrid + facets.countP drawsGrid = 1 := by
  have hnames : ∀ m ∈ facetMarks, isReadable m = true := by decide
  have hmentioned : (after facetBars [.read { position := .bottom, grid := true } .null]).map
      (fun b' => isMentioned (beforeAxes facetBars b').toJson) = some true := by decide +kernel
  obtain ⟨b', hb', hmentioned⟩ := Option.map_eq_some_iff.mp hmentioned
  have hadd : (add { position := .bottom, grid := true } .null).run facetBars = .ok () b' :=
    runs_single.mp (after_eq_some.mp hb')
  obtain ⟨old, new, facets, -, hold, hnew, -, hfacets, -, -, honce⟩ :=
    grid_once_iff rfl rfl hnames hadd
  exact ⟨rfl, hnames, b', old, new, facets, hadd, hold, hnew, hfacets,
    honce.mpr (iff_of_true hmentioned ⟨_, List.mem_singleton_self _, by decide⟩)⟩

def titledBars : Builder :=
  { bars with extra := [("title", .str "xTrellisGroup")] }

def briefFacets : Builder :=
  { bars with marks := .arr [.obj [("name", .str "xTrellis"), ("type", .str "group")]] }

def gridAxes (b : Builder) : Nat × Nat :=
  ((itemsOf b.axes).countP drawsGrid,
    ((itemsOf b.marks).flatMap fun g => itemsOf (Fields.getD g.ownFields "axes")).countP drawsGrid)

/-- The first loses its grid altogether, the second has it twice. -/
theorem titledBars_briefFacets :
    (after titledBars [.read { position := .bottom, grid := true } .null]).map gridAxes =
        some (0, 0) ∧
      (after briefFacets [.read { position := .bottom, grid := true } .null]).map gridAxes =
        some (1, 1) := by
  decide +kernel

end Builder

end VegaAxes
