import VegaAxes.Proofs.Axis.Every
import VegaAxes.Proofs.Axis.Parts
import VegaAxes.Proofs.Trellis.Header

/-!
# What roles and decorations leave alone

An axis takes its role and its decorations in its scale, its encodings and the line along it, and
in no other field (`labelled_origin`, `decorate_origin`). `bundle_emptyAxes`: only the axes that
reserve space for notes are empty, and they come last. `bundle_grids`: only the first axis may draw
the grid.
-/

namespace VegaAxes.Axis

open DualMetric Fields

variable {axis axis' encodings : Fields} {axes axes' labels : List Fields} {o o' : ResolvedAxis}
  {b : Binding} {context context' : Context}

-- ---------------------------------------------------------------------------
-- Changed fields
-- ---------------------------------------------------------------------------

/-- The fields that roles and decorations change. -/
def decoratedKeys : List String :=
  ["scale", "encode", "domain", "domainWidth"]

/-- The axis differs from another one as roles and decorations make it. -/
def ComesFrom (axis' axis : Fields) : Prop :=
  SameExcept decoratedKeys axis axis'

def AllComeFrom (axes' axes : List Fields) : Prop :=
  ∀ key, key ∉ decoratedKeys → axes'.map (·.get? key) = axes.map (·.get? key)

theorem AllComeFrom.refl (axes : List Fields) : AllComeFrom axes axes :=
  fun _ _ => rfl

theorem AllComeFrom.trans (h : AllComeFrom axes' labels) (h' : AllComeFrom labels axes) :
    AllComeFrom axes' axes :=
  fun key hkey => (h key hkey).trans (h' key hkey)

theorem AllComeFrom.length_eq (h : AllComeFrom axes' axes) : axes'.length = axes.length := by
  simpa using congrArg List.length (h "orient" (by simp [decoratedKeys]))

theorem AllComeFrom.origin (h : AllComeFrom axes' axes) (hmem : axis' ∈ axes') :
    ∃ axis ∈ axes, ComesFrom axis' axis := by
  obtain ⟨i, hi, rfl⟩ := List.getElem_of_mem hmem
  have hi' : i < axes.length := h.length_eq ▸ hi
  refine ⟨axes[i], List.getElem_mem hi', fun key hkey => ?_⟩
  have hsame := congrArg (·[i]?) (h key hkey)
  simpa [List.getElem?_map, hi, hi'] using hsame

theorem AllComeFrom.forall_iff {P : Fields → Prop}
    (hP : ∀ {axis axis'}, ComesFrom axis' axis → (P axis' ↔ P axis)) (h : AllComeFrom axes' axes) :
    (∀ axis ∈ axes', P axis) ↔ ∀ axis ∈ axes, P axis := by
  have hsymm : AllComeFrom axes axes' := fun key hkey => (h key hkey).symm
  constructor
  · intro hall axis haxis
    obtain ⟨axis', haxis', hcomes⟩ := hsymm.origin haxis
    exact (hP hcomes).mpr (hall axis' haxis')
  · intro hall axis' haxis'
    obtain ⟨axis, haxis, hcomes⟩ := h.origin haxis'
    exact (hP hcomes).mpr (hall axis haxis)

theorem mergeEncode_comesFrom (h : mergeEncode axis encodings = .ok axis') :
    ComesFrom axis' axis := by
  simp only [mergeEncode] at h
  split at h
  · obtain ⟨_, -, h⟩ := bind_ok.mp h
    cases h
    exact .set _ _ (by simp [decoratedKeys])
  · cases h
    exact .set _ _ (by simp [decoratedKeys])

theorem inRole_comesFrom {role : MetricRole} {name : String} {scheme : ColorScheme}
    (h : inRole role name scheme axis = .ok axis') : ComesFrom axis' axis :=
  .trans (.set _ _ (by simp [decoratedKeys])) (mergeEncode_comesFrom h)

theorem drawBaseline_comesFrom : ComesFrom (drawBaseline o b axis) axis := by
  unfold drawBaseline withBaseline
  split
  · exact .refl _ _
  · exact .trans (.set _ _ (by simp [decoratedKeys])) (.set _ _ (by simp [decoratedKeys]))

theorem modifyPath_comesFrom (f : Json → Json) :
    ComesFrom (axis.modifyPath f Encoding.labelTextPath) axis := by
  refine fun key hkey => Json.get?_modifyPath ?_ _
  rintro rfl
  exact hkey (by simp [decoratedKeys])

theorem hideCovered_comesFrom (h : hideCovered o b axis = .ok axis') : ComesFrom axis' axis := by
  unfold hideCovered at h
  split at h
  · obtain ⟨text, -, h⟩ := bind_ok.mp h
    split at h
    · cases h
      exact modifyPath_comesFrom _
    · cases h
      exact .refl _ _
  · cases h
    exact .refl _ _

theorem onFirst_allComeFrom {f : Fields → Except Error Fields}
    (hf : ∀ {axis axis'}, f axis = .ok axis' → ComesFrom axis' axis)
    (h : onFirst f axes = .ok axes') : AllComeFrom axes' axes :=
  fun key hkey => onFirst_map_eq (fun heq => hf heq key hkey) h

theorem clearThumbnails_allComeFrom (h : clearThumbnails o axes = .ok axes') :
    AllComeFrom axes' axes :=
  fun key hkey => clearThumbnails_map_eq (fun heq => mergeEncode_comesFrom heq key hkey) h

/-- The axes that are decorated stand before the empty axes of notes. -/
theorem decorate_origin (h : decorate o b labels = .ok axes) :
    ∃ labels', axes = labels' ++ (Note.all o).map (Note.layoutAxis b.scaleName) ∧
      AllComeFrom labels' labels := by
  obtain ⟨drawn, cleared, hdrawn, hcleared, rfl⟩ := decorate_ok.mp h
  refine ⟨cleared, rfl, (clearThumbnails_allComeFrom hcleared).trans
    (onFirst_allComeFrom ?_ hdrawn)⟩
  exact fun heq => .trans drawBaseline_comesFrom (hideCovered_comesFrom heq)

theorem labelled_origin (h : (labelled o b).run context = .ok labels context') :
    AllComeFrom labels (labelAxes o b) :=
  fun key hkey => labelled_map_eq (fun heq => inRole_comesFrom heq key hkey) h

-- ---------------------------------------------------------------------------
-- Axes without values
-- ---------------------------------------------------------------------------

/-- The axis is given no values to show, and so shows nothing. -/
def IsEmpty (axis : Fields) : Prop :=
  axis.get? "values" = some (.arr [])

instance (axis : Fields) : Decidable (IsEmpty axis) :=
  inferInstanceAs (Decidable (axis.get? "values" = some (.arr [])))

theorem isEmpty_layoutAxis (scaleName : ScaleName) (a : Note) :
    IsEmpty (Note.layoutAxis scaleName a) :=
  rfl

theorem not_isEmpty_valuesField (values : List AxisValue) : ¬IsEmpty (valuesField values) := by
  cases values <;> simp [IsEmpty, valuesField, Fields.get?_cons]

theorem not_isEmpty_of_none (h : axis.get? "values" = none) : ¬IsEmpty axis := by
  simp [IsEmpty, h]

theorem not_isEmpty_set {key : String} {v : Json} (h : ¬IsEmpty axis) (hkey : "values" ≠ key) :
    ¬IsEmpty (axis.set key v) := by
  rw [IsEmpty, Fields.get?_set_of_ne _ _ hkey]
  exact h

theorem not_isEmpty_plain (scaleName : ScaleName) : ¬IsEmpty (plain o scaleName) :=
  not_isEmpty_of_none (Fields.get?_present_none rfl)

theorem not_isEmpty_overlay {fs : Fields} (hu : fs.Unique) (h : ¬IsEmpty axis) (hfs : ¬IsEmpty fs) :
    ¬IsEmpty (axis.overlay fs) := by
  rw [IsEmpty, Fields.get?_overlay hu]
  cases hvalues : fs.get? "values" with
  | none => exact h
  | some v => exact fun heq => hfs (hvalues.trans heq)

theorem not_isEmpty_titled (h : ¬IsEmpty axis) : ¬IsEmpty (titled o axis) := by
  unfold titled padTitle
  split
  · exact not_isEmpty_set h (by simp)
  · exact h

theorem not_isEmpty_base (scaleName : ScaleName) : ¬IsEmpty (base o scaleName) := by
  unfold base
  split
  · exact not_isEmpty_plain scaleName
  · refine not_isEmpty_set (not_isEmpty_overlay ?_ (not_isEmpty_plain scaleName) ?_) (by simp)
    · exact valuesField_unique _
    · exact not_isEmpty_valuesField _

theorem not_isEmpty_subLabels (scaleName : ScaleName) : ¬IsEmpty (subLabels o scaleName) := by
  have herase {fs : Fields} (h : ¬IsEmpty fs) :
      ¬IsEmpty ((fs.erase "title").erase "domainWidth") := by
    rwa [IsEmpty, Fields.get?_erase, Fields.get?_erase, if_neg (by simp), if_neg (by simp)]
  refine herase (not_isEmpty_overlay (companion_unique ..) (not_isEmpty_plain scaleName) ?_)
  rw [IsEmpty, Fields.get?_append]
  exact not_isEmpty_valuesField _

theorem not_isEmpty_labelAxes (h : axis ∈ labelAxes o b) : ¬IsEmpty axis := by
  rcases mem_labelAxes h with rfl | rfl | rfl | rfl
  · exact not_isEmpty_titled (not_isEmpty_base _)
  · refine not_isEmpty_titled (not_isEmpty_of_none (Fields.get?_present_none ?_))
    unfold secondaryTimeFormat
    split <;> rfl
  · exact not_isEmpty_of_none (Fields.get?_present_none rfl)
  · exact not_isEmpty_subLabels _

/-- Of the axes of a description only those for notes are empty. -/
theorem bundle_emptyAxes (h : (bundle o b).run context = .ok axes context') :
    ∃ o' labels, Trellis.withHeader b.scaleName o = .ok o' ∧
      axes = labels ++ (Note.all o').map (Note.layoutAxis b.scaleName) ∧
      ∀ axis ∈ labels, ¬IsEmpty axis := by
  obtain ⟨o', labels, ho', hlabels, hdecorate⟩ := bundle_run_ok.mp h
  obtain ⟨labels', rfl, horigin⟩ := decorate_origin hdecorate
  refine ⟨o', labels', ho', rfl, fun axis' haxis' => ?_⟩
  have hvalues := (horigin.trans (labelled_origin hlabels)) "values" (by simp [decoratedKeys])
  have hmem : axis'.get? "values" ∈ (labelAxes o' b).map (·.get? "values") :=
    hvalues ▸ List.mem_map_of_mem haxis'
  obtain ⟨axis, haxis, heq⟩ := List.mem_map.mp hmem
  rw [IsEmpty, ← heq]
  exact not_isEmpty_labelAxes haxis

-- ---------------------------------------------------------------------------
-- The grid
-- ---------------------------------------------------------------------------

theorem titled_get? {key : String} (hkey : key ≠ "titlePadding") :
    (titled o axis).get? key = axis.get? key := by
  unfold titled padTitle
  split
  · exact Fields.get?_set_of_ne _ _ hkey
  · rfl

theorem base_grid (scaleName : ScaleName) :
    (base o scaleName).get? "grid" = some (.bool o.grid) := by
  rw [base_get? o (by simp) (by simp)]
  exact Fields.get?_present rfl (by simp)

theorem subLabels_grid (scaleName : ScaleName) :
    (subLabels o scaleName).get? "grid" = some (.bool false) := by
  rw [subLabels, get?_erase_title (by simp) (by simp), Fields.get?_overlay (companion_unique ..),
    Fields.get?_append]
  rfl

/-- The first axis has the grid as it is described, the others draw none. -/
theorem labelAxes_grids (o : ResolvedAxis) (b : Binding) :
    ∃ rest, (labelAxes o b).map (·.get? "grid") = some (.bool o.grid) :: rest ∧
      ∀ grid ∈ rest, grid ≠ some (.bool true) := by
  have hcompanion (axes : List Fields) (haxes : axes = if o.hasSubLabels then
      [subLabels o b.scaleName] else []) :
      ∀ grid ∈ axes.map (·.get? "grid"), grid ≠ some (.bool true) := by
    subst haxes
    split
    · simp [subLabels_grid]
    · simp
  unfold labelAxes
  split
  · rw [timeBundle, time, List.tail_cons, List.cons_append, List.map_cons, titled_get? (by simp),
      List.map_append]
    refine ⟨_, congrArg (· :: _) (Fields.get?_present rfl (by simp)), fun grid hgrid => ?_⟩
    rcases List.mem_append.mp hgrid with hgrid | hgrid
    · split at hgrid
      · cases hgrid
      · have hnone : (primaryTime b.scaleName o).get? "grid" = none := Fields.get?_present_none rfl
        obtain rfl := List.mem_singleton.mp hgrid
        simp [hnone]
    · exact hcompanion _ rfl grid hgrid
  · rw [plainAxes, List.map_cons, titled_get? (by simp), base_grid]
    exact ⟨_, rfl, hcompanion _ rfl⟩

theorem grid_header (h : Trellis.withHeader b.scaleName o = .ok o') : o'.grid = o.grid :=
  Trellis.withHeader_keeps (F := (·.grid)) (fun _ _ => rfl) h

theorem bundle_grids (h : (bundle o b).run context = .ok axes context') :
    ∃ rest, axes.map (·.get? "grid") = some (.bool o.grid) :: rest ∧
      ∀ grid ∈ rest, grid ≠ some (.bool true) := by
  obtain ⟨o', labels, ho', hlabels, hdecorate⟩ := bundle_run_ok.mp h
  obtain ⟨labels', rfl, horigin⟩ := decorate_origin hdecorate
  obtain ⟨rest, hgrids, hrest⟩ := labelAxes_grids o' b
  have hsame := (horigin.trans (labelled_origin hlabels)) "grid" (by simp [decoratedKeys])
  rw [List.map_append, hsame, hgrids, grid_header ho', List.cons_append]
  refine ⟨_, rfl, fun grid hgrid => ?_⟩
  rcases List.mem_append.mp hgrid with hgrid | hgrid
  · exact hrest grid hgrid
  · rw [List.map_map] at hgrid
    obtain ⟨a, -, rfl⟩ := List.mem_map.mp hgrid
    simp [Note.layoutAxis, Fields.get?_cons]

end VegaAxes.Axis
