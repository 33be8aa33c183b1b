import VegaAxes.Proofs.Axis.Lines
import VegaAxes.Proofs.Builder.BareFacets
import VegaAxes.Proofs.Builder.Layers

/-!
# One baseline for each axis

Across a linear scale the baseline of an axis is a mark, of the trellis group if there is one and
else of the document; across any other scale it is the line of the first axis, at chart level and
again in the facets. `run_baseline`: a call draws it in one of the two ways, and no more than once
in each place.
-/

namespace VegaAxes

open Text

-- ---------------------------------------------------------------------------
-- Marks that are no baselines
-- ---------------------------------------------------------------------------

inductive NamedWithin (name : String) : Json → Prop where
  | here {fs : Fields} (named : fs.get? "name" = some (.str name)) : NamedWithin name (.obj fs)
  | inside {fs : Fields} {ms : List Json} {m : Json} (marks : fs.get? "marks" = some (.arr ms))
    (mem : m ∈ ms) (within : NamedWithin name m) : NamedWithin name (.obj fs)

/-- Neither the mark nor one within it goes by the name of a baseline. -/
def NoBaseline (mark : Json) : Prop :=
  ∀ p, ¬NamedWithin (Baseline.name p) mark

theorem noBaseline_obj {fs : Fields} (hname : ∀ p, fs.get? "name" ≠ some (.str (Baseline.name p)))
    (hmarks : ∀ ms, fs.get? "marks" = some (.arr ms) → ∀ m ∈ ms, NoBaseline m) :
    NoBaseline (.obj fs) := by
  rintro p (⟨hnamed⟩ | ⟨hms, hmem, hwithin⟩)
  · exact hname p hnamed
  · exact hmarks _ hms _ hmem p hwithin

theorem noBaseline_leaf {fs : Fields} {name : String} (h : ∀ p, name ≠ Baseline.name p)
    (hname : fs.get? "name" = some (.str name)) (hmarks : fs.get? "marks" = none) :
    NoBaseline (.obj fs) := by
  refine noBaseline_obj (fun p heq => h p ?_) fun ms hms => ?_
  · simpa [hname] using heq
  · rw [hmarks] at hms
    cases hms

/-- What an axis names after itself is no baseline. -/
theorem Text.OpensWith.ne_baseline {name : String} (h : OpensWith 'a' name) (p : Position) :
    name ≠ Baseline.name p := by
  unfold Baseline.name
  split
  · exact h.ne (d := 'y') rfl (by decide)
  · exact h.ne (d := 'x') rfl (by decide)

def noteMarkWords : List String :=
  ["_group", "_icon", "_range"]

theorem noteMarkWords_noneEnds : NoneEnds (noteMarkWords ++ ["Baseline"]) := by
  decide

theorem ended_ne_baseline {word : String} (hword : word ∈ noteMarkWords) (stem : String)
    (p : Position) :
    stem ++ word ≠ Baseline.name p := by
  obtain ⟨letter, hname⟩ : ∃ letter, Baseline.name p = letter ++ "Baseline" := by
    cases p
    exacts [⟨"x", rfl⟩, ⟨"x", rfl⟩, ⟨"y", rfl⟩, ⟨"y", rfl⟩]
  intro heq
  obtain ⟨-, rfl⟩ := noteMarkWords_noneEnds.append_inj (List.mem_append_left _ hword)
    (List.mem_append_right _ (List.mem_singleton_self _)) (heq.trans hname)
  simp [noteMarkWords] at hword

variable {r : ResolvedAxis} {scaleName : ScaleName} {m : Json}

theorem ReferenceLine.layerMarks_noBaseline {layer : Layer} (hname : OpensWith 'a' r.name)
    (h : m ∈ layerMarks r scaleName layer) : NoBaseline m := by
  obtain ⟨fs, suffix, rfl, hnamed, hmarks, -⟩ := layerMarks_named h
  exact noBaseline_leaf hname.append.ne_baseline hnamed hmarks

namespace Note

theorem noBaseline_bracketPart (a : Note) (placing : Fields) : NoBaseline (bracketPart a placing) :=
  noBaseline_obj (fun _ h => by cases h) (fun _ h => by cases h)

theorem noBaseline_group {fs : Fields} {word : String} {inner : List Json} (a : Note)
    (hword : word ∈ noteMarkWords) (hname : fs.get? "name" = some (.str (a.name ++ word)))
    (hmarks : fs.get? "marks" = some (.arr inner)) (hinner : ∀ m ∈ inner, NoBaseline m) :
    NoBaseline (.obj fs) := by
  refine noBaseline_obj (fun p heq => ?_) fun ms hms => ?_
  · rw [hname, Option.some.injEq, Json.str.injEq] at heq
    exact ended_ne_baseline hword a.name p heq
  · cases hmarks.symm.trans hms
    exact hinner

theorem noBaseline_icon {fs : Fields} (a : Note)
    (hname : fs.get? "name" = some (.str (a.name ++ "_icon"))) (hmarks : fs.get? "marks" = none) :
    NoBaseline (.obj fs) :=
  noBaseline_leaf (ended_ne_baseline (by simp [noteMarkWords]) a.name) hname hmarks

theorem noBaseline_mark (a : Note) : NoBaseline (mark scaleName a) := by
  have hgroup : "_group" ∈ noteMarkWords := by simp [noteMarkWords]
  have hrange : "_range" ∈ noteMarkWords := by simp [noteMarkWords]
  unfold mark
  cases a.format with
  | summary =>
    refine noBaseline_group a hgroup rfl rfl fun m hm => ?_
    obtain rfl := List.mem_singleton.mp hm
    exact noBaseline_icon a rfl rfl
  | span =>
    refine noBaseline_group a hgroup rfl rfl fun m hm => ?_
    simp only [List.mem_cons, List.not_mem_nil, or_false] at hm
    rcases hm with rfl | rfl
    · refine noBaseline_group a hrange rfl rfl fun m hm => ?_
      simp only [bracket, List.mem_cons, List.not_mem_nil, or_false] at hm
      rcases hm with rfl | rfl | rfl <;> exact noBaseline_bracketPart a _
    · exact noBaseline_icon a rfl rfl

end Note

theorem Thumbnail.marks_noBaseline {name field : String} (hname : OpensWith 'a' r.name)
    (h : m ∈ marks r name field) : NoBaseline m := by
  obtain ⟨t, ht, rfl⟩ := List.mem_map.mp h
  obtain ⟨i, hi, rfl⟩ := List.mem_mapIdx.mp ht
  exact noBaseline_leaf (OpensWith.ne_baseline hname.append.append) rfl rfl

namespace Builder

open Axis Trellis

variable {b b' : Builder} {o : AxisOptions} {index : Json} {binding : Axis.Binding}
  {context : Context}
  {g g' : Fields} {ms inner : List Json} {c : Call}

theorem decorations_noBaseline {dataField : Option String} (hname : OpensWith 'a' r.name)
    (h : m ∈ decorations r scaleName dataField) : NoBaseline m := by
  rcases List.mem_append.mp h with h | h
  · obtain ⟨a, -, rfl⟩ := List.mem_map.mp h
    exact Note.noBaseline_mark a
  · split at h
    · split at h
      · exact Thumbnail.marks_noBaseline hname h
      · cases h
    · cases h

theorem Addition.name_opens (a : Addition b o index) : OpensWith 'a' a.axis.name := by
  rw [a.name_spliced]
  exact OpensWith.append rfl

theorem Addition.lines_noBaseline (a : Addition b o index) (layer : Layer) :
    ∀ m ∈ a.drawing.lines layer, NoBaseline m := by
  intro m hm
  unfold Drawing.lines at hm
  split at hm
  · exact ReferenceLine.layerMarks_noBaseline a.name_opens hm
  · cases hm

-- ---------------------------------------------------------------------------
-- The rule
-- ---------------------------------------------------------------------------

def baselineRules (o : AxisFeatures) (opposingType : Json) : List Json :=
  if o.baseline = true ∧ opposingType = .str "linear" then
    [Baseline.rule (.float o.baselineOffset) o.position]
  else []

/-- The marks with the baseline: last if it is at zero, and first at any other offset. -/
def withBaselines (o : AxisFeatures) (opposingType : Json) (ms : List Json) : List Json :=
  if o.baselineOffset == 0 then ms ++ baselineRules o opposingType
  else baselineRules o opposingType ++ ms

theorem baselineRules_names (o : AxisFeatures) (opposingType : Json) :
    (baselineRules o opposingType).map Document.entryName? =
      if o.baseline = true ∧ opposingType = .str "linear" then
        [some (if o.position = .left ∨ o.position = .right then "yBaseline" else "xBaseline")]
      else [] := by
  unfold baselineRules
  split
  · cases o.position <;> rfl
  · rfl

theorem opposesLinear_iff :
    (r.baseline && binding.opposesLinear) = true ↔
      r.baseline = true ∧ binding.opposingType = .str "linear" := by
  simp [Binding.opposesLinear]

theorem withBaselines_undrawn (h : ¬(r.baseline && binding.opposesLinear) = true) (ms : List Json) :
    withBaselines r.toAxisFeatures binding.opposingType ms = ms := by
  have hnone : baselineRules r.toAxisFeatures binding.opposingType = [] :=
    if_neg (mt opposesLinear_iff.mpr h)
  simp [withBaselines, hnone]

theorem withBaselines_drawn (h : (r.baseline && binding.opposesLinear) = true) (ms : List Json) :
    withBaselines r.toAxisFeatures binding.opposingType ms =
      if r.baselineOffset == 0 then ms ++ [Baseline.rule (.float r.baselineOffset) r.position]
      else Baseline.rule (.float r.baselineOffset) r.position :: ms := by
  have hrule : baselineRules r.toAxisFeatures binding.opposingType =
      [Baseline.rule (.float r.baselineOffset) r.position] := if_pos (opposesLinear_iff.mp h)
  rw [withBaselines, hrule]
  rfl

theorem based_rules (r : ResolvedAxis) (binding : Axis.Binding) (ms : List Json) :
    based r binding ms = withBaselines r.toAxisFeatures binding.opposingType ms := by
  unfold based
  split
  · next h => rw [withBaselines_drawn h]
  · next h => rw [withBaselines_undrawn h]

/-- The group keeps its marks, with the baseline among them. -/
theorem groupBaseline_rules (h : withGroupBaseline r binding g = .ok g')
    (hinner : (g.get? "marks").getD (.arr []) = .arr inner) :
    (g'.get? "marks").getD (.arr []) =
      .arr (withBaselines r.toAxisFeatures binding.opposingType inner) := by
  unfold withGroupBaseline at h
  split at h
  · next hdrawn =>
    rw [hinner, withBaseline_arr, Except.map, Except.ok.injEq] at h
    rw [← h, Fields.get?_set_self, Option.getD_some, withBaselines_drawn hdrawn]
  · next hundrawn =>
    rw [Except.ok.injEq] at h
    rw [← h, hinner, withBaselines_undrawn hundrawn]

-- ---------------------------------------------------------------------------
-- The trellis group
-- ---------------------------------------------------------------------------

/-- The group takes the rules of a baseline among its marks, and axes that have its line. -/
structure GroupBased (o : AxisFeatures) (opposingType : Json) (format : LabelFormat)
    (g g' : Fields) :
    Prop where
  marks : ∀ inner, (g.get? "marks").getD (.arr []) = .arr inner →
    (g'.get? "marks").getD (.arr []) = .arr (withBaselines o opposingType inner)
  axes : ∃ (old : List Json) (facets : List Fields) (side : Position),
    ((g.get? "axes").getD (.arr [])).elements = .ok old ∧
    g'.get? "axes" = some (.arr (old ++ facets.map .obj)) ∧
    facets.map lineOf = firstLine o opposingType :: otherLines o format side

theorem facetForm_opposingType {r' : ResolvedAxis} {binding' : Axis.Binding}
    (h : facetForm r binding g = .ok (g', r', binding')) :
    binding'.opposingType = binding.opposingType := by
  rcases facetForm_cases h with ⟨scale, name, type, -, -, -, -, rfl⟩ | ⟨-, -, -, rfl⟩ <;> rfl

/-- In the facets the axes have the same lines as at chart level. -/
theorem FacetAddition.axes_lines (f : FacetAddition r binding context g) :
    ∃ side, f.axes.map lineOf = firstLine r.toAxisFeatures binding.opposingType ::
      otherLines r.toAxisFeatures r.labelFormat side := by
  have hlines := bundle_lines f.axes_eq
  rw [facetForm_opposingType f.form_eq] at hlines
  obtain ⟨type, -, haxis⟩ := f.axis_eq
  refine ⟨f.facetBinding.side f.axis, hlines.trans ?_⟩
  rw [haxis]
  cases type <;> rfl

theorem FacetAddition.groupBased (f : FacetAddition r binding context g) :
    GroupBased r.toAxisFeatures binding.opposingType r.labelFormat g f.result where
  marks inner hinner := by
    rw [withFacetAxes_get? f.result_eq (by simp), f.form_ok.1 "marks" (by simp)]
    exact groupBaseline_rules f.based_eq hinner
  axes := by
    obtain ⟨old, facets, hold, hnew, hkeys⟩ := f.result_keys
    obtain ⟨side, hlines⟩ := f.axes_lines
    refine ⟨old, facets, side, hold, hnew, ?_⟩
    rw [map_lineOf, hkeys _ (by simp), hkeys _ (by simp), ← map_lineOf, hlines]

-- ---------------------------------------------------------------------------
-- Calls
-- ---------------------------------------------------------------------------

/-- Where a call leaves the marks. The baseline is put among those of the trellis group if there
is one, and else among those of the document with the reference lines around them. Nothing else
that is drawn goes by the name of one. -/
inductive BaselineDrawn (o : AxisFeatures) (opposingType : Json) (format : LabelFormat)
    (b b' : Builder) :
    Prop where
  | unlisted (marks : ∀ ms, b.marks ≠ .arr ms) (marks' : b'.marks = b.marks)
    (undrawn : baselineRules o opposingType = [])
  | document {ms before after later : List Json} (marks : b.marks = .arr ms)
    (group : findGroup? 0 ms = .ok none)
    (marks' : b'.marks = .arr (withBaselines o opposingType (before ++ ms ++ after) ++ later))
    (others : ∀ m ∈ before ++ after ++ later, NoBaseline m)
  | group {ms before after later : List Json} {place : Nat} {g g' : Fields}
    (marks : b.marks = .arr ms)
    (group : IsGroupAt ms place) (old_group : ms[place]? = some (.obj g))
    (based : GroupBased o opposingType format g g')
    (marks' : b'.marks = .arr (before ++ ms.set place (.obj g') ++ after ++ later))
    (others : ∀ m ∈ before ++ after ++ later, NoBaseline m)

theorem Addition.around_noBaseline (a : Addition b o index) :
    ∀ m ∈ a.drawing.lines .back ++ a.drawing.lines .front ++
      decorations a.axis a.binding.scaleName a.bound.dataField, NoBaseline m := by
  intro m hm
  rcases List.mem_append.mp hm with hm | hm
  · rcases List.mem_append.mp hm with hm | hm
    · exact a.lines_noBaseline .back m hm
    · exact a.lines_noBaseline .front m hm
  · exact decorations_noBaseline a.name_opens hm

theorem Addition.baselineDrawn (a : Addition b o index)
    (h : (addMarks a.axis a.binding a.bound.dataField).run a.unmarked = .ok () b') :
    BaselineDrawn a.axis.toAxisFeatures a.bound.opposingType a.axis.labelFormat b b' := by
  by_cases hlisted : ∃ ms, b.marks = .arr ms
  · obtain ⟨ms, hm⟩ := hlisted
    rcases a.marks_ok hm h with ⟨hnone, hmarks⟩ | ⟨place, g, f, hgroup, hg, hmarks⟩
    · rw [based_rules] at hmarks
      exact .document hm hnone hmarks a.around_noBaseline
    · exact .group hm hgroup hg f.groupBased hmarks a.around_noBaseline
  · have hunlisted : ∀ ms, b.marks ≠ .arr ms := fun ms hms => hlisted ⟨ms, hms⟩
    obtain ⟨heq, -, hundrawn⟩ := addMarks_markless (b := a.unmarked) hunlisted h
    refine .unlisted hunlisted (by rw [heq]; rfl) (if_neg fun hdrawn => ?_)
    rw [opposesLinear_iff.mpr hdrawn] at hundrawn
    cases hundrawn

/-- A call draws the baseline of its axis in one way. Across a linear scale it is one rule among
the marks, if the axis has a baseline, and no axis has a line to be told of but companions, which
draw none. Across any other scale there is no rule, and the first axis at chart level and the
first of the facets have the baseline as their line. -/
theorem run_baseline (h : c.run.run b = .ok () b') :
    ∃ o, c.options = .ok o ∧ ∃ a : Addition b o c.index,
      (baselineRules o.toAxisFeatures a.bound.opposingType).map Document.entryName? =
        (if o.baseline = true ∧ a.bound.opposingType = .str "linear" then
          [some (if o.position = .left ∨ o.position = .right then "yBaseline" else "xBaseline")]
        else []) ∧
      BaselineDrawn o.toAxisFeatures a.bound.opposingType a.axis.labelFormat b b' ∧
      b'.axes = .arr (a.oldAxes ++ a.axes.map .obj) ∧
      a.axes.map lineOf = firstLine o.toAxisFeatures a.bound.opposingType ::
        otherLines o.toAxisFeatures a.axis.labelFormat (a.binding.side a.axis) := by
  obtain ⟨o, ho, hadd⟩ := Call.run_ok.mp h
  obtain ⟨a, hmarks⟩ := add_ok.mp hadd
  have hfeatures : a.axis.toAxisFeatures = o.toAxisFeatures :=
    AxisOptions.resolveFor_features a.axis_eq
  have hdrawn := a.baselineDrawn hmarks
  have hlines := bundle_lines a.axes_eq
  rw [hfeatures] at hdrawn
  refine ⟨o, ho, a, baselineRules_names .., hdrawn, ?_, ?_⟩
  · rw [← addMarks_frame hmarks]
    rfl
  · rw [← hfeatures]
    exact hlines

def grounded : AxisOptions where
  position := .bottom
  baseline := true

theorem facetBars_baseline :
    ∃ (b' : Builder) (a : Addition facetBars grounded .null) (rest : List Line),
      (Call.read grounded .null).run.run facetBars = .ok () b' ∧
      a.bound.opposingType = .str "linear" ∧
      BaselineDrawn grounded.toAxisFeatures (.str "linear") a.axis.labelFormat facetBars b' ∧
      a.axes.map lineOf = noLine :: rest := by
  have hsome : (after facetBars [.read grounded .null]).isSome = true := by decide +kernel
  obtain ⟨b', hb'⟩ := Option.isSome_iff_exists.mp hsome
  have hrun : (Call.read grounded .null).run.run facetBars = .ok () b' :=
    runs_single.mp (after_eq_some.mp hb')
  obtain ⟨_, ⟨⟩, a, -, hdrawn, -, hlines⟩ := run_baseline hrun
  have htype : (boundScale facetBars.scales grounded).toOption.map (·.1.opposingType) =
      some (.str "linear") := by decide +kernel
  rw [a.bound_eq] at htype
  have htype : a.bound.opposingType = .str "linear" := Option.some.inj htype
  rw [htype] at hdrawn hlines
  exact ⟨b', a, _, hrun, htype, hdrawn, hlines⟩

example :
    (after facetBars [.read grounded .null]).map (fun b => (itemsOf b.marks).map fun g =>
      Document.namesOf (itemsOf (Fields.getD g.ownFields "marks"))) = some [["xBaseline"]] := by
  decide +kernel

end Builder

end VegaAxes
