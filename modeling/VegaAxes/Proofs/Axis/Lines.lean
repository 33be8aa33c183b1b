import VegaAxes.Proofs.Axis.Offsets

/-!
# Lines along axes

`bundle_lines`: only the first axis of a description has the baseline as its line, and only where
the baseline is no mark. Of the others the companion with sub-labels is told to draw none, and the
rest say nothing of it.
-/

namespace VegaAxes.Axis

open DualMetric

variable {axis axis' encodings : Fields} {axes labels : List Fields}
  {o o' : ResolvedAxis} {b : Binding}
  {context context' : Context}

/-- What an axis says of the line along it: whether it is drawn, and how wide. -/
abbrev Line := Option Json × Option Json

def lineOf (axis : Fields) : Line :=
  (axis.get? "domain", axis.get? "domainWidth")

def noLine : Line :=
  (none, none)

def companionLine : Line :=
  (some (.bool false), none)

/-- The line of the first axis: its baseline, unless that is a mark across a linear scale. -/
def firstLine (o : AxisFeatures) (opposingType : Json) : Line :=
  if opposingType = .str "linear" then noLine else (some (.bool o.baseline), some (.int 2))

/-- The lines of the other axes that show labels: the coarse half of a time axis, and the
companion. -/
def laterLines (o : AxisFeatures) (format : LabelFormat) (side : Position) : List Line :=
  (if format = .time ∧ side.isVertical = false then [noLine] else []) ++
    if o.subLabels ≠ [] ∧ o.labelOrientation = .horizontal then [companionLine] else []

/-- The lines of all other axes; those for notes come last. -/
def otherLines (o : AxisFeatures) (format : LabelFormat) (side : Position) : List Line :=
  laterLines o format side ++ List.replicate (if side = .bottom then o.notes.length else 0) noLine

theorem lineOf_congr (h : ∀ key, key ∈ ["domain", "domainWidth"] → axis'.get? key = axis.get? key) :
    lineOf axis' = lineOf axis := by
  rw [lineOf, lineOf, h "domain" (by simp), h "domainWidth" (by simp)]

theorem map_lineOf (axes : List Fields) :
    axes.map lineOf = (axes.map (·.get? "domain")).zip (axes.map (·.get? "domainWidth")) :=
  List.zip_map'.symm

-- ---------------------------------------------------------------------------
-- The axes of a description
-- ---------------------------------------------------------------------------

theorem titled_line (o : ResolvedAxis) (axis : Fields) : lineOf (titled o axis) = lineOf axis :=
  lineOf_congr fun _ hkey => titled_get? (by rintro rfl; simp at hkey)

theorem base_line (o : ResolvedAxis) (scaleName : ScaleName) :
    lineOf (base o scaleName) = noLine := by
  have hplain : lineOf (plain o scaleName) = noLine :=
    Prod.ext (Fields.get?_present_none rfl) (Fields.get?_present_none rfl)
  rw [← hplain]
  refine lineOf_congr fun key hkey => base_get? o ?_ ?_ <;>
    (rintro rfl; simp at hkey)

theorem secondaryTime_line (o : ResolvedAxis) (scaleName : ScaleName) :
    lineOf (secondaryTime scaleName o) = noLine := by
  refine Prod.ext (Fields.get?_present_none ?_) (Fields.get?_present_none ?_) <;>
    (unfold secondaryTimeFormat; split <;> rfl)

theorem primaryTime_line (o : ResolvedAxis) (scaleName : ScaleName) :
    lineOf (primaryTime scaleName o) = noLine :=
  Prod.ext (Fields.get?_present_none rfl) (Fields.get?_present_none rfl)

theorem subLabels_line (o : ResolvedAxis) (scaleName : ScaleName) :
    lineOf (subLabels o scaleName) = companionLine := by
  have hdomain : (subLabels o scaleName).get? "domain" = some (.bool false) := by
    rw [subLabels, get?_erase_title (by simp) (by simp), Fields.get?_overlay (companion_unique ..),
      Fields.get?_append]
    rfl
  have hwidth : (subLabels o scaleName).get? "domainWidth" = none := by
    rw [subLabels, Fields.get?_erase, if_pos rfl]
  exact Prod.ext hdomain hwidth

/-- As they are first made no axis has the baseline. -/
theorem labelAxes_lines (o : ResolvedAxis) (b : Binding) :
    (labelAxes o b).map lineOf =
      noLine :: laterLines o.toAxisFeatures o.labelFormat o.position := by
  have hcompanion : (if o.hasSubLabels then [subLabels o b.scaleName] else []).map lineOf =
      if o.subLabels ≠ [] ∧ o.labelOrientation = .horizontal then [companionLine] else [] := by
    by_cases hsub : o.hasSubLabels = true
    · rw [if_pos hsub, if_pos (hasSubLabels_iff.mp hsub), List.map_singleton, subLabels_line]
    · rw [if_neg hsub, if_neg (mt hasSubLabels_iff.mpr hsub), List.map_nil]
  unfold labelAxes laterLines
  split
  · next htime =>
    rw [timeBundle, time, List.tail_cons, List.cons_append, List.map_cons, titled_line,
      secondaryTime_line, List.map_append, hcompanion]
    cases o.position.isVertical <;> simp [htime, primaryTime_line]
  · next hformat =>
    have hhalf : ¬(o.labelFormat = .time ∧ o.position.isVertical = false) := fun h => hformat h.1
    rw [plainAxes, List.map_cons, titled_line, base_line, hcompanion, if_neg hhalf, List.nil_append]

-- ---------------------------------------------------------------------------
-- Roles and decorations
-- ---------------------------------------------------------------------------

theorem mergeEncode_line (h : mergeEncode axis encodings = .ok axis') :
    lineOf axis' = lineOf axis :=
  lineOf_congr fun _ hkey => mergeEncode_get? h (by rintro rfl; simp at hkey)

theorem inRole_line {role : MetricRole} {name : String} {scheme : ColorScheme}
    (h : inRole role name scheme axis = .ok axis') : lineOf axis' = lineOf axis := by
  rw [mergeEncode_line h]
  exact lineOf_congr fun _ hkey => Fields.get?_set_of_ne _ _ (by rintro rfl; simp at hkey)

theorem drawBaseline_line (h : lineOf axis = noLine) :
    lineOf (drawBaseline o b axis) = firstLine o.toAxisFeatures b.opposingType := by
  unfold drawBaseline firstLine Binding.opposesLinear
  by_cases hlinear : b.opposingType = .str "linear"
  · rw [if_pos (by simpa using hlinear), if_pos hlinear]
    exact h
  · rw [if_neg (by simpa using hlinear), if_neg hlinear, lineOf, withBaseline, Fields.get?_set_self,
      Fields.get?_set_of_ne _ _ (by simp), Fields.get?_set_self]

theorem hideCovered_line (h : hideCovered o b axis = .ok axis') : lineOf axis' = lineOf axis := by
  unfold hideCovered at h
  split at h
  · obtain ⟨text, -, h⟩ := bind_ok.mp h
    split at h
    · obtain rfl := pure_ok.mp h
      exact lineOf_congr fun _ hkey => Json.get?_modifyPath (by rintro rfl; simp at hkey) _
    · obtain rfl := pure_ok.mp h
      rfl
  · cases h
    rfl

theorem decorate_lines {later : List Line} (hlabels : labels.map lineOf = noLine :: later)
    (h : decorate o b labels = .ok axes) :
    axes.map lineOf = firstLine o.toAxisFeatures b.opposingType :: later ++
      List.replicate (Note.all o).length noLine := by
  obtain ⟨drawn, cleared, hdrawn, hcleared, rfl⟩ := decorate_ok.mp h
  have hlayouts : ((Note.all o).map (Note.layoutAxis b.scaleName)).map lineOf =
      List.replicate (Note.all o).length noLine := by
    rw [List.map_map, List.map_eq_replicate_iff]
    exact fun _ _ => rfl
  rw [List.map_append, clearThumbnails_map_eq mergeEncode_line hcleared, hlayouts]
  cases labels with
  | nil => cases hlabels
  | cons axis rest =>
    obtain ⟨hfirst, rfl⟩ := List.cons.inj hlabels
    obtain ⟨axis', haxis', rfl⟩ := map_ok.mp hdrawn
    rw [List.map_cons, hideCovered_line haxis', drawBaseline_line hfirst]

theorem bundle_lines (h : (bundle o b).run context = .ok axes context') :
    axes.map lineOf = firstLine o.toAxisFeatures b.opposingType ::
      otherLines o.toAxisFeatures o.labelFormat (b.side o) := by
  obtain ⟨o', labels, ho', hlabels, hdecorate⟩ := bundle_run_ok.mp h
  have hlength := length_layoutAxes ho'
  have hlater : laterLines o'.toAxisFeatures o'.labelFormat o'.position =
      laterLines o.toAxisFeatures o.labelFormat (b.side o) := by
    rw [Binding.side, ← Trellis.position_header ho']
    exact Trellis.withHeader_keeps
      (F := fun r => laterLines r.toAxisFeatures r.labelFormat o'.position) (fun _ _ => rfl) ho'
  have hbaseline : o'.baseline = o.baseline :=
    Trellis.withHeader_keeps (F := (·.baseline)) (fun _ _ => rfl) ho'
  have hlines := (labelled_map_eq inRole_line hlabels).trans (labelAxes_lines o' b)
  rw [List.length_map] at hlength
  rw [decorate_lines hlines hdecorate, otherLines, hlater, hlength, List.cons_append, firstLine,
    hbaseline]
  rfl

end VegaAxes.Axis
