import VegaAxes.Proofs.Axis.ControlledLabels
import VegaAxes.Proofs.Axis.Offsets
import VegaAxes.Proofs.Builder.Sides

/-!
# Truncated labels

Labels that are formatted as numbers fall back on their value, or on the value cut to the width of
a band. `bundle_fallsBack` follows this rule into the first axis of a bundle. Labels are cut by
the name of their scale (`cuts_fallback_iff`): those along a band scale, and no others, exactly if
the name says what the type does (`add_truncation`).
-/

namespace VegaAxes

open Encoding

/-- A rule that cuts the text, for which it asks the scale for the width of a band. -/
def Label.Cuts (rule : Json) : Prop :=
  ∃ arguments : String, rule = signal ("truncateText(" ++ arguments)

namespace Axis

variable {axes : List Fields} {o : ResolvedAxis} {b : Binding} {scaleName : ScaleName}
  {context context' : Context}

theorem not_cuts_rawValue : ¬Label.Cuts rawValue := by
  rintro ⟨arguments, heq⟩
  have hexpression : some (Json.str "datum.value") = some (.str ("truncateText(" ++ arguments)) :=
    congrArg (fun rule : Json => Fields.get? rule.ownFields "signal") heq
  have hletters := congrArg String.toList (Json.str.inj (Option.some.inj hexpression))
  simp [String.toList_append] at hletters

/-- Whether the axis is one that asks for its labels to be cut, by the name of its scale. -/
def CutsByName (o : ResolvedAxis) (scaleName : ScaleName) : Prop :=
  o.truncateLabels = true ∧ scaleName.mentions "Band" = true ∧
    Label.isParallel o.position o.labelOrientation = true

theorem fallback_cases (o : ResolvedAxis) (scaleName : ScaleName) :
    CutsByName o scaleName ∧ Label.Cuts (Label.fallback o scaleName) ∨
      ¬CutsByName o scaleName ∧ Label.fallback o scaleName = rawValue := by
  rw [Label.fallback, CutsByName, ← and_assoc, ← Bool.and_eq_true, ← Bool.and_eq_true]
  split
  · next hcut =>
    refine .inl ⟨hcut, "datum.value, bandwidth('" ++ scaleName.spliced ++
      "')/(1- paddingInner), 'normal', 14)", ?_⟩
    rw [← String.append_assoc, ← String.append_assoc]
    rfl
  · next hcut => exact .inr ⟨hcut, rfl⟩

theorem cuts_fallback_iff : Label.Cuts (Label.fallback o scaleName) ↔ CutsByName o scaleName := by
  rcases fallback_cases o scaleName with ⟨hcut, hcuts⟩ | ⟨hcut, hraw⟩
  · exact iff_of_true hcuts hcut
  · rw [hraw]
    exact iff_of_false not_cuts_rawValue hcut

/-- The text of the labels is a list of rules that ends in these, and has only blanks
before them. -/
def EndsIn (labels : List Json) (property : String) (rules : Option Json) : Prop :=
  property = "text" → ∃ tests, rules = some (.arr (blanks tests ++ labels))

theorem endsIn_allowsBlanks (labels : List Json) : AllowsBlanks (EndsIn labels) := by
  intro tests rules h _
  obtain ⟨tests', rfl⟩ := h rfl
  refine ⟨tests ++ tests', ?_⟩
  rw [withRules, blanks, blanks, blanks, List.map_append, List.append_assoc]

theorem plain_shows (hformat : o.labelFormat = .linear) (scaleName : ScaleName) :
    Shows none (EndsIn [Label.numberRule o.numberFormat, Label.fallback o scaleName])
      (plain o scaleName) := by
  refine ⟨Fields.get?_present_none rfl, ?_⟩
  have hencode : (plain o scaleName).get? "encode" = some (encodeLabels
      [("interactive", .bool o.hasTooltip),
        ("update", .obj [("text", Label.format o scaleName)])]) :=
    Fields.get?_present rfl (by simp [encodeLabels])
  refine hasRules_of_encode hencode fun property hproperty => ?_
  rcases mem_labelProperties.mp hproperty with rfl | rfl | rfl | rfl
  · refine ⟨_, rfl, fun _ => ⟨[], ?_⟩⟩
    rw [Label.format, hformat]
    rfl
  all_goals exact ⟨_, rfl, fun heq => absurd heq (by decide)⟩

theorem mainAxis_shows {o' : ResolvedAxis} (hlabels : o.labels = [])
    (hformat : o.labelFormat = .linear)
    (ho' : Trellis.withHeader b.scaleName o = .ok o') :
    Shows none (EndsIn [Label.numberRule o.numberFormat,
      Label.fallback { o with position := b.side o } b.scaleName]) (mainAxis o' b) := by
  have hformat' : o'.labelFormat = .linear :=
    (Trellis.withHeader_keeps (F := (·.labelFormat)) (fun _ _ => rfl) ho').trans hformat
  have hlabels' : o'.labels = [] :=
    (Trellis.withHeader_keeps (F := (·.labels)) (fun _ _ => rfl) ho').trans hlabels
  have hnumber : o'.numberFormat = o.numberFormat :=
    Trellis.withHeader_keeps (F := (·.numberFormat)) (fun _ _ => rfl) ho'
  have hcut : (o'.truncateLabels, o'.labelOrientation) = (o.truncateLabels, o.labelOrientation) :=
    Trellis.withHeader_keeps (F := fun o => (o.truncateLabels, o.labelOrientation))
      (fun _ _ => rfl) ho'
  obtain ⟨htruncate, horientation⟩ := Prod.mk.inj hcut
  have hside : o'.position = b.side o := Trellis.position_header ho'
  have hfallback : Label.fallback o' b.scaleName =
      Label.fallback { o with position := b.side o } b.scaleName := by
    rw [Label.fallback, Label.fallback, htruncate, horientation, hside]
  have hplain : mainAxis o' b = plain o' b.scaleName := by
    rw [mainAxis_untimed (by simp [hformat']), base, hlabels']
    rfl
  rw [hplain, ← hfallback, ← hnumber]
  exact plain_shows hformat' b.scaleName

/-- The first axis with numbers for labels has them fall back as for the side that it is
drawn at. -/
theorem bundle_fallsBack (hlabels : o.labels = []) (hformat : o.labelFormat = .linear)
    (h : (bundle o b).run context = .ok axes context') :
    ∃ first rest tests fallback, axes = first :: rest ∧
      (Json.obj first).descend labelTextPath =
        .ok (some (.arr (blanks tests ++ [Label.numberRule o.numberFormat, fallback]))) ∧
      (fallback = rawValue ∨ Label.Cuts fallback) ∧
      (Label.Cuts fallback ↔ CutsByName { o with position := b.side o } b.scaleName) := by
  obtain ⟨first, rest, rfl, hshows⟩ := bundle_firstShows (endsIn_allowsBlanks _)
    (fun o' ho' => mainAxis_shows hlabels hformat ho') h
  obtain ⟨rules, hrules, hends⟩ := hshows.rules "text" (by simp [labelProperties])
  obtain ⟨tests, rfl⟩ := hends rfl
  refine ⟨first, rest, tests, _, rfl, hrules, ?_, cuts_fallback_iff⟩
  exact (fallback_cases { o with position := b.side o } b.scaleName).symm.imp And.right And.right

end Axis

namespace Builder

open Axis

variable {b b' : Builder} {o : AxisOptions} {index : Json}

def wantsCut (o : AxisOptions) (scaleName : ScaleName) : Bool :=
  o.truncateLabels && Label.isParallel (Trellis.drawnSide scaleName o.position) o.labelOrientation

/-- The first axis that a call adds, if its labels are plain numbers, cuts those that run along a
scale with "Band" in its name. So these are the labels along band scales and no others exactly if
the name of the scale, where labels are to be cut, says what its type is. -/
theorem add_truncation (hlabels : o.labels = []) (h : (add o index).run b = .ok () b') :
    ∃ a : Addition b o index, b.axes = .arr a.oldAxes ∧
      b'.axes = .arr (a.oldAxes ++ a.axes.map .obj) ∧
      (a.axis.labelFormat = .linear → ∃ first rest tests fallback, a.axes = first :: rest ∧
        (Json.obj first).descend labelTextPath =
          .ok (some (.arr (blanks tests ++ [Label.numberRule o.numberFormat, fallback]))) ∧
        (fallback = rawValue ∨ Label.Cuts fallback) ∧
        (Label.Cuts fallback ↔
          wantsCut o ⟨a.bound.name⟩ = true ∧ ScaleName.mentions ⟨a.bound.name⟩ "Band" = true) ∧
        ((Label.Cuts fallback ↔ wantsCut o ⟨a.bound.name⟩ = true ∧ a.bound.type = .str "band") ↔
          (wantsCut o ⟨a.bound.name⟩ = true →
            (ScaleName.mentions ⟨a.bound.name⟩ "Band" = true ↔ a.bound.type = .str "band")))) := by
  obtain ⟨a, hmarks⟩ := add_ok.mp h
  have hfeatures := AxisOptions.resolveFor_features a.axis_eq
  have hsame : a.axis.labels = [] := (congrArg AxisFeatures.labels hfeatures).trans hlabels
  have hnumber : a.axis.numberFormat = o.numberFormat :=
    congrArg AxisFeatures.numberFormat hfeatures
  refine ⟨a, a.oldAxes_eq, addMarks_frame hmarks ▸ rfl, fun hformat => ?_⟩
  obtain ⟨first, rest, tests, fallback, hfirst, hrules, hcases, hcuts⟩ :=
    bundle_fallsBack (o := chartLevel _ a.axis) hsame hformat a.axes_eq
  have hwants : Label.Cuts fallback ↔
      wantsCut o ⟨a.bound.name⟩ = true ∧ ScaleName.mentions ⟨a.bound.name⟩ "Band" = true := by
    have htruncate : a.axis.truncateLabels = o.truncateLabels :=
      congrArg AxisFeatures.truncateLabels hfeatures
    have horientation : a.axis.labelOrientation = o.labelOrientation :=
      congrArg AxisFeatures.labelOrientation hfeatures
    rw [hcuts, wantsCut, Bool.and_eq_true, and_right_comm, and_assoc, ← htruncate, ← horientation,
      ← a.position_eq]
    rfl
  refine ⟨first, rest, tests, fallback, hfirst, hnumber ▸ hrules, hcases, hwants, ?_⟩
  rw [hwants]
  exact and_congr_right_iff

def cutLabels : AxisOptions where
  position := .bottom
  truncateLabels := true

def scaled (name type : String) : Builder :=
  { bars with
    scales := .arr [.obj [("name", .str name), ("type", .str type), ("range", .str "width")]]
    marks := .arr [] }

theorem xBand_cut :
    cutLabels.labels = [] ∧ ∃ b', (add cutLabels .null).run (scaled "xBand" "band") = .ok () b' ∧
      ∃ a : Addition (scaled "xBand" "band") cutLabels .null,
        a.axis.labelFormat = .linear ∧ a.bound.type = .str "band" ∧
        ∃ first rest tests fallback, a.axes = first :: rest ∧
          (Json.obj first).descend labelTextPath =
            .ok (some (.arr (blanks tests ++ [Label.numberRule "shortNumber", fallback]))) ∧
          Label.Cuts fallback := by
  have hsome : (after (scaled "xBand" "band") [.read cutLabels .null]).isSome = true := by
    decide +kernel
  obtain ⟨b', hb'⟩ := Option.isSome_iff_exists.mp hsome
  have hadd : (add cutLabels .null).run (scaled "xBand" "band") = .ok () b' :=
    runs_single.mp (after_eq_some.mp hb')
  obtain ⟨a, -, -, hfallsBack⟩ := add_truncation rfl hadd
  have hbound : (boundScale (scaled "xBand" "band").scales cutLabels).toOption.map
      (fun bound => (bound.1.name, bound.1.type)) = some (.str "xBand", .str "band") := by
    decide +kernel
  rw [a.bound_eq] at hbound
  obtain ⟨hname, htype⟩ := Prod.mk.inj (Option.some.inj hbound)
  have hformat : a.axis.labelFormat = .linear := by
    obtain ⟨i, s, -, hs, heq⟩ := AxisOptions.resolveFor_ok.mp a.axis_eq
    rw [htype] at hs
    cases hs
    rw [← heq]
    rfl
  obtain ⟨first, rest, tests, fallback, hfirst, hrules, -, hcuts, -⟩ := hfallsBack hformat
  refine ⟨rfl, b', hadd, a, hformat, htype, first, rest, tests, fallback, hfirst, hrules,
    hcuts.mpr ?_⟩
  rw [hname]
  decide

def firstText (b : Builder) : Option Json :=
  (itemsOf b.axes).head?.bind fun axis => (axis.descend labelTextPath).toOption.bind id

/-- Labels along a band scale of another name are not cut, and those along a linear scale that is
named for bands are. -/
theorem categories_uncut :
    (after (scaled "categories" "band") [.read cutLabels .null]).bind firstText =
      some (.arr [Label.numberRule "shortNumber", rawValue]) ∧
    (after (scaled "xBandwidth" "linear") [.read cutLabels .null]).bind firstText =
      some (.arr [Label.numberRule "shortNumber", signal
        "truncateText(datum.value, bandwidth('xBandwidth')/(1- paddingInner), 'normal', 14)"]) := by
  decide +kernel

end Builder

end VegaAxes
