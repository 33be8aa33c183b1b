import VegaAxes.Proofs.Builder.FacetAxes
import VegaAxes.Proofs.Builder.OpposingTypes
import VegaAxes.Proofs.Builder.WellFormed

/-!
# Scales of baselines

A baseline is drawn where the first scale across is linear, and stands on the scale of the default
name. `baseline_refers_iff`: that is the scale whose type was told, exactly if it goes by this
name or had to be added.
-/

namespace VegaAxes

namespace Baseline

def ruleOffsetPath (p : Position) : List String :=
  ["encode", "update", if p.isVertical then "x" else "y", "scale"]

def offsetScale? (p : Position) (rule : Json) : Option Json :=
  (rule.descend (ruleOffsetPath p)).toOption.join

theorem offsetScale?_rule (offset : Json) (p : Position) :
    offsetScale? p (rule offset p) = some (.str p.opposingExtent.defaultScaleName) := by
  cases p <;> rfl

end Baseline

namespace Scale

variable {e : Extent} {p : Position} {items new : List Json} {name : Json}

def goesBy (name scale : Json) : Bool :=
  decide (Fields.get? scale.ownFields "name" = some name)

def hasLinear (e : Extent) (name : Json) (items : List Json) : Bool :=
  items.any fun scale => hasRange e scale && decide (givenType scale = .str "linear") &&
    goesBy name scale

theorem hasLinear_append (xs ys : List Json) :
    hasLinear e name (xs ++ ys) = (hasLinear e name xs || hasLinear e name ys) :=
  List.any_append

theorem reads_narrowed {narrowed : Nat → Prop}
    (h : ChangedAt narrowed (Fields.SameExcept ["domain", "zero"]) items new) :
    new.map (fun scale => (hasRange e scale, givenType scale, goesBy name scale)) =
      items.map fun scale => (hasRange e scale, givenType scale, goesBy name scale) :=
  h.map_eq fun h => by
    rw [hasRange, hasRange, givenType, givenType, goesBy, goesBy, Json.ownFields, Json.ownFields,
      h.getD (by simp), h "type" (by simp), h "name" (by simp)]

theorem hasLinear_narrowed {narrowed : Nat → Prop}
    (h : ChangedAt narrowed (Fields.SameExcept ["domain", "zero"]) items new) :
    hasLinear e name new = hasLinear e name items := by
  have hany (xs : List Json) : hasLinear e name xs =
      (xs.map fun scale => (hasRange e scale, givenType scale, goesBy name scale)).any
        fun read => read.1 && decide (read.2.1 = .str "linear") && read.2.2 := by
    rw [List.any_map]
    rfl
  rw [hany, hany, reads_narrowed h]

theorem goesBy_narrowed {narrowed : Nat → Prop}
    (h : ChangedAt narrowed (Fields.SameExcept ["domain", "zero"]) items new) :
    (new.find? (hasRange e)).map (goesBy name) = (items.find? (hasRange e)).map (goesBy name) := by
  have hfind (xs : List Json) : (xs.find? (hasRange e)).map (goesBy name) =
      ((xs.map fun scale => (hasRange e scale, givenType scale, goesBy name scale)).find? (·.1)).map
        (·.2.2) := by
    rw [List.find?_map, Option.map_map]
    rfl
  rw [hfind, hfind, reads_narrowed h]

theorem hasLinear_completed (e : Extent) (p : Position) (items : List Json) :
    hasLinear e (.str e.defaultScaleName) (completed p items) =
      (hasLinear e (.str e.defaultScaleName) items || !isOccupied e items) := by
  refine any_completed ?_ ?_ p items
  · cases e <;> decide
  · cases e <;> decide

theorem find?_completed (e : Extent) (p : Position) (items : List Json) :
    (completed p items).find? (hasRange e) =
      some ((items.find? (hasRange e)).getD e.defaultScale) := by
  have hother (xs : List Json) : (missing e.other xs).find? (hasRange e) = none := by
    unfold missing
    cases isOccupied e.other xs <;> cases e <;> rfl
  have hown {xs : List Json} (hvacant : isOccupied e xs = false) :
      (missing e xs).find? (hasRange e) = some e.defaultScale := by
    rw [missing, hvacant]
    cases e <;> rfl
  rw [completed, List.find?_append, List.find?_append]
  cases hfirst : items.find? (hasRange e) with
  | some scale => rfl
  | none =>
    have hvacant : isOccupied e items = false := by
      simpa [isOccupied_eq, List.find?_eq_none] using hfirst
    rcases extent_cases e p with ⟨hextent, -⟩ | ⟨hextent, hopposing⟩
    · rw [hextent, hown hvacant]
      rfl
    · rw [hextent, hopposing, hother, hown ((isOccupied_missing_other e items).trans hvacant)]
      rfl

end Scale

namespace Builder

open Scale Trellis

variable {b b' : Builder} {o : AxisOptions} {index : Json} {items : List Json} {name : Json}

theorem withBaseline_mem {r : ResolvedAxis} {marks marks' : Json}
    (h : withBaseline r marks = .ok marks') :
    ∃ inner, marks' = .arr inner ∧ Baseline.rule (.float r.baselineOffset) r.position ∈ inner := by
  unfold withBaseline at h
  split at h
  · obtain ⟨old, -, rfl⟩ := append_ok.mp h
    exact ⟨_, rfl, by simp⟩
  · cases marks with
    | arr old =>
      cases h
      exact ⟨_, rfl, List.mem_cons_self⟩
    | _ => cases h

namespace FacetAddition

variable {r : ResolvedAxis} {binding : Axis.Binding} {context : Context} {g : Fields}

theorem baseline_mem (f : FacetAddition r binding context g)
    (hdrawn : (r.baseline && binding.opposesLinear) = true) :
    ∃ inner, f.result.get? "marks" = some (.arr inner) ∧
      Baseline.rule (.float r.baselineOffset) r.position ∈ inner := by
  have hbased := f.based_eq
  rw [withGroupBaseline, if_pos hdrawn] at hbased
  obtain ⟨marks, hmarks, hbased⟩ := map_ok.mp hbased
  obtain ⟨inner, rfl, hmem⟩ := withBaseline_mem hmarks
  refine ⟨inner, ?_, hmem⟩
  rw [withFacetAxes_get? f.result_eq (by simp), f.form_ok.1 "marks" (by simp), ← hbased,
    Fields.get?_set_self]

theorem hasLinear_result (f : FacetAddition r binding context g) (name : Json) :
    hasLinear r.position.opposingExtent name (itemsOf (f.result.getD "scales")) =
      hasLinear r.position.opposingExtent name (itemsOf (g.getD "scales")) := by
  rcases f.result_scales with heq | ⟨items, hold, hnew⟩
  · rw [Fields.getD_eq_of_get? heq]
  · have hmissing : hasLinear r.position.opposingExtent name (missing r.position.extent items) =
        false := by
      have hne : hasRange r.position.opposingExtent r.position.extent.defaultScale = false := by
        rw [hasRange_default, Position.opposingExtent]
        cases r.position.extent <;> rfl
      unfold missing
      split
      · rfl
      · simp [hasLinear, hne]
    rw [Fields.getD, hnew, Fields.getD, hold, Option.getD_some, Option.getD_some, itemsOf, itemsOf,
      hasLinear_append, hmissing, Bool.or_false]

end FacetAddition

namespace Addition

/-- The scales that a call leaves, as a rule across from the range finds them. -/
theorem scales_across (a : Addition b o index) (hitems : b.scales = .arr items) (e : Extent) :
    ∃ new found, a.unmarked.scales = .arr new ∧
      hasLinear e (.str e.defaultScaleName) new =
        (hasLinear e (.str e.defaultScaleName) items || !isOccupied e items) ∧
      new.find? (hasRange e) = some found ∧ givenType found = toldType e items ∧
      goesBy (.str e.defaultScaleName) found =
        ((items.find? (hasRange e)).map (goesBy (.str e.defaultScaleName))).getD true := by
  have hbound := a.bound_eq
  rw [hitems] at hbound
  obtain ⟨new, hnew, hchanged⟩ := narrowedScales_ok hbound
  have hnames : (new.find? (hasRange e)).map (goesBy (.str e.defaultScaleName)) =
      ((completed o.position items).find? (hasRange e)).map (goesBy (.str e.defaultScaleName)) :=
    goesBy_narrowed hchanged
  have htold : toldType e new = toldType e items := by
    rw [toldType_narrowed hchanged, completed, toldType_missing, toldType_missing]
  rw [find?_completed, Option.map_some] at hnames
  obtain ⟨found, hfound, hname⟩ := Option.map_eq_some_iff.mp hnames
  refine ⟨new, found, hnew, ?_, hfound, ?_, ?_⟩
  · rw [hasLinear_narrowed hchanged, hasLinear_completed]
  · rw [← htold, toldType, hfound]
    rfl
  · rw [hname]
    cases items.find? (hasRange e) with
    | some scale => rfl
    | none => cases e <;> decide

theorem draws_baseline (a : Addition b o index) (hitems : b.scales = .arr items)
    (hbaseline : o.baseline = true)
    (hlinear : toldType o.position.opposingExtent items = .str "linear") :
    (a.axis.baseline && a.binding.opposesLinear) = true ∧
      Baseline.rule (.float a.axis.baselineOffset) a.axis.position =
        Baseline.rule (.float o.baselineOffset) o.position := by
  have hfeatures := AxisOptions.resolveFor_features a.axis_eq
  rw [show a.axis.baseline = o.baseline from congrArg AxisFeatures.baseline hfeatures,
    show a.axis.baselineOffset = o.baselineOffset
        from congrArg AxisFeatures.baselineOffset hfeatures,
    show a.axis.position = o.position from congrArg AxisFeatures.position hfeatures,
    Axis.Binding.opposesLinear, a.opposingType_eq hitems, hbaseline, hlinear]
  exact ⟨by decide, rfl⟩

end Addition

theorem drawn_marks (hitems : b.scales = .arr items) (hbaseline : o.baseline = true)
    (hlinear : toldType o.position.opposingExtent items = .str "linear")
    (h : (add o index).run b = .ok () b') : ∃ ms, b.marks = .arr ms := by
  obtain ⟨a, hmarks⟩ := add_ok.mp h
  have hdrawn := (a.draws_baseline hitems hbaseline hlinear).1
  cases hm : b.marks with
  | arr ms => exact ⟨ms, rfl⟩
  | _ =>
    have hundrawn :=
      (addMarks_markless (b := a.unmarked) (by simp [Addition.unmarked, hm]) hmarks).2.2
    cases hdrawn.symm.trans hundrawn

theorem getD_goesBy {first : Option Json} :
    (first.map (goesBy name)).getD true = true ↔
      ∀ scale, first = some scale → goesBy name scale = true := by
  cases first <;> simp

/-- A baseline is drawn where the first scale across is linear, among the marks of the document or
of its trellis group. It is on that scale exactly if the scale goes by the default name or is
added by the call, and on some linear scale there exactly if one goes by that name or is added. -/
theorem baseline_refers_iff {e : Extent} (he : o.position.opposingExtent = e)
    (hitems : b.scales = .arr items) (hbaseline : o.baseline = true)
    (hlinear : toldType e items = .str "linear") (h : (add o index).run b = .ok () b') :
    ∃ (rule name found : Json) (ms marks new : List Json),
      b.marks = .arr ms ∧ b'.marks = .arr marks ∧ b'.scales = .arr new ∧
      rule = Baseline.rule (.float o.baselineOffset) o.position ∧
      Baseline.offsetScale? o.position rule = some name ∧
      new.find? (hasRange e) = some found ∧ givenType found = .str "linear" ∧
      (goesBy name found = true ↔ ∀ first, items.find? (hasRange e) = some first →
        goesBy (.str e.defaultScaleName) first = true) ∧
      ((findGroup? 0 ms = .ok none ∧ rule ∈ marks ∧
          (hasLinear e name new = true ↔
            isOccupied e items = false ∨ hasLinear e (.str e.defaultScaleName) items = true)) ∨
        ∃ (place place' : Nat) (g g' : Fields) (inner : List Json), IsGroupAt ms place ∧
          ms[place]? = some (.obj g) ∧ IsGroupAt marks place' ∧ marks[place']? = some (.obj g') ∧
          g'.get? "marks" = some (.arr inner) ∧ rule ∈ inner ∧
          (hasLinear e name (itemsOf (g'.getD "scales") ++ new) = true ↔
            isOccupied e items = false ∨
              hasLinear e (.str e.defaultScaleName) (itemsOf (g.getD "scales") ++ items) =
                true)) := by
  subst he
  obtain ⟨ms, hm⟩ := drawn_marks hitems hbaseline hlinear h
  obtain ⟨found, hfound⟩ := add_searches hm h
  cases found with
  | none =>
    obtain ⟨a, rfl⟩ := add_groupless hm hfound h
    obtain ⟨new, first, hnew, hlinears, hfind, htype, hname⟩ :=
      a.scales_across hitems o.position.opposingExtent
    obtain ⟨hdrawn, hrule⟩ := a.draws_baseline hitems hbaseline hlinear
    refine ⟨_, _, first, ms, _, new, hm, rfl, hnew, rfl, Baseline.offsetScale?_rule _ _, hfind,
      htype.trans hlinear, ?_, .inl ⟨hfound, ?_, ?_⟩⟩
    · rw [hname, getD_goesBy]
    · refine List.mem_append_left _ ?_
      rw [based, if_pos hdrawn, hrule]
      split <;> simp
    · rw [hlinears, Bool.or_eq_true, Bool.not_eq_true', or_comm]
  | some place =>
    obtain ⟨-, g, hg⟩ := findGroup?_obj hfound
    rw [Nat.sub_zero] at hg
    obtain ⟨a, f, marks, place', rfl, hgroup', hg'⟩ := add_group hm hfound hg h
    obtain ⟨new, first, hnew, hlinears, hfind, htype, hname⟩ :=
      a.scales_across hitems o.position.opposingExtent
    obtain ⟨hdrawn, hrule⟩ := a.draws_baseline hitems hbaseline hlinear
    obtain ⟨inner, hinner, hmem⟩ := f.baseline_mem hdrawn
    refine ⟨_, _, first, ms, marks, new, hm, rfl, hnew, rfl, Baseline.offsetScale?_rule _ _, hfind,
      htype.trans hlinear, ?_, .inr ⟨place, place', g, f.result, inner, hfound, hg,
        hgroup', hg', hinner, hrule ▸ hmem, ?_⟩⟩
    · rw [hname, getD_goesBy]
    · have hposition : a.axis.position = o.position := position_resolved a.axis_eq
      have hgroup := f.hasLinear_result (.str o.position.opposingExtent.defaultScaleName)
      rw [hposition] at hgroup
      rw [hasLinear_append, hgroup, hlinears, hasLinear_append, ← Bool.or_assoc,
        Bool.or_eq_true _ (!_), Bool.not_eq_true', or_comm]

theorem bars_baseline :
    Position.bottom.opposingExtent = .height ∧
      toldType .height (itemsOf bars.scales) = .str "linear" ∧
      ∃ (b' : Builder) (rule name : Json) (marks new : List Json),
        (add { position := .bottom, baseline := true } .null).run bars = .ok () b' ∧
        b'.marks = .arr marks ∧ b'.scales = .arr new ∧ rule ∈ marks ∧
        Baseline.offsetScale? .bottom rule = some name ∧ hasLinear .height name new = true := by
  have hextent : Position.bottom.opposingExtent = .height := rfl
  have hlinear : toldType .height (itemsOf bars.scales) = .str "linear" := rfl
  have hsome : (after bars [.read { position := .bottom, baseline := true } .null]).isSome =
      true := by
    decide +kernel
  obtain ⟨b', hb'⟩ := Option.isSome_iff_exists.mp hsome
  have hadd : (add { position := .bottom, baseline := true } .null).run bars = .ok () b' :=
    runs_single.mp (after_eq_some.mp hb')
  obtain ⟨rule, name, -, ms, marks, new, hm, hmarks, hnew, -, hname, -, -, -, hplace⟩ :=
    baseline_refers_iff hextent rfl rfl hlinear hadd
  cases hm
  rcases hplace with ⟨-, hmem, hiff⟩ | ⟨place, _, _, _, _, hgroup, -⟩
  · exact ⟨hextent, hlinear, b', rule, name, marks, new, hadd, hmarks, hnew, hmem, hname,
      hiff.mpr (.inl (by decide))⟩
  · cases hgroup

def namedHeight : Builder :=
  { bars with
    scales := .arr
      [.obj [("name", .str "yScale"), ("type", .str "linear"), ("range", .str "height")]] }

/-- The baseline is drawn for a scale that it does not name, and on one that is nowhere. -/
theorem namedHeight_misses :
    (after namedHeight [.read { position := .bottom, baseline := true } .null]).map (fun b =>
      ((itemsOf b.marks).filterMap (Baseline.offsetScale? .bottom),
        (itemsOf b.scales).any (goesBy (.str "yLinear")))) = some ([.str "yLinear"], false) := by
  decide +kernel

end Builder

end VegaAxes
