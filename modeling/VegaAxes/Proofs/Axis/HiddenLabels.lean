import VegaAxes.Proofs.Axis.Decoration
import VegaAxes.Proofs.Axis.Every
import VegaAxes.Proofs.Trellis.Header

/-!
# Labels hidden for reference lines

The rules that hide labels go before the text rules of the first axis, and only into a list of
rules. `bundle_text`: the rules for the text of an axis that takes no role. `bundle_unlined`: an
axis that hides no labels is drawn as without its reference lines.
-/

namespace VegaAxes

namespace ResolvedAxis

def unlined (o : ResolvedAxis) : ResolvedAxis :=
  { o with referenceLines := [] }

/-- Whether the text of the labels is a list of rules, to which more can be added. -/
def listsTextRules (o : ResolvedAxis) : Bool :=
  match o.labelFormat with
  | .time => false
  | .duration => !o.labels.isEmpty
  | .linear | .percentage => true

/-- Whether the axis, on a scale that has reference lines, blanks the labels that these cover. -/
def hidesLabels (o : ResolvedAxis) : Bool :=
  Scale.supportsReferenceLines o.scaleType && o.listsTextRules &&
    (ReferenceLine.all o).any ReferenceLine.coversLabels

end ResolvedAxis

theorem any_mapIdx {f : Nat → α → β} {p : β → Bool} {q : α → Bool} (h : ∀ i x, p (f i x) = q x)
    (xs : List α) : (xs.mapIdx f).any p = xs.any q := by
  induction xs generalizing f with
  | nil => rfl
  | cons x xs ih =>
    rw [List.mapIdx_cons, List.any_cons, List.any_cons, h, ih fun i x => h (i + 1) x]

theorem ResolvedAxis.hidesLabels_congr {o o' : ResolvedAxis}
    (hfeatures : o'.toAxisFeatures = o.toAxisFeatures) (htype : o'.scaleType = o.scaleType)
    (hformat : o'.labelFormat = o.labelFormat) : o'.hidesLabels = o.hidesLabels := by
  have hcovers (o : ResolvedAxis) : (ReferenceLine.all o).any ReferenceLine.coversLabels =
      o.referenceLines.any fun line => ((given line.icon).isSome || (given line.label).isSome) &&
        line.position = .center :=
    any_mapIdx (f := ReferenceLine.ofOptions o) (fun _ _ => rfl) _
  rw [hidesLabels, hidesLabels, listsTextRules, listsTextRules, hcovers, hcovers, hfeatures, htype,
    hformat]

namespace Axis

open Encoding ReferenceLine

variable {axis axis' : Fields} {axes : List Fields} {o o' : ResolvedAxis} {b : Binding}
  {context context' : Context} {text : Option Json} {scaleName : ScaleName}

-- ---------------------------------------------------------------------------
-- The text of the first axis
-- ---------------------------------------------------------------------------

/-- The axis that the labels are shown by, as it is first made. -/
def mainAxis (o : ResolvedAxis) (b : Binding) : Fields :=
  match o.labelFormat with
  | .time => secondaryTime b.scaleName o
  | _ => base o b.scaleName

def mainText (o : ResolvedAxis) (b : Binding) : Except Error (Option Json) :=
  (Json.obj (mainAxis o b)).descend labelTextPath

theorem labelAxes_main (o : ResolvedAxis) (b : Binding) :
    ∃ rest, labelAxes o b = titled o (mainAxis o b) :: rest := by
  unfold labelAxes mainAxis
  cases o.labelFormat <;> exact ⟨_, rfl⟩

theorem text_of_encode {labels : Fields} {t : Json}
    (hencode : axis.get? "encode" = some (encodeLabels labels))
    (htext : (Json.obj labels).descend ["update", "text"] = .ok (some t)) :
    (Json.obj axis).descend labelTextPath = .ok (some t) :=
  Json.descend_cons_ok.mpr (.inl ⟨_, hencode, htext⟩)

theorem text_of_bare (h : axis.get? "encode" = none) :
    (Json.obj axis).descend labelTextPath = .ok none :=
  Json.descend_cons_ok.mpr (.inr ⟨h, rfl⟩)

theorem plain_text : (Json.obj (plain o scaleName)).descend labelTextPath =
    .ok (some (Label.format o scaleName)) :=
  text_of_encode (Fields.get?_present rfl (by simp [encodeLabels])) rfl

theorem base_text (o : ResolvedAxis) (scaleName : ScaleName) :
    (Json.obj (base o scaleName)).descend labelTextPath = .ok (some (if o.labels.isEmpty then
      Label.format o scaleName else .arr [Label.entryRule (labelSignal o) "label", rawValue])) := by
  unfold base
  split
  · exact plain_text
  · exact text_of_encode (Fields.get?_set_self _ _ _) rfl

theorem secondaryTime_text (o : ResolvedAxis) (scaleName : ScaleName) :
    ∃ text, (Json.obj (secondaryTime scaleName o)).descend labelTextPath = .ok text ∧
      ∀ rules, text ≠ some (.arr rules) := by
  have hencode := secondaryTime_encode o scaleName
  split at hencode
  · exact ⟨_, text_of_encode hencode rfl, by simp [signal]⟩
  · exact ⟨none, text_of_bare hencode, by simp⟩

theorem mainText_ok (o : ResolvedAxis) (b : Binding) :
    ∃ text, mainText o b = .ok text ∧
      (o.listsTextRules = true ↔ ∃ rules, text = some (.arr rules)) := by
  unfold mainText mainAxis ResolvedAxis.listsTextRules
  cases hf : o.labelFormat with
  | time =>
    obtain ⟨text, htext, hrules⟩ := secondaryTime_text o b.scaleName
    exact ⟨text, htext, by simpa using hrules⟩
  | duration =>
    refine ⟨_, base_text o b.scaleName, ?_⟩
    cases o.labels.isEmpty <;> simp [Label.format, hf, signal]
  | linear =>
    refine ⟨_, base_text o b.scaleName, ?_⟩
    cases o.labels.isEmpty <;> simp [Label.format, hf]
  | percentage =>
    refine ⟨_, base_text o b.scaleName, ?_⟩
    cases o.labels.isEmpty <;> simp [Label.format, hf]

-- ---------------------------------------------------------------------------
-- Hiding rules
-- ---------------------------------------------------------------------------

def withRules (more : List Json) : Option Json → Option Json
  | some (.arr rules) => some (.arr (more ++ rules))
  | text => text

theorem withRules_nil (text : Option Json) : withRules [] text = text := by
  rcases text with _ | _ | _ | _ | _ | _ | _ | _ <;> rfl

theorem hideLabels_ok (htext : (Json.obj axis).descend labelTextPath = .ok text) :
    ∃ axis', hideLabels axis o scaleName = .ok axis' ∧
      (Json.obj axis').descend labelTextPath = .ok (withRules (hidingRules o scaleName) text) := by
  simp only [hideLabels, htext]
  rcases text with _ | _ | _ | _ | _ | _ | rules | _
  case some.arr => exact ⟨_, rfl, Json.descend_modifyPath_self htext⟩
  all_goals exact ⟨_, rfl, htext⟩

/-- The rules that are put before those of an axis on a scale of its type. -/
def addedRules (o : ResolvedAxis) (scaleName : ScaleName) : List Json :=
  if Scale.supportsReferenceLines o.scaleType then hidingRules o scaleName else []

theorem addedRules_ne_nil (h : o.hidesLabels = true) : addedRules o scaleName ≠ [] := by
  simp only [ResolvedAxis.hidesLabels, Bool.and_eq_true, List.any_eq_true] at h
  obtain ⟨⟨hsupports, -⟩, l, hl, hcovers⟩ := h
  rw [addedRules, if_pos hsupports, hidingRules]
  exact List.ne_nil_of_mem (List.mem_map_of_mem (List.mem_filter.mpr ⟨hl, hcovers⟩))

theorem addedRules_unlined : addedRules o.unlined scaleName = [] := by
  unfold addedRules
  split <;> rfl

theorem drawBaseline_text (o : ResolvedAxis) (b : Binding) (axis : Fields) :
    (Json.obj (drawBaseline o b axis)).descend labelTextPath =
      (Json.obj axis).descend labelTextPath := by
  unfold drawBaseline withBaseline labelTextPath
  split
  · rfl
  · rw [Json.descend_set_of_ne (by simp), Json.descend_set_of_ne (by simp)]

theorem titled_text (o : ResolvedAxis) (axis : Fields) :
    (Json.obj (titled o axis)).descend labelTextPath = (Json.obj axis).descend labelTextPath := by
  unfold titled padTitle labelTextPath
  split
  · exact Json.descend_set_of_ne (by simp) _
  · rfl

theorem hideCovered_text (htext : (Json.obj axis).descend labelTextPath = .ok text) :
    ∃ axis', hideCovered o b axis = .ok axis' ∧ (Json.obj axis').descend labelTextPath =
      .ok (withRules (addedRules o b.scaleName) text) := by
  unfold hideCovered addedRules
  split
  · exact hideLabels_ok htext
  · exact ⟨axis, rfl, htext.trans (congrArg Except.ok (withRules_nil text).symm)⟩

theorem clearThumbnails_text {rest : List Fields} (h : clearThumbnails o (axis :: rest) = .ok axes)
    (htext : (Json.obj axis).descend labelTextPath = .ok text) :
    ∃ axis' rest', axes = axis' :: rest' ∧ (Json.obj axis').descend labelTextPath = .ok text :=
  clearThumbnails_first (P := fun axis => (Json.obj axis).descend labelTextPath = .ok text)
    (fun htext hmerge => labelOffset_text hmerge htext) htext h

/-- The text rules of an axis that takes no role. -/
theorem bundle_text (hdual : b.dualMetric = false)
    (h : (bundle o b).run context = .ok axes context') :
    ∃ o' axis rest text, Trellis.withHeader b.scaleName o = .ok o' ∧ axes = axis :: rest ∧
      axes.length = (labelAxes o' b).length + (Note.all o').length ∧ mainText o' b = .ok text ∧
      (Json.obj axis).descend labelTextPath = .ok (withRules (addedRules o' b.scaleName) text) := by
  obtain ⟨o', labels, ho', hlabels, hdecorate⟩ := bundle_run_ok.mp h
  have hoff : takesRole o' b context = false := by simp [takesRole, Binding.coordinates, hdual]
  obtain ⟨rest, hmain⟩ := labelAxes_main o' b
  rw [labelled_off hoff, hmain] at hlabels
  obtain ⟨rfl, -⟩ := EStateM.Result.ok.inj hlabels
  obtain ⟨text, htext, -⟩ := mainText_ok o' b
  obtain ⟨axis, haxis, hrules⟩ := hideCovered_text (o := o') (b := b)
    (((drawBaseline_text o' b _).trans (titled_text o' _)).trans htext)
  obtain ⟨_, cleared, hdrawn, hcleared, rfl⟩ := decorate_ok.mp hdecorate
  rw [onFirst, haxis] at hdrawn
  cases hdrawn
  obtain ⟨axis', rest', rfl, htext'⟩ := clearThumbnails_text hcleared hrules
  obtain ⟨_, _, ho'', heq, hlen, -⟩ := bundle_formed h
  cases ho'.symm.trans ho''
  refine ⟨o', axis', _, text, ho', rfl, ?_, htext, htext'⟩
  rw [heq, List.length_append, List.length_map, hlen]

-- ---------------------------------------------------------------------------
-- Axes without reference lines
-- ---------------------------------------------------------------------------

theorem withHeader_unlined (scaleName : ScaleName) (o : ResolvedAxis) :
    Trellis.withHeader scaleName o.unlined =
      (Trellis.withHeader scaleName o).map ResolvedAxis.unlined := by
  unfold Trellis.withHeader
  rcases Trellis.Header.ofScale? scaleName with _ | _ | _ <;> rfl

theorem hidesLabels_header (h : Trellis.withHeader scaleName o = .ok o') :
    o'.hidesLabels = o.hidesLabels :=
  Trellis.withHeader_keeps (F := (·.hidesLabels)) (fun _ _ => rfl) h

theorem scaleType_header (h : Trellis.withHeader scaleName o = .ok o') :
    o'.scaleType = o.scaleType :=
  Trellis.withHeader_keeps (F := (·.scaleType)) (fun _ _ => rfl) h

theorem hideCovered_unsupported (h : ¬Scale.supportsReferenceLines o.scaleType = true) :
    hideCovered o b axis = .ok axis :=
  if_neg h

theorem hideCovered_unlined (htext : (Json.obj axis).descend labelTextPath = .ok text)
    (hlists : o.listsTextRules = true ↔ ∃ rules, text = some (.arr rules))
    (h : o.hidesLabels = false) : hideCovered o.unlined b axis = hideCovered o b axis := by
  by_cases hsupports : Scale.supportsReferenceLines o.scaleType = true
  · cases hl : o.listsTextRules with
    | true =>
      have hnone : hidingRules o b.scaleName = [] := by
        rw [ResolvedAxis.hidesLabels, hsupports, hl] at h
        rw [hidingRules, List.map_eq_nil_iff, List.filter_eq_nil_iff]
        exact List.any_eq_false.mp h
      have hrules : hidingRules o.unlined b.scaleName = hidingRules o b.scaleName := by
        rw [hnone]
        rfl
      unfold hideCovered hideLabels
      rw [hrules]
      rfl
    | false =>
      have hplain : ∀ rules, text ≠ some (.arr rules) := by
        intro rules heq
        rw [hlists.mpr ⟨rules, heq⟩] at hl
        cases hl
      have hsame (o : ResolvedAxis) : hideLabels axis o b.scaleName = .ok axis := by
        simp only [hideLabels, htext]
        rcases text with _ | _ | _ | _ | _ | _ | rules | _
        case some.arr => exact absurd rfl (hplain rules)
        all_goals rfl
      unfold hideCovered
      rw [hsame, hsame]
      rfl
  · rw [hideCovered_unsupported hsupports, hideCovered_unsupported (o := o.unlined) hsupports]

theorem onFirst_congr {f g : Fields → Except Error Fields}
    (h : ∀ axis ∈ axes.head?, f axis = g axis) : onFirst f axes = onFirst g axes := by
  cases axes with
  | nil => rfl
  | cons axis axes => rw [onFirst, onFirst, h axis rfl]

/-- An axis that hides no labels is decorated as without its reference lines. -/
theorem decorate_unlined
    (hdual : Scale.supportsReferenceLines o.scaleType = true → b.dualMetric = false)
    (h : o.hidesLabels = false) (hlabels : (labelled o b).run context = .ok axes context') :
    decorate o.unlined b axes = decorate o b axes := by
  have hfirst : ∀ axis ∈ axes.head?, hideCovered o.unlined b (drawBaseline o b axis) =
      hideCovered o b (drawBaseline o b axis) := by
    intro axis haxis
    by_cases hsupports : Scale.supportsReferenceLines o.scaleType = true
    · have hoff : takesRole o b context = false := by
        simp [takesRole, Binding.coordinates, hdual hsupports]
      obtain ⟨rest, hmain⟩ := labelAxes_main o b
      rw [labelled_off hoff, hmain] at hlabels
      obtain ⟨rfl, -⟩ := EStateM.Result.ok.inj hlabels
      cases haxis
      obtain ⟨text, htext, hlists⟩ := mainText_ok o b
      refine hideCovered_unlined ?_ hlists h
      exact ((drawBaseline_text o b _).trans (titled_text o _)).trans htext
    · rw [hideCovered_unsupported hsupports, hideCovered_unsupported (o := o.unlined) hsupports]
  unfold decorate
  exact congrArg (· >>= _) (onFirst_congr hfirst)

theorem bundle_unlined
    (hdual : Scale.supportsReferenceLines o.scaleType = true → b.dualMetric = false)
    (h : o.hidesLabels = false) :
    (bundle o.unlined b).run context = .ok axes context' ↔
      (bundle o b).run context = .ok axes context' := by
  have hdecorate {o' : ResolvedAxis} {labels : List Fields}
      (ho' : Trellis.withHeader b.scaleName o = .ok o')
      (hlabels : (labelled o' b).run context = .ok labels context') :
      decorate o'.unlined b labels = decorate o' b labels := by
    refine decorate_unlined ?_ ((hidesLabels_header ho').trans h) hlabels
    rw [scaleType_header ho']
    exact hdual
  rw [bundle_run_ok, bundle_run_ok, withHeader_unlined]
  constructor
  · rintro ⟨_, labels, hheader, hlabels, haxes⟩
    obtain ⟨o', ho', rfl⟩ := map_ok.mp hheader
    exact ⟨o', labels, ho', hlabels, (hdecorate ho' hlabels).symm.trans haxes⟩
  · rintro ⟨o', labels, ho', hlabels, haxes⟩
    exact ⟨_, labels, map_ok.mpr ⟨o', ho', rfl⟩, hlabels, (hdecorate ho' hlabels).trans haxes⟩

end Axis

end VegaAxes
