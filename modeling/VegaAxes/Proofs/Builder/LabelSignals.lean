import VegaAxes.Proofs.Axis.ControlledLabels
import VegaAxes.Proofs.Axis.Nulls
import VegaAxes.Proofs.Builder.GeneratedNames

/-!
# Signals of controlled labels

`add_labels`: an axis with labels adds one signal of that name, with an entry for each label that
has a style of its own, in their order. It is read by the axes at chart level and in facets
(`Axis.Honours`), but for times: the signal is added all the same, and no axis reads it.
-/

namespace VegaAxes

open Document Text

namespace Label

variable {p : Position} {orientation : Orientation} {l : Label}

/-- The entry has the value, the text and the weight of the label, and its anchor if it is
aligned. -/
structure IsEntry (p : Position) (orientation : Orientation) (l : Label) (entry : Fields) :
    Prop where
  value : entry.get? "value" = some l.value.toJson
  label : entry.get? "label" = l.label.map .str
  fontWeight : entry.get? "fontWeight" = l.fontWeight.map .str
  align : entry.get? "align" = (controlledAnchor p orientation l.align).align.map .str
  baseline : entry.get? "baseline" = (controlledAnchor p orientation l.align).baseline.map .str

theorem get?_present_text {fs : Fields} {key : String} {s : Option String}
    (h : fs.get? key = some (textJson s)) (hall : ∀ v, (key, v) ∈ fs → v = textJson s) :
    fs.present.get? key = s.map .str := by
  cases s with
  | none => exact Fields.get?_present_null hall
  | some s => exact Fields.get?_present h (by simp)

theorem isEntry_overlay (p : Position) (orientation : Orientation) (l : Label) :
    IsEntry p orientation l
      (l.entry.overlay (controlledAnchor p orientation l.align).toFields.present) := by
  have hunique : (controlledAnchor p orientation l.align).toFields.present.Unique :=
    (List.filter_sublist.map _).nodup (by simp [Anchor.toFields])
  have hoverlay (key : String) :
      (l.entry.overlay (controlledAnchor p orientation l.align).toFields.present).get? key =
        ((controlledAnchor p orientation l.align).toFields.present.get? key).or
          (l.entry.get? key) :=
    Fields.get?_overlay hunique
  have hunplaced (key : String) (hkey : key ≠ "align" ∧ key ≠ "baseline") :
      (l.entry.overlay (controlledAnchor p orientation l.align).toFields.present).get? key =
        l.entry.get? key := by
    rw [hoverlay, Fields.get?_present_none, Option.none_or]
    simp [Anchor.toFields, Fields.get?_cons, hkey.1, hkey.2]
  refine ⟨?_, ?_, ?_, ?_, ?_⟩
  · rw [hunplaced _ (by simp)]
    refine Fields.get?_present rfl ?_
    cases l.value <;> simp [AxisValue.toJson]
  · rw [hunplaced _ (by simp)]
    exact get?_present_text rfl (by simp)
  · rw [hunplaced _ (by simp)]
    exact get?_present_text rfl (by simp)
  · rw [hoverlay, get?_present_text rfl (by simp [Anchor.toFields])]
    cases halign : l.align with
    | none =>
      refine Fields.get?_present_null ?_
      simp [halign, Json.ofOption]
    | some align =>
      obtain ⟨s, _, hanchor⟩ := anchor_some p orientation align
      rw [controlledAnchor, hanchor]
      rfl
  · have hnone : l.entry.get? "baseline" = none := Fields.get?_present_none rfl
    rw [hoverlay, get?_present_text rfl (by simp [Anchor.toFields]), hnone, Option.or_none]

theorem signalEntries_forall₂ (labels : List AxisLabel) (p : Position) (orientation : Orientation) :
    ∃ entries : List Fields, signalEntries labels p orientation = entries.map .obj ∧
      List.Forall₂ (IsEntry p orientation) (labels.filterMap AxisLabel.style?) entries := by
  refine ⟨(labels.filterMap AxisLabel.style?).map fun l =>
    l.entry.overlay (controlledAnchor p orientation l.align).toFields.present, ?_, ?_⟩
  · rw [List.map_map]
    rfl
  · rw [List.forall₂_map_right_iff, List.forall₂_same]
    exact fun l _ => isEntry_overlay p orientation l

end Label

-- ---------------------------------------------------------------------------
-- The signal of the labels
-- ---------------------------------------------------------------------------

def ResolvedAxis.unlabelled (r : ResolvedAxis) : ResolvedAxis :=
  { r with labels := [] }

theorem signalParts_unlabelled {r : ResolvedAxis} {part : String × String}
    (h : part ∈ r.unlabelled.signalParts) : part.2 ≠ "_labels" := by
  have hwords : "_labels" ∉ "_subLabels" :: Builder.noteWords ++ [Builder.sizeWord] := by decide
  refine fun heq => hwords (heq ▸ ?_)
  rcases List.mem_append.mp h with h | h
  · rcases List.mem_append.mp h with h | h
    · rcases List.mem_append.mp h with h | h
      · cases h
      · split at h
        · obtain rfl := List.mem_singleton.mp h
          simp
        · cases h
    · simp [(Builder.mem_noteParts h).2]
  · simp [(Builder.mem_sizeParts h).2]

namespace Builder

variable {b b' : Builder} {o : AxisOptions} {index : Json} {r : ResolvedAxis} {scaleName : String}

/-- Of the signals of an axis one has the name of that of its labels. -/
theorem axisSignals_labels (h : r.labels ≠ []) (scaleName : String) :
    (axisSignals r scaleName).filter (fun s => entryName? s = some (Axis.labelSignal r)) =
      [Encoding.namedValue (Axis.labelSignal r)
        (.arr (Label.signalEntries r.labels r.position r.labelOrientation))] := by
  have hsplit : axisSignals r scaleName = Encoding.namedValue (Axis.labelSignal r)
      (.arr (Label.signalEntries r.labels r.position r.labelOrientation)) ::
        axisSignals r.unlabelled scaleName := by
    rw [axisSignals, if_neg (by simpa using h)]
    rfl
  have hothers : ∀ s ∈ axisSignals r.unlabelled scaleName,
      entryName? s ≠ some (Axis.labelSignal r) := by
    intro s hs hname
    have hmem : entryName? s ∈ r.unlabelled.generatedSignals.map some :=
      axisSignals_names r.unlabelled scaleName ▸ List.mem_map_of_mem hs
    obtain ⟨name, hgenerated, heq⟩ := List.mem_map.mp hmem
    obtain ⟨part, hpart, rfl⟩ := List.mem_map.mp hgenerated
    obtain ⟨-, hword⟩ := signalWords_noneEnds.append_inj (signalParts_words hpart) (by decide)
      (Option.some.inj (heq.trans hname))
    exact signalParts_unlabelled hpart hword
  have hnone : (axisSignals r.unlabelled scaleName).filter
      (fun s => entryName? s = some (Axis.labelSignal r)) = [] :=
    List.filter_eq_nil_iff.mpr fun s hs => by simpa using hothers s hs
  rw [hsplit, List.filter_cons_of_pos, hnone]
  exact decide_eq_true rfl

end Builder

-- ---------------------------------------------------------------------------
-- The axes of a call
-- ---------------------------------------------------------------------------

namespace Axis

variable {F : String → Option Json → Prop} {axis axis' : Fields} {axes facets : List Fields}
  {r r' : ResolvedAxis} {facet : Trellis.Facet}

theorem HasRules.encodeTitle (h : HasRules F axis)
    (htitle : facet.encodeTitle (.obj axis) = .ok (.obj axis')) : HasRules F axis' := by
  obtain ⟨_, ⟨⟩, htitle⟩ := bind_ok.mp htitle
  split at htitle
  · obtain ⟨encode, hencode, htitle⟩ := bind_ok.mp htitle
    cases htitle
    intro property hproperty
    obtain ⟨rules, hrules, hF⟩ := h property hproperty
    refine ⟨rules, ?_, hF⟩
    rw [labelPath, Json.descend_set_self, Json.descend_set_of_ne (by simp)]
    rcases Json.descend_cons_ok.mp hrules with ⟨v, hv, hrules⟩ | ⟨hnone, rfl⟩
    · obtain ⟨old, rfl⟩ := Json.descend_cons_object hrules
      rw [hv] at hencode
      cases hencode
      exact hrules
    · rw [hnone] at hencode
      cases hencode
      rfl
  · cases htitle
    exact h

theorem hasRules_encodeTitles (h : ∀ axis ∈ axes, HasRules F axis)
    (htitled : List.Forall₂ (fun axis axis' => facet.encodeTitle (.obj axis) = .ok (.obj axis'))
      axes facets) : ∀ axis ∈ facets, HasRules F axis := by
  induction htitled with
  | nil => simp
  | cons htitle _ ih =>
    rw [List.forall_mem_cons] at h ⊢
    exact ⟨h.1.encodeTitle htitle, ih h.2⟩

theorem Honours.encodeTitles (h : Honours r axes)
    (htitled : List.Forall₂ (fun axis axis' => facet.encodeTitle (.obj axis) = .ok (.obj axis'))
      axes facets) : Honours r facets := by
  have hvalues {axis axis' : Fields} (htitle : facet.encodeTitle (.obj axis) = .ok (.obj axis')) :
      axis'.get? "values" = axis.get? "values" := Trellis.encodeTitle_get? htitle (by simp)
  refine ⟨fun hne => ?_, fun htime => ⟨?_, ?_⟩⟩
  · obtain ⟨first, rest, rfl, hfirst, hreads⟩ := h.untimed hne
    obtain ⟨first', rest', htitle, -, rfl⟩ := List.forall₂_cons_left_iff.mp htitled
    exact ⟨first', rest', rfl, (hvalues htitle).trans hfirst, hreads.encodeTitle htitle⟩
  · obtain ⟨⟨first, rest, rfl, hfirst⟩, -⟩ := h.timed htime
    obtain ⟨first', rest', htitle, -, rfl⟩ := List.forall₂_cons_left_iff.mp htitled
    exact ⟨first', rest', rfl, (hvalues htitle).trans hfirst⟩
  · obtain ⟨-, hignores⟩ := h.timed htime
    exact hasRules_encodeTitles hignores htitled

theorem Honours.congr (h : Honours r' axes) (hlabels : r'.labels = r.labels)
    (hformat : r'.labelFormat = r.labelFormat) (hname : r'.name = r.name) : Honours r axes := by
  have hsignal : labelSignal r' = labelSignal r := by rw [labelSignal, labelSignal, hname]
  obtain ⟨huntimed, htimed⟩ := h
  rw [hformat, hsignal] at huntimed htimed
  rw [hlabels] at huntimed
  exact ⟨huntimed, htimed⟩

end Axis

namespace Builder

open Axis Trellis

variable {b b' : Builder} {o : AxisOptions} {index : Json} {r r' : ResolvedAxis}
  {binding binding' : Axis.Binding} {context : Context} {g g' : Fields}

theorem facetForm_labels (h : facetForm r binding g = .ok (g', r', binding')) :
    r'.labels = r.labels ∧ r'.labelFormat = r.labelFormat ∧ r'.name = r.name := by
  rcases facetForm_cases h with ⟨scale, name, type, -, -, -, rfl, -⟩ | ⟨-, -, rfl, -⟩
  · exact ⟨rfl, rfl, rfl⟩
  · exact ⟨rfl, rfl, rfl⟩

/-- The axes in facets do with labels what those at chart level do. -/
theorem FacetAddition.result_honours (hlabels : r.labels ≠ [])
    (f : FacetAddition r binding context g) :
    ∃ (old : List Json) (facets : List Fields),
      ((g.get? "axes").getD (.arr [])).elements = .ok old ∧
      f.result.get? "axes" = some (.arr (old ++ facets.map .obj)) ∧ Honours r facets := by
  obtain ⟨facet, old, facets, hold, hnew, htitled⟩ := f.result_titled
  obtain ⟨hsame, hformat, hname⟩ := facetForm_labels f.form_eq
  have hhonours := bundle_honours (hsame ▸ hlabels) f.axes_eq
  exact ⟨old, facets, hold, hnew, (hhonours.congr hsame hformat hname).encodeTitles htitled⟩

theorem Addition.axes_honour (a : Addition b o index) (hlabels : a.axis.labels ≠ []) :
    Honours a.axis a.axes :=
  (bundle_honours (o := chartLevel _ a.axis) hlabels a.axes_eq).congr rfl rfl rfl

/-- Both the axes that a call adds at chart level and those that the trellis group takes, if there
is one, do with the labels what they should as far as these are no times. -/
theorem add_honours (hlabels : o.labels ≠ []) (h : (add o index).run b = .ok () b') :
    ∃ a : Addition b o index, { a.unmarked with marks := b'.marks } = b' ∧ Honours a.axis a.axes ∧
      ∀ ms, b.marks = .arr ms → ∃ facets : List Fields,
        FacetsAdded b b' (facets.map .obj) ∧ (facets ≠ [] → Honours a.axis facets) := by
  have hlisted (a : Addition b o index) : a.axis.labels ≠ [] := by
    rwa [congrArg AxisFeatures.labels (AxisOptions.resolveFor_features a.axis_eq)]
  by_cases hm : ∃ ms, b.marks = .arr ms
  · obtain ⟨ms, hm⟩ := hm
    obtain ⟨found, hfound⟩ := add_searches hm h
    cases found with
    | none =>
      obtain ⟨a, rfl⟩ := add_groupless hm hfound h
      refine ⟨a, rfl, a.axes_honour (hlisted a), fun ms' hm' => ?_⟩
      exact ⟨[], .groupless hm hfound, fun hne => absurd rfl hne⟩
    | some place =>
      obtain ⟨-, g, hg⟩ := findGroup?_obj hfound
      rw [Nat.sub_zero] at hg
      obtain ⟨a, f, ms', place', rfl, hgroup', hg'⟩ := add_group hm hfound hg h
      obtain ⟨old, facets, hold, hnew, hhonours⟩ := f.result_honours (hlisted a)
      refine ⟨a, rfl, a.axes_honour (hlisted a), fun _ _ => ?_⟩
      exact ⟨facets, .group hm hfound hg rfl hgroup' hg' hold hnew, fun _ => hhonours⟩
  · obtain ⟨a, hmarks⟩ := add_ok.mp h
    refine ⟨a, addMarks_frame hmarks, a.axes_honour (hlisted a), fun ms hms => ?_⟩
    exact absurd ⟨ms, hms⟩ hm

/-- An axis with labels adds one signal for them, with the entries of those that have a style,
and is given all their values. But labels that are times have their signal for nothing: no axis
reads it. -/
theorem add_labels (hlabels : o.labels ≠ []) (h : (add o index).run b = .ok () b') :
    ∃ (a : Addition b o index) (old new : List Json) (entries : List Fields),
      b.signals = .arr old ∧ b'.signals = .arr (old ++ new) ∧
      new.filter (fun s => entryName? s = some (a.axis.name ++ "_labels")) =
        [Encoding.namedValue (a.axis.name ++ "_labels") (.arr (entries.map .obj))] ∧
      List.Forall₂ (Label.IsEntry o.position o.labelOrientation)
        (o.labels.filterMap AxisLabel.style?) entries ∧
      b.axes = .arr a.oldAxes ∧ b'.axes = .arr (a.oldAxes ++ a.axes.map .obj) ∧
      a.axis.labels = o.labels ∧ Honours a.axis a.axes ∧
      (∀ ms, b.marks = .arr ms → ∃ facets : List Fields,
        FacetsAdded b b' (facets.map .obj) ∧ (facets ≠ [] → Honours a.axis facets)) ∧
      ((∃ axis ∈ a.axes, ReadsEntries (a.axis.name ++ "_labels") "label" axis) ↔
        a.axis.labelFormat ≠ .time) := by
  obtain ⟨a, hleft, hhonours, hfacets⟩ := add_honours hlabels h
  have hfeatures := AxisOptions.resolveFor_features a.axis_eq
  have hsame : a.axis.labels = o.labels := congrArg AxisFeatures.labels hfeatures
  have hone := axisSignals_labels (hsame ▸ hlabels) a.bound.name.spliced
  obtain ⟨old, new, hold, hnew, hsignals⟩ : ∃ old new, b.signals = .arr old ∧
      new = axisSignals a.axis a.bound.name.spliced ∧ a.signals = .arr (old ++ new) := by
    have hgrown := a.signals_eq
    rw [grow, if_neg] at hgrown
    · obtain ⟨old, hold, hsignals⟩ := append_ok.mp hgrown
      exact ⟨old, _, hold, rfl, hsignals⟩
    · rw [List.isEmpty_iff]
      rintro hnil
      rw [hnil] at hone
      cases hone
  obtain ⟨entries, hentries, hstyled⟩ :=
    Label.signalEntries_forall₂ o.labels o.position o.labelOrientation
  refine ⟨a, old, new, entries, hold, hleft ▸ hsignals, ?_, hstyled, a.oldAxes_eq,
    hleft ▸ rfl, hsame, hhonours, hfacets, hhonours.reads_iff⟩
  rw [← hentries, hnew, ← hsame, ← congrArg AxisFeatures.position hfeatures,
    ← congrArg AxisFeatures.labelOrientation hfeatures]
  exact hone

def endsLabelled : AxisOptions where
  position := .bottom
  labels := [.styled { value := .int 1, label := some "first", align := some .start },
    .plain (.int 9)]

theorem bars_endsLabelled :
    endsLabelled.labels ≠ [] ∧ ∃ (b' : Builder) (a : Addition bars endsLabelled .null)
      (new : List Json) (entry : Fields), (add endsLabelled .null).run bars = .ok () b' ∧
      b'.signals = .arr new ∧
      new.filter (fun s => entryName? s = some (a.axis.name ++ "_labels")) =
        [Encoding.namedValue (a.axis.name ++ "_labels") (.arr [.obj entry])] ∧
      entry.get? "label" = some (.str "first") ∧ entry.get? "align" = some (.str "left") ∧
      ∃ axis ∈ a.axes, ReadsEntries (a.axis.name ++ "_labels") "label" axis := by
  have hlabels : endsLabelled.labels ≠ [] := by simp [endsLabelled]
  have hsome : (after bars [.read endsLabelled .null]).isSome = true := by decide +kernel
  obtain ⟨b', hb'⟩ := Option.isSome_iff_exists.mp hsome
  have hadd : (add endsLabelled .null).run bars = .ok () b' := runs_single.mp (after_eq_some.mp hb')
  obtain ⟨a, old, new, entries, hold, hnew, hone, hentries, -, -, -, -, -, hreads⟩ :=
    add_labels hlabels hadd
  cases hold
  obtain ⟨entry, _, hentry, hnil, rfl⟩ := List.forall₂_cons_left_iff.mp hentries
  obtain rfl := List.forall₂_nil_left_iff.mp hnil
  have htype : a.bound.type = .str "linear" := by
    have hbound : (boundScale bars.scales endsLabelled).toOption.map (·.1.type) =
        some (.str "linear") := by decide +kernel
    rw [a.bound_eq] at hbound
    exact Option.some.inj hbound
  have hformat : a.axis.labelFormat = .linear := by
    obtain ⟨i, s, -, hs, heq⟩ := AxisOptions.resolveFor_ok.mp a.axis_eq
    rw [htype] at hs
    cases hs
    rw [← heq]
    rfl
  exact ⟨hlabels, b', a, new, entry, hadd, hnew, hone, hentry.label, hentry.align,
    hreads.mpr (by rw [hformat]; decide)⟩

def timedBars : Builder :=
  { bars with
    scales := .arr [.obj [("name", .str "xTime"), ("type", .str "time"), ("range", .str "width")]] }

theorem timedBars_endsLabelled :
    endsLabelled.labels ≠ [] ∧ ∃ b', (add endsLabelled .null).run timedBars = .ok () b' ∧
      namesOf (itemsOf b'.signals) = ["axis0_labels"] ∧
      (itemsOf b'.axes).length = 2 ∧
      (itemsOf b'.axes).head?.map (fun axis =>
        (Fields.get? axis.ownFields "values", Fields.get? axis.ownFields "encode")) =
        some (none, none) := by
  have hafter : (after timedBars [.read endsLabelled .null]).map (fun b' =>
      (namesOf (itemsOf b'.signals), (itemsOf b'.axes).length,
        (itemsOf b'.axes).head?.map (fun axis =>
        (Fields.get? axis.ownFields "values", Fields.get? axis.ownFields "encode")))) =
      some (["axis0_labels"], 2, some (none, none)) := by decide +kernel
  obtain ⟨b', hb', heq⟩ := Option.map_eq_some_iff.mp hafter
  simp only [Prod.mk.injEq] at heq
  exact ⟨by simp [endsLabelled], b', runs_single.mp (after_eq_some.mp hb'), heq⟩

end Builder

end VegaAxes
