import VegaAxes.Proofs.Axis.Fallbacks
import VegaAxes.Proofs.Builder.AxisShape

/-!
# Controlled labels

Labels that are listed for an axis are its values, and the rules for their text, weight and place
look their values up in a signal. Rules can be followed through roles and decorations
(`bundle_rules`, `bundle_firstShows`), which only put blanks before those of the text.
`bundle_honours`: the first axis shows the labels and reads their signal, but for times, where no
axis does.
-/

namespace VegaAxes.Axis

open DualMetric Encoding ReferenceLine

variable {F : String → Option Json → Prop} {axis axis' : Fields} {axes : List Fields}
  {o o' : ResolvedAxis} {b : Binding} {scaleName : ScaleName} {context context' : Context}
  {values rules : Option Json} {signalName textKey property : String}

-- ---------------------------------------------------------------------------
-- Rules for labels
-- ---------------------------------------------------------------------------

def labelProperties : List String :=
  ["text", "fontWeight", "align", "baseline"]

theorem mem_labelProperties : property ∈ labelProperties ↔
    property = "text" ∨ property = "fontWeight" ∨ property = "align" ∨ property = "baseline" := by
  simp [labelProperties]

def labelPath (property : String) : List String :=
  ["encode", "labels", "update", property]

/-- What the axis has for each property of its labels can be found, and is as asked for. -/
def HasRules (F : String → Option Json → Prop) (axis : Fields) : Prop :=
  ∀ property ∈ labelProperties, ∃ rules,
    (Json.obj axis).descend (labelPath property) = .ok rules ∧ F property rules

/-- Blanks before the rules for the text are as good. -/
def AllowsBlanks (F : String → Option Json → Prop) : Prop :=
  ∀ tests rules, F "text" rules → F "text" (withRules (blanks tests) rules)

theorem HasRules.congr (h : HasRules F axis) (hencode : axis'.get? "encode" = axis.get? "encode") :
    HasRules F axis' := by
  intro property hproperty
  rw [labelPath, Json.descend_congr hencode]
  exact h property hproperty

theorem hasRules_of_encode {labels : Fields}
    (hencode : axis.get? "encode" = some (encodeLabels labels))
    (h : ∀ property ∈ labelProperties, ∃ rules,
      (Json.obj labels).descend ["update", property] = .ok rules ∧ F property rules) :
    HasRules F axis := by
  intro property hproperty
  obtain ⟨rules, hrules, hF⟩ := h property hproperty
  exact ⟨rules, Json.descend_cons_ok.mpr (.inl ⟨_, hencode, hrules⟩), hF⟩

theorem hasRules_of_bare (hencode : axis.get? "encode" = none) (h : ∀ property, F property none) :
    HasRules F axis :=
  fun property _ => ⟨none, Json.descend_cons_ok.mpr (.inr ⟨hencode, rfl⟩), h property⟩

theorem HasRules.inRole (h : HasRules F axis) {role : MetricRole} {name : String}
    {scheme : ColorScheme} (haxis : inRole role name scheme axis = .ok axis') :
    HasRules F axis' := by
  intro property hproperty
  obtain ⟨rules, hrules, hF⟩ := h property hproperty
  refine ⟨rules, mergeEncode_of_upper haxis (encodings_unique ..) ?_ ?_, hF⟩
  · rcases mem_labelProperties.mp hproperty with rfl | rfl | rfl | rfl <;> cases role <;> rfl
  · exact (Json.descend_set_of_ne (by simp) _).trans hrules

theorem HasRules.labelOffset (h : HasRules F axis) {t : Thumbnail} {p : Position}
    (haxis : mergeEncode axis (t.labelEncoding p) = .ok axis') : HasRules F axis' := by
  intro property hproperty
  obtain ⟨rules, hrules, hF⟩ := h property hproperty
  refine ⟨rules, mergeEncode_of_upper haxis (labelEncoding_unique ..) ?_ hrules, hF⟩
  rcases mem_labelProperties.mp hproperty with rfl | rfl | rfl | rfl <;> cases p <;> rfl

theorem HasRules.hideLabels (hblanks : AllowsBlanks F) (h : HasRules F axis)
    (haxis : hideLabels axis o scaleName = .ok axis') : HasRules F axis' := by
  obtain ⟨text, htext, hF⟩ := h "text" (by simp [labelProperties])
  by_cases hlist : ∃ rules, text = some (.arr rules)
  · obtain ⟨rules, rfl⟩ := hlist
    obtain ⟨axis₁, haxis₁, hput⟩ := hideLabels_rules o scaleName htext
    cases haxis.symm.trans haxis₁
    intro property hproperty
    by_cases hsame : property = "text"
    · subst hsame
      refine ⟨_, ?_, hblanks (clearanceTests o scaleName) _ hF⟩
      rw [hput]
      exact Json.descend_put_self ..
    · obtain ⟨kept, hkept, hF'⟩ := h property hproperty
      have hapart : Json.apart (labelPath property) labelTextPath = true := by
        simp [Json.apart, labelPath, labelTextPath, hsame]
      refine ⟨kept, ?_, hF'⟩
      rw [hput, Json.descend_put_of_apart hapart htext]
      exact hkept
  · cases haxis.symm.trans (hideLabels_still htext fun rules heq => hlist ⟨rules, heq⟩)
    exact h

theorem HasRules.drawBaseline (h : HasRules F axis) : HasRules F (drawBaseline o b axis) := by
  unfold Axis.drawBaseline withBaseline
  split
  · exact h
  · refine h.congr ?_
    rw [Fields.get?_set_of_ne _ _ (by simp), Fields.get?_set_of_ne _ _ (by simp)]

theorem HasRules.hideCovered (hblanks : AllowsBlanks F) (h : HasRules F axis)
    (haxis : hideCovered o b (Axis.drawBaseline o b axis) = .ok axis') : HasRules F axis' := by
  unfold Axis.hideCovered at haxis
  split at haxis
  · exact h.drawBaseline.hideLabels hblanks haxis
  · cases haxis
    exact h.drawBaseline

-- ---------------------------------------------------------------------------
-- Rules throughout a bundle
-- ---------------------------------------------------------------------------

/-- The axis is given the values, and its labels have such rules. -/
structure Shows (values : Option Json) (F : String → Option Json → Prop) (axis : Fields) :
    Prop where
  values_eq : axis.get? "values" = values
  rules : HasRules F axis

theorem ComesFrom.values_eq (h : ComesFrom axis' axis) : axis'.get? "values" = axis.get? "values" :=
  h "values" (by simp [decoratedKeys])

theorem Shows.titled (h : Shows values F axis) : Shows values F (titled o axis) where
  values_eq := (titled_get? (by simp)).trans h.values_eq
  rules := h.rules.congr (titled_get? (by simp))

theorem bundle_firstShows (hblanks : AllowsBlanks F)
    (hmain : ∀ o', Trellis.withHeader b.scaleName o = .ok o' → Shows values F (mainAxis o' b))
    (h : (bundle o b).run context = .ok axes context') :
    ∃ first rest, axes = first :: rest ∧ Shows values F first := by
  obtain ⟨o', labels, ho', hlabels, hdecorate⟩ := bundle_run_ok.mp h
  obtain ⟨others, hlabelAxes⟩ := labelAxes_main o' b
  obtain ⟨first, others, rfl, hfirst⟩ := labelled_first
    (fun {_ _ _} hshows hrole => (⟨(inRole_comesFrom hrole).values_eq.trans hshows.values_eq,
      hshows.rules.inRole hrole⟩ : Shows values F _)) hlabelAxes (hmain o' ho').titled hlabels
  refine decorate_first (fun hshows hcovered => ⟨?_, hshows.rules.hideCovered hblanks hcovered⟩)
    (fun hshows hmerge => ⟨?_, hshows.rules.labelOffset hmerge⟩) hfirst hdecorate
  · rw [(hideCovered_comesFrom hcovered).values_eq, drawBaseline_comesFrom.values_eq,
      hshows.values_eq]
  · rw [(mergeEncode_comesFrom hmerge).values_eq, hshows.values_eq]

theorem bundle_rules (hblanks : AllowsBlanks F) (hnone : ∀ property, F property none)
    (hall : ∀ o', Trellis.withHeader b.scaleName o = .ok o' →
      ∀ axis ∈ labelAxes o' b, HasRules F axis)
    (h : (bundle o b).run context = .ok axes context') : ∀ axis ∈ axes, HasRules F axis := by
  obtain ⟨o', labels, ho', hlabels, hdecorate⟩ := bundle_run_ok.mp h
  have hkept := labelled_forall (fun hrules hrole => hrules.inRole hrole) (hall o' ho') hlabels
  exact decorate_forall (fun hrules hcovered => hrules.hideCovered hblanks hcovered)
    (fun hrules hmerge => hrules.labelOffset hmerge) (fun a => hasRules_of_bare rfl hnone) hkept
    hdecorate

-- ---------------------------------------------------------------------------
-- Reading a signal
-- ---------------------------------------------------------------------------

def entryKey (textKey property : String) : String :=
  if property = "text" then textKey else property

/-- The rules take the property from the value's entry in the signal, or else fall back on a rule
without a test. Only texts may be blanked before that. -/
def ReadFrom (signalName textKey property : String) (rules : Option Json) : Prop :=
  ∃ tests fallback, rules = some (.arr (blanks tests ++
      [Label.entryRule signalName (entryKey textKey property), fallback])) ∧
    test? fallback = none ∧ (property ≠ "text" → tests = [])

def UnreadFrom (signalName : String) (rules : Option Json) : Prop :=
  ∀ list, rules = some (.arr list) → ∀ key, Label.entryRule signalName key ∉ list

/-- The rules for all properties of the labels look their values up in the signal. -/
def ReadsEntries (signalName textKey : String) (axis : Fields) : Prop :=
  HasRules (ReadFrom signalName textKey) axis

/-- No rule for any property of the labels looks anything up in the signal. -/
def Ignores (signalName : String) (axis : Fields) : Prop :=
  HasRules (fun _ => UnreadFrom signalName) axis

theorem readFrom_allowsBlanks : AllowsBlanks (ReadFrom signalName textKey) := by
  rintro tests _ ⟨tests', fallback, rfl, hfallback, -⟩
  refine ⟨tests ++ tests', fallback, ?_, hfallback, fun hne => absurd rfl hne⟩
  rw [withRules, blanks, blanks, blanks, List.map_append, List.append_assoc]

theorem entryRule_not_mem_blanks (key : String) (tests : List String) :
    Label.entryRule signalName key ∉ blanks tests := by
  intro h
  obtain ⟨test, -, heq⟩ := List.mem_map.mp h
  simp [testedValue, Label.entryRule, testedSignal] at heq

theorem unreadFrom_allowsBlanks : AllowsBlanks fun _ => UnreadFrom signalName := by
  intro tests rules h
  rcases rules with _ | _ | _ | _ | _ | _ | rules | _
  case some.arr =>
    rintro _ ⟨⟩ key
    rw [List.mem_append, not_or]
    exact ⟨entryRule_not_mem_blanks key tests, h rules rfl key⟩
  all_goals exact h

theorem unreadFrom_of_other (h : ∀ list, rules ≠ some (.arr list)) : UnreadFrom signalName rules :=
  fun list heq => absurd heq (h list)

theorem ReadFrom.unreadFrom (h : ReadFrom signalName textKey property rules) {other : String}
    (hother : ∀ key key', Label.entryRule other key ≠ Label.entryRule signalName key') :
    UnreadFrom other rules := by
  obtain ⟨tests, fallback, rfl, hfallback, -⟩ := h
  rintro _ ⟨⟩ key
  simp only [List.mem_append, List.mem_cons, List.not_mem_nil, or_false, not_or]
  refine ⟨entryRule_not_mem_blanks key tests, hother key _, ?_⟩
  rintro rfl
  cases hfallback

theorem ReadsEntries.not_ignores (h : ReadsEntries signalName textKey axis) :
    ¬Ignores signalName axis := by
  intro hignores
  obtain ⟨rules, hrules, tests, fallback, rfl, -⟩ := h "text" (by simp [labelProperties])
  obtain ⟨_, hrules', hunread⟩ := hignores "text" (by simp [labelProperties])
  cases hrules.symm.trans hrules'
  exact hunread _ rfl (entryKey textKey "text") (by simp)

theorem controlledUpdate_reads {interactive : Json} {align : Option LabelAlign} {weight : Json}
    {orientation : Orientation} {p : Position} (more : Fields)
    (hencode : axis.get? "encode" = some (encodeLabels [("interactive", interactive),
      ("update", .obj (Label.controlledUpdate align weight textKey orientation p signalName ++
        more))])) :
    ReadsEntries signalName textKey axis := by
  refine hasRules_of_encode hencode fun property hproperty => ?_
  rcases mem_labelProperties.mp hproperty with rfl | rfl | rfl | rfl
  all_goals exact ⟨_, rfl, [], _, rfl, rfl, fun _ => rfl⟩

theorem base_encode (h : o.labels ≠ []) (scaleName : ScaleName) :
    (base o scaleName).get? "encode" = some (encodeLabels [("interactive", .bool o.hasTooltip),
      ("update", .obj (Label.controlledUpdate o.labelAlign (.str o.labelFontWeight) "label"
          o.labelOrientation o.position (labelSignal o) ++
        if o.hasTooltip then [("tooltip", rawValue)] else []))]) := by
  rw [base, if_neg (by simpa using h)]
  exact Fields.get?_set_self _ _ _

theorem base_values (h : o.labels ≠ []) (scaleName : ScaleName) :
    (base o scaleName).get? "values" = some (.arr (o.labels.map fun l => l.value.toJson)) := by
  have hlisted : valuesField (o.labels.map AxisLabel.value) =
      [("values", .arr (o.labels.map fun l => l.value.toJson))] := by
    rw [valuesField, if_neg (by simpa using h), List.map_map]
    rfl
  rw [base, if_neg (by simpa using h), Fields.get?_set_of_ne _ _ (by simp),
    Fields.get?_overlay (valuesField_unique _), hlisted]
  rfl

theorem base_shows (h : o.labels ≠ []) (scaleName : ScaleName) :
    Shows (some (.arr (o.labels.map fun l => l.value.toJson))) (ReadFrom (labelSignal o) "label")
      (base o scaleName) :=
  ⟨base_values h scaleName, controlledUpdate_reads _ (base_encode h scaleName)⟩

theorem subLabels_reads (o : ResolvedAxis) (scaleName : ScaleName) :
    ReadsEntries (subLabelSignal o) "subLabel" (subLabels o scaleName) := by
  have hencode := subLabels_encode o scaleName
  rw [← List.append_nil (Label.controlledUpdate ..)] at hencode
  exact controlledUpdate_reads [] hencode

theorem entryRule_labelSignal_ne (o : ResolvedAxis) (key key' : String) :
    Label.entryRule (labelSignal o) key ≠ Label.entryRule (subLabelSignal o) key' := by
  -- What follows the name of the axis in the expressions differs in its second letter.
  have hexpression (word key : String) : ∃ rest,
      Fields.get? (Label.entryRule (o.name ++ word) key).ownFields "signal" =
        some (.str (o.name ++ (word ++ rest))) := by
    refine ⟨"[" ++ Label.lookup (o.name ++ word) ++ "]" ++ "." ++ key, ?_⟩
    simp only [← String.append_assoc]
    rfl
  obtain ⟨rest, hlabels⟩ := hexpression "_labels" key
  obtain ⟨rest', hsubLabels⟩ := hexpression "_subLabels" key'
  intro heq
  have hsame := congrArg (fun rule : Json => Fields.get? rule.ownFields "signal") heq
  rw [labelSignal, subLabelSignal] at hsame
  have htexts := Json.str.inj (Option.some.inj (hlabels.symm.trans (hsame.trans hsubLabels)))
  have hletters := congrArg String.toList ((String.append_right_inj _).mp htexts)
  simp [String.toList_append] at hletters

-- ---------------------------------------------------------------------------
-- The labels of a description
-- ---------------------------------------------------------------------------

theorem secondaryTime_shows (o : ResolvedAxis) (scaleName : ScaleName) :
    Shows none (fun _ => UnreadFrom signalName) (secondaryTime scaleName o) := by
  refine ⟨Fields.get?_present_none ?_, ?_⟩
  · unfold secondaryTimeFormat
    split <;> rfl
  · have hencode := secondaryTime_encode o scaleName
    split at hencode
    · refine hasRules_of_encode hencode fun property hproperty => ?_
      rcases mem_labelProperties.mp hproperty with rfl | rfl | rfl | rfl
      all_goals exact ⟨_, rfl, unreadFrom_of_other (by simp [signal])⟩
    · exact hasRules_of_bare hencode fun _ => unreadFrom_of_other (by simp)

theorem primaryTime_ignores (o : ResolvedAxis) (scaleName : ScaleName) :
    Ignores signalName (primaryTime scaleName o) := by
  have hencode : (primaryTime scaleName o).get? "encode" = _ :=
    Fields.get?_present rfl (by simp [encodeLabels])
  refine hasRules_of_encode hencode fun property hproperty => ?_
  rcases mem_labelProperties.mp hproperty with rfl | rfl | rfl | rfl
  all_goals exact ⟨_, rfl, unreadFrom_of_other (by simp [signal])⟩

theorem subLabels_ignores (o : ResolvedAxis) (scaleName : ScaleName) :
    Ignores (labelSignal o) (subLabels o scaleName) := by
  intro property hproperty
  obtain ⟨rules, hrules, hread⟩ := subLabels_reads o scaleName property hproperty
  exact ⟨rules, hrules, hread.unreadFrom (entryRule_labelSignal_ne o)⟩

theorem labelAxes_ignore (h : o.labelFormat = .time) :
    ∀ axis ∈ labelAxes o b, Ignores (labelSignal o) axis := by
  have htimes : labelAxes o b = timeBundle o b := by rw [labelAxes, h]
  rw [htimes, timeBundle, time, List.tail_cons]
  simp only [List.cons_append, List.mem_cons, List.mem_append]
  rintro axis (rfl | haxis | haxis)
  · exact (secondaryTime_shows o b.scaleName).titled.rules
  · split at haxis
    · cases haxis
    · obtain rfl := List.mem_singleton.mp haxis
      exact primaryTime_ignores o b.scaleName
  · split at haxis
    · obtain rfl := List.mem_singleton.mp haxis
      exact subLabels_ignores o b.scaleName
    · cases haxis

theorem mainAxis_timed (h : o.labelFormat = .time) :
    mainAxis o b = secondaryTime b.scaleName o := by
  rw [mainAxis, h]

theorem mainAxis_untimed (h : o.labelFormat ≠ .time) : mainAxis o b = base o b.scaleName := by
  unfold mainAxis
  split
  · next htime => exact absurd htime h
  · rfl

/-- The first axis is given the labels as its values and looks them up in their signal. For times it
is given no values, and no axis looks anything up. -/
structure Honours (o : ResolvedAxis) (axes : List Fields) : Prop where
  untimed : o.labelFormat ≠ .time → ∃ first rest, axes = first :: rest ∧
    first.get? "values" = some (.arr (o.labels.map fun l => l.value.toJson)) ∧
    ReadsEntries (labelSignal o) "label" first
  timed : o.labelFormat = .time →
    (∃ first rest, axes = first :: rest ∧ first.get? "values" = none) ∧
    ∀ axis ∈ axes, Ignores (labelSignal o) axis

theorem Honours.reads_iff (h : Honours o axes) :
    (∃ axis ∈ axes, ReadsEntries (labelSignal o) "label" axis) ↔ o.labelFormat ≠ .time := by
  constructor
  · rintro ⟨axis, haxis, hreads⟩ htime
    exact hreads.not_ignores ((h.timed htime).2 axis haxis)
  · intro hne
    obtain ⟨first, rest, rfl, -, hreads⟩ := h.untimed hne
    exact ⟨first, by simp, hreads⟩

theorem bundle_honours (hlabels : o.labels ≠ [])
    (h : (bundle o b).run context = .ok axes context') :
    Honours o axes := by
  have hheader {o' : ResolvedAxis} (ho' : Trellis.withHeader b.scaleName o = .ok o') :
      o'.labels = o.labels ∧ o'.labelFormat = o.labelFormat ∧ labelSignal o' = labelSignal o :=
    ⟨Trellis.withHeader_keeps (F := (·.labels)) (fun _ _ => rfl) ho',
      Trellis.withHeader_keeps (F := (·.labelFormat)) (fun _ _ => rfl) ho',
      Trellis.withHeader_keeps (F := labelSignal) (fun _ _ => rfl) ho'⟩
  refine ⟨fun hne => ?_, fun htime => ⟨?_, ?_⟩⟩
  · have hmain (o' : ResolvedAxis) (ho' : Trellis.withHeader b.scaleName o = .ok o') :
        Shows (some (.arr (o.labels.map fun l => l.value.toJson)))
          (ReadFrom (labelSignal o) "label")
          (mainAxis o' b) := by
      obtain ⟨hkept, hformat, hsignal⟩ := hheader ho'
      rw [mainAxis_untimed (hformat ▸ hne), ← hkept, ← hsignal]
      exact base_shows (hkept ▸ hlabels) b.scaleName
    obtain ⟨first, rest, rfl, hshows⟩ := bundle_firstShows readFrom_allowsBlanks hmain h
    exact ⟨first, rest, rfl, hshows.values_eq, hshows.rules⟩
  · have hmain (o' : ResolvedAxis) (ho' : Trellis.withHeader b.scaleName o = .ok o') :
        Shows none (fun _ => UnreadFrom (labelSignal o)) (mainAxis o' b) := by
      rw [mainAxis_timed ((hheader ho').2.1.trans htime)]
      exact secondaryTime_shows o' b.scaleName
    obtain ⟨first, rest, rfl, hshows⟩ := bundle_firstShows unreadFrom_allowsBlanks hmain h
    exact ⟨first, rest, rfl, hshows.values_eq⟩
  · refine bundle_rules unreadFrom_allowsBlanks (fun _ => unreadFrom_of_other (by simp))
      (fun o' ho' => ?_) h
    obtain ⟨-, hformat, hsignal⟩ := hheader ho'
    rw [← hsignal]
    exact labelAxes_ignore (hformat.trans htime)

end VegaAxes.Axis
