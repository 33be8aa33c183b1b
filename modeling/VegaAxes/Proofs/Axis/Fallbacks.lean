import VegaAxes.Proofs.Axis.BlankedLabels
import VegaAxes.Proofs.Axis.Every
import VegaAxes.Proofs.Text.Endings

/-!
# Fall-backs of text rules

Labels come with two rules for their text, of which one has a test, and blanks go before them
(`bundle_labelRules`). `bundle_fallbacks`: a list of text rules ends in its only rule without a
test, gives every label one text and has no rule that never wins. Blanks have tests of their own:
these open with another letter than those of labels.
-/

namespace VegaAxes.Axis

open DualMetric Encoding ReferenceLine Text

variable {axis axis' : Fields} {axes : List Fields} {o : ResolvedAxis} {b : Binding}
  {context context' : Context} {text : Option Json} {rules : List Json}

/-- A rule with a test of the value, and one without any. -/
def LabelRules (rules : List Json) : Prop :=
  ∃ test expression fallback, OpensWith 'i' test ∧
    rules = [testedSignal test expression, signal fallback]

/-- The text, if it is a list, has the rules of labels, and blanks before them. -/
def KeepsRules (text : Option Json) : Prop :=
  ∀ rules, text = some (.arr rules) → ∃ tests labels, (∀ test ∈ tests, OpensWith 'a' test) ∧
    LabelRules labels ∧ rules = blanks tests ++ labels

theorem LabelRules.keeps (h : LabelRules rules) : KeepsRules (some (.arr rules)) := by
  rintro _ ⟨⟩
  exact ⟨[], rules, by simp, h, rfl⟩

theorem keepsRules_of_other (h : ∀ rules, text ≠ some (.arr rules)) : KeepsRules text :=
  fun rules heq => absurd heq (h rules)

theorem KeepsRules.withBlanks (h : KeepsRules text) {tests : List String}
    (htests : ∀ test ∈ tests, OpensWith 'a' test) : KeepsRules (withRules (blanks tests) text) := by
  rcases text with _ | _ | _ | _ | _ | _ | rules | _
  case some.arr =>
    rintro _ ⟨⟩
    obtain ⟨tests', labels, htests', hlabels, rfl⟩ := h rules rfl
    refine ⟨tests ++ tests', labels, List.forall_mem_append.mpr ⟨htests, htests'⟩, hlabels, ?_⟩
    rw [blanks, blanks, blanks, List.map_append, List.append_assoc]
  all_goals exact h

-- ---------------------------------------------------------------------------
-- The axes of a description
-- ---------------------------------------------------------------------------

theorem labelRules_numberRule (format fallback : String) :
    LabelRules [Label.numberRule format, signal fallback] := by
  unfold Label.numberRule
  split <;> refine ⟨_, _, fallback, ?_, rfl⟩ <;> rfl

theorem labelRules_entryRule (signalName property fallback : String) :
    LabelRules [Label.entryRule signalName property, signal fallback] := by
  refine ⟨_, _, fallback, ?_, rfl⟩
  unfold Label.lookup
  repeat apply OpensWith.append
  rfl

theorem fallback_signal (o : ResolvedAxis) (scaleName : ScaleName) :
    ∃ fallback, Label.fallback o scaleName = signal fallback := by
  unfold Label.fallback
  split <;> exact ⟨_, rfl⟩

theorem format_keeps (o : ResolvedAxis) (scaleName : ScaleName) :
    KeepsRules (some (Label.format o scaleName)) := by
  unfold Label.format
  obtain ⟨fallback, heq⟩ := fallback_signal o scaleName
  split
  · refine LabelRules.keeps ⟨_, _, _, ?_, rfl⟩
    rfl
  · exact keepsRules_of_other (by simp [signal])
  all_goals
    rw [heq]
    exact (labelRules_numberRule _ _).keeps

def TextKept (axis : Fields) : Prop :=
  ∃ text, (Json.obj axis).descend labelTextPath = .ok text ∧ KeepsRules text

theorem base_kept (o : ResolvedAxis) (scaleName : ScaleName) : TextKept (base o scaleName) := by
  refine ⟨_, base_text o scaleName, ?_⟩
  split
  · exact format_keeps o scaleName
  · exact (labelRules_entryRule _ _ _).keeps

theorem secondaryTime_kept (o : ResolvedAxis) (scaleName : ScaleName) :
    TextKept (secondaryTime scaleName o) := by
  obtain ⟨text, htext, hother⟩ := secondaryTime_text o scaleName
  exact ⟨text, htext, keepsRules_of_other hother⟩

theorem primaryTime_kept (o : ResolvedAxis) (scaleName : ScaleName) :
    TextKept (primaryTime scaleName o) := by
  refine ⟨_, text_of_encode (Fields.get?_present rfl (by simp [encodeLabels])) rfl, ?_⟩
  exact keepsRules_of_other (by simp [signal])

theorem subLabels_kept (o : ResolvedAxis) (scaleName : ScaleName) :
    TextKept (subLabels o scaleName) :=
  ⟨_, text_of_encode (subLabels_encode o scaleName) rfl, (labelRules_entryRule _ _ _).keeps⟩

theorem TextKept.titled (h : TextKept axis) (o : ResolvedAxis) : TextKept (titled o axis) := by
  obtain ⟨text, htext, hkeeps⟩ := h
  exact ⟨text, (titled_text o axis).trans htext, hkeeps⟩

theorem labelAxes_kept : ∀ axis ∈ labelAxes o b, TextKept axis := by
  intro axis haxis
  rcases mem_labelAxes haxis with rfl | rfl | rfl | rfl
  · exact (base_kept o _).titled o
  · exact (secondaryTime_kept o _).titled o
  · exact primaryTime_kept o _
  · exact subLabels_kept o _

theorem layoutAxis_kept (scaleName : ScaleName) (a : Note) :
    TextKept (Note.layoutAxis scaleName a) :=
  ⟨none, text_of_bare rfl, keepsRules_of_other (by simp)⟩

-- ---------------------------------------------------------------------------
-- Roles and decorations
-- ---------------------------------------------------------------------------

theorem TextKept.inRole (h : TextKept axis) {role : MetricRole} {name : String}
    {scheme : ColorScheme} (haxis : inRole role name scheme axis = .ok axis') : TextKept axis' := by
  obtain ⟨text, htext, hkeeps⟩ := h
  refine ⟨text, mergeEncode_of_upper haxis (encodings_unique ..) ?_ ?_, hkeeps⟩
  · cases role <;> rfl
  · exact (Json.descend_set_of_ne (by simp) _).trans htext

theorem clearanceTests_open (o : ResolvedAxis) (scaleName : ScaleName) :
    ∀ test ∈ clearanceTests o scaleName, OpensWith 'a' test := by
  intro test htest
  obtain ⟨line, -, rfl⟩ := List.mem_map.mp htest
  unfold clearanceTest
  repeat apply OpensWith.append
  rfl

theorem TextKept.hideCovered (h : TextKept axis)
    (haxis : hideCovered o b (drawBaseline o b axis) = .ok axis') : TextKept axis' := by
  obtain ⟨text, htext, hkeeps⟩ := h
  obtain ⟨axis₁, haxis₁, htext₁⟩ := hideCovered_text (o := o) (b := b)
    ((drawBaseline_text o b axis).trans htext)
  cases haxis.symm.trans haxis₁
  refine ⟨_, htext₁, ?_⟩
  unfold addedRules
  split
  · rw [hidingRules_eq]
    exact hkeeps.withBlanks (clearanceTests_open o b.scaleName)
  · rw [withRules_nil]
    exact hkeeps

theorem TextKept.labelOffset (h : TextKept axis) {t : Thumbnail} {p : Position}
    (haxis : mergeEncode axis (t.labelEncoding p) = .ok axis') : TextKept axis' := by
  obtain ⟨text, htext, hkeeps⟩ := h
  exact ⟨text, labelOffset_text haxis htext, hkeeps⟩

theorem bundle_labelRules (h : (bundle o b).run context = .ok axes context') :
    ∀ axis ∈ axes, TextKept axis := by
  obtain ⟨o', labels, -, hlabels, hdecorate⟩ := bundle_run_ok.mp h
  have hkept : ∀ axis ∈ labels, TextKept axis :=
    labelled_forall (fun hkept haxis => hkept.inRole haxis) labelAxes_kept hlabels
  exact decorate_forall (fun hkept haxis => hkept.hideCovered haxis)
    (fun hkept haxis => hkept.labelOffset haxis) (layoutAxis_kept b.scaleName) hkept hdecorate

-- ---------------------------------------------------------------------------
-- What the lists say
-- ---------------------------------------------------------------------------

/-- A rule says to take the text of an expression, or none. -/
def SaysText (rule : Json) : Prop :=
  (∃ expression, outcome rule = signal expression) ∨ outcome rule = Encoding.text ""

section

variable {tests : List String} {labels : List Json}

theorem LabelRules.endsInFallback (h : LabelRules labels) (tests : List String) :
    EndsInFallback (blanks tests ++ labels) := by
  obtain ⟨test, expression, fallback, -, rfl⟩ := h
  refine ⟨blanks tests ++ [testedSignal test expression], signal fallback, by simp, rfl, ?_⟩
  rw [List.forall_mem_append]
  refine ⟨fun rule hrule => ?_, by simp [test?_testedSignal]⟩
  obtain ⟨test, -, rfl⟩ := List.mem_map.mp hrule
  rfl

/-- Rules with the same test are the same: blanks say all the same, and share no test with
labels. -/
theorem LabelRules.eq_of_test (h : LabelRules labels)
    (htests : ∀ test ∈ tests, OpensWith 'a' test) :
    ∀ r ∈ blanks tests ++ labels, ∀ r' ∈ blanks tests ++ labels, test? r = test? r' → r = r' := by
  obtain ⟨test, expression, fallback, hopens, rfl⟩ := h
  have hother : test ∉ tests := fun hmem => hopens.ne (htests test hmem) (by decide) rfl
  simp only [blanks, List.mem_append, List.mem_map, List.mem_cons, List.not_mem_nil, or_false]
  rintro r (⟨t, ht, rfl⟩ | rfl | rfl) r' (⟨t', ht', rfl⟩ | rfl | rfl) heq <;>
    simp only [test?_testedValue, test?_testedSignal, test?_signal, Option.some.injEq,
      Json.str.injEq, reduceCtorEq] at heq
  · rw [heq]
  · exact absurd (heq ▸ ht) hother
  · exact absurd (heq ▸ ht') hother
  · rfl
  · rfl

theorem LabelRules.saysText (h : LabelRules labels) (tests : List String) :
    ∀ rule ∈ blanks tests ++ labels, SaysText rule := by
  obtain ⟨test, expression, fallback, -, rfl⟩ := h
  intro rule hrule
  simp only [blanks, List.mem_append, List.mem_map, List.mem_cons, List.not_mem_nil,
    or_false] at hrule
  rcases hrule with ⟨test, -, rfl⟩ | rfl | rfl
  · exact .inr rfl
  · exact .inl ⟨expression, rfl⟩
  · exact .inl ⟨fallback, rfl⟩

end

/-- Every list of text rules ends in its only fall-back, so that whatever the tests are worth one
rule wins and gives the text, and each of them wins somewhere. Lines at one value blank labels by
one and the same rule, so that the later one wins where only places are told apart. -/
theorem bundle_fallbacks (h : (bundle o b).run context = .ok axes context') :
    ∀ axis ∈ axes, ∀ rules, (Json.obj axis).descend labelTextPath = .ok (some (.arr rules)) →
      EndsInFallback rules ∧
      (∀ holds, ∃ rule ∈ rules, winner holds rules = some rule ∧ SaysText rule) ∧
      (∀ rule ∈ rules, ∃ holds, winner holds rules = some rule) ∧
      ∀ i < rules.length, ∃ holds, winningPlace holds rules = some i := by
  intro axis haxis rules hrules
  obtain ⟨text, htext, hkeeps⟩ := bundle_labelRules h axis haxis
  cases htext.symm.trans hrules
  obtain ⟨tests, labels, htests, hlabels, rfl⟩ := hkeeps rules rfl
  have hends := hlabels.endsInFallback tests
  refine ⟨hends, fun holds => ?_, fun rule hrule => ?_, fun i hi => ⟨_, hends.reached_at hi⟩⟩
  · obtain ⟨rule, hrule, hwins⟩ := hends.winner holds
    exact ⟨rule, hrule, hwins, hlabels.saysText tests rule hrule⟩
  · exact ⟨_, hends.reached (hlabels.eq_of_test htests) hrule⟩

theorem yearLines_fallbacks :
    ∃ axes context', (bundle yearLines ⟨⟨.str "xScale"⟩, .null, false⟩).run
      ⟨.vertical, .light, .null⟩ =
        .ok axes context' ∧
      ∃ axis ∈ axes, ∃ rules, (Json.obj axis).descend labelTextPath = .ok (some (.arr rules)) ∧
        rules.length = 4 ∧ EndsInFallback rules := by
  have hheader : Trellis.withHeader ⟨.str "xScale"⟩ yearLines = .ok yearLines := rfl
  have hcount : ∃ next, (startedCount ⟨.vertical, .light, .null⟩).successor = .ok next :=
    ⟨_, rfl⟩
  obtain ⟨axes, context', hrun⟩ := bundle_succeeds
    (b := ⟨⟨.str "xScale"⟩, .null, false⟩) hheader hcount
  obtain ⟨o', axis, rest, text, ho', rfl, -, htext, hrules⟩ := bundle_text rfl hrun
  cases hheader.symm.trans ho'
  cases (base_text yearLines _).symm.trans htext
  exact ⟨_, _, hrun, axis, by simp, _, hrules, rfl,
    (bundle_fallbacks hrun axis (by simp) _ hrules).1⟩

end VegaAxes.Axis
