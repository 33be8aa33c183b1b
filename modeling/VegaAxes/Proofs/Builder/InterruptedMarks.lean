import VegaAxes.Proofs.Axis.Decoration
import VegaAxes.Proofs.Builder.MarkAddition
import VegaAxes.Proofs.Failure

/-!
# Interrupted marks

A bundle that fails leaves the context as it was (`bundle_error`). Where the marks of an axis cannot
all be added (`addMarks_error`), those that are no list are left as they were, and in a list the
reference lines are drawn already; of the marks that were there only the trellis group can have
changed, by the baseline and the scale of its facets.
-/

namespace VegaAxes

namespace Axis

open DualMetric

variable {context context' : Context} {b : Binding} {o : ResolvedAxis} {p : Position}
  {counted : Bool}
  {axis : Fields} {axes : List Fields} {e : Error} {slot slot' : Slot}

-- ---------------------------------------------------------------------------
-- Failing bundles
-- ---------------------------------------------------------------------------

/-- The count is started before the axis takes its role, and goes on only after that. -/
theorem coordinate_error {dual : Bool}
    (h : (coordinate dual scaleName p counted).run slot = .error e slot') :
    slot'.context = { slot.context with metricAxisCount := startedCount slot.context } := by
  simp only [coordinate, run_bind_error, run_get_ok, run_get_error, run_ite_error,
    run_pure_error, run_modify_ok, run_modify_error, run_within_error, run_within_ok,
    run_lift_error, and_assoc, exists_and_left, exists_eq_left', false_or, and_false, or_false,
    exists_const] at h
  obtain ⟨-, ⟨_, -, rfl⟩ | ⟨_, _, ⟨_, -, rfl⟩, -, ⟨-, rfl⟩ | ⟨_, ⟨⟩⟩⟩⟩ := h
  · rfl
  · rfl

theorem coordinated_error (h : (coordinated b p counted axis).run context = .error e context') :
    context' = { context with metricAxisCount := startedCount context } := by
  simp only [EStateM.run, coordinated] at h
  split at h
  · cases h
  · next slot hslot =>
    cases h
    exact coordinate_error hslot

/-- A count that cannot be counted on from is started as it is. -/
theorem started_of_error (h : (startedCount context).successor = .error e) :
    { context with metricAxisCount := startedCount context } = context := by
  have hset : context.metricAxisCount ≠ .null := by
    intro hnull
    rw [startedCount, if_pos hnull] at h
    cases h
  rw [startedCount, if_neg hset]

theorem plainBundle_error (hc : b.coordinates o.position context = true)
    (hcount : (startedCount context).successor = .error e')
    (h : (plainBundle o b).run context = .error e context') : context' = context := by
  have hstarted := started_of_error hcount
  -- the companion is not counted, so that the axis itself starts from the same context
  have hcompanion {axis : Fields} {t : Context}
      (h : (coordinated b o.position false (subLabels o b.scaleName)).run context = .ok axis t) :
      t = context := by
    obtain ⟨-, count, heq, rfl⟩ := (coordinated_ok hc).mp h
    cases heq
    exact hstarted
  have haxis {axis : Fields} {counted : Bool}
      (h : (coordinated b o.position counted axis).run context = .error e context') :
      context' = context :=
    (coordinated_error h).trans hstarted
  rw [plainBundle] at h
  cases hsub : o.hasSubLabels with
  | false =>
    simp only [hsub, Bool.false_eq_true, if_false, pure_bind, run_bind_error, run_pure_error,
      and_false, exists_false, or_false] at h
    exact haxis h
  | true =>
    simp only [hsub, if_true, pure_bind, run_bind_error, run_pure_error, and_false,
      exists_false, or_false] at h
    rcases h with h | ⟨companion, t, ht, h⟩
    · exact haxis h
    · rw [hcompanion ht] at h
      exact haxis h

theorem labelled_error (hname : b.scaleName.value ≠ .null)
    (h : (labelled o b).run context = .error e context') : context' = context := by
  cases hcount : (startedCount context).successor with
  | ok next =>
    obtain ⟨_, _, hok⟩ := labelled_succeeds (o := o) hname ⟨next, hcount⟩
    cases hok.symm.trans h
  | error _ =>
    cases hrole : takesRole o b context with
    | false => cases (labelled_off hrole).symm.trans h
    | true =>
      obtain ⟨hformat, hc⟩ : o.labelFormat ≠ .time ∧ b.coordinates o.position context = true := by
        simpa [takesRole] using hrole
      rw [labelled] at h
      split at h
      · next htime => exact absurd htime hformat
      · exact plainBundle_error hc hcount h

/-- A bundle that fails has not counted its axis. -/
theorem bundle_error (h : (bundle o b).run context = .error e context') : context' = context := by
  rcases run_bind_error.mp h with h | ⟨o', _, hlift, h⟩
  · exact (run_lift_error.mp h).2.symm
  obtain ⟨ho', rfl⟩ := run_lift_ok.mp hlift
  have hname := searchable_of_header ho'
  rcases run_bind_error.mp h with h | ⟨labels, context₁, hlabels, h⟩
  · exact labelled_error hname h
  · -- axes in their form are decorated without fail
    obtain ⟨-, hformed⟩ := labelled_formed hname hlabels
    obtain ⟨_, hdecorate, -⟩ := decorate_formed (o := o') (b := b) hformed
    cases hdecorate.symm.trans (run_lift_error.mp h).1

end Axis

namespace Builder

open Trellis

variable {b b' : Builder} {o : ResolvedAxis} {binding : Axis.Binding} {ms : List Json}
  {g g' : Fields}
  {place : Nat} {e : Error} {own : Scale.Bound}

theorem bundle_failed (h : (bundle o binding).run b = .error e b') : b' = b := by
  obtain ⟨context, hrun, rfl⟩ := run_within_error.mp h
  rw [Axis.bundle_error hrun]

-- ---------------------------------------------------------------------------
-- The trellis group
-- ---------------------------------------------------------------------------

theorem onMark_error {x : Attempt Fields α} (hm : b.marks = .arr ms)
    (hg : ms[place]? = some (.obj g)) :
    (onMark place x).run b = .error e b' ↔
      ∃ g', x.run g = .error e g' ∧ { b with marks := .arr (ms.set place (.obj g')) } = b' := by
  simp only [onMark, run_within_error, markAt_eq hm hg, setMark_eq hm]

/-- A step on the group that fails as a whole leaves the marks as they were. -/
theorem onMark_update_error {f : Fields → Except Error Fields} (hm : b.marks = .arr ms)
    (hg : ms[place]? = some (.obj g))
    (h : (onMark place (Attempt.update f)).run b = .error e b') : b' = b := by
  obtain ⟨_, hf, rfl⟩ := (onMark_error hm hg).mp h
  obtain ⟨-, rfl⟩ := run_update_error.mp hf
  rw [set_self hg, ← hm]

def scaledGroup (own : Scale.Bound) (g : Fields) : Fields :=
  if (g.get? "scales").isSome then g.set "scales" own.scales else g

def MayBeScaled (p : Position) (g g' : Fields) : Prop :=
  g' = g ∨ ∃ own, Scale.resolve ((g.get? "scales").getD (.arr [])) p = .ok own ∧
    g' = scaledGroup own g

theorem bindGroupScale_error {p : Position} (h : (bindGroupScale p).run g = .error e g') :
    MayBeScaled p g g' := by
  simp only [bindGroupScale, run_bind_error, run_get_ok, run_get_error, run_lift_error, run_lift_ok,
    false_or, and_assoc, exists_and_left, exists_eq_left'] at h
  rcases h with ⟨-, rfl⟩ | ⟨own, hown, h⟩
  · exact .inl rfl
  refine .inr ⟨own, hown, ?_⟩
  unfold scaledGroup
  split at h
  · next hgiven =>
    simp only [run_bind_error, run_modify_ok, run_modify_error, run_lift_error, false_or,
      exists_and_left, exists_eq_left', exists_const] at h
    rw [if_pos hgiven, h.2]
  · next hgiven =>
    rw [if_neg hgiven, (run_lift_error.mp h).2]

theorem groupScale_mayBeScaled {p : Position} {scale : Fields}
    (h : groupScale p g = .ok (g', scale)) :
    MayBeScaled p g g' := by
  simp only [groupScale, bind_ok, pure_ok, Prod.mk.injEq] at h
  obtain ⟨own, hown, _, -, heq, -⟩ := h
  exact .inr ⟨own, hown, heq.symm⟩

theorem facetForm_mayBeScaled {o' : ResolvedAxis} {binding' : Axis.Binding}
    (h : facetForm o binding g = .ok (g', o', binding')) : MayBeScaled o.position g g' := by
  rcases facetForm_cases h with ⟨scale, name, type, -, hscale, -⟩ | ⟨-, hsame, -⟩
  · exact groupScale_mayBeScaled hscale
  · exact .inl hsame

theorem facetBundle_error (hm : b.marks = .arr ms) (hg : ms[place]? = some (.obj g))
    (h : (facetBundle o binding place).run b = .error e b') :
    ∃ g', MayBeScaled o.position g g' ∧ b' = { b with marks := .arr (ms.set place (.obj g')) } := by
  have hsame : b = { b with marks := .arr (ms.set place (.obj g)) } := by
    rw [set_self hg, ← hm]
  simp only [facetBundle, run_bind_error, run_get_ok, run_get_error, run_lift_error, run_lift_ok,
    run_ite_error, false_or, and_assoc, exists_and_left, exists_eq_left'] at h
  rcases h with ⟨-, rfl⟩ | ⟨direction, -, ⟨-, h⟩ | ⟨-, h⟩⟩
  · exact ⟨g, .inl rfl, hsame⟩
  · -- along the facets: from here on the scale is bound, and stays so
    rcases h with h | ⟨scale, _, hrun, h⟩
    · obtain ⟨g', hg', rfl⟩ := (onMark_error hm hg).mp h
      exact ⟨g', bindGroupScale_error hg', rfl⟩
    obtain ⟨g', hg', rfl⟩ := (onMark_ok hm hg).mp hrun
    refine ⟨g', groupScale_mayBeScaled (bindGroupScale_ok.mp hg'), ?_⟩
    rcases h with ⟨-, rfl⟩ | ⟨name, -, h | ⟨axes, _, haxes, h⟩⟩
    · rfl
    · exact bundle_failed h
    · obtain ⟨context, hrun, rfl⟩ := bundle_ok.mp haxes
      rw [Axis.bundle_context rfl hrun] at h
      simp only [run_pure_error, and_false, exists_false, or_false] at h
      exact h.2.symm
  · exact ⟨g, .inl rfl, (bundle_failed h).trans hsame⟩

theorem addFacetAxes_error (hm : b.marks = .arr ms) (hg : ms[place]? = some (.obj g))
    (h : (addFacetAxes o binding place).run b = .error e b') :
    ∃ g', MayBeScaled o.position g g' ∧ b' = { b with marks := .arr (ms.set place (.obj g')) } := by
  rcases run_bind_error.mp h with h | ⟨axes, _, hrun, h⟩
  · exact facetBundle_error hm hg h
  obtain ⟨g', o', binding', context, hform, hbundle, rfl⟩ := (facetBundle_ok hm hg).mp hrun
  refine ⟨g', facetForm_mayBeScaled hform, ?_⟩
  have hplace : (ms.set place (.obj g'))[place]? = some (.obj g') :=
    List.getElem?_set_self (List.getElem?_eq_some_iff.mp hg).1
  rw [onMark_update_error rfl hplace h, Axis.bundle_context (facetForm_dualMetric hform) hbundle]

-- ---------------------------------------------------------------------------
-- All marks
-- ---------------------------------------------------------------------------

/-- The marks that are left where not all can be added. -/
inductive MarkStop (o : ResolvedAxis) (binding : Axis.Binding) (ms : List Json) :
    List Json → Prop where
  /-- No trellis group can be looked for, or it takes no baseline. -/
  | lined : MarkStop o binding ms (lined o binding.scaleName ms)
  /-- The trellis group takes no axes. -/
  | grouped {place : Nat} {g based g' : Fields}
    (group_eq : findGroup? 0 (lined o binding.scaleName ms) = .ok (some place))
    (g_eq : (lined o binding.scaleName ms)[place]? = some (.obj g))
    (based_eq : withGroupBaseline o binding g = .ok based)
    (scaled : MayBeScaled o.position based g') :
    MarkStop o binding ms ((lined o binding.scaleName ms).set place (.obj g'))

theorem addDecorations_error {scaleName : ScaleName} {dataField : Option String}
    (hm : b.marks = .arr ms) :
    (do addNoteMarks o scaleName; addThumbnailMarks o scaleName dataField).run b = .error e b' ↔
      False := by
  rw [(addDecorations_ok (u := ()) hm).mpr rfl]
  exact not_error

theorem addReferenceLines_error {scaleName : ScaleName} (hm : b.marks = .arr ms) :
    (addReferenceLines o scaleName).run b = .error e b' ↔ False := by
  rw [(addReferenceLines_ok (u := ()) hm).mpr rfl]
  exact not_error

theorem addBaseline_none_error (hm : b.marks = .arr ms) :
    (addBaseline o none).run b = .error e b' ↔ False := by
  rw [(addBaseline_none_ok (u := ()) hm).mpr ⟨_, withBaseline_arr, rfl⟩]
  exact not_error

theorem addFacetAxes_decorations_error {dataField : Option String} (hm : b.marks = .arr ms)
    (hg : ms[place]? = some (.obj g))
    (h : (do addFacetAxes o binding place; addNoteMarks o binding.scaleName
             addThumbnailMarks o binding.scaleName dataField).run b = .error e b') :
    ∃ g', MayBeScaled o.position g g' ∧ b' = { b with marks := .arr (ms.set place (.obj g')) } := by
  rcases run_bind_error.mp h with h | ⟨_, _, hrun, h⟩
  · exact addFacetAxes_error hm hg h
  · obtain ⟨_, _, _, _, _, _, -, -, -, rfl⟩ := (addFacetAxes_ok hm hg).mp hrun
    exact ((addDecorations_error rfl).mp h).elim

theorem addMarks_error_listed {dataField : Option String} (hm : b.marks = .arr ms)
    (h : (addMarks o binding dataField).run b = .error e b') :
    ∃ ms', MarkStop o binding ms ms' ∧ b' = { b with marks := .arr ms' } := by
  simp only [addMarks, run_bind_error, addReferenceLines_error hm, addReferenceLines_ok hm,
    run_get_ok, run_get_error, run_lift_error, run_lift_ok, false_or, and_assoc, exists_and_left,
    exists_eq_left', exists_const, Json.elements, Except.ok.injEq, reduceCtorEq, false_and] at h
  rcases h with ⟨-, rfl⟩ | ⟨group, hgroup, h⟩
  · exact ⟨_, .lined, rfl⟩
  cases group with
  | none =>
    split at h
    · rcases run_bind_error.mp h with h | ⟨_, _, hrun, h⟩
      · exact ((addBaseline_none_error rfl).mp h).elim
      · rw [addBaseline_none_ok rfl, withBaseline_arr] at hrun
        obtain ⟨_, heq, rfl⟩ := hrun
        cases heq
        exact ((addDecorations_error rfl).mp h).elim
    · exact ((addDecorations_error rfl).mp h).elim
  | some place =>
    obtain ⟨-, g, hg⟩ := findGroup?_obj hgroup
    rw [Nat.sub_zero] at hg
    split at h
    · next hc =>
      rcases run_bind_error.mp h with h | ⟨_, _, hrun, h⟩
      · exact ⟨_, .lined, onMark_update_error rfl hg h⟩
      · obtain ⟨marks, hmarks, rfl⟩ := (addBaseline_some_ok rfl hg).mp hrun
        have hbased : withGroupBaseline o binding g = .ok (Fields.set g "marks" marks) := by
          rw [withGroupBaseline, if_pos hc, hmarks]
          rfl
        have hplace := List.getElem?_set_self (a := Json.obj (Fields.set g "marks" marks))
          (List.getElem?_eq_some_iff.mp hg).1
        obtain ⟨g', hg', heq⟩ := addFacetAxes_decorations_error rfl hplace h
        refine ⟨_, .grouped hgroup hg hbased hg', ?_⟩
        rw [heq, List.set_set]
    · next hc =>
      have hbased : withGroupBaseline o binding g = .ok g := by
        rw [withGroupBaseline, if_neg hc]
      obtain ⟨g', hg', heq⟩ := addFacetAxes_decorations_error rfl hg h
      exact ⟨_, .grouped hgroup hg hbased hg', heq⟩

theorem addMarks_error_unlisted {dataField : Option String} (hm : ∀ ms, b.marks ≠ .arr ms)
    (h : (addMarks o binding dataField).run b = .error e b') : b' = b := by
  have hrest (h : (do addNoteMarks o binding.scaleName
                      addThumbnailMarks o binding.scaleName dataField).run b = .error e b') :
      b' = b := by
    rcases run_bind_error.mp h with h | ⟨_, _, hrun, h⟩
    · exact (run_update_error.mp h).2.symm
    obtain ⟨v, hv, heq⟩ := bind_ok.mp (run_update_ok.mp hrun)
    obtain ⟨rfl, -⟩ := grow_unlisted hm hv
    cases heq
    unfold addThumbnailMarks at h
    split at h
    · rcases run_ite_error.mp h with ⟨-, h⟩ | ⟨-, h⟩
      · exact (run_update_error.mp h).2.symm
      · exact (run_pure_error.mp h).elim
    · exact (run_pure_error.mp h).elim
  rcases run_bind_error.mp h with h | ⟨_, b₁, hlines, h⟩
  · simp only [addReferenceLines, run_ite_error, run_bind_error, run_update_error, run_update_ok,
      bind_ok, insertBlock_unlisted hm, false_and, exists_false, or_false, run_pure_error,
      and_false] at h
    exact h.2.2.symm
  obtain rfl := addReferenceLines_markless hm hlines
  simp only [run_bind_error, run_get_ok, run_get_error, run_lift_error, run_lift_ok, false_or,
    and_assoc, exists_and_left, exists_eq_left'] at h
  rcases h with ⟨-, rfl⟩ | ⟨items, hitems, ⟨-, rfl⟩ | ⟨found, hfound, h⟩⟩
  · rfl
  · rfl
  obtain rfl : found = none := findGroup?_unlisted (elements_unlisted hm hitems) hfound
  split at h
  · rcases run_bind_error.mp h with h | ⟨_, _, hrun, h⟩
    · exact (run_update_error.mp h).2.symm
    · obtain ⟨_, hv, -⟩ := bind_ok.mp (run_update_ok.mp hrun)
      exact absurd hv (withBaseline_unlisted hm)
  · exact hrest h

/-- What is left of a list of marks, and of marks that are no list. -/
theorem addMarks_error {dataField : Option String}
    (h : (addMarks o binding dataField).run b = .error e b') :
    (∃ ms ms', b.marks = .arr ms ∧ MarkStop o binding ms ms' ∧ b' = { b with marks := .arr ms' }) ∨
      (∀ ms, b.marks ≠ .arr ms) ∧ b' = b := by
  by_cases hm : ∃ ms, b.marks = .arr ms
  · obtain ⟨ms, hm⟩ := hm
    obtain ⟨ms', hstop, heq⟩ := addMarks_error_listed hm h
    exact .inl ⟨ms, ms', hm, hstop, heq⟩
  · have hm : ∀ ms, b.marks ≠ .arr ms := fun ms heq => hm ⟨ms, heq⟩
    exact .inr ⟨hm, addMarks_error_unlisted hm h⟩

end Builder

end VegaAxes
