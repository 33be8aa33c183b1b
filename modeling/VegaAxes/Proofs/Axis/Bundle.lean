import VegaAxes.Axis.Bundle
import VegaAxes.Proofs.Attempt

/-!
# What a bundle does

`coordinated_ok`: an axis that is no metric axis keeps its scale and leaves the
context alone, any other takes the next role. `bundle_run_ok` takes a bundle apart,
and `bundle_context`: without coordination it leaves the context alone.
-/

namespace VegaAxes

namespace DualMetric

variable {context context' : Context} {axis axis' : Fields} {role : MetricRole}

def inRole (role : MetricRole) (scaleName : String) (scheme : ColorScheme) (axis : Fields) :
    Except Error Fields :=
  applyStyle scheme role (axis.set "scale" (.str (role.scaleName scaleName)))

theorem assign_ok {scheme : ColorScheme} {u : Unit} {v : Json} :
    (assign role scaleName scheme).run (.obj axis) = .ok u v ↔
      ∃ axis', inRole role scaleName scheme axis = .ok axis' ∧ .obj axis' = v := by
  simp only [assign, inRole, run_bind_ok, run_get_ok, run_lift_ok, run_set_ok, Json.record,
    Except.ok.injEq, and_assoc, exists_and_left, exists_eq_left', exists_const]

/-- The number of metric axes so far; a count that is not set is zero. -/
def startedCount (context : Context) : Json :=
  if context.metricAxisCount = .null then .int 0 else context.metricAxisCount

theorem coordinate_off {dual counted : Bool} {p : Position} {slot : Slot}
    (h : (dual && p.isMetric slot.context.orientation) = false) :
    (coordinate dual scaleName p counted).run slot = .ok () slot := by
  simp only [coordinate, run_bind_ok, run_get_ok, exists_and_left, exists_eq_left', and_assoc, h,
    Bool.false_eq_true, if_false, run_pure_ok, and_self]

theorem coordinate_ok {dual counted : Bool} {p : Position} {slot : Slot} {u : Unit}
    (h : (dual && p.isMetric context.orientation) = true) :
    (coordinate dual scaleName p counted).run ⟨context, .obj axis⟩ = .ok u slot ↔
      ∃ axis' count,
        inRole (nextRole (startedCount context)) scaleName context.colorScheme axis = .ok axis' ∧
        (if counted then (startedCount context).successor else .ok (startedCount context)) =
          .ok count ∧
        ⟨{ context with metricAxisCount := count }, .obj axis'⟩ = slot := by
  simp only [coordinate, run_bind_ok, run_get_ok, run_modify_ok, run_within_ok, assign_ok,
    exists_and_left, exists_eq_left', and_assoc, h, if_true, exists_const]
  cases counted with
  | false =>
    simp only [Bool.false_eq_true, if_false, run_pure_ok, true_and]
    constructor
    · rintro ⟨_, ⟨_, ⟨axis', haxis, rfl⟩, rfl⟩, rfl⟩
      exact ⟨axis', haxis, _, rfl, rfl⟩
    · rintro ⟨axis', haxis, _, hcount, rfl⟩
      cases hcount
      exact ⟨_, ⟨_, ⟨axis', haxis, rfl⟩, rfl⟩, rfl⟩
  | true =>
    simp only [if_true, run_bind_ok, run_lift_ok, run_modify_ok, exists_and_left, exists_eq_left',
      and_assoc]
    constructor
    · rintro ⟨_, ⟨_, ⟨axis', haxis, rfl⟩, rfl⟩, count, hcount, rfl⟩
      exact ⟨axis', haxis, count, hcount, rfl⟩
    · rintro ⟨axis', haxis, count, hcount, rfl⟩
      exact ⟨_, ⟨_, ⟨axis', haxis, rfl⟩, rfl⟩, count, hcount, rfl⟩

end DualMetric

namespace Axis

open DualMetric

variable {context context' : Context} {b : Binding} {o : ResolvedAxis} {p : Position}
  {counted : Bool} {axis axis' : Fields} {axes axes' : List Fields}

def Binding.coordinates (b : Binding) (p : Position) (context : Context) : Bool :=
  b.dualMetric && p.isMetric context.orientation

theorem coordinated_off (h : b.coordinates p context = false) :
    (coordinated b p counted axis).run context = .ok axis context := by
  have hrun : (coordinate b.dualMetric b.scaleName.spliced p counted).run ⟨context, .obj axis⟩ =
      .ok () ⟨context, .obj axis⟩ := coordinate_off h
  simp only [EStateM.run, coordinated] at hrun ⊢
  rw [hrun]
  rfl

theorem coordinated_ok (h : b.coordinates p context = true) :
    (coordinated b p counted axis).run context = .ok axis' context' ↔
      inRole (nextRole (startedCount context)) b.scaleName.spliced context.colorScheme axis =
        .ok axis' ∧
      ∃ count,
        (if counted then (startedCount context).successor else .ok (startedCount context)) =
          .ok count ∧
        { context with metricAxisCount := count } = context' := by
  have hrun (slot : Slot) :
      (coordinate b.dualMetric b.scaleName.spliced p counted).run ⟨context, .obj axis⟩ =
        .ok () slot ↔ _ := coordinate_ok h
  simp only [EStateM.run, coordinated] at hrun ⊢
  constructor
  · intro heq
    split at heq
    · next slot hslot =>
      obtain ⟨axis', count, haxis, hcount, rfl⟩ := (hrun slot).mp hslot
      cases heq
      exact ⟨haxis, count, hcount, rfl⟩
    · cases heq
  · rintro ⟨haxis, count, hcount, rfl⟩
    rw [(hrun _).mpr ⟨axis', count, haxis, hcount, rfl⟩]
    rfl

/-- The axis that shows the labels, and the companion if there are sub-labels. -/
def plainAxes (o : ResolvedAxis) (b : Binding) : List Fields :=
  titled o (base o b.scaleName) :: if o.hasSubLabels then [subLabels o b.scaleName] else []

/-- The axes with labels and sub-labels, before any of them takes a role. -/
def labelAxes (o : ResolvedAxis) (b : Binding) : List Fields :=
  match o.labelFormat with
  | .time => timeBundle o b
  | _ => plainAxes o b

theorem mem_labelAxes (h : axis ∈ labelAxes o b) :
    axis = titled o (base o b.scaleName) ∨ axis = titled o (secondaryTime b.scaleName o) ∨
      axis = primaryTime b.scaleName o ∨ axis = subLabels o b.scaleName := by
  have hsub {axis : Fields} (h : axis ∈ if o.hasSubLabels then [subLabels o b.scaleName] else []) :
      axis = subLabels o b.scaleName := by
    split at h
    · exact List.mem_singleton.mp h
    · cases h
  unfold labelAxes at h
  split at h
  · rw [timeBundle, time, List.tail_cons, List.cons_append] at h
    rcases List.mem_cons.mp h with rfl | h
    · exact .inr (.inl rfl)
    rcases List.mem_append.mp h with h | h
    · split at h
      · cases h
      · exact .inr (.inr (.inl (List.mem_singleton.mp h)))
    · exact .inr (.inr (.inr (hsub h)))
  · rcases List.mem_cons.mp h with rfl | h
    · exact .inl rfl
    · exact .inr (.inr (.inr (hsub h)))

def takesRole (o : ResolvedAxis) (b : Binding) (context : Context) : Bool :=
  o.labelFormat ≠ .time && b.coordinates o.position context

theorem plainBundle_off (h : b.coordinates o.position context = false) :
    (plainBundle o b).run context = .ok (plainAxes o b) context := by
  simp only [plainBundle, plainAxes]
  cases o.hasSubLabels <;>
    simp only [Bool.false_eq_true, if_true, if_false, run_bind_ok, run_pure_ok, coordinated_off h,
      EStateM.Result.ok.injEq, and_assoc, exists_and_left, exists_eq_left', and_self, pure_bind]

theorem startedCount_ne_null : startedCount context ≠ .null := by
  unfold startedCount
  split
  · simp
  · assumption

theorem startedCount_started :
    startedCount { context with metricAxisCount := startedCount context } =
      startedCount context := by
  rw [startedCount]
  exact if_neg startedCount_ne_null

/-- The axis and its companion share one role, and count as one. -/
theorem plainBundle_ok (h : b.coordinates o.position context = true) :
    (plainBundle o b).run context = .ok axes context' ↔
      (plainAxes o b).mapM (inRole (nextRole (startedCount context)) b.scaleName.spliced
          context.colorScheme) = .ok axes ∧
        ∃ count, (startedCount context).successor = .ok count ∧
          { context with metricAxisCount := count } = context' := by
  have h' : b.coordinates o.position { context with metricAxisCount := startedCount context } =
      true :=
    h
  simp only [plainBundle, plainAxes]
  cases o.hasSubLabels with
  | false =>
    simp only [Bool.false_eq_true, if_false, pure_bind, run_bind_ok, run_pure_ok, coordinated_ok h,
      if_true, List.mapM_cons, List.mapM_nil, bind_ok, pure_ok]
    constructor
    · rintro ⟨axis, _, ⟨haxis, count, hcount, rfl⟩, rfl, rfl⟩
      exact ⟨⟨axis, haxis, rfl⟩, count, hcount, rfl⟩
    · rintro ⟨⟨axis, haxis, rfl⟩, count, hcount, rfl⟩
      exact ⟨axis, _, ⟨haxis, count, hcount, rfl⟩, rfl, rfl⟩
  | true =>
    simp only [if_true, bind_assoc, pure_bind, run_bind_ok, run_pure_ok, coordinated_ok h,
      Bool.false_eq_true, if_false, Except.ok.injEq, exists_eq_left', List.mapM_cons, List.mapM_nil,
      bind_ok, pure_ok]
    constructor
    · rintro ⟨companion, _, ⟨hcompanion, rfl⟩, axis, _, haxis, rfl, rfl⟩
      rw [coordinated_ok h', startedCount_started] at haxis
      obtain ⟨haxis, count, hcount, rfl⟩ := haxis
      exact ⟨⟨axis, haxis, companion, hcompanion, rfl⟩, count, hcount, rfl⟩
    · rintro ⟨⟨axis, haxis, companion, hcompanion, rfl⟩, count, hcount, rfl⟩
      refine ⟨companion, _, ⟨hcompanion, rfl⟩, axis, _, ?_, rfl, rfl⟩
      rw [coordinated_ok h', startedCount_started]
      exact ⟨haxis, count, hcount, rfl⟩

theorem labelled_off (h : takesRole o b context = false) :
    (labelled o b).run context = .ok (labelAxes o b) context := by
  have hoff (hf : o.labelFormat ≠ .time) : b.coordinates o.position context = false := by
    simpa [takesRole, hf] using h
  unfold labelled labelAxes
  cases hf : o.labelFormat with
  | time => rfl
  | _ => exact plainBundle_off (hoff (by simp [hf]))

theorem labelled_ok (h : takesRole o b context = true) :
    (labelled o b).run context = .ok axes context' ↔
      (labelAxes o b).mapM (inRole (nextRole (startedCount context)) b.scaleName.spliced
          context.colorScheme) = .ok axes ∧
        ∃ count, (startedCount context).successor = .ok count ∧
          { context with metricAxisCount := count } = context' := by
  obtain ⟨hf, hc⟩ : o.labelFormat ≠ .time ∧ b.coordinates o.position context = true := by
    simpa [takesRole] using h
  have hplain : (plainBundle o b).run context = .ok axes context' ↔ _ := plainBundle_ok hc
  rw [labelled, labelAxes]
  cases hf' : o.labelFormat with
  | time => exact absurd hf' hf
  | _ => exact hplain

/-- The first axis gets its baseline and hides labels for lines, all have their labels moved past
thumbnails, and the axes of notes come after them. -/
theorem decorate_ok :
    decorate o b axes = .ok axes' ↔ ∃ drawn cleared,
      onFirst (fun axis => hideCovered o b (drawBaseline o b axis)) axes = .ok drawn ∧
      clearThumbnails o drawn = .ok cleared ∧
      cleared ++ (Note.all o).map (Note.layoutAxis b.scaleName) = axes' := by
  simp only [decorate, bind_ok, pure_ok, exists_and_left]

theorem bundle_run_ok :
    (bundle o b).run context = .ok axes context' ↔
      ∃ o' labels, Trellis.withHeader b.scaleName o = .ok o' ∧
        (labelled o' b).run context = .ok labels context' ∧ decorate o' b labels = .ok axes := by
  simp only [bundle, run_bind_ok, run_lift_ok, and_assoc, exists_and_left, exists_eq_left']
  constructor
  · rintro ⟨o', ho, labels, _, hlabels, haxes, rfl⟩
    exact ⟨o', ho, labels, hlabels, haxes⟩
  · rintro ⟨o', ho, labels, hlabels, haxes⟩
    exact ⟨o', ho, labels, _, hlabels, haxes, rfl⟩

/-- Only coordination changes the context. -/
theorem bundle_context (hdual : b.dualMetric = false)
    (h : (bundle o b).run context = .ok axes context') : context' = context := by
  obtain ⟨o', labels, -, hlabels, -⟩ := bundle_run_ok.mp h
  have hoff : takesRole o' b context = false := by simp [takesRole, Binding.coordinates, hdual]
  rw [labelled_off hoff] at hlabels
  cases hlabels
  rfl

end Axis

end VegaAxes
