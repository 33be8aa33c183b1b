import VegaAxes.Proofs.Builder.Counting
import VegaAxes.Proofs.Builder.InterruptedMarks
import VegaAxes.Proofs.Builder.Runs

/-!
# Interrupted additions

Nothing is undone where a call fails: it leaves the builder at one of its `Stop`s, with all that the
steps before it add and nothing of the later ones (`Call.run_error`). What no call changes
stays as it was there too (`Stop.framed`).
-/

namespace VegaAxes.Builder

variable {b b' : Builder} {o : AxisOptions} {r : ResolvedAxis} {binding : Axis.Binding}
  {v index : Json} {e : Error} {u : Unit}

/-- Where a call can stop, in the order of its steps, and what it leaves behind there. -/
inductive Stop (b : Builder) (o : AxisOptions) (index : Json) : Builder → Prop where
  /-- The scales cannot be searched for its own range. -/
  | unbound {next : Json} (next_eq : (b.indexFor index).successor = .ok next) :
    Stop b o index { b with nextIndex := next }
  /-- Its scale cannot be read, or none can be found for the range across. -/
  | halfBound {next : Json} {own : Scale.Bound}
    (next_eq : (b.indexFor index).successor = .ok next)
    (own_eq : Scale.resolve b.scales o.position = .ok own) :
    Stop b o index { b with nextIndex := next, scales := own.scales }
  /-- The axis cannot be resolved for its scale, or the data take no tables. -/
  | bound {next : Json} {bound : BoundScale} {scales : Json}
    (next_eq : (b.indexFor index).successor = .ok next)
    (bound_eq : boundScale b.scales o = .ok (bound, scales)) :
    Stop b o index { b with nextIndex := next, scales }
  /-- The signals take no more. -/
  | tabled {next : Json} {bound : BoundScale} {scales : Json} {axis : ResolvedAxis} {data : Json}
    (next_eq : (b.indexFor index).successor = .ok next)
    (bound_eq : boundScale b.scales o = .ok (bound, scales))
    (axis_eq : o.resolveFor bound.type b.context.colorScheme (b.indexFor index) = .ok axis)
    (data_eq : grow b.data ((Note.all axis).flatMap Note.tables) = .ok data) :
    Stop b o index { b with nextIndex := next, scales, data }
  /-- The axes take no more, or the metric axes cannot be counted. -/
  | narrowed {next : Json} {bound : BoundScale} {scales : Json} {axis : ResolvedAxis}
    {data signals : Json}
    (next_eq : (b.indexFor index).successor = .ok next)
    (bound_eq : boundScale b.scales o = .ok (bound, scales))
    (axis_eq : o.resolveFor bound.type b.context.colorScheme (b.indexFor index) = .ok axis)
    (data_eq : grow b.data ((Note.all axis).flatMap Note.tables) = .ok data)
    (signals_eq : grow b.signals (axisSignals axis bound.name.spliced) = .ok signals) :
    Stop b o index
      { b with nextIndex := next, scales := narrowedScales o.range bound scales, data, signals }
  /-- The marks are no list. -/
  | unmarked (a : Addition b o index) (unlisted : ∀ ms, b.marks ≠ .arr ms) :
    Stop b o index a.unmarked
  /-- The trellis group cannot be found, or does not take the axes of its facets. -/
  | marked (a : Addition b o index) {ms ms' : List Json} (marks_eq : b.marks = .arr ms)
    (marks : MarkStop a.axis a.binding ms ms') :
    Stop b o index { a.unmarked with marks := .arr ms' }

theorem ensureOpen_error :
    ensureOpen.run b = .error e b' ↔ b.closed = true ∧ Error.closed = e ∧ b = b' := by
  simp only [ensureOpen, run_bind_error, run_get_ok, run_get_error, run_ite_error, run_throw_error,
    run_pure_error, false_or, and_assoc, exists_and_left, exists_eq_left', and_false, or_false]

theorem takeIndex_error :
    (takeIndex index).run b = .error e b' ↔ (b.indexFor index).successor = .error e ∧ b = b' := by
  simp only [takeIndex, run_bind_error, run_get_ok, run_get_error, run_lift_error, run_lift_ok,
    run_modify_error, run_pure_error, false_or, and_assoc, exists_and_left, exists_eq_left',
    and_false, exists_false, or_false]
  rfl

/-- Where binding fails, its own scale may have been added. -/
theorem bindScale_error (h : (bindScale o).run b = .error e b') :
    b = b' ∨ ∃ own, Scale.resolve b.scales o.position = .ok own ∧
      { b with scales := own.scales } = b' := by
  unfold bindScale at h
  cases hname : given o.name with
  | some name =>
    simp only [hname, run_bind_error, run_get_ok, run_get_error, run_lift_error, run_lift_ok,
      run_modify_ok, run_modify_error, run_pure_error, run_pure_ok, false_or, and_assoc,
      exists_and_left, exists_eq_left', and_false, exists_false, or_false, exists_const] at h
    rcases h with ⟨-, rfl⟩ | ⟨own, hown, ⟨-, rfl⟩ | ⟨_, -, ⟨-, rfl⟩ | ⟨_, -, -, rfl⟩⟩⟩
    · exact .inl rfl
    all_goals exact .inr ⟨own, hown, rfl⟩
  | none =>
    simp only [hname, run_bind_error, run_get_ok, run_get_error, run_lift_error, run_lift_ok,
      run_modify_ok, run_modify_error, run_pure_error, false_or, and_assoc,
      exists_and_left, exists_eq_left', and_false, exists_false, or_false, exists_const] at h
    rcases h with ⟨-, rfl⟩ | ⟨own, hown,
      ⟨-, rfl⟩ | ⟨_, -, ⟨-, rfl⟩ | ⟨_, -, ⟨-, rfl⟩ | ⟨_, -, -, rfl⟩⟩⟩⟩
    · exact .inl rfl
    all_goals exact .inr ⟨own, hown, rfl⟩

theorem isDualMetric_error (h : (isDualMetric o).run b = .error e b') : b = b' := by
  unfold isDualMetric at h
  cases hdual : o.dualMetricAxis with
  | some dual =>
    rw [hdual] at h
    exact (run_pure_error.mp h).elim
  | none =>
    simp only [hdual, run_bind_error, run_get_ok, run_get_error, run_lift_error,
      false_or, and_assoc, exists_and_left, exists_eq_left'] at h
    exact h.2

theorem narrowDomain_error {range : Option (Float × Float)} {bound : BoundScale} :
    (narrowDomain range bound).run b = .error e b' ↔ False := by
  unfold narrowDomain
  cases range with
  | none => exact run_pure_error
  | some ends =>
    simp only [run_ite_error, run_modify_error, run_pure_error, and_false, or_false]

/-- Where axes cannot be added, the one at hand is not counted either. -/
theorem addAxes_error (h : (addAxes r binding).run b = .error e b') : b = b' := by
  simp only [addAxes, run_bind_error, run_get_ok, run_get_error, run_lift_error, run_lift_ok,
    run_update_error, false_or, and_assoc, exists_and_left, exists_eq_left'] at h
  rcases h with ⟨-, rfl⟩ | ⟨_, haxes, h | ⟨axes, _, hbundle, h, rfl⟩⟩
  · rfl
  · obtain ⟨context, hrun, rfl⟩ := run_within_error.mp h
    rw [Axis.bundle_error hrun]
  · -- the list was there before the axes were built, so that it takes them
    obtain ⟨context, -, rfl⟩ := bundle_ok.mp hbundle
    obtain ⟨old, hold, -⟩ := append_ok.mp haxes
    rw [bind_error, hold] at h
    rcases h with h | ⟨_, -, h⟩ <;> cases h

theorem add_error (hopen : b.closed = false) (h : (add o index).run b = .error e b') :
    b' = b ∧ (b.indexFor index).successor = .error e ∨ Stop b o index b' := by
  rcases run_bind_error.mp h with h | ⟨_, _, hrun, h⟩
  · cases hopen.symm.trans (ensureOpen_error.mp h).1
  obtain ⟨-, rfl⟩ := ensureOpen_ok.mp hrun
  rcases run_bind_error.mp h with h | ⟨_, _, hrun, h⟩
  · obtain ⟨herror, rfl⟩ := takeIndex_error.mp h
    exact .inl ⟨rfl, herror⟩
  obtain ⟨rfl, next, next_eq, rfl⟩ := takeIndex_ok.mp hrun
  right
  rcases run_bind_error.mp h with h | ⟨bound, _, hrun, h⟩
  · rcases bindScale_error h with rfl | ⟨own, own_eq, rfl⟩
    · exact .unbound next_eq
    · exact .halfBound next_eq own_eq
  obtain ⟨scales, bound_eq, rfl⟩ := bindScale_ok.mp hrun
  rcases run_bind_error.mp h with h | ⟨_, _, hrun, h⟩
  · exact (run_get_error.mp h).elim
  obtain ⟨rfl, rfl⟩ := run_get_ok.mp hrun
  rcases run_bind_error.mp h with h | ⟨axis, _, hrun, h⟩
  · obtain ⟨-, rfl⟩ := run_lift_error.mp h
    exact .bound next_eq bound_eq
  obtain ⟨axis_eq, rfl⟩ := run_lift_ok.mp hrun
  rcases run_bind_error.mp h with h | ⟨dualMetric, _, hrun, h⟩
  · obtain rfl := isDualMetric_error h
    exact .bound next_eq bound_eq
  obtain ⟨dualMetric_eq, rfl⟩ := isDualMetric_ok.mp hrun
  rcases run_bind_error.mp h with h | ⟨_, _, hrun, h⟩
  · obtain ⟨-, rfl⟩ := run_update_error.mp h
    exact .bound next_eq bound_eq
  obtain ⟨data, data_eq, rfl⟩ := addData_ok.mp hrun
  rcases run_bind_error.mp h with h | ⟨_, _, hrun, h⟩
  · obtain ⟨-, rfl⟩ := run_update_error.mp h
    exact .tabled next_eq bound_eq axis_eq data_eq
  obtain ⟨signals, signals_eq, rfl⟩ := addSignals_ok.mp hrun
  rcases run_bind_error.mp h with h | ⟨_, _, hrun, h⟩
  · exact (narrowDomain_error.mp h).elim
  obtain rfl := narrowDomain_ok.mp hrun
  rcases run_bind_error.mp h with h | ⟨_, _, hrun, h⟩
  · obtain rfl := addAxes_error h
    exact .narrowed next_eq bound_eq axis_eq data_eq signals_eq
  obtain ⟨oldAxes, axes, context, oldAxes_eq, axes_eq, rfl⟩ := addAxes_ok.mp hrun
  let a : Addition b o index :=
    ⟨next, bound, scales, axis, dualMetric, data, signals, oldAxes, axes, context, hopen, next_eq,
      bound_eq, axis_eq, dualMetric_eq, data_eq, signals_eq, oldAxes_eq, axes_eq⟩
  rcases addMarks_error h with ⟨ms, ms', hm, hstop, rfl⟩ | ⟨hm, rfl⟩
  · exact .marked a hm hstop
  · exact .unmarked a hm

-- ---------------------------------------------------------------------------
-- What stays
-- ---------------------------------------------------------------------------

/-- What no call changes: everything but the lists, the next index and the metric axis count. -/
structure Framed (b b' : Builder) : Prop where
  usermeta : b'.usermeta = b.usermeta
  extra : b'.extra = b.extra
  closed : b'.closed = b.closed
  context : { b'.context with metricAxisCount := b.context.metricAxisCount } = b.context

theorem Framed.refl (b : Builder) : Framed b b :=
  ⟨rfl, rfl, rfl, rfl⟩

theorem Addition.framed (a : Addition b o index) : Framed b a.unmarked :=
  ⟨rfl, rfl, rfl, a.context_ok.2⟩

theorem Stop.framed (h : Stop b o index b') : Framed b b' := by
  cases h with
  | unmarked a => exact a.framed
  | marked a => exact ⟨rfl, rfl, rfl, a.context_ok.2⟩
  | _ => exact ⟨rfl, rfl, rfl, rfl⟩

theorem Stop.nextIndex_eq (h : Stop b o index b') :
    (b.indexFor index).successor = .ok b'.nextIndex := by
  cases h with
  | unmarked a => exact a.next_eq
  | marked a => exact a.next_eq
  | _ => assumption

theorem Call.run_error {c : Call} (hopen : b.closed = false) (h : c.run.run b = .error e b') :
    b' = b ∧ (c.options = .error e ∨ (b.indexFor c.index).successor = .error e) ∨
      ∃ o, c.options = .ok o ∧ Stop b o c.index b' := by
  have hadd {o : AxisOptions} (ho : c.options = .ok o)
      (h : (add o c.index).run b = .error e b') :
      b' = b ∧ (c.options = .error e ∨ (b.indexFor c.index).successor = .error e) ∨
        ∃ o, c.options = .ok o ∧ Stop b o c.index b' := by
    rcases add_error hopen h with ⟨heq, hindex⟩ | hstop
    · exact .inl ⟨heq, .inr hindex⟩
    · exact .inr ⟨o, ho, hstop⟩
  cases c with
  | read o index => exact hadd rfl h
  | described v index =>
    rcases run_bind_error.mp h with h | ⟨_, _, hrun, h⟩
    · cases hopen.symm.trans (ensureOpen_error.mp h).1
    obtain ⟨-, rfl⟩ := ensureOpen_ok.mp hrun
    rcases run_bind_error.mp h with h | ⟨o, _, hrun, h⟩
    · obtain ⟨hoptions, rfl⟩ := run_lift_error.mp h
      exact .inl ⟨rfl, .inl hoptions⟩
    · obtain ⟨ho, rfl⟩ := run_lift_ok.mp hrun
      exact hadd ho h

/-- A call that fails leaves the builder as it was if its options or its index are rejected. In any
other case it takes its index and stops at one of its steps, all of which leave the frame alone. -/
theorem interrupted_call {c : Call} (hopen : b.closed = false) (h : c.run.run b = .error e b') :
    Framed b b' ∧
      (b' = b ∧ (c.options = .error e ∨ (b.indexFor c.index).successor = .error e) ∨
        ∃ o, c.options = .ok o ∧ (b.indexFor c.index).successor = .ok b'.nextIndex ∧
          Stop b o c.index b') := by
  rcases Call.run_error hopen h with ⟨rfl, hrejected⟩ | ⟨o, ho, hstop⟩
  · exact ⟨.refl _, .inl ⟨rfl, hrejected⟩⟩
  · exact ⟨hstop.framed, .inr ⟨o, ho, hstop.nextIndex_eq, hstop⟩⟩

def misgrouped : Builder :=
  { bars with
    marks := .arr [.obj [("name", .str "xTrellisGroup"), ("axes", .int 5)]]
    context := ⟨.horizontal, .light, .null⟩ }

def metricCall : Call :=
  .described (.obj [("position", .str "bottom"), ("dualMetricAxis", .bool true),
    ("referenceLines", .arr [.obj [("value", .int 1)]]),
    ("axisAnnotations", .arr [.obj [("format", .str "span")]])]) .null

theorem misgrouped_fails : ∃ e b', metricCall.run.run misgrouped = .error e b' := by
  have hnone : after misgrouped [metricCall] = none := by decide +kernel
  cases hrun : metricCall.run.run misgrouped with
  | error e b' => exact ⟨e, b', rfl⟩
  | ok u b' => cases (after_eq_some.mpr (runs_single.mpr hrun)).symm.trans hnone

theorem misgrouped_interrupted :
    misgrouped.closed = false ∧ ∃ e b', metricCall.run.run misgrouped = .error e b' ∧
      Framed misgrouped b' ∧ ∃ o, metricCall.options = .ok o ∧
        (misgrouped.indexFor .null).successor = .ok b'.nextIndex ∧ Stop misgrouped o .null b' := by
  obtain ⟨e, b', hrun⟩ := misgrouped_fails
  refine ⟨rfl, e, b', hrun, ?_⟩
  obtain ⟨hframed, ⟨heq, -⟩ | hstop⟩ := interrupted_call (c := metricCall) rfl hrun
  · have hchanged : (Attempt.outcome metricCall.run misgrouped).1 ≠ misgrouped := by decide +kernel
    rw [outcome_error.mpr hrun] at hchanged
    exact absurd heq hchanged
  · exact ⟨hframed, hstop⟩

/-- Failing calls are not undone: here all lists have grown, the axis is counted and its
index used. -/
theorem misgrouped_changed :
    misgrouped.closed = false ∧ ∃ e b', metricCall.run.run misgrouped = .error e b' ∧
      b'.scales ≠ misgrouped.scales ∧ b'.axes ≠ misgrouped.axes ∧ b'.marks ≠ misgrouped.marks ∧
      b'.signals ≠ misgrouped.signals ∧ b'.data ≠ misgrouped.data ∧
      b'.context ≠ misgrouped.context ∧ b'.nextIndex ≠ misgrouped.nextIndex := by
  obtain ⟨e, b', hrun⟩ := misgrouped_fails
  have hb' : (Attempt.outcome metricCall.run misgrouped).1 = b' := by
    rw [outcome_error.mpr hrun]
  refine ⟨rfl, e, b', hrun, ?_⟩
  rw [← hb']
  decide +kernel

end VegaAxes.Builder
