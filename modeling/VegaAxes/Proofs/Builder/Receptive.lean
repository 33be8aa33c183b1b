import VegaAxes.Proofs.Builder.Counting
import VegaAxes.Proofs.Builder.GeneratedNames
import VegaAxes.Proofs.Builder.MarkValidity
import VegaAxes.Proofs.Options.Resolving

/-!
# Builders that can take axes

A builder is `Receptive` if its lists are lists and what an axis reads of their entries can be
read. Whatever the next axis is, it can be added, and the builder is receptive again
(`add_receptive`). Nothing is said of whether the document is valid.
-/

namespace VegaAxes.Builder

open Document Scale

variable {b : Builder} {o : AxisOptions} {r : ResolvedAxis} {n : Nat} {items : List Json}

structure Receptive (b : Builder) : Prop where
  isOpen : b.closed = false
  count : IsCount b.context.metricAxisCount
  scales : ∃ items, b.scales = .arr items ∧ ∀ scale ∈ items, Bindable scale
  axes : ∃ axes, b.axes = .arr axes
  marks : ∃ ms, b.marks = .arr ms ∧ Searchable ms
  signals : ∃ signals, b.signals = .arr signals ∧ ∀ signal ∈ signals, isObject signal = true
  data : ∃ tables, b.data = .arr tables

-- ---------------------------------------------------------------------------
-- What an axis reads
-- ---------------------------------------------------------------------------

theorem anyNamed_succeeds {entries : List Json} (h : ∀ entry ∈ entries, isObject entry = true)
    (name : Json) : ∃ found, anyNamed name entries = .ok found := by
  induction entries with
  | nil => exact ⟨false, rfl⟩
  | cons entry entries ih =>
    simp only [List.mem_cons, forall_eq_or_imp] at h
    obtain ⟨fs, rfl⟩ := isObject_iff.mp h.1
    obtain ⟨found, hfound⟩ := ih h.2
    simp only [anyNamed, Json.field, Json.fields, Except.map, bind_ok, Except.ok.injEq,
      exists_eq_left']
    split
    · exact ⟨true, rfl⟩
    · exact ⟨found, hfound⟩

theorem dualMetricIn_succeeds {entries : List Json} (h : ∀ entry ∈ entries, isObject entry = true)
    (o : AxisOptions) : ∃ dual, dualMetricIn (.arr entries) o = .ok dual := by
  unfold dualMetricIn
  cases o.dualMetricAxis with
  | some dual => exact ⟨dual, rfl⟩
  | none => exact anyNamed_succeeds h _

theorem resolveFor_text {type : String} (htype : type ≠ "") (scheme : ColorScheme) (n : Nat)
    (o : AxisOptions) :
    o.resolveFor (.str type) scheme (.int n) = .ok (o.resolve (some type) scheme n) := by
  refine AxisOptions.resolveFor_ok.mpr ⟨n, type, rfl, ?_, rfl⟩
  simp [Json.orElse, Json.truthy, htype]

theorem role_ne_empty (role : MetricRole) (name : String) : role.scaleName name ≠ "" := by
  have hends : role.scaleName name = Text.joined (name, role.scaleName "") := by
    cases role <;> rfl
  have hword : role.scaleName "" ≠ "" := by cases role <;> decide
  rw [hends]
  exact Text.joined_ne_empty hword

theorem bundle_valid {binding : Axis.Binding} {name : String} {axes : List Fields}
    {context context' : Context} (hname : binding.scaleName = ⟨.str name⟩) (hne : name ≠ "")
    (h : (Axis.bundle r binding).run context = .ok axes context') :
    ∀ axis ∈ axes, ValidAxis (.obj axis) := by
  obtain ⟨o', labels, -, rfl, -, hlabels, hlayout⟩ := Axis.bundle_formed h
  have hvalue : binding.scaleName.value = .str name := by rw [hname]
  intro axis haxis
  rcases List.mem_append.mp haxis with haxis | haxis
  · have hformed := hlabels axis haxis
    cases hrole : Axis.roleOf o' binding context with
    | none =>
      rw [hrole, Axis.scaleIn, hvalue] at hformed
      exact hformed.valid hne
    | some role =>
      rw [hrole, Axis.scaleIn] at hformed
      exact hformed.valid (role_ne_empty role _)
  · exact (hvalue ▸ hlayout axis haxis).valid hne

/-- The next axis can be built, up to its marks. -/
theorem addition_exists (h : Receptive b) (o : AxisOptions) (n : Nat) :
    Nonempty (Addition b o (.int n)) := by
  obtain ⟨items, hscales, hbindable⟩ := h.scales
  obtain ⟨oldAxes, haxes⟩ := h.axes
  obtain ⟨signals, hsignals, hobjects⟩ := h.signals
  obtain ⟨tables, hdata⟩ := h.data
  obtain ⟨bound, name, hbound, hname, -, htype⟩ := boundScale_succeeds hbindable o
  rw [← hscales] at hbound
  have haxis := resolveFor_text (boundType_ne_empty hbindable o.position) b.context.colorScheme n o
  rw [← htype] at haxis
  obtain ⟨dualMetric, hdual⟩ := dualMetricIn_succeeds hobjects o
  rw [← hsignals] at hdual
  let axis := o.resolve (some (boundType items o.position)) b.context.colorScheme n
  let data := Json.arr (tables ++ (Note.all axis).flatMap Note.tables)
  let signals' := Json.arr (signals ++ axisSignals axis bound.name.spliced)
  have hdata' : grow b.data ((Note.all axis).flatMap Note.tables) = .ok data := hdata ▸ grow_arr
  have hsignals' : grow b.signals (axisSignals axis bound.name.spliced) = .ok signals' :=
    hsignals ▸ grow_arr
  let scales := narrowedScales o.range bound (.arr (completed o.position items))
  obtain ⟨o', hheader⟩ := withHeader_text name
    (chartLevel { b with nextIndex := .int (n + 1), scales, data, signals := signals' } axis)
  rw [← hname] at hheader
  obtain ⟨axes, context, hbundle⟩ := Axis.bundle_succeeds
    (b := { scaleName := ⟨bound.name⟩, opposingType := bound.opposingType, dualMetric }) hheader
    (startedCount_succeeds h.count)
  exact ⟨⟨.int (n + 1), bound, _, axis, dualMetric, data, signals', oldAxes, axes,
    context, h.isOpen, rfl, hbound, haxis, hdual, hdata', hsignals', haxes, hbundle⟩⟩

-- ---------------------------------------------------------------------------
-- What an axis leaves
-- ---------------------------------------------------------------------------

theorem Addition.bound_named (a : Addition b o (.int n)) (hscales : b.scales = .arr items)
    (hbindable : ∀ scale ∈ items, Bindable scale) :
    (∃ name, a.binding.scaleName = ⟨.str name⟩ ∧ name ≠ "") ∧
      a.axis = o.resolve (some (boundType items o.position)) b.context.colorScheme n := by
  obtain ⟨bound, name, hbound, hname, hne, htype⟩ := boundScale_succeeds hbindable o
  rw [← hscales] at hbound
  obtain ⟨rfl, -⟩ := Prod.mk.inj (Except.ok.inj (hbound.symm.trans a.bound_eq))
  refine ⟨⟨name, congrArg ScaleName.mk hname, hne⟩, Except.ok.inj (a.axis_eq.symm.trans ?_)⟩
  rw [htype]
  exact resolveFor_text (boundType_ne_empty hbindable o.position) _ n o

theorem Addition.axes_valid (a : Addition b o (.int n)) (h : Receptive b) :
    ∀ axis ∈ a.axes, ValidAxis (.obj axis) := by
  obtain ⟨items, hscales, hbindable⟩ := h.scales
  obtain ⟨⟨name, hname, hne⟩, -⟩ := a.bound_named hscales hbindable
  exact bundle_valid hname hne a.axes_eq

theorem Addition.signals_arr (a : Addition b o (.int n)) {signals : List Json}
    (hsignals : b.signals = .arr signals) :
    a.signals = .arr (signals ++ axisSignals a.axis a.bound.name.spliced) :=
  (Except.ok.inj (grow_arr.symm.trans (hsignals ▸ a.signals_eq))).symm

theorem Addition.data_arr (a : Addition b o (.int n)) {tables : List Json}
    (hdata : b.data = .arr tables) :
    a.data = .arr (tables ++ (Note.all a.axis).flatMap Note.tables) :=
  (Except.ok.inj (grow_arr.symm.trans (hdata ▸ a.data_eq))).symm

theorem objects_of_names {entries : List Json} {names : List String}
    (h : entries.map entryName? = names.map some) : ∀ entry ∈ entries, isObject entry = true := by
  intro entry hentry
  obtain ⟨name, -, heq⟩ := exists_of_map_eq h hentry
  exact isObject_of_name heq.symm

theorem Addition.unmarked_receptive (a : Addition b o (.int n)) (h : Receptive b) :
    Receptive a.unmarked := by
  obtain ⟨items, hscales, hbindable⟩ := h.scales
  obtain ⟨signals, hsignals, hobjects⟩ := h.signals
  obtain ⟨tables, hdata⟩ := h.data
  have hbound := a.bound_eq
  rw [hscales] at hbound
  obtain ⟨narrowed, hnarrowed, hchanged⟩ := narrowedScales_ok hbound
  refine ⟨h.isOpen, a.context_ok.1.isCount h.count, ⟨narrowed, hnarrowed, ?_⟩, ⟨_, rfl⟩, h.marks,
    ⟨_, a.signals_arr hsignals, fun signal hsignal => ?_⟩, ⟨_, a.data_arr hdata⟩⟩
  · exact bindable_narrowed hchanged
      (bindable_append_missing (bindable_append_missing hbindable _) _)
  · exact (List.mem_append.mp hsignal).elim (hobjects signal)
      (objects_of_names (axisSignals_names _ _) signal)

theorem add_receptive (h : Receptive b) (o : AxisOptions) (n : Nat) :
    ∃ (a : Addition b o (.int n)) (ms ms' : List Json), b.marks = .arr ms ∧
      (add o (.int n)).run b = .ok () { a.unmarked with marks := .arr ms' } ∧
      Receptive { a.unmarked with marks := .arr ms' } ∧ AddedTo ms ms' := by
  obtain ⟨a⟩ := addition_exists h o n
  obtain ⟨items, hscales, hbindable⟩ := h.scales
  obtain ⟨⟨name, hname, hne⟩, -⟩ := a.bound_named hscales hbindable
  have ha := a.unmarked_receptive h
  obtain ⟨ms, hms, hsearchable⟩ := ha.marks
  obtain ⟨ms', hrun, hsearchable', hadded⟩ := addMarks_succeeds (o := a.axis) hsearchable hms hname
    hne (startedCount_succeeds ha.count) a.bound.dataField
  exact ⟨a, ms, ms', hms, add_ok.mpr ⟨a, hrun⟩,
    { ha with marks := ⟨ms', rfl, hsearchable'⟩ }, hadded⟩

end VegaAxes.Builder
