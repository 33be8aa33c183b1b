import VegaAxes.Builder.Adding
import VegaAxes.Proofs.Attempt

/-!
# What adding an axis does

`add_ok`: an axis is added exactly if there is an `Addition`, which names all
that is read and written on the way, and the builder it leaves is its `result`.
The steps before it have a law each; those that only read are given as functions
of what they read.
-/

namespace VegaAxes.Builder

variable {b b' : Builder} {o : AxisOptions} {r : ResolvedAxis} {u : Unit}

-- ---------------------------------------------------------------------------
-- Steps of an addition
-- ---------------------------------------------------------------------------

theorem ensureOpen_ok : ensureOpen.run b = .ok u b' ↔ b.closed = false ∧ b = b' := by
  simp only [ensureOpen, run_bind_ok, run_get_ok, run_ite_ok, run_throw_ok, run_pure_ok,
    and_assoc, exists_and_left, exists_eq_left', and_false, false_or, true_and, Bool.not_eq_true]

def indexFor (b : Builder) (index : Json) : Json :=
  if index = .null then b.nextIndex else index

theorem takeIndex_ok {wanted index : Json} :
    (takeIndex wanted).run b = .ok index b' ↔
      b.indexFor wanted = index ∧
        ∃ next, index.successor = .ok next ∧ { b with nextIndex := next } = b' := by
  simp only [takeIndex, run_bind_ok, run_get_ok, run_lift_ok, run_modify_ok, run_pure_ok,
    and_assoc, exists_and_left, exists_eq_left', exists_const]
  constructor
  · rintro ⟨next, hnext, rfl, rfl⟩
    exact ⟨rfl, next, hnext, rfl⟩
  · rintro ⟨rfl, next, hnext, rfl⟩
    exact ⟨next, hnext, rfl, rfl⟩

theorem fields_ok {v : Json} {fs : Fields} : v.fields = .ok fs ↔ v = .obj fs := by
  cases v <;> simp [Json.fields]

theorem nameOf_ok {scale : Fields} {name : Json} :
    nameOf scale = .ok name ↔ scale.get? "name" = some name := by
  unfold nameOf
  cases scale.get? "name" <;> simp

/-- The caller's name for a scale, or else its own. -/
def boundName (o : AxisOptions) (fields : Fields) : Except Error Json :=
  match given o.name with
  | some name => .ok (.str name)
  | none => nameOf fields

/-- The scale of an axis among the document's scales, and the scales with the missing ones added. -/
def boundScale (scales : Json) (o : AxisOptions) : Except Error (BoundScale × Json) := do
  let bound ← Scale.resolve scales o.position
  let fields ← bound.scale.fields
  let name ← boundName o fields
  let dataField ← Scale.dataField? bound.scale
  let (scales, opposingType) ← Scale.resolveOpposingType bound.scales o.position
  let type := (fields.getD "type").orElse (.str "linear")
  return ({ place := bound.place, fields, name, type, dataField, opposingType }, scales)

theorem bindScale_ok {bound : BoundScale} :
    (bindScale o).run b = .ok bound b' ↔
      ∃ scales, boundScale b.scales o = .ok (bound, scales) ∧ { b with scales } = b' := by
  unfold bindScale boundScale boundName
  cases given o.name with
  | some name =>
    simp only [run_bind_ok, run_get_ok, run_lift_ok, run_modify_ok, run_pure_ok, bind_ok, pure_ok,
      Except.ok.injEq, and_assoc, exists_and_left, exists_eq_left', exists_const]
    constructor
    · rintro ⟨s, hs, fs, hf, d, hd, t, ht, rfl, rfl⟩
      exact ⟨_, ⟨s, hs, fs, hf, d, hd, t, ht, rfl⟩, rfl⟩
    · rintro ⟨_, ⟨s, hs, fs, hf, d, hd, t, ht, heq⟩, rfl⟩
      cases heq
      exact ⟨s, hs, fs, hf, d, hd, t, ht, rfl, rfl⟩
  | none =>
    simp only [run_bind_ok, run_get_ok, run_lift_ok, run_modify_ok, run_pure_ok, bind_ok, pure_ok,
      and_assoc, exists_and_left, exists_eq_left', exists_const]
    constructor
    · rintro ⟨s, hs, fs, hf, n, hn, d, hd, t, ht, rfl, rfl⟩
      exact ⟨_, ⟨s, hs, fs, hf, n, hn, d, hd, t, ht, rfl⟩, rfl⟩
    · rintro ⟨_, ⟨s, hs, fs, hf, n, hn, d, hd, t, ht, heq⟩, rfl⟩
      cases heq
      exact ⟨s, hs, fs, hf, n, hn, d, hd, t, ht, rfl, rfl⟩

def dualMetricIn (signals : Json) (o : AxisOptions) : Except Error Bool :=
  match o.dualMetricAxis with
  | some dual => .ok dual
  | none => do anyNamed (.str Theme.firstSeries) (← signals.elements)

theorem isDualMetric_ok {dual : Bool} :
    (isDualMetric o).run b = .ok dual b' ↔ dualMetricIn b.signals o = .ok dual ∧ b = b' := by
  unfold isDualMetric dualMetricIn
  cases o.dualMetricAxis with
  | some flag => simp only [run_pure_ok, Except.ok.injEq]
  | none =>
    simp only [run_bind_ok, run_get_ok, run_lift_ok, hasSignal, and_assoc, exists_and_left,
      exists_eq_left']

def narrowedScales (range : Option (Float × Float)) (bound : BoundScale) (scales : Json) : Json :=
  match range, scales with
  | some (low, high), .arr items =>
    if bound.type = .str "linear" ∨ bound.type = .str "time" then
      .arr (items.set bound.place (.obj (Scale.setDomain low high bound.fields)))
    else .arr items
  | _, scales => scales

theorem narrowDomain_ok {range : Option (Float × Float)} {bound : BoundScale} :
    (narrowDomain range bound).run b = .ok u b' ↔
      { b with scales := narrowedScales range bound b.scales } = b' := by
  unfold narrowDomain narrowedScales
  cases range with
  | none => simp only [run_pure_ok, true_and]
  | some ends =>
    obtain ⟨scales⟩ := b
    simp only [run_ite_ok, run_modify_ok, run_pure_ok, true_and, setScale]
    by_cases h : bound.type = .str "linear" ∨ bound.type = .str "time"
    · cases scales <;> simp [h]
    · cases scales <;> simp [h]

theorem addData_ok :
    (addData r).run b = .ok u b' ↔
      ∃ data, grow b.data ((Note.all r).flatMap Note.tables) = .ok data ∧ { b with data } = b' := by
  simp only [addData, run_update_ok, bind_ok, pure_ok]

theorem addSignals_ok :
    (addSignals r scaleName).run b = .ok u b' ↔
      ∃ signals, grow b.signals (axisSignals r scaleName) = .ok signals ∧
        { b with signals } = b' := by
  simp only [addSignals, run_update_ok, bind_ok, pure_ok]

theorem bundle_ok {binding : Axis.Binding} {axes : List Fields} :
    (bundle r binding).run b = .ok axes b' ↔
      ∃ context, (Axis.bundle r binding).run b.context = .ok axes context ∧
        { b with context } = b' := by
  simp only [bundle, run_within_ok]

theorem append_ok {v w : Json} {items : List Json} :
    v.append items = .ok w ↔ ∃ old, v = .arr old ∧ w = .arr (old ++ items) := by
  cases v <;> simp [Json.append, eq_comm]

theorem addAxes_ok {binding : Axis.Binding} :
    (addAxes r binding).run b = .ok u b' ↔
      ∃ old axes context, b.axes = .arr old ∧
        (Axis.bundle (chartLevel b r) binding).run b.context = .ok axes context ∧
        { b with axes := .arr (old ++ axes.map .obj), context } = b' := by
  simp only [addAxes, run_bind_ok, run_get_ok, run_lift_ok, run_update_ok, bundle_ok, append_ok,
    bind_ok, pure_ok, and_assoc, exists_and_left, exists_eq_left']
  constructor
  · rintro ⟨_, -, axes, _, ⟨context, hrun, rfl⟩, _, ⟨old, hold, rfl⟩, rfl⟩
    exact ⟨old, hold, axes, context, hrun, rfl⟩
  · rintro ⟨old, hold, axes, context, hrun, rfl⟩
    exact ⟨_, ⟨old, hold, rfl⟩, axes, _, ⟨context, hrun, rfl⟩, _, ⟨old, hold, rfl⟩, rfl⟩

-- ---------------------------------------------------------------------------
-- Additions
-- ---------------------------------------------------------------------------

/-- Everything that is read and written when an axis is added, up to its marks. -/
structure Addition (b : Builder) (o : AxisOptions) (index : Json) where
  next : Json
  bound : BoundScale
  scales : Json
  axis : ResolvedAxis
  dualMetric : Bool
  data : Json
  signals : Json
  oldAxes : List Json
  axes : List Fields
  context : Context
  isOpen : b.closed = false
  next_eq : (b.indexFor index).successor = .ok next
  bound_eq : boundScale b.scales o = .ok (bound, scales)
  axis_eq : o.resolveFor bound.type b.context.colorScheme (b.indexFor index) = .ok axis
  dualMetric_eq : dualMetricIn b.signals o = .ok dualMetric
  data_eq : grow b.data ((Note.all axis).flatMap Note.tables) = .ok data
  signals_eq : grow b.signals (axisSignals axis bound.name.spliced) = .ok signals
  oldAxes_eq : b.axes = .arr oldAxes
  axes_eq : (Axis.bundle
      (chartLevel { b with
        nextIndex := next, scales := narrowedScales o.range bound scales, data, signals } axis)
      { scaleName := ⟨bound.name⟩, opposingType := bound.opposingType, dualMetric }).run b.context =
    .ok axes context

namespace Addition

variable {index : Json}

def binding (a : Addition b o index) : Axis.Binding :=
  { scaleName := ⟨a.bound.name⟩, opposingType := a.bound.opposingType, dualMetric := a.dualMetric }

theorem binding_scaleName (a : Addition b o index) : a.binding.scaleName = ⟨a.bound.name⟩ :=
  rfl

def unmarked (a : Addition b o index) : Builder :=
  { b with
    nextIndex := a.next
    scales := narrowedScales o.range a.bound a.scales
    data := a.data
    signals := a.signals
    axes := .arr (a.oldAxes ++ a.axes.map .obj)
    context := a.context }

end Addition

theorem add_ok {index : Json} :
    (add o index).run b = .ok () b' ↔
      ∃ a : Addition b o index,
        (addMarks a.axis a.binding a.bound.dataField).run a.unmarked = .ok () b' := by
  simp only [add, run_bind_ok, run_get_ok, run_lift_ok, ensureOpen_ok, takeIndex_ok, bindScale_ok,
    isDualMetric_ok, addData_ok, addSignals_ok, narrowDomain_ok, addAxes_ok, and_assoc,
    exists_and_left, exists_eq_left', exists_const]
  constructor
  · rintro ⟨isOpen, _, ⟨next, next_eq, rfl⟩, bound, _, ⟨scales, bound_eq, rfl⟩, axis, axis_eq,
      dualMetric, dualMetric_eq, _, ⟨data, data_eq, rfl⟩, _, ⟨signals, signals_eq, rfl⟩, _,
      ⟨oldAxes, oldAxes_eq, axes, context, axes_eq, rfl⟩, hmarks⟩
    exact ⟨⟨next, bound, scales, axis, dualMetric, data, signals, oldAxes, axes, context, isOpen,
      next_eq, bound_eq, axis_eq, dualMetric_eq, data_eq, signals_eq, oldAxes_eq, axes_eq⟩, hmarks⟩
  · rintro ⟨a, hmarks⟩
    exact ⟨a.isOpen, _, ⟨a.next, a.next_eq, rfl⟩, a.bound, _, ⟨a.scales, a.bound_eq, rfl⟩, a.axis,
      a.axis_eq, a.dualMetric, a.dualMetric_eq, _, ⟨a.data, a.data_eq, rfl⟩, _,
      ⟨a.signals, a.signals_eq, rfl⟩, _,
      ⟨a.oldAxes, a.oldAxes_eq, a.axes, a.context, a.axes_eq, rfl⟩, hmarks⟩

end VegaAxes.Builder
