import VegaAxes.Proofs.Builder.Finish
import VegaAxes.Proofs.Builder.Receptive

/-!
# Well-formed builds

A builder is `WellFormed` for axes that are yet to be added if its document is valid, axes can be
bound to its scales and put into its trellis group, and the names that are still to be generated
are free. Then the next axis can be added, and leaves the builder well formed for those after it
(`add_wellFormed`), so that the whole build succeeds (`addEach_wellFormed`)
and finishes with a valid document (`finished_valid`).
-/

namespace VegaAxes.Builder

open Document Scale

variable {b : Builder} {o : AxisOptions} {os : List AxisOptions} {r : ResolvedAxis} {n : Nat}
  {v : Json} {names rest : List String}

-- ---------------------------------------------------------------------------
-- Free names
-- ---------------------------------------------------------------------------

def itemsOf : Json → List Json
  | .arr items => items
  | _ => []

def pending (b : Builder) (n : Nat) (os : List AxisOptions) : List ResolvedAxis :=
  resolvedAxes (boundType (itemsOf b.scales)) b.context.colorScheme n os

/-- A list of entries with names of their own, in which the given names are free. -/
def Fresh (v : Json) (names : List String) : Prop :=
  ∃ entries, v = .arr entries ∧
    (∀ entry ∈ entries, ∃ name, entryName? entry = some name ∧ name ≠ "") ∧
      (namesOf entries ++ names).Nodup

theorem Fresh.grow (h : Fresh v (names ++ rest)) (hne : "" ∉ names) {new : List Json}
    (hnew : new.map entryName? = names.map some) : ∃ w, grow v new = .ok w ∧ Fresh w rest := by
  obtain ⟨entries, rfl, hnamed, hdistinct⟩ := h
  have hnames : namesOf new = names := by
    rw [namesOf_eq, hnew, List.filterMap_map]
    exact List.filterMap_some
  refine ⟨_, grow_arr, entries ++ new, rfl, fun entry hentry => ?_, ?_⟩
  · rcases List.mem_append.mp hentry with hentry | hentry
    · exact hnamed entry hentry
    · obtain ⟨name, hname, heq⟩ := exists_of_map_eq hnew hentry
      exact ⟨name, heq.symm, fun h => hne (h ▸ hname)⟩
  · rw [namesOf_append, hnames, List.append_assoc]
    exact hdistinct

theorem Fresh.named (h : Fresh v names) : ∃ entries, v = .arr entries ∧ Named entries := by
  obtain ⟨entries, rfl, hnamed, hdistinct⟩ := h
  exact ⟨entries, rfl, hnamed, (List.nodup_append.mp hdistinct).1⟩

-- ---------------------------------------------------------------------------
-- One axis
-- ---------------------------------------------------------------------------

/-- The builder can take the axes, the first of them at place `n`. -/
structure WellFormed (n : Nat) (os : List AxisOptions) (b : Builder) : Prop where
  isOpen : b.closed = false
  usermeta : b.usermeta = .null ∨ ∃ fs, b.usermeta = .obj fs
  extra : ∀ field ∈ b.extra, field.1 ∉ ownKeys
  count : IsCount b.context.metricAxisCount
  scales : ∃ items, b.scales = .arr items ∧ Scale.Sound items
  axes : ∃ items, b.axes = .arr items ∧ ∀ axis ∈ items, ValidAxis axis
  marks : ∃ ms, b.marks = .arr ms ∧ SoundMarks ms
  signals : Fresh b.signals ((b.pending n os).flatMap ResolvedAxis.generatedSignals)
  data : Fresh b.data ((b.pending n os).flatMap ResolvedAxis.generatedTables)

theorem Fresh.objects (h : Fresh v names) :
    ∃ entries, v = .arr entries ∧ ∀ entry ∈ entries, isObject entry = true := by
  obtain ⟨entries, hv, hnamed⟩ := h.named
  exact ⟨entries, hv, hnamed.isObject⟩

theorem WellFormed.receptive (h : WellFormed n os b) : Receptive b := by
  obtain ⟨items, hscales, hsound⟩ := h.scales
  obtain ⟨axes, haxes, -⟩ := h.axes
  obtain ⟨ms, hms, hmarks⟩ := h.marks
  obtain ⟨tables, hdata, -⟩ := h.data.objects
  exact ⟨h.isOpen, h.count, ⟨items, hscales, hsound.bindable⟩, ⟨axes, haxes⟩,
    ⟨ms, hms, hmarks.searchable⟩, h.signals.objects, ⟨tables, hdata⟩⟩

theorem pending_cons {items : List Json} (hscales : b.scales = .arr items) :
    b.pending n (o :: os) =
      o.resolve (some (boundType items o.position)) b.context.colorScheme n ::
        resolvedAxes (boundType items) b.context.colorScheme (n + 1) os := by
  rw [pending, hscales]
  rfl

theorem Addition.unmarked_wellFormed (a : Addition b o (.int n)) (h : WellFormed n (o :: os) b) :
    WellFormed (n + 1) os a.unmarked := by
  obtain ⟨items, hscales, hsound⟩ := h.scales
  obtain ⟨oldAxes, haxes, hvalid⟩ := h.axes
  obtain ⟨-, haxis⟩ := a.bound_named hscales hsound.bindable
  obtain ⟨hcount, hcontext⟩ := a.context_ok
  have hbound := a.bound_eq
  rw [hscales] at hbound
  obtain ⟨narrowed, hnarrowed, hsound', hsame⟩ := narrowedScales_sound hsound hbound
  have hrest : a.unmarked.pending (n + 1) os =
      resolvedAxes (boundType items) b.context.colorScheme (n + 1) os := by
    have hscheme : a.unmarked.context.colorScheme = b.context.colorScheme :=
      congrArg (·.colorScheme) hcontext
    have hitems : a.unmarked.scales = .arr narrowed := hnarrowed
    rw [pending, hscheme, hitems, itemsOf, hsame]
  have hsignals := h.signals
  have hdata := h.data
  rw [pending_cons hscales, List.flatMap_cons, ← haxis] at hsignals hdata
  refine ⟨h.isOpen, h.usermeta, h.extra, hcount.isCount h.count, ⟨narrowed, hnarrowed, hsound'⟩,
    ⟨_, rfl, fun axis hmem => ?_⟩, h.marks, ?_, ?_⟩
  · rcases List.mem_append.mp hmem with hmem | hmem
    · exact hvalid axis (Json.arr.inj (a.oldAxes_eq.symm.trans haxes) ▸ hmem)
    · obtain ⟨fs, hfs, rfl⟩ := List.mem_map.mp hmem
      exact a.axes_valid h.receptive fs hfs
  · obtain ⟨signals, hgrown, hfresh⟩ :=
      hsignals.grow generatedSignals_ne_empty (axisSignals_names _ a.bound.name.spliced)
    obtain rfl := Except.ok.inj (hgrown.symm.trans a.signals_eq)
    exact hrest ▸ hfresh
  · obtain ⟨data, hgrown, hfresh⟩ := hdata.grow generatedTables_ne_empty (tables_names _)
    obtain rfl := Except.ok.inj (hgrown.symm.trans a.data_eq)
    exact hrest ▸ hfresh

theorem add_wellFormed (h : WellFormed n (o :: os) b) :
    ∃ b', (add o (.int n)).run b = .ok () b' ∧ WellFormed (n + 1) os b' := by
  obtain ⟨a, ms, ms', hms, hrun, hreceptive, hadded⟩ := add_receptive h.receptive o n
  obtain ⟨_, heq, hsearchable⟩ := hreceptive.marks
  cases heq
  obtain ⟨_, hms', hsound⟩ := h.marks
  cases hms.symm.trans hms'
  have hmarks : SoundMarks ms' :=
    ⟨hadded.valid hsound.valid, hsearchable.named, hsearchable.group⟩
  exact ⟨_, hrun, { a.unmarked_wellFormed h with marks := ⟨ms', rfl, hmarks⟩ }⟩

theorem addEach_wellFormed (h : WellFormed n os b) :
    ∃ b', (addEach add n os).run b = .ok () b' ∧ WellFormed (n + os.length) [] b' := by
  induction os generalizing n b with
  | nil => exact ⟨b, rfl, h⟩
  | cons o os ih =>
    obtain ⟨b₁, hadd, h₁⟩ := add_wellFormed h
    obtain ⟨b₂, hrun, h₂⟩ := ih h₁
    refine ⟨b₂, run_bind_ok.mpr ⟨(), b₁, hadd, hrun⟩, ?_⟩
    rw [List.length_cons, Nat.add_comm os.length, ← Nat.add_assoc]
    exact h₂

theorem finished_valid (h : WellFormed n os b) : Document.validate b.finished.toJson = .ok () := by
  obtain ⟨scales, hscales, hsound⟩ := h.scales
  obtain ⟨axes, haxes, hvalid⟩ := h.axes
  obtain ⟨marks, hmarks, hsoundMarks⟩ := h.marks
  obtain ⟨signals, hsignals, hnamedSignals⟩ := h.signals.named
  obtain ⟨data, hdata, hnamedData⟩ := h.data.named
  have hrest {key : String} (hkey : key ∈ ownKeys) := getD_finished h.extra hkey
  rw [finished_toJson]
  rw [finished_lists] at hrest ⊢
  refine validate_ok.mpr ⟨scales, axes, marks, signals, data, ?_, ?_, ?_, ?_, ?_,
    hsound.named, hnamedSignals, hnamedData, hvalid, hsoundMarks.valid⟩
  · exact (hrest (by simp [ownKeys])).trans hscales
  · exact (hrest (by simp [ownKeys])).trans haxes
  · exact (hrest (by simp [ownKeys])).trans hmarks
  · exact (hrest (by simp [ownKeys])).trans hsignals
  · exact (hrest (by simp [ownKeys])).trans hdata

end VegaAxes.Builder
