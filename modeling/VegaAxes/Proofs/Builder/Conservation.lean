import VegaAxes.Proofs.Builder.MarkGrowth
import VegaAxes.Proofs.Builder.Runs
import VegaAxes.Proofs.Builder.ScaleBinding

/-!
# Conservation

A run of calls loses, reorders and rewrites nothing of the document. `Conserved`
says what may change: all lists grow, the trellis group grows, and the domains of
some scales are narrowed. `add_conserved` is one step, `runs_conserved` a whole run.
-/

namespace VegaAxes.Builder

variable {b b' b'' : Builder} {o : AxisOptions} {index : Json} {calls : List Call}
  {narrowed narrowed' : Nat → Prop}

/-- The five lists are lists, and so are those of the trellis group. -/
structure Listed (b : Builder) : Prop where
  scales : ∃ items, b.scales = .arr items
  axes : ∃ items, b.axes = .arr items
  marks : ∃ items, b.marks = .arr items ∧ GroupHasLists items
  signals : ∃ items, b.signals = .arr items
  data : ∃ items, b.data = .arr items

/-- The axis narrows the scale at the place: it has a range, and is bound to that scale,
which is linear or a time scale. -/
def NarrowsAt (b : Builder) (o : AxisOptions) (place : Nat) : Prop :=
  o.range.isSome ∧ ∃ bound, Scale.resolve b.scales o.position = .ok bound ∧ bound.place = place ∧
    (Fields.getD bound.scale.ownFields "type").orElse (.str "linear") ∈ [.str "linear", .str "time"]

inductive NarrowedIn : Builder → List Call → Nat → Prop where
  | head {b : Builder} {c : Call} {cs : List Call} {place : Nat} {o : AxisOptions}
    (options : c.options = .ok o) (narrows : NarrowsAt b o place) : NarrowedIn b (c :: cs) place
  | tail {b b' : Builder} {c : Call} {cs : List Call} {place : Nat}
    (head : c.run.run b = .ok () b') (tail : NarrowedIn b' cs place) : NarrowedIn b (c :: cs) place

structure Conserved (narrowed : Nat → Prop) (b b' : Builder) : Prop where
  extra : b'.extra = b.extra
  usermeta : b'.usermeta = b.usermeta
  data : b.data.Extends b'.data
  signals : b.signals.Extends b'.signals
  axes : b.axes.Extends b'.axes
  scales : ∃ old new, b.scales = .arr old ∧ b'.scales = .arr new ∧ Scale.Kept narrowed old new
  marks : ∃ old new, b.marks = .arr old ∧ b'.marks = .arr new ∧ MarksKept old new

theorem Conserved.refl (narrowed : Nat → Prop) (hb : Listed b) : Conserved narrowed b b where
  extra := rfl
  usermeta := rfl
  data := by
    obtain ⟨items, h⟩ := hb.data
    exact h ▸ .refl items
  signals := by
    obtain ⟨items, h⟩ := hb.signals
    exact h ▸ .refl items
  axes := by
    obtain ⟨items, h⟩ := hb.axes
    exact h ▸ .refl items
  scales := by
    obtain ⟨items, h⟩ := hb.scales
    exact ⟨items, items, h, h, .refl _ _⟩
  marks := by
    obtain ⟨items, h, -⟩ := hb.marks
    exact ⟨items, items, h, h, .refl _⟩

theorem Conserved.mono (h : Conserved narrowed b b') (hsub : ∀ i, narrowed i → narrowed' i) :
    Conserved narrowed' b b' := by
  obtain ⟨old, new, hold, hnew, hkept⟩ := h.scales
  exact { h with scales := ⟨old, new, hold, hnew, hkept.mono hsub⟩ }

theorem Conserved.trans (h : Conserved narrowed b b') (h' : Conserved narrowed b' b'') :
    Conserved narrowed b b'' where
  extra := h'.extra.trans h.extra
  usermeta := h'.usermeta.trans h.usermeta
  data := h.data.trans h'.data
  signals := h.signals.trans h'.signals
  axes := h.axes.trans h'.axes
  scales := by
    obtain ⟨old, new, hold, hnew, hkept⟩ := h.scales
    obtain ⟨new', newer, hnew', hnewer, hkept'⟩ := h'.scales
    obtain rfl : new = new' := by simpa [hnew] using hnew'
    exact ⟨old, newer, hold, hnewer, hkept.trans hkept'⟩
  marks := by
    obtain ⟨old, new, hold, hnew, hkept⟩ := h.marks
    obtain ⟨new', newer, hnew', hnewer, hkept'⟩ := h'.marks
    obtain rfl : new = new' := by simpa [hnew] using hnew'
    exact ⟨old, newer, hold, hnewer, hkept.trans hkept'⟩

-- ---------------------------------------------------------------------------
-- One call
-- ---------------------------------------------------------------------------

theorem Addition.scales_kept (a : Addition b o index) {items : List Json}
    (hitems : b.scales = .arr items) :
    ∃ new, narrowedScales o.range a.bound a.scales = .arr new ∧
      Scale.Kept (NarrowsAt b o) items new := by
  have hbound := a.bound_eq
  rw [hitems] at hbound
  obtain ⟨⟨r, hr, hplace, hscale⟩, htype, -, -⟩ := boundScale_arr hbound
  obtain ⟨new, hnew, hchanged⟩ := narrowedScales_ok hbound
  refine ⟨new, hnew, (Scale.kept_completed _ o.position items).trans (Scale.kept_narrowed ?_)⟩
  refine hchanged.mono fun place ⟨hi, hrange, hnarrow⟩ => ⟨hrange, r, hitems ▸ hr, hi ▸ hplace, ?_⟩
  rw [hscale, Json.ownFields, ← htype]
  exact hnarrow

theorem add_conserved (hb : Listed b) (h : (add o index).run b = .ok () b') :
    Conserved (NarrowsAt b o) b b' ∧ Listed b' := by
  obtain ⟨a, h⟩ := add_ok.mp h
  obtain ⟨scales, hscales⟩ := hb.scales
  obtain ⟨marks, hmarks, hgroup⟩ := hb.marks
  obtain ⟨signals, hsignals⟩ := hb.signals
  obtain ⟨data, hdata⟩ := hb.data
  obtain ⟨scales', hscales', hscalesKept⟩ := a.scales_kept hscales
  have hdata' := a.data_eq
  have hsignals' := a.signals_eq
  rw [hdata, grow_arr, Except.ok.injEq] at hdata'
  rw [hsignals, grow_arr, Except.ok.injEq] at hsignals'
  obtain ⟨marks', rfl, hmarksKept, hgroup'⟩ := addMarks_kept (b := a.unmarked) hmarks hgroup h
  refine ⟨⟨rfl, rfl, ?_, ?_, ?_, ?_, ?_⟩, ⟨?_, ?_, ?_, ?_, ?_⟩⟩
  · exact ⟨data, _, hdata, hdata'.symm⟩
  · exact ⟨signals, _, hsignals, hsignals'.symm⟩
  · exact ⟨a.oldAxes, _, a.oldAxes_eq, rfl⟩
  · exact ⟨scales, scales', hscales, hscales', hscalesKept⟩
  · exact ⟨marks, marks', hmarks, rfl, hmarksKept⟩
  · exact ⟨scales', hscales'⟩
  · exact ⟨_, rfl⟩
  · exact ⟨marks', rfl, hgroup'⟩
  · exact ⟨_, hsignals'.symm⟩
  · exact ⟨_, hdata'.symm⟩

-- ---------------------------------------------------------------------------
-- Runs
-- ---------------------------------------------------------------------------

theorem runs_conserved (h : Runs b calls b') (hb : Listed b) :
    Conserved (NarrowedIn b calls) b b' := by
  induction h with
  | nil => exact .refl _ hb
  | cons head tail ih =>
    obtain ⟨o, ho, hadd⟩ := Call.run_ok.mp head
    obtain ⟨hstep, hb'⟩ := add_conserved hb hadd
    exact (hstep.mono fun _ hplace => .head ho hplace).trans
      ((ih hb').mono fun _ hplace => .tail head hplace)

def narrowings : List Call :=
  [.read { position := .bottom, range := some (1, 5), baseline := true } .null,
    .read { position := .top, range := some (0, 4) } .null]

theorem bars_conserved :
    ∃ b, Runs bars narrowings b ∧ Conserved (NarrowedIn bars narrowings) bars b := by
  have hsome : (after bars narrowings).isSome = true := by decide +kernel
  obtain ⟨b, hb⟩ := Option.isSome_iff_exists.mp hsome
  have hrun := after_eq_some.mp hb
  have hgroup : Trellis.findGroup? 0 [.obj [("name", .str "bars"), ("type", .str "rect")]] =
      .ok none := by rfl
  refine ⟨b, hrun, runs_conserved hrun ⟨⟨_, rfl⟩, ⟨_, rfl⟩, ⟨_, rfl, ?_⟩, ⟨_, rfl⟩, ⟨_, rfl⟩⟩⟩
  intro place g hplace
  cases hgroup.symm.trans hplace

end VegaAxes.Builder
