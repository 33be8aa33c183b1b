import VegaAxes.Proofs.Builder.Changes
import VegaAxes.Proofs.Builder.ChartScale
import VegaAxes.Proofs.Builder.FacetAxes

/-!
# Charts without a trellis group

A chart has no trellis group when an axis is added (`Untrellised`) if no mark is named for a trellis
then. A build adds such a mark for no axis but one with a note that the caller has named so, so that
a chart without a group stays one (`untrellised_throughout`).
-/

namespace VegaAxes.Builder

open Document Scale Trellis

variable {b b' : Builder} {o : AxisOptions} {r : ResolvedAxis} {axes : List AxisOptions}
  {binding : Axis.Binding} {ms : List Json} {m : Json} {n : Nat}

def sizeMentions (scaleName : String) : Bool :=
  isMentioned (Thumbnail.sizeSignal "" scaleName)

/-- The marks are a list without a trellis group, and the sizes of thumbnails, which name the scale
of the axis, mention none. -/
structure Untrellised (b : Builder) (o : AxisOptions) : Prop where
  marks : ∃ ms, b.marks = .arr ms ∧ findGroup? 0 ms = .ok none
  sizes : sizeMentions (chartName b o) = false

def ScalesApart (items : List Json) : Prop :=
  ∀ scale ∈ items, ∀ name, nameOf scale.ownFields = .ok name → sizeMentions name.spliced = false

/-- No note has a name of the caller's that is that of a trellis. -/
def NotesApart (notes : List NoteOptions) : Prop :=
  ∀ note ∈ notes, ∀ name, given note.name = some name → Text.contains name "Trellis" = false

/-- Neither the names in the chart nor those that the axes bring make a trellis of it. -/
structure NamedApart (b : Builder) (axes : List AxisOptions) : Prop where
  marks : ∃ ms, b.marks = .arr ms ∧ findGroup? 0 ms = .ok none
  scales : ∀ items, b.scales = .arr items → ScalesApart items
  names : ∀ o ∈ axes, ∀ name, given o.name = some name → sizeMentions name = false
  notes : ∀ o ∈ axes, NotesApart o.notes

-- ---------------------------------------------------------------------------
-- Marks
-- ---------------------------------------------------------------------------

theorem mem_based (h : m ∈ based r binding ms) : m ∈ ms ∨ Unmentioning m := by
  have hrule : Unmentioning (Baseline.rule (.float r.baselineOffset) r.position) := by
    refine unmentioning_of_name rfl ?_
    unfold Baseline.name
    split <;> decide
  unfold based at h
  split at h
  · split at h
    · rcases List.mem_append.mp h with h | h
      · exact .inl h
      · exact .inr (List.mem_singleton.mp h ▸ hrule)
    · rcases List.mem_cons.mp h with rfl | h
      · exact .inr hrule
      · exact .inl h
  · exact .inl h

theorem noteMark_unmentioning {note : Note} {scaleName : ScaleName}
    (h : Text.contains note.name "Trellis" = false) : Unmentioning (note.mark scaleName) := by
  have hgroup : Text.contains (note.name ++ "_group") "Trellis" = false := by
    rw [Text.contains, String.toList_append]
    exact (Text.occursIn_append_cons (by decide) (by decide)).trans
      (Bool.or_eq_false_iff.mpr ⟨h, by decide⟩)
  unfold Note.mark
  cases note.format <;> exact unmentioning_of_name rfl hgroup

theorem note_apart {note : Note} (hname : PlainName r.name) (hnotes : NotesApart r.notes)
    (h : note ∈ Note.all r) : Text.contains note.name "Trellis" = false := by
  unfold Note.all at h
  split at h
  · obtain ⟨i, hi, rfl⟩ := List.mem_mapIdx.mp h
    rw [Note.ofOptions]
    cases hgiven : given r.notes[i].name with
    | some name => exact hnotes _ (List.getElem_mem hi) name hgiven
    | none =>
      have hsuffix : 'T' ∉ ("Annotation" ++ toString i).toList :=
        Text.not_mem_append (by decide) (not_mem_numbered (by decide) i)
      exact String.append_assoc .. ▸ hname _ hsuffix
  · cases h

theorem Addition.decorations_unmentioning (a : Addition b o (.int n))
    (hnotes : NotesApart o.notes) {scaleName : ScaleName} {dataField : Option String}
    (h : m ∈ decorations a.axis scaleName dataField) : Unmentioning m := by
  have hfeatures : a.axis.notes = o.notes :=
    congrArg AxisFeatures.notes (AxisOptions.resolveFor_features a.axis_eq)
  rw [← hfeatures] at hnotes
  rcases List.mem_append.mp h with h | h
  · obtain ⟨note, hnote, rfl⟩ := List.mem_map.mp h
    exact noteMark_unmentioning (note_apart a.name_plain hnotes hnote)
  · split at h
    · split at h
      · obtain ⟨t, ht, rfl⟩ := List.mem_map.mp h
        obtain ⟨i, -, rfl⟩ := List.mem_mapIdx.mp ht
        refine unmentioning_of_letter (c := 'r') rfl (by decide) ?_
        rw [Thumbnail.ofOptions, a.name_eq]
        exact Text.not_mem_append (Text.not_mem_append (Text.not_mem_append (by decide)
          (not_mem_numbered (by decide) n)) (y := "AxisThumbnail") (by decide))
          (not_mem_numbered (by decide) i)
      · cases h
    · cases h

theorem Addition.addMarks_groupless (a : Addition b o (.int n)) (hm : b.marks = .arr ms)
    (hgroup : findGroup? 0 ms = .ok none) (hnotes : NotesApart o.notes)
    (h : (addMarks a.axis a.binding a.bound.dataField).run a.unmarked = .ok () b') :
    ∃ ms', b'.marks = .arr ms' ∧ findGroup? 0 ms' = .ok none := by
  have hlined := lined_groupless a.binding.scaleName a.name_plain hgroup
  rcases (addMarks_ok (b := a.unmarked) hm).mp h with ⟨-, rfl⟩ | ⟨_, _, _, hsome, -⟩
  · refine ⟨_, rfl, findGroup?_none.mpr fun m hm => ?_⟩
    rcases List.mem_append.mp hm with hm | hm
    · rcases mem_based hm with hm | hm
      · exact findGroup?_none.mp hlined m hm
      · exact hm
    · exact a.decorations_unmentioning hnotes hm
  · cases hlined.symm.trans hsome

-- ---------------------------------------------------------------------------
-- Names of scales
-- ---------------------------------------------------------------------------

theorem mem_missing {e : Extent} {items : List Json} {scale : Json} (h : scale ∈ missing e items) :
    scale = e.defaultScale := by
  unfold missing at h
  split at h
  · cases h
  · exact List.mem_singleton.mp h

theorem mem_completed {p : Position} {items : List Json} {scale : Json}
    (h : scale ∈ completed p items) : scale ∈ items ∨ ∃ e : Extent, scale = e.defaultScale := by
  rcases List.mem_append.mp h with h | h
  · rcases List.mem_append.mp h with h | h
    · exact .inl h
    · exact .inr ⟨_, mem_missing h⟩
  · exact .inr ⟨_, mem_missing h⟩

theorem ScalesApart.completed {items : List Json} (h : ScalesApart items) (p : Position) :
    ScalesApart (completed p items) := by
  intro scale hscale name hname
  rcases mem_completed hscale with hscale | ⟨e, rfl⟩
  · exact h scale hscale name hname
  · cases e <;> cases hname <;> decide +kernel

/-- An axis leaves scales with the names of those that it is bound among. -/
theorem Addition.scales_apart (a : Addition b o (.int n))
    (h : ∀ items, b.scales = .arr items → ScalesApart items) {new : List Json}
    (hnew : a.unmarked.scales = .arr new) : ScalesApart new := by
  obtain ⟨items, hitems⟩ := a.scales_list
  have hbound := a.bound_eq
  rw [hitems] at hbound
  obtain ⟨narrowed, hnarrowed, hchanged⟩ := narrowedScales_ok hbound
  obtain rfl : narrowed = new := Json.arr.inj (hnarrowed.symm.trans hnew)
  have hnames := hchanged.map_eq (F := fun scale => nameOf scale.ownFields) fun hsame => by
    rw [Json.ownFields, Json.ownFields, nameOf, nameOf, hsame "name" (by simp)]
  intro scale hscale name hname
  obtain ⟨old, hold, heq⟩ := exists_of_map_eq hnames hscale
  exact (h items hitems).completed o.position old hold name (heq.trans hname)

theorem sizeMentions_chartName
    (hname : ∀ name, given o.name = some name → sizeMentions name = false)
    (h : ∀ items, b.scales = .arr items → ScalesApart items) :
    sizeMentions (chartName b o) = false := by
  unfold chartName
  cases hbound : boundScale b.scales o with
  | error e =>
    show sizeMentions "" = false
    decide +kernel
  | ok found =>
    obtain ⟨bound, scales⟩ := found
    have hbound' := hbound
    simp only [boundScale, bind_ok, pure_ok, Prod.mk.injEq] at hbound'
    obtain ⟨r, hr, fields, -, name, hown, _, -, _, -, rfl, -⟩ := hbound'
    obtain ⟨items, hitems⟩ := resolve_list hr
    rw [hitems] at hbound
    obtain ⟨-, -, -, hplace⟩ := boundScale_arr hbound
    show sizeMentions name.spliced = false
    unfold boundName at hown
    split at hown
    · next own hgiven =>
      cases hown
      exact hname own hgiven
    · exact (h items hitems).completed o.position _ (List.mem_of_getElem? hplace) name hown

-- ---------------------------------------------------------------------------
-- Builds
-- ---------------------------------------------------------------------------

theorem NamedApart.untrellised (h : NamedApart b (o :: axes)) : Untrellised b o :=
  ⟨h.marks, sizeMentions_chartName (h.names o (by simp)) h.scales⟩

theorem NamedApart.step (h : NamedApart b (o :: axes)) (hrun : (add o (.int n)).run b = .ok () b') :
    NamedApart b' axes := by
  obtain ⟨a, hmarks⟩ := add_ok.mp hrun
  obtain ⟨ms, hms, hgroup⟩ := h.marks
  have hscales : b'.scales = a.unmarked.scales :=
    (congrArg Builder.scales (addMarks_frame hmarks)).symm
  refine ⟨a.addMarks_groupless hms hgroup (h.notes o (by simp)) hmarks, ?_,
    fun o ho => h.names o (List.mem_cons_of_mem _ ho),
    fun o ho => h.notes o (List.mem_cons_of_mem _ ho)⟩
  intro new hnew
  exact a.scales_apart h.scales (hscales ▸ hnew)

/-- Where no name makes a trellis of the chart, there is no trellis group throughout the build. -/
theorem untrellised_throughout (h : NamedApart b axes) : Throughout Untrellised b n axes := by
  induction axes generalizing b n with
  | nil => trivial
  | cons o axes ih => exact ⟨h.untrellised, fun b' hadd => ih (h.step hadd)⟩

end VegaAxes.Builder
