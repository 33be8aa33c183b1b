import VegaAxes.Proofs.Axis.Sides
import VegaAxes.Proofs.Json.Placing

/-!
# Offsets that accumulate

The rules of each thumbnail go after those of the ones before it (`mergeEncode_moved`), on all
axes with labels alike. `bundle_moved`: an axis on a band scale is drawn as without its
thumbnails, but that the offset of its labels along the side is the list of all their rules.
-/

namespace VegaAxes

theorem mapM_map {f : β → Except ε β} {g h : α → β} {as : List α}
    (hf : ∀ a ∈ as, f (g a) = .ok (h a)) : (as.map g).mapM f = .ok (as.map h) := by
  induction as with
  | nil => rfl
  | cons a as ih =>
    rw [List.forall_mem_cons] at hf
    rw [List.map_cons, List.mapM_cons]
    exact bind_ok.mpr ⟨h a, hf.1, bind_ok.mpr ⟨as.map h, ih hf.2, rfl⟩⟩

namespace Axis

open Thumbnail

variable {axis : Fields} {axes labels : List Fields} {o o' : ResolvedAxis} {b : Binding}
  {context context' : Context} {p : Position} {t : Thumbnail} {ts : List Thumbnail}
  {path : List String}

/-- The axis with the rules of all thumbnails for the offset of its labels, if there are any. -/
def moved (ts : List Thumbnail) (p : Position) (axis : Fields) : Fields :=
  if ts.isEmpty then axis
  else ((Json.obj axis).put (offsetPath p) (.arr (ts.flatMap (offsetRules p)))).ownFields

theorem moved_nil (p : Position) (axis : Fields) : moved [] p axis = axis :=
  rfl

theorem map_moved_nil (p : Position) (axes : List Fields) : axes.map (moved [] p) = axes :=
  List.map_id axes

theorem obj_moved (hts : ts ≠ []) : .obj (moved ts p axis) =
    (Json.obj axis).put (offsetPath p) (.arr (ts.flatMap (offsetRules p))) := by
  rw [moved, if_neg (by simpa using hts)]
  rfl

theorem descend_moved (hfree : OffsetFree axis) (hpath : Json.apart path (offsetPath p) = true) :
    (Json.obj (moved ts p axis)).descend path = (Json.obj axis).descend path := by
  by_cases hts : ts = []
  · rw [hts, moved_nil]
  · rw [obj_moved hts]
    exact Json.descend_put_of_apart hpath (hfree p) _

-- ---------------------------------------------------------------------------
-- One thumbnail after the other
-- ---------------------------------------------------------------------------

/-- The rules of another thumbnail are added to those that are there. -/
theorem mergeEncode_moved (hfree : OffsetFree axis) (ts : List Thumbnail) (t : Thumbnail) :
    mergeEncode (moved ts p axis) (t.labelEncoding p) = .ok (moved (ts ++ [t]) p axis) := by
  have hplaced (ts : List Thumbnail) (hts : ts ≠ []) : .obj (moved ts p axis) =
      (Json.obj axis).merge (.nested (offsetPath p) (.arr (ts.flatMap (offsetRules p)))) := by
    rw [obj_moved hts, Json.merge_nested_eq_put (hfree p)]
  have hfound : ∃ x, (Json.obj (moved ts p axis)).descend (offsetPath p) = .ok x := by
    by_cases hts : ts = []
    · exact ⟨none, by rw [hts, moved_nil]; exact hfree p⟩
    · exact ⟨_, by rw [obj_moved hts, Json.descend_put_self]⟩
  obtain ⟨x, hx⟩ := hfound
  obtain ⟨encode, hmerged, -⟩ := mergeEncode_ok hx (t.labelEncoding p)
  rw [hmerged, Except.ok.injEq, ← Json.obj.injEq, labelEncoding_merged hmerged,
    hplaced (ts ++ [t]) (by simp)]
  by_cases hts : ts = []
  · rw [hts, moved_nil, List.nil_append, List.flatMap_singleton]
  · rw [hplaced ts hts, Json.merge_merge_nested, List.flatMap_append, List.flatMap_singleton]

theorem foldlM_moved (hfree : ∀ axis ∈ axes, OffsetFree axis) (ts more : List Thumbnail) :
    more.foldlM (fun axes t => axes.mapM (mergeEncode · (t.labelEncoding p)))
      (axes.map (moved ts p)) =
      .ok (axes.map (moved (ts ++ more) p)) := by
  induction more generalizing ts with
  | nil =>
    rw [List.append_nil]
    rfl
  | cons t more ih =>
    rw [List.foldlM_cons, List.append_cons]
    exact bind_ok.mpr ⟨axes.map (moved (ts ++ [t]) p),
      mapM_map fun axis haxis => mergeEncode_moved (hfree axis haxis) ts t, ih (ts ++ [t])⟩

theorem clearThumbnails_moved (hband : o.scaleType = "band")
    (hfree : ∀ axis ∈ axes, OffsetFree axis) :
    clearThumbnails o axes = .ok (axes.map (moved (Thumbnail.all o) o.position)) := by
  have hsupports : Scale.supportsThumbnails o.scaleType = true := by
    rw [hband]
    rfl
  have hfold := foldlM_moved (p := o.position) hfree [] (Thumbnail.all o)
  rw [map_moved_nil, List.nil_append] at hfold
  rw [clearThumbnails, if_pos hsupports]
  exact hfold

-- ---------------------------------------------------------------------------
-- The axes of a description
-- ---------------------------------------------------------------------------

def baselined (o : ResolvedAxis) (b : Binding) (labels : List Fields) : List Fields :=
  labels.modifyHead (drawBaseline o b)

theorem baselined_offsetFree (hfree : ∀ axis ∈ labels, OffsetFree axis) :
    ∀ axis ∈ baselined o b labels, OffsetFree axis := by
  cases labels with
  | nil => exact hfree
  | cons axis labels =>
    rw [List.forall_mem_cons] at hfree
    rw [baselined, List.modifyHead_cons, List.forall_mem_cons]
    exact ⟨drawBaseline_offsetFree hfree.1, hfree.2⟩

/-- On a band scale axes get their baseline, their offsets and the axes of notes after them. -/
theorem decorate_moved (hband : o.scaleType = "band") (hfree : ∀ axis ∈ labels, OffsetFree axis) :
    decorate o b labels = .ok ((baselined o b labels).map (moved (Thumbnail.all o) o.position) ++
      (Note.all o).map (Note.layoutAxis b.scaleName)) := by
  have hdrawn : onFirst (fun axis => hideCovered o b (drawBaseline o b axis)) labels =
      .ok (baselined o b labels) := by
    cases labels with
    | nil => rfl
    | cons axis labels =>
      rw [onFirst, hideCovered_unsupported (by rw [hband]; decide)]
      rfl
  exact decorate_ok.mpr ⟨_, _, hdrawn,
    clearThumbnails_moved hband (baselined_offsetFree hfree), rfl⟩

def Binding.side (b : Binding) (o : ResolvedAxis) : Position :=
  Trellis.drawnSide b.scaleName o.position

/-- There is an empty axis for each note of an axis at the bottom. -/
theorem length_layoutAxes (h : Trellis.withHeader b.scaleName o = .ok o') :
    ((Note.all o').map (Note.layoutAxis b.scaleName)).length =
      if b.side o = .bottom then o.notes.length else 0 := by
  have hnotes : o'.notes = o.notes := Trellis.withHeader_keeps (F := (·.notes)) (fun _ _ => rfl) h
  rw [Binding.side, ← Trellis.position_header h, List.length_map, Note.all, Position.supportsNotes]
  by_cases hp : o'.position = .bottom
  · rw [if_pos (by simpa using hp), if_pos hp, List.length_mapIdx, hnotes]
  · rw [if_neg (by simpa using hp), if_neg hp]
    rfl

theorem decorate_header (hband : o.scaleType = "band")
    (ho' : Trellis.withHeader b.scaleName o = .ok o')
    (hlabels : (labelled o' b).run context = .ok labels context') :
    decorate o' b labels = .ok ((baselined o' b labels).map (moved (Thumbnail.all o) (b.side o)) ++
        (Note.all o').map (Note.layoutAxis b.scaleName)) ∧
      decorate o'.unthumbed b labels = .ok (baselined o' b labels ++
        (Note.all o').map (Note.layoutAxis b.scaleName)) := by
  have hfree := labelled_offsetFree hlabels
  have hband' : o'.scaleType = "band" := (scaleType_header ho').trans hband
  constructor
  · rw [← (thumbnails_header ho').1, Binding.side, ← Trellis.position_header ho']
    exact decorate_moved hband' hfree
  · have hdecorate := decorate_moved (o := o'.unthumbed) (b := b) hband' hfree
    have hnone : Thumbnail.all o'.unthumbed = [] := rfl
    rw [hnone, map_moved_nil] at hdecorate
    exact hdecorate

/-- With its thumbnails an axis on a band scale is drawn as without them, but that the labels of the
axes that show any are moved: there the offset along the side lists the rules of all thumbnails in
order, and every path that does not lead to it is as it was. -/
theorem bundle_moved (hband : o.scaleType = "band") :
    (bundle o b).run context = .ok axes context' ↔
      ∃ labels layouts, (bundle o.unthumbed b).run context = .ok (labels ++ layouts) context' ∧
        axes = labels.map (moved (Thumbnail.all o) (b.side o)) ++ layouts ∧
        layouts.length = (if b.side o = .bottom then o.notes.length else 0) ∧
        (∀ axis ∈ layouts, IsEmpty axis) ∧
        ∀ axis ∈ labels, ¬IsEmpty axis ∧
          ∀ path, Json.apart path (offsetPath (b.side o)) = true →
            (Json.obj (moved (Thumbnail.all o) (b.side o) axis)).descend path =
              (Json.obj axis).descend path := by
  have hheader {o' : ResolvedAxis} (ho' : Trellis.withHeader b.scaleName o = .ok o') :
      Trellis.withHeader b.scaleName o.unthumbed = .ok o'.unthumbed := by
    rw [withHeader_unthumbed, ho']
    rfl
  constructor
  · intro h
    obtain ⟨o', first, ho', hfirst, hdecorate⟩ := bundle_run_ok.mp h
    obtain ⟨hmoved, hplain⟩ := decorate_header hband ho' hfirst
    cases hdecorate.symm.trans hmoved
    have hrun := bundle_run_ok.mpr ⟨o'.unthumbed, first, hheader ho', hfirst, hplain⟩
    refine ⟨_, _, hrun, rfl, length_layoutAxes ho', ?_,
      fun axis haxis => ⟨?_, fun path hpath => ?_⟩⟩
    · intro axis haxis
      obtain ⟨a, -, rfl⟩ := List.mem_map.mp haxis
      exact isEmpty_layoutAxis b.scaleName a
    · obtain ⟨o'', labels, ho'', heq, hshown⟩ := bundle_emptyAxes hrun
      cases (hheader ho').symm.trans ho''
      cases List.append_cancel_right heq
      exact hshown axis haxis
    · exact descend_moved (baselined_offsetFree (labelled_offsetFree hfirst) axis haxis) hpath
  · rintro ⟨labels, layouts, hrun, rfl, hlength, -, -⟩
    obtain ⟨_, first, ho'', hfirst, hdecorate⟩ := bundle_run_ok.mp hrun
    rw [withHeader_unthumbed] at ho''
    obtain ⟨o', ho', rfl⟩ := map_ok.mp ho''
    obtain ⟨hmoved, hplain⟩ := decorate_header hband ho' hfirst
    -- the axes of notes are told from the others by their number
    have heq := Except.ok.inj (hdecorate.symm.trans hplain)
    obtain ⟨rfl, rfl⟩ := List.append_inj' heq (hlength.trans (length_layoutAxes ho').symm)
    exact bundle_run_ok.mpr ⟨o', first, ho', hfirst, hmoved⟩

def flags : ResolvedAxis where
  position := .bottom
  name := "axis0"
  scaleType := "band"
  thumbnails := [{}, { urlKey := some "flag" }]

theorem flags_moved :
    flags.scaleType = "band" ∧ ∃ axis rest context',
      (bundle flags ⟨⟨.str "xScale"⟩, .str "linear", false⟩).run ⟨.vertical, .light, .null⟩ =
        .ok (axis :: rest) context' ∧
      (Json.obj axis).descend ["encode", "labels", "update", "dy"] = .ok (some (.arr
        [whenHidden "axis0AxisThumbnail0", Encoding.signal "axis0AxisThumbnail0ThumbnailSize",
          whenHidden "axis0AxisThumbnail1",
            Encoding.signal "axis0AxisThumbnail1ThumbnailSize"])) := by
  have hheader : Trellis.withHeader ⟨.str "xScale"⟩ flags = .ok flags := rfl
  have hcount : ∃ next, (DualMetric.startedCount ⟨.vertical, .light, .null⟩).successor = .ok next :=
    ⟨_, rfl⟩
  obtain ⟨axes, context', hrun⟩ := bundle_succeeds
    (b := ⟨⟨.str "xScale"⟩, .str "linear", false⟩) hheader hcount
  obtain ⟨labels, layouts, hplain, rfl, hlength, -, -⟩ := (bundle_moved rfl).mp hrun
  obtain rfl : layouts = [] := List.length_eq_zero_iff.mp hlength
  cases labels with
  | nil => exact absurd (bundle_length_pos hplain) (by simp)
  | cons axis labels =>
    refine ⟨rfl, _, _, context', hrun, ?_⟩
    rw [obj_moved (by simp [Thumbnail.all, flags])]
    exact Json.descend_put_self _ _ _

end Axis

end VegaAxes
