import VegaAxes.Proofs.Axis.MovedLabels
import VegaAxes.Proofs.Axis.Untouched

/-!
# The side of a bundle

`bundle_orients`: all axes of a description stand on one side, which for a header is that of
headers. `bundle_offsets`: those that show anything have their labels moved past thumbnails as on
that side, and not at all if there are none.
-/

namespace VegaAxes.Axis

open DualMetric Thumbnail

variable {axis axis' : Fields} {axes labels : List Fields} {o : ResolvedAxis} {b : Binding}
  {context context' : Context} {p side : Position}

-- ---------------------------------------------------------------------------
-- Orients
-- ---------------------------------------------------------------------------

def StandsAt (side : Position) (axis : Fields) : Prop :=
  axis.get? "orient" = some (Vocabulary.toJson side)

theorem labelAxes_orients (h : axis ∈ labelAxes o b) : StandsAt o.position axis := by
  rcases mem_labelAxes h with rfl | rfl | rfl | rfl
  · exact (titled_get? (by simp)).trans (base_orient o)
  · exact (titled_get? (by simp)).trans (secondaryTime_orient o)
  · exact primaryTime_orient o
  · exact subLabels_orient o

/-- The empty axes of notes are at the bottom, as is every axis that has notes. -/
theorem layoutAxes_orients (scaleName : ScaleName)
    (h : axis ∈ (Note.all o).map (Note.layoutAxis scaleName)) : StandsAt o.position axis := by
  obtain ⟨a, ha, rfl⟩ := List.mem_map.mp h
  have hbottom : o.position = .bottom := by
    unfold Note.all at ha
    split at ha
    · next hsupports => simpa [Position.supportsNotes] using hsupports
    · cases ha
  rw [hbottom]
  rfl

theorem bundle_orients (h : (bundle o b).run context = .ok axes context') :
    ∀ axis ∈ axes, StandsAt (Trellis.drawnSide b.scaleName o.position) axis := by
  obtain ⟨o', labels, ho', hlabels, hdecorate⟩ := bundle_run_ok.mp h
  obtain ⟨labels', rfl, horigin⟩ := decorate_origin hdecorate
  rw [← Trellis.position_header ho']
  intro axis' haxis'
  rcases List.mem_append.mp haxis' with haxis' | haxis'
  · have horients := (horigin.trans (labelled_origin hlabels)) "orient" (by simp [decoratedKeys])
    have hmem : axis'.get? "orient" ∈ (labelAxes o' b).map (·.get? "orient") :=
      horients ▸ List.mem_map_of_mem haxis'
    obtain ⟨axis, haxis, heq⟩ := List.mem_map.mp hmem
    exact heq.symm.trans (labelAxes_orients haxis)
  · exact layoutAxes_orients b.scaleName haxis'

-- ---------------------------------------------------------------------------
-- Offsets
-- ---------------------------------------------------------------------------

/-- Labels have just the offset that moves them past the thumbnails of an axis on the side. -/
def LabelsMoved (ts : List Thumbnail) (side : Position) (axis : Fields) : Prop :=
  ∀ p, (Json.obj axis).descend (offsetPath p) = .ok
    (if ts ≠ [] ∧ offsetKey p = offsetKey side then some (.arr (ts.flatMap (offsetRules side)))
    else none)

theorem OffsetFree.labelsMoved (h : OffsetFree axis) : LabelsMoved [] side axis := by
  intro p
  rw [h p, if_neg (by simp)]

theorem labelsMoved_of_merged {ts : List Thumbnail} (hts : ts ≠ []) (hfree : OffsetFree axis)
    (h : .obj axis' = (Json.obj axis).merge
      (.nested (offsetPath side) (.arr (ts.flatMap (offsetRules side))))) :
    LabelsMoved ts side axis' := by
  intro p
  rw [h]
  by_cases hkey : offsetKey p = offsetKey side
  · rw [if_pos ⟨hts, hkey⟩, offsetPath, hkey]
    exact Json.descend_merge_nested (hfree side)
  · have hapart : Json.apart (offsetPath p) (offsetPath side) = true := by
      revert hkey
      cases p <;> cases side <;> decide
    rw [if_neg (by simp [hkey]), Json.descend_merge_nested_of_apart hapart (hfree side)]
    exact hfree p

def movingThumbnails (o : ResolvedAxis) : List Thumbnail :=
  if o.movesLabels then Thumbnail.all o else []

theorem hideCovered_offsetFree (h : OffsetFree axis) (haxis : hideCovered o b axis = .ok axis') :
    OffsetFree axis' := by
  unfold hideCovered at haxis
  split at haxis
  · obtain ⟨text, -, haxis⟩ := bind_ok.mp haxis
    split at haxis
    · cases haxis
      intro p
      rw [Json.descend_modifyPath_of_apart (by cases p <;> decide)]
      exact h p
    · cases haxis
      exact h
  · cases haxis
    exact h

theorem clearThumbnails_offsets (hfree : ∀ axis ∈ labels, OffsetFree axis)
    (h : clearThumbnails o labels = .ok axes) :
    ∀ axis ∈ axes, LabelsMoved (movingThumbnails o) o.position axis := by
  unfold movingThumbnails
  cases hmoves : o.movesLabels with
  | false =>
    cases (clearThumbnails_still hmoves).symm.trans h
    exact fun axis haxis => (hfree axis haxis).labelsMoved
  | true =>
    intro axis' haxis'
    have hmerged := clearThumbnails_merged hmoves h
    obtain ⟨i, hi, rfl⟩ := List.getElem_of_mem haxis'
    have hi' : i < labels.length := hmerged.length_eq ▸ hi
    exact labelsMoved_of_merged (all_ne_nil hmoves) (hfree _ (List.getElem_mem hi'))
      (hmerged.get hi' hi)

theorem decorate_offsets (hfree : ∀ axis ∈ labels, OffsetFree axis)
    (h : decorate o b labels = .ok axes) :
    ∀ axis ∈ axes, ¬IsEmpty axis → LabelsMoved (movingThumbnails o) o.position axis := by
  obtain ⟨drawn, cleared, hdrawn, hcleared, rfl⟩ := decorate_ok.mp h
  have hdrawnFree := onFirst_forall
    (fun hfree haxis => hideCovered_offsetFree (drawBaseline_offsetFree hfree) haxis) hfree hdrawn
  intro axis haxis hshown
  rcases List.mem_append.mp haxis with haxis | haxis
  · exact clearThumbnails_offsets hdrawnFree hcleared axis haxis
  · -- the axes of notes come after labels are moved, and show none
    obtain ⟨a, -, rfl⟩ := List.mem_map.mp haxis
    exact absurd (isEmpty_layoutAxis b.scaleName a) hshown

theorem bundle_offsets (h : (bundle o b).run context = .ok axes context') :
    ∀ axis ∈ axes, ¬IsEmpty axis →
      LabelsMoved (movingThumbnails o) (Trellis.drawnSide b.scaleName o.position) axis := by
  obtain ⟨o', labels, ho', hlabels, hdecorate⟩ := bundle_run_ok.mp h
  obtain ⟨hall, hmoves⟩ := thumbnails_header ho'
  have hmoving : movingThumbnails o' = movingThumbnails o := by
    rw [movingThumbnails, movingThumbnails, hall, hmoves]
  rw [← Trellis.position_header ho', ← hmoving]
  exact decorate_offsets (labelled_offsetFree hlabels) hdecorate

end VegaAxes.Axis
