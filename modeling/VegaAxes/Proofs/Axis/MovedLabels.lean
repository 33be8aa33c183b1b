import Mathlib.Data.List.Forall2
import VegaAxes.Proofs.Axis.Every
import VegaAxes.Proofs.Axis.HiddenLabels
import VegaAxes.Proofs.Document.Validity
import VegaAxes.Proofs.Trellis.Mention

/-!
# Labels moved past thumbnails

Axes come without offsets for their labels (`labelled_offsetFree`), and those for thumbnails are
merged in where labels have theirs (`MovedPast`). `bundle_unthumbed`: without its thumbnails an
axis is drawn with its labels where they were, and nothing else is other. That makes no difference
to whether a trellis group is mentioned (`MovedPast.isMentioned`), and the axis is valid if it was
with its labels moved (`MovedPast.valid`).
-/

namespace VegaAxes

theorem forall₂_of_mapM {f : α → Except ε β} {as : List α} {bs : List β} (h : as.mapM f = .ok bs) :
    List.Forall₂ (fun a b => f a = .ok b) as bs := by
  induction as generalizing bs with
  | nil =>
    obtain rfl := pure_ok.mp h
    exact .nil
  | cons a as ih =>
    rw [List.mapM_cons, bind_ok] at h
    obtain ⟨b, hb, h⟩ := h
    obtain ⟨bs, hbs, h⟩ := bind_ok.mp h
    obtain rfl := pure_ok.mp h
    exact .cons hb (ih hbs)

theorem forall₂_of_foldlM_mapM {f : β → α → Except ε β} {as : List α} {bs bs' : List β}
    (h : as.foldlM (fun bs a => bs.mapM (f · a)) bs = .ok bs') :
    List.Forall₂ (fun b b' => as.foldlM f b = .ok b') bs bs' := by
  induction as generalizing bs with
  | nil =>
    obtain rfl := pure_ok.mp h
    exact List.forall₂_same.mpr fun _ _ => rfl
  | cons a as ih =>
    rw [List.foldlM_cons, bind_ok] at h
    obtain ⟨bs₁, h₁, h⟩ := h
    obtain ⟨hlen, hfirst⟩ := List.forall₂_iff_get.mp (forall₂_of_mapM h₁)
    obtain ⟨hlen', hrest⟩ := List.forall₂_iff_get.mp (ih h)
    refine List.forall₂_iff_get.mpr ⟨hlen.trans hlen', fun i hi hi' => ?_⟩
    rw [List.foldlM_cons]
    exact bind_ok.mpr ⟨_, hfirst i hi (hlen ▸ hi), hrest i (hlen ▸ hi) hi'⟩

namespace Thumbnail

variable {p : Position} {t : Thumbnail}

def offsetKey : Position → String
  | .left | .right => "dx"
  | .top | .bottom => "dy"

def offsetPath (p : Position) : List String :=
  ["encode", "labels", "update", offsetKey p]

/-- How far labels are moved: by the size of the thumbnail, away from the plot. -/
def offsetSize (p : Position) (t : Thumbnail) : String :=
  match p with
  | .left | .top => s!"-{sizeName t.name}"
  | .right | .bottom => sizeName t.name

theorem sizeName_plain {name : String} (h : 'G' ∉ name.toList) : 'G' ∉ (sizeName name).toList :=
  Text.not_mem_append h (y := "ThumbnailSize") (by decide)

def offsetRules (p : Position) (t : Thumbnail) : List Json :=
  [whenHidden t.name, Encoding.signal (t.offsetSize p)]

theorem labelEncoding_eq (p : Position) (t : Thumbnail) :
    t.labelEncoding p =
      [("labels", Json.nested ["update", offsetKey p] (.arr (t.offsetRules p)))] := by
  cases p <;> rfl

end Thumbnail

open Thumbnail in
/-- The axis is the same, or its labels, which had no offset, are moved past the thumbnails. -/
def MovedPast (ts : List Thumbnail) (v w : Json) : Prop :=
  w = v ∨ ∃ p, v.descend (offsetPath p) = .ok none ∧
    w = v.merge (.nested (offsetPath p) (.arr (ts.flatMap (offsetRules p))))

namespace ResolvedAxis

def unthumbed (o : ResolvedAxis) : ResolvedAxis :=
  { o with thumbnails := [] }

/-- Whether the labels are moved past thumbnails, be they drawn or not. -/
def movesLabels (o : ResolvedAxis) : Bool :=
  Scale.supportsThumbnails o.scaleType && !o.thumbnails.isEmpty

end ResolvedAxis

namespace Axis

open DualMetric Thumbnail

variable {axis axis' encodings : Fields} {axes axes' labels : List Fields} {o o' : ResolvedAxis}
  {b : Binding} {context context' : Context} {scaleName : ScaleName} {key : String} {v : Json}
  {p : Position} {t : Thumbnail} {ts : List Thumbnail}

-- ---------------------------------------------------------------------------
-- Merged offsets
-- ---------------------------------------------------------------------------

theorem mergeEncode_nested (h : mergeEncode axis [(key, v)] = .ok axis') :
    .obj axis' = (Json.obj axis).merge (.nested ["encode", key] v) := by
  have hget : axis.getD "encode" = (axis.get? "encode").getD .null := rfl
  rw [Json.obj_merge_nested]
  simp only [mergeEncode, hget] at h
  cases hencode : axis.get? "encode" with
  | none =>
    simp only [hencode] at h
    cases h
    rfl
  | some encode =>
    have hmerged (hempty : encode.truthy = false) :
        encode.merge (.nested [key] v) = .nested [key] v := by
      cases encode with
      | obj fs =>
        cases fs with
        | nil => exact Json.obj_merge_nested
        | cons field fs => cases hempty
      | _ => exact Json.merge_nested_of_not_obj (by simp)
    simp only [hencode, Option.getD_some] at h
    by_cases htruthy : encode.truthy = true
    · rw [if_pos htruthy] at h
      obtain ⟨old, hold, h⟩ := bind_ok.mp h
      cases h
      cases encode with
      | obj fs =>
        cases hold
        rfl
      | _ => cases hold
    · rw [if_neg htruthy] at h
      cases h
      rw [Option.elim_some, hmerged (by simpa using htruthy)]
      rfl

theorem labelEncoding_merged (h : mergeEncode axis (t.labelEncoding p) = .ok axis') :
    .obj axis' = (Json.obj axis).merge (.nested (offsetPath p) (.arr (t.offsetRules p))) := by
  rw [labelEncoding_eq] at h
  exact mergeEncode_nested h

theorem labelEncodings_merged (hts : ts ≠ [])
    (h : ts.foldlM (fun axis t => mergeEncode axis (t.labelEncoding p)) axis = .ok axis') :
    .obj axis' =
      (Json.obj axis).merge (.nested (offsetPath p) (.arr (ts.flatMap (offsetRules p)))) := by
  induction ts generalizing axis with
  | nil => exact absurd rfl hts
  | cons t ts ih =>
    rw [List.foldlM_cons, bind_ok] at h
    obtain ⟨axis₁, h₁, h⟩ := h
    cases ts with
    | nil =>
      obtain rfl := pure_ok.mp h
      rw [List.flatMap_cons, List.flatMap_nil, List.append_nil]
      exact labelEncoding_merged h₁
    | cons t' ts =>
      rw [ih (List.cons_ne_nil t' ts) h, labelEncoding_merged h₁, Json.merge_merge_nested]
      rfl

-- ---------------------------------------------------------------------------
-- Axes without offsets
-- ---------------------------------------------------------------------------

def OffsetFree (axis : Fields) : Prop :=
  ∀ p, (Json.obj axis).descend (offsetPath p) = .ok none

theorem OffsetFree.congr (h : OffsetFree axis)
    (hencode : axis'.get? "encode" = axis.get? "encode") :
    OffsetFree axis' := by
  intro p
  rw [offsetPath, Json.descend_congr hencode]
  exact h p

theorem offsetFree_of_labels {labels : Fields}
    (hencode : axis.get? "encode" = some (encodeLabels labels))
    (h : ∀ p, (Json.obj labels).descend ["update", offsetKey p] = .ok none) : OffsetFree axis :=
  fun p => Json.descend_cons_ok.mpr (.inl ⟨_, hencode, h p⟩)

theorem offsetFree_of_bare (hencode : axis.get? "encode" = none) : OffsetFree axis :=
  fun _ => Json.descend_cons_ok.mpr (.inr ⟨hencode, rfl⟩)

theorem base_offsetFree (o : ResolvedAxis) (scaleName : ScaleName) :
    OffsetFree (base o scaleName) := by
  unfold base
  split
  · refine offsetFree_of_labels (Fields.get?_present rfl (by simp [encodeLabels])) fun p => ?_
    cases p <;> rfl
  · refine offsetFree_of_labels (Fields.get?_set_self _ _ _) fun p => ?_
    cases o.hasTooltip <;> cases p <;> rfl

theorem secondaryTime_offsetFree (o : ResolvedAxis) (scaleName : ScaleName) :
    OffsetFree (secondaryTime scaleName o) := by
  have hencode := secondaryTime_encode o scaleName
  split at hencode
  · exact offsetFree_of_labels hencode fun p => by cases p <;> rfl
  · exact offsetFree_of_bare hencode

theorem primaryTime_offsetFree (o : ResolvedAxis) (scaleName : ScaleName) :
    OffsetFree (primaryTime scaleName o) := by
  refine offsetFree_of_labels (Fields.get?_present rfl (by simp [encodeLabels])) fun p => ?_
  cases p <;> rfl

theorem subLabels_offsetFree (o : ResolvedAxis) (scaleName : ScaleName) :
    OffsetFree (subLabels o scaleName) :=
  offsetFree_of_labels (subLabels_encode o scaleName) fun p => by cases p <;> rfl

theorem titled_offsetFree (h : OffsetFree axis) : OffsetFree (titled o axis) := by
  unfold titled padTitle
  split
  · exact h.congr (Fields.get?_set_of_ne _ _ (by simp))
  · exact h

theorem labelAxes_offsetFree (h : axis ∈ labelAxes o b) : OffsetFree axis := by
  rcases mem_labelAxes h with rfl | rfl | rfl | rfl
  · exact titled_offsetFree (base_offsetFree o _)
  · exact titled_offsetFree (secondaryTime_offsetFree o _)
  · exact primaryTime_offsetFree o _
  · exact subLabels_offsetFree o _

theorem inRole_offsetFree {role : MetricRole} {name : String} {scheme : ColorScheme}
    (h : OffsetFree axis) (haxis : inRole role name scheme axis = .ok axis') :
    OffsetFree axis' := by
  intro p
  refine mergeEncode_of_upper haxis (encodings_unique ..) ?_ ?_
  · cases role <;> cases p <;> rfl
  · exact h.congr (Fields.get?_set_of_ne _ _ (by simp)) p

theorem labelled_offsetFree (h : (labelled o b).run context = .ok labels context') :
    ∀ axis ∈ labels, OffsetFree axis :=
  labelled_forall inRole_offsetFree (fun _ => labelAxes_offsetFree) h

theorem drawBaseline_offsetFree (h : OffsetFree axis) : OffsetFree (drawBaseline o b axis) := by
  unfold drawBaseline withBaseline
  split
  · exact h
  · refine h.congr ?_
    rw [Fields.get?_set_of_ne _ _ (by simp), Fields.get?_set_of_ne _ _ (by simp)]

-- ---------------------------------------------------------------------------
-- Axes without thumbnails
-- ---------------------------------------------------------------------------

theorem clearThumbnails_still (h : o.movesLabels = false) : clearThumbnails o axes = .ok axes := by
  unfold clearThumbnails
  split
  · next hsupports =>
    have hnone : o.thumbnails = [] := by simpa [ResolvedAxis.movesLabels, hsupports] using h
    rw [Thumbnail.all, hnone]
    rfl
  · rfl

theorem all_ne_nil (h : o.movesLabels = true) : Thumbnail.all o ≠ [] := by
  obtain ⟨-, hsome⟩ : Scale.supportsThumbnails o.scaleType = true ∧ o.thumbnails ≠ [] := by
    simpa [ResolvedAxis.movesLabels] using h
  simpa [Thumbnail.all] using hsome

theorem clearThumbnails_merged (hmoves : o.movesLabels = true)
    (h : clearThumbnails o axes = .ok axes') :
    List.Forall₂ (fun axis axis' => .obj axis' = (Json.obj axis).merge
      (.nested (offsetPath o.position)
        (.arr ((Thumbnail.all o).flatMap (offsetRules o.position))))) axes axes' := by
  have hsupports : Scale.supportsThumbnails o.scaleType = true := (Bool.and_eq_true_iff.mp hmoves).1
  rw [clearThumbnails, if_pos hsupports] at h
  exact (forall₂_of_foldlM_mapM h).imp fun _ _ => labelEncodings_merged (all_ne_nil hmoves)

/-- A scale with thumbnails has no reference lines. -/
theorem hideCovered_of_moves (h : o.movesLabels = true) : hideCovered o b axis = .ok axis := by
  obtain ⟨htype, -⟩ : o.scaleType = "band" ∧ o.thumbnails ≠ [] := by
    simpa [ResolvedAxis.movesLabels, Scale.supportsThumbnails] using h
  exact if_neg (by rw [htype]; decide)

theorem withHeader_unthumbed (scaleName : ScaleName) (o : ResolvedAxis) :
    Trellis.withHeader scaleName o.unthumbed =
      (Trellis.withHeader scaleName o).map ResolvedAxis.unthumbed := by
  unfold Trellis.withHeader
  rcases Trellis.Header.ofScale? scaleName with _ | _ | _ <;> rfl

theorem thumbnails_header (h : Trellis.withHeader scaleName o = .ok o') :
    Thumbnail.all o' = Thumbnail.all o ∧ o'.movesLabels = o.movesLabels :=
  ⟨Trellis.withHeader_keeps (fun _ _ => rfl) h, Trellis.withHeader_keeps (fun _ _ => rfl) h⟩

theorem ne_merge_offset {rules : List Json} (h : OffsetFree axis) :
    Json.obj axis ≠ (Json.obj axis).merge (.nested (offsetPath p) (.arr rules)) := by
  intro heq
  have hmerged := Json.descend_merge_nested (v := .arr rules) (h p)
  rw [← heq] at hmerged
  cases (h p).symm.trans hmerged

/-- Axes that had no offsets are decorated as without their thumbnails, but for moved labels. -/
theorem decorate_unthumbed (hne : labels ≠ []) (hfree : ∀ axis ∈ labels, OffsetFree axis)
    (h : decorate o b labels = .ok axes) :
    ∃ axes', decorate o.unthumbed b labels = .ok axes' ∧
      List.Forall₂ (fun axis axis' =>
        MovedPast (Thumbnail.all o) (.obj axis) (.obj axis')) axes' axes ∧
      (axes' = axes ↔ o.movesLabels = false) := by
  obtain ⟨drawn, cleared, hdrawn, hcleared, rfl⟩ := decorate_ok.mp h
  have hplain : decorate o.unthumbed b labels =
      .ok (drawn ++ (Note.all o).map (Note.layoutAxis b.scaleName)) := by
    refine decorate_ok.mpr ⟨drawn, drawn, hdrawn, clearThumbnails_still ?_, rfl⟩
    exact Bool.and_false _
  refine ⟨_, hplain, ?_⟩
  have hsame (axes : List Fields) :
      List.Forall₂ (fun axis axis' =>
        MovedPast (Thumbnail.all o) (.obj axis) (.obj axis')) axes axes :=
    List.forall₂_same.mpr fun _ _ => .inl rfl
  rw [List.append_left_inj]
  cases hmoves : o.movesLabels with
  | false =>
    cases (clearThumbnails_still hmoves).symm.trans hcleared
    exact ⟨hsame _, by simp⟩
  | true =>
    have hmerged := clearThumbnails_merged hmoves hcleared
    cases labels with
    | nil => exact absurd rfl hne
    | cons first rest =>
      simp only [List.mem_cons, forall_eq_or_imp] at hfree
      obtain ⟨hfirst, hrest⟩ := hfree
      have hbase := drawBaseline_offsetFree (o := o) (b := b) hfirst
      rw [onFirst, hideCovered_of_moves hmoves] at hdrawn
      obtain rfl := Except.ok.inj hdrawn
      have hdrawnFree : ∀ axis ∈ drawBaseline o b first :: rest, OffsetFree axis := by
        simp only [List.mem_cons, forall_eq_or_imp]
        exact ⟨hbase, hrest⟩
      refine ⟨List.rel_append ?_ (hsame _), ?_⟩
      · exact ((List.forall₂_and_left _ _).mpr ⟨hdrawnFree, hmerged⟩).imp
          fun _ _ h => .inr ⟨_, h.1 _, h.2⟩
      · cases hmerged with
        | cons hhead _ =>
          simp only [reduceCtorEq, iff_false, List.cons.injEq, not_and]
          intro heq
          subst heq
          exact absurd hhead (ne_merge_offset hbase)

/-- Without its thumbnails an axis is drawn alike, but for labels that are not moved. -/
theorem bundle_unthumbed (h : (bundle o b).run context = .ok axes context') :
    ∃ axes', (bundle o.unthumbed b).run context = .ok axes' context' ∧
      List.Forall₂ (fun axis axis' =>
        MovedPast (Thumbnail.all o) (.obj axis) (.obj axis')) axes' axes ∧
      (axes' = axes ↔ o.movesLabels = false) := by
  obtain ⟨o', labels, ho', hlabels, hdecorate⟩ := bundle_run_ok.mp h
  have hne : labels ≠ [] := by
    obtain ⟨hlen, -⟩ := labelled_formed (searchable_of_header ho') hlabels
    obtain ⟨rest, hmain⟩ := labelAxes_main o' b
    rw [hmain] at hlen
    exact List.ne_nil_of_length_pos (by simp [hlen])
  obtain ⟨axes', hdecorate', hmoved, hsame⟩ :=
    decorate_unthumbed hne (labelled_offsetFree hlabels) hdecorate
  obtain ⟨hall, hmoves⟩ := thumbnails_header ho'
  rw [hall] at hmoved
  rw [hmoves] at hsame
  refine ⟨axes', bundle_run_ok.mpr ⟨o'.unthumbed, labels, ?_, hlabels, hdecorate'⟩, hmoved, hsame⟩
  rw [withHeader_unthumbed, ho']
  rfl

end Axis

-- ---------------------------------------------------------------------------
-- Mentions in moved labels
-- ---------------------------------------------------------------------------

section

open Trellis Thumbnail

variable {t : Thumbnail} {ts : List Thumbnail} {v w : Json}

theorem isMentioned_whenHidden {name : String} (h : 'G' ∉ name.toList) :
    isMentioned (whenHidden name) = false := by
  have htest : 'G' ∉ (sizeName name ++ " < " ++ toString minSize).toList :=
    Text.not_mem_append (Text.not_mem_append (sizeName_plain h) (by decide)) (by decide)
  have hvalue : isMentioned (.int 0) = false := isMentioned_number (.inr rfl)
  rw [whenHidden, Encoding.testedValue, isMentioned_obj]
  simp only [List.any_cons, List.any_nil, Bool.or_false, hvalue, Bool.or_eq_false_iff]
  exact ⟨⟨isMentioned_str (by decide), isMentioned_str htest⟩, isMentioned_str (by decide)⟩

theorem isMentioned_offsetRules {p : Position} (h : 'G' ∉ t.name.toList) :
    isMentioned (.arr (t.offsetRules p)) = false := by
  have hname := sizeName_plain h
  have hsize : 'G' ∉ (t.offsetSize p).toList := by
    cases p
    · exact Text.not_mem_append (by decide) hname
    · exact hname
    · exact Text.not_mem_append (by decide) hname
    · exact hname
  rw [isMentioned_arr, offsetRules, List.any_cons, List.any_cons, List.any_nil,
    isMentioned_whenHidden h, isMentioned_signal hsize]
  rfl

/-- Moved labels make no difference to whether a group is mentioned, if no thumbnail is named for
one. -/
theorem MovedPast.isMentioned (h : MovedPast ts v w) (hts : ∀ t ∈ ts, 'G' ∉ t.name.toList) :
    isMentioned w = isMentioned v := by
  rcases h with rfl | ⟨p, hnone, rfl⟩
  · rfl
  · have hpath : ∀ key ∈ offsetPath p, 'G' ∉ key.toList := by
      cases p <;> decide
    have hrules : ∀ rule ∈ ts.flatMap (offsetRules p), Trellis.isMentioned rule = false := by
      intro rule hrule
      obtain ⟨t, ht, hrule⟩ := List.mem_flatMap.mp hrule
      have hnone := isMentioned_offsetRules (p := p) (hts t ht)
      rw [isMentioned_arr, List.any_eq_false] at hnone
      simpa using hnone rule hrule
    refine isMentioned_merge_nested (fun key hkey => isMentioned_str (hpath key hkey)) ?_ hnone
    rw [isMentioned_arr, List.any_eq_false]
    simpa using hrules

/-- An axis is valid where its labels are if it is valid with them moved. -/
theorem MovedPast.valid (h : MovedPast ts v w) (hw : Document.ValidAxis w) :
    Document.ValidAxis v := by
  rcases h with rfl | ⟨p, hnone, rfl⟩
  · exact hw
  · have hpath : Json.apart Encoding.labelTextPath (offsetPath p) = true := by
      cases p <;> decide
    obtain ⟨fs, rfl⟩ := Json.descend_ok_none hnone
    obtain ⟨merged, hmerged, hw⟩ := hw
    have hother {key : String} (hkey : key ≠ "encode") :
        Fields.getD merged key = Fields.getD fs key := by
      rw [offsetPath, Json.obj_merge_nested, Json.obj.injEq] at hmerged
      rw [← hmerged]
      exact Fields.getD_eq_of_get? (Fields.get?_set_of_ne _ _ hkey) _
    refine ⟨fs, rfl, ?_, ?_, ?_⟩
    · rw [← hother (by simp)]
      exact hw.scale
    · rw [← hother (by simp)]
      exact hw.orient
    obtain ⟨text, htext, hrules⟩ := hw.text
    rw [← hmerged, Json.descend_merge_nested_of_apart hpath hnone] at htext
    exact ⟨text, htext, hrules⟩

end

end VegaAxes
