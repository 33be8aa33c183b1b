import VegaAxes.Proofs.Axis.Sides
import VegaAxes.Proofs.Builder.NotePieces

/-!
# The side of an axis

The axes of a description stand at the side that it is drawn at, which the name of its scale may
change (`Trellis.drawnSide`), and their labels are moved past thumbnails as on that side. The images
of the thumbnails and the anchors of the labels are for the side that is described. `add_sides`: for
every axis that is added, these agree exactly if that is the same side, or nothing that is drawn
tells the two apart.
-/

namespace VegaAxes.Builder

open Axis

variable {b b' : Builder} {o : AxisOptions} {r : ResolvedAxis} {index : Json}
  {scaleName : ScaleName}
  {dataField : Option String} {p q side : Position} {direction : Orientation} {align : LabelAlign}

-- ---------------------------------------------------------------------------
-- Anchors
-- ---------------------------------------------------------------------------

def entryAt (side : Position) (direction : Orientation) (label : Option LabelAlign × Fields) :
    Fields :=
  label.2.overlay (Label.controlledAnchor side direction label.1).toFields.present

def styledLabels (r : ResolvedAxis) : List (Option LabelAlign × Fields) :=
  (r.labels.filterMap AxisLabel.style?).map fun l => (l.align, l.entry)

def styledSubLabels (r : ResolvedAxis) : List (Option LabelAlign × Fields) :=
  if r.hasSubLabels then r.subLabels.map fun l => (l.align, l.entry) else []

/-- The signals of the labels and the sub-labels, as they are anchored for an axis at the side. -/
def labelSignals (r : ResolvedAxis) (side : Position) : List Json :=
  (if r.labels.isEmpty then []
    else [Encoding.namedValue (labelSignal r)
      (.arr ((styledLabels r).map fun l => .obj (entryAt side r.labelOrientation l)))]) ++
  if r.hasSubLabels then
    [Encoding.namedValue (subLabelSignal r)
      (.arr ((styledSubLabels r).map fun l => .obj (entryAt side r.labelOrientation l)))]
  else []

theorem axisSignals_eq (r : ResolvedAxis) (name : String) :
    axisSignals r name = labelSignals r r.position ++ (Note.all r).flatMap Note.signals ++
      (Thumbnail.all r).map fun t => Thumbnail.sizeSignal t.name name := by
  have hlabels : Label.signalEntries r.labels r.position r.labelOrientation =
      (styledLabels r).map fun l => .obj (entryAt r.position r.labelOrientation l) := by
    rw [styledLabels, List.map_map]
    rfl
  rw [axisSignals, labelSignals, hlabels]
  congr 3
  split
  · next hshown =>
    rw [styledSubLabels, if_pos hshown, List.map_map]
    rfl
  · rfl

def IsAnchored (anchor : Anchor) (entry : Fields) : Prop :=
  entry.get? "align" = some (textJson anchor.align) ∧
    entry.get? "baseline" = some (textJson anchor.baseline)

theorem IsAnchored.unique {anchor anchor' : Anchor} {entry : Fields} (h : IsAnchored anchor entry)
    (h' : IsAnchored anchor' entry) : anchor = anchor' := by
  have htext {s s' : Option String} (heq : some (textJson s) = some (textJson s')) : s = s' := by
    cases s <;> cases s' <;> simp_all [textJson, Json.ofOption]
  obtain ⟨align, baseline⟩ := anchor
  obtain ⟨align', baseline'⟩ := anchor'
  rw [Anchor.mk.injEq]
  exact ⟨htext (h.1.symm.trans h'.1), htext (h.2.symm.trans h'.2)⟩

theorem entryAt_isAnchored (side : Position) (direction : Orientation) (align : LabelAlign)
    (entry : Fields) :
    IsAnchored (Label.anchor side direction align)
      (entryAt side direction (some align, entry)) := by
  obtain ⟨⟨x, hx⟩, y, hy⟩ :
      (∃ x, (Label.anchor side direction align).align = some x) ∧
        ∃ y, (Label.anchor side direction align).baseline = some y := by
    unfold Label.anchor
    split <;> exact ⟨⟨_, rfl⟩, _, rfl⟩
  have hfields : (Label.anchor side direction align).toFields.present =
      [("align", .str x), ("baseline", .str y)] := by
    rw [Anchor.toFields, hx, hy]
    rfl
  have hunique : Fields.Unique [("align", Json.str x), ("baseline", Json.str y)] := by
    simp [Fields.Unique, Fields.keys]
  rw [IsAnchored, hx, hy, entryAt, Label.controlledAnchor, hfields, Fields.get?_overlay hunique,
    Fields.get?_overlay hunique]
  exact ⟨rfl, rfl⟩

-- ---------------------------------------------------------------------------
-- Images
-- ---------------------------------------------------------------------------

theorem place_injective {name field thumbnail : String}
    (h : Thumbnail.place name field p thumbnail = Thumbnail.place name field q thumbnail) :
    p = q := by
  -- only the places before the plot start with a minus
  have hbefore (after : String) (hafter : after.toList.head? ≠ some '-') :
      s!"-{Thumbnail.distance} - {Thumbnail.sizeName thumbnail}" ≠ after := by
    intro heq
    refine hafter ?_
    rw [← heq]
    simp only [String.toList_append, List.head?_append]
    rfl
  have hwidth := hbefore s!"width + {Thumbnail.distance}" (by decide)
  have hheight := hbefore s!"height + {Thumbnail.distance}" (by decide)
  cases p <;> cases q <;>
    simp_all [Thumbnail.place, Encoding.signal]

theorem mark_injective {name field : String} {t : Thumbnail}
    (h : Thumbnail.mark name field p t = Thumbnail.mark name field q t) : p = q := by
  simp only [Thumbnail.mark, Json.obj.injEq, List.cons.injEq, Prod.mk.injEq, List.append_left_inj,
    true_and, and_true] at h
  exact place_injective h

theorem images_eq_iff :
    images r scaleName dataField p = images r scaleName dataField q ↔
      p = q ∨ images r scaleName dataField q = [] := by
  unfold images
  cases given dataField with
  | none => simp
  | some field =>
    cases Scale.supportsThumbnails r.scaleType with
    | false => simp
    | true =>
      cases Thumbnail.all r with
      | nil => simp
      | cons t ts =>
        constructor
        · exact fun h => .inl (mark_injective (List.cons.inj h).1)
        · rintro (rfl | h)
          · rfl
          · cases h

-- ---------------------------------------------------------------------------
-- Agreement
-- ---------------------------------------------------------------------------

/-- What is drawn for the axis apart from it, for the side that is described, is as the axis needs
it at the side: the images of its thumbnails, and the anchors of all labels that are aligned. -/
structure AgreesAt (r : ResolvedAxis) (scaleName : ScaleName) (dataField : Option String)
    (side : Position) : Prop where
  images : images r scaleName dataField r.position = images r scaleName dataField side
  labels : ∀ l ∈ styledLabels r ++ styledSubLabels r, ∀ align ∈ l.1,
    IsAnchored (Label.anchor side r.labelOrientation align)
      (entryAt r.position r.labelOrientation l)

theorem isAnchored_iff {entry : Fields} :
    IsAnchored (Label.anchor side direction align) (entryAt p direction (some align, entry)) ↔
      Label.anchor p direction align = Label.anchor side direction align := by
  constructor
  · exact (entryAt_isAnchored p direction align entry).unique
  · intro heq
    rw [← heq]
    exact entryAt_isAnchored p direction align entry

theorem agreesAt_iff :
    AgreesAt r scaleName dataField side ↔
      r.position = side ∨ images r scaleName dataField side = [] ∧
        ∀ l ∈ styledLabels r ++ styledSubLabels r, ∀ align ∈ l.1,
          Label.anchor r.position r.labelOrientation align =
            Label.anchor side r.labelOrientation align := by
  constructor
  · intro h
    rcases images_eq_iff.mp h.images with hsame | hnone
    · exact .inl hsame
    · refine .inr ⟨hnone, fun l hl align halign => ?_⟩
      obtain ⟨own, entry⟩ := l
      obtain rfl : own = some align := halign
      exact isAnchored_iff.mp (h.labels _ hl align rfl)
  · intro h
    refine ⟨images_eq_iff.mpr (h.imp_right And.left), fun l hl align halign => ?_⟩
    obtain ⟨own, entry⟩ := l
    obtain rfl : own = some align := halign
    refine isAnchored_iff.mpr ?_
    rcases h with rfl | ⟨-, hanchors⟩
    · rfl
    · exact hanchors _ hl align rfl

-- ---------------------------------------------------------------------------
-- Sides of what is added
-- ---------------------------------------------------------------------------

def imageMarks (b : Builder) : Nat :=
  (itemsOf b.marks).countP (isOfType "image")

theorem countP_images (r : ResolvedAxis) (scaleName : ScaleName) (dataField : Option String)
    (side : Position) :
    (images r scaleName dataField side).countP (isOfType "image") =
      (images r scaleName dataField side).length := by
  refine countP_eq_length_of fun m hm => ?_
  obtain ⟨t, field, rfl⟩ := mem_images hm
  rfl

theorem imageless_noteMarks (scaleName : ScaleName) (notes : List Note) :
    (notes.map (Note.mark scaleName)).countP (isOfType "image") = 0 := by
  refine countP_eq_zero_of fun m hm => ?_
  obtain ⟨a, -, rfl⟩ := List.mem_map.mp hm
  unfold Note.mark
  cases a.format <;> rfl

/-- The images of the thumbnails come last, and no others are added. -/
theorem addMarks_images {binding : Axis.Binding}
    (h : (addMarks r binding dataField).run b = .ok () b') :
    (∃ rest, itemsOf b'.marks = rest ++ images r binding.scaleName dataField r.position) ∧
      imageMarks b' =
        imageMarks b + (images r binding.scaleName dataField r.position).length := by
  cases hm : b.marks with
  | arr ms =>
    obtain ⟨rest, heq, hrest⟩ := addMarks_pieces hm h
    rw [imageMarks, imageMarks, heq, hm]
    refine ⟨⟨_, rfl⟩, ?_⟩
    rw [itemsOf, itemsOf, List.countP_append, List.countP_append, hrest "image" (by decide),
      imageless_noteMarks, countP_images]
    rfl
  | _ =>
    obtain ⟨rfl, -, hnone⟩ := pieceless (by simp [hm]) h
    rw [hnone]
    exact ⟨⟨_, (List.append_nil _).symm⟩, rfl⟩

/-- All axes stand at the side, and their labels are moved past thumbnails as on it. The signals of
labels and the images, besides which no image is added, are for the side that is described. -/
structure SidesAdded (a : Addition b o index) (side : Position) (b' : Builder) : Prop where
  axes : b'.axes = .arr (a.oldAxes ++ a.axes.map .obj)
  someAxis : a.axes ≠ []
  orients : ∀ axis ∈ a.axes, StandsAt side axis
  offsets : ∀ axis ∈ a.axes, ¬IsEmpty axis → LabelsMoved (movingThumbnails a.axis) side axis
  signals : grow b.signals (labelSignals a.axis o.position ++
    (Note.all a.axis).flatMap Note.signals ++
    (Thumbnail.all a.axis).map fun t => Thumbnail.sizeSignal t.name a.bound.name.spliced) =
      .ok b'.signals
  images : ∃ rest, itemsOf b'.marks =
    rest ++ images a.axis ⟨a.bound.name⟩ a.bound.dataField o.position
  imageCount : imageMarks b' =
    imageMarks b + (Builder.images a.axis ⟨a.bound.name⟩ a.bound.dataField o.position).length

theorem Addition.position_eq (a : Addition b o index) : a.axis.position = o.position :=
  congrArg AxisFeatures.position (AxisOptions.resolveFor_features a.axis_eq)

theorem Addition.sidesAdded (a : Addition b o index)
    (h : (addMarks a.axis a.binding a.bound.dataField).run a.unmarked = .ok () b') :
    SidesAdded a (Trellis.drawnSide ⟨a.bound.name⟩ o.position) b' := by
  have hframe := addMarks_frame h
  have hsignals : b'.signals = a.signals := congrArg Builder.signals hframe.symm
  have haxes : b'.axes = .arr (a.oldAxes ++ a.axes.map .obj) := congrArg Builder.axes hframe.symm
  obtain ⟨himages, hcount⟩ := addMarks_images h
  rw [← a.position_eq]
  refine ⟨haxes, List.ne_nil_of_length_pos (bundle_length_pos a.axes_eq), bundle_orients a.axes_eq,
    bundle_offsets a.axes_eq, ?_, ?_, ?_⟩
  · rw [hsignals, ← a.position_eq, ← axisSignals_eq]
    exact a.signals_eq
  · rw [← a.position_eq]
    exact himages
  · rw [← a.position_eq]
    exact hcount

/-- Every axis that is added stands at the side that it is drawn at with its labels moved past
thumbnails, and with images and anchors for the side that is described. These agree exactly if the
two sides are one, or no image is drawn and no label that is aligned has another anchor. -/
theorem add_sides (h : (add o index).run b = .ok () b') :
    ∃ a : Addition b o index,
      SidesAdded a (Trellis.drawnSide ⟨a.bound.name⟩ o.position) b' ∧
      (AgreesAt a.axis ⟨a.bound.name⟩ a.bound.dataField
          (Trellis.drawnSide ⟨a.bound.name⟩ o.position) ↔
        o.position = Trellis.drawnSide ⟨a.bound.name⟩ o.position ∨
          images a.axis ⟨a.bound.name⟩ a.bound.dataField
              (Trellis.drawnSide ⟨a.bound.name⟩ o.position) = [] ∧
            ∀ l ∈ styledLabels a.axis ++ styledSubLabels a.axis, ∀ align ∈ l.1,
              Label.anchor o.position o.labelOrientation align =
                Label.anchor (Trellis.drawnSide ⟨a.bound.name⟩ o.position)
                  o.labelOrientation align) := by
  obtain ⟨a, hmarks⟩ := add_ok.mp h
  have hdirection : a.axis.labelOrientation = o.labelOrientation :=
    congrArg AxisFeatures.labelOrientation (AxisOptions.resolveFor_features a.axis_eq)
  refine ⟨a, a.sidesAdded hmarks, ?_⟩
  rw [← hdirection, ← a.position_eq]
  exact agreesAt_iff

def illustrated : AxisOptions where
  position := .bottom
  labels := [.styled { value := .text "a", align := some .start }]
  thumbnails := [{}]

def bandsNamed (name : String) : Builder :=
  { bars with
    scales := .arr [.obj [("name", .str name), ("type", .str "band"), ("range", .str "width"),
      ("domain", .obj [("data", .str "table"), ("field", .str "category")])]]
    marks := .arr [] }

theorem bands_agree :
    ∃ b, (add illustrated (.int 0)).run (bandsNamed "xBand") = .ok () b ∧
      ∃ a : Addition (bandsNamed "xBand") illustrated (.int 0),
        SidesAdded a .bottom b ∧ AgreesAt a.axis ⟨a.bound.name⟩ a.bound.dataField .bottom := by
  have hsome : (after (bandsNamed "xBand") [.read illustrated (.int 0)]).isSome = true := by
    decide +kernel
  obtain ⟨b, hb⟩ := Option.isSome_iff_exists.mp hsome
  have hrun : (add illustrated (.int 0)).run (bandsNamed "xBand") = .ok () b :=
    runs_single.mp (after_eq_some.mp hb)
  obtain ⟨a, hadded, hagrees⟩ := add_sides hrun
  have hname : a.bound.name = .str "xBand" := by
    have hbound : (boundScale (bandsNamed "xBand").scales illustrated).toOption.map (·.1.name) =
        some (.str "xBand") := by decide +kernel
    rw [a.bound_eq] at hbound
    exact Option.some.inj hbound
  have hside : Trellis.drawnSide ⟨a.bound.name⟩ illustrated.position = .bottom := by
    rw [hname]
    decide
  rw [hside] at hadded hagrees
  exact ⟨b, hrun, a, hadded, hagrees.mpr (.inl rfl)⟩

def illustration : Thumbnail where
  name := "axis0AxisThumbnail0"
  urlKey := Theme.thumbnailUrlKey

/-- The axis of a scale that lays out facets stands at the top, its image and its label's anchor
at the bottom. -/
theorem facets_disagree :
    (after (bandsNamed "xTrellisBand") [.read illustrated (.int 0)]).map
        (fun b => ((itemsOf b.axes).map fun axis => Fields.get? axis.ownFields "orient", b.marks,
          (itemsOf b.signals).head?)) =
      some ([some (.str "top")],
        .arr [Thumbnail.mark "xTrellisBand" "category" .bottom illustration],
        some (Encoding.namedValue "axis0_labels"
          (.arr [.obj [("value", .str "a"), ("align", .str "left"), ("baseline", .str "top")]]))) ∧
    Thumbnail.mark "xTrellisBand" "category" .bottom illustration ≠
      Thumbnail.mark "xTrellisBand" "category" .top illustration ∧
    Label.anchor .top illustrated.labelOrientation .start = ⟨some "left", some "bottom"⟩ := by
  decide +kernel

end VegaAxes.Builder
