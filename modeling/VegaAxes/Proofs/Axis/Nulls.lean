import VegaAxes.Proofs.Axis.Decoration
import VegaAxes.Proofs.Axis.Every
import VegaAxes.Proofs.Json.Nulls
import VegaAxes.Proofs.Trellis.Header

/-!
# Axes without nulls

`CleanOn`: no null is in an axis, unless the name of its scale has some. Properties that are not
set are left out of the axis objects (`labelAxes_clean`), and neither roles nor decorations bring
a null in, so that all axes of a bundle are clean (`bundle_clean`). Of what a caller writes only a
raw label offset is taken over with its parts; it is `RawOffsetFree` where these have no nulls.
-/

namespace VegaAxes

open Json

variable {axis axis' encodings : Fields} {axes axes' labels : List Fields} {o o' : ResolvedAxis}
  {scaleName : ScaleName} {name v : Json} {key : String}

-- ---------------------------------------------------------------------------
-- Labels
-- ---------------------------------------------------------------------------

def AxisFeatures.RawOffsetFree (o : AxisFeatures) : Prop :=
  ∀ fs, o.vegaLabelOffset = some (.encoding fs) → (obj fs).nullFree = true

namespace Label

@[simp] theorem settled_tickCount (p : Position) (limit : Json) (grid : Bool) :
    Settled (tickCount p limit grid) := by
  unfold tickCount
  split
  · simp
  · split <;> simp

theorem settled_offset (align : Option LabelAlign) (scaleName : String) {raw : Json}
    (h : Settled raw) : Settled (offset align scaleName raw) := by
  unfold offset
  split
  · exact h
  · split <;> simp

theorem settled_anchorFields (anchor : Anchor) {rawAlign rawBaseline : Json}
    (halign : Settled rawAlign) (hbaseline : Settled rawBaseline) :
    ∀ field ∈ anchorFields anchor rawAlign rawBaseline, Settled field.2 := by
  simp only [anchorFields, List.mem_cons, List.not_mem_nil, or_false, forall_eq_or_imp, forall_eq]
  exact ⟨halign.orElse (settled_textJson _), hbaseline.orElse (settled_textJson _)⟩

@[simp] theorem nullFree_numberRule (format : String) : (numberRule format).nullFree = true := by
  unfold numberRule
  split <;> simp

@[simp] theorem nullFree_fallback (o : ResolvedAxis) (scaleName : ScaleName) :
    (fallback o scaleName).nullFree = true := by
  unfold fallback
  split <;> simp

theorem nullFree_format (o : ResolvedAxis) (scaleName : ScaleName) :
    (format o scaleName).nullFree = true := by
  unfold format
  split <;> simp

@[simp] theorem nullFree_entryRule (signalName property : String) :
    (entryRule signalName property).nullFree = true := by
  simp [entryRule]

theorem anchor_some (p : Position) (o : Orientation) (align : LabelAlign) :
    ∃ a b, anchor p o align = ⟨some a, some b⟩ := by
  unfold anchor
  split
  · exact ⟨_, _, rfl⟩
  · exact ⟨_, _, rfl⟩

theorem nullFree_controlledUpdate (align : Option LabelAlign) {fontWeight : Json}
    (h : fontWeight.nullFree = true) (key : String) (o : Orientation) (p : Position)
    (signalName : String) :
    (obj (controlledUpdate align fontWeight key o p signalName)).nullFree = true := by
  obtain ⟨a, b, hanchor⟩ := anchor_some p o (align.getD .center)
  simp [controlledUpdate, encodedAnchor, hanchor, textJson, ofOption, h]

end Label

namespace Axis

open DualMetric

variable {b : Binding} {context context' : Context}

-- ---------------------------------------------------------------------------
-- Clean axes
-- ---------------------------------------------------------------------------

/-- No null is in the axis, save in the name of its scale. -/
def CleanOn (name : Json) (axis : Fields) : Prop :=
  ∀ field ∈ axis, field = ("scale", name) ∨ field.2.nullFree = true

theorem CleanOn.set (h : CleanOn name axis) (key : String) (hv : v.nullFree = true) :
    CleanOn name (axis.set key v) :=
  Fields.forall_set h (.inr hv)

theorem CleanOn.overlay {fs : Fields} (h : CleanOn name axis) (hfs : (obj fs).nullFree = true) :
    CleanOn name (axis.overlay fs) :=
  Fields.forall_overlay h fun field hfield => .inr (nullFree_fields.mp hfs field hfield)

theorem cleanOn_present {fs : Fields}
    (h : ∀ field ∈ fs, field = ("scale", name) ∨ Settled field.2) :
    CleanOn name fs.present :=
  Fields.forall_present fun field hfield hset => (h field hfield).imp_right (· hset)

theorem CleanOn.get? (h : CleanOn name axis) (hkey : key ≠ "scale") (hv : axis.get? key = some v) :
    v.nullFree = true := by
  rcases h (key, v) (Fields.mem_of_get? hv) with heq | hv
  · exact absurd (congrArg Prod.fst heq) hkey
  · exact hv

theorem CleanOn.settled (h : CleanOn name axis) (hkey : key ≠ "scale") :
    Settled (axis.getD key) := by
  unfold Fields.getD
  cases hv : axis.get? key with
  | none => exact settled_null
  | some v => exact settled_of_nullFree (h.get? hkey hv)

-- ---------------------------------------------------------------------------
-- The axes of a description
-- ---------------------------------------------------------------------------

theorem nullFree_valuesField (values : List AxisValue) :
    (obj (valuesField values)).nullFree = true := by
  unfold valuesField
  split
  · simp
  · simp

theorem settled_labelOffset (h : o.RawOffsetFree) :
    Settled (.ofOption LabelOffset.toJson o.vegaLabelOffset) := by
  refine settled_ofOption fun offset hoffset => ?_
  cases offset with
  | pixels x => exact nullFree_float _ x
  | encoding fs => exact h fs hoffset

@[simp] theorem settled_timeTickCount (scaleName : ScaleName) (g : Granularity) :
    Settled (timeTickCount scaleName (Label.timeFormats g).tickCount) := by
  unfold timeTickCount
  split
  · cases g <;> simp [Label.timeFormats]
  · simp

theorem settled_ownAnchor (o : ResolvedAxis) :
    ∀ field ∈ anchorFields o, field = ("scale", name) ∨ Settled field.2 :=
  fun field hfield => .inr
    (Label.settled_anchorFields _ (settled_textJson _) (settled_textJson _) field hfield)

@[simp] theorem settled_title (o : ResolvedAxis) : Settled (.ofOption Title.toJson o.title) :=
  settled_ofOption fun t _ => nullFree_title _ t

theorem plain_clean (h : o.RawOffsetFree) : CleanOn scaleName.value (plain o scaleName) := by
  have hstep : Settled (if o.scaleType = "linear" then .ofOption .float o.tickMinStep
      else .null) := by
    split
    · exact settled_ofOption fun x _ => nullFree_float _ x
    · exact settled_null
  have hoffset := Label.settled_offset o.labelAlign scaleName.spliced (settled_labelOffset h)
  have hpadding : Settled (.ofOption Number.toJson o.vegaLabelPadding) :=
    settled_ofOption fun n _ => nullFree_number _ n
  refine cleanOn_present (List.forall_mem_append.mpr
    ⟨List.forall_mem_append.mpr ⟨?_, settled_ownAnchor o⟩, ?_⟩)
  · simp [hstep, hoffset, hpadding]
  · simp [encodeLabels, Label.nullFree_format]

theorem secondaryTime_clean (o : ResolvedAxis) (scaleName : ScaleName) :
    CleanOn scaleName.value (secondaryTime scaleName o) := by
  refine cleanOn_present (List.forall_mem_append.mpr
    ⟨List.forall_mem_append.mpr ⟨?_, ?_⟩, settled_ownAnchor o⟩)
  · simp
  · unfold secondaryTimeFormat
    split <;> simp [encodeLabels]

theorem primaryTime_clean (o : ResolvedAxis) (scaleName : ScaleName) :
    CleanOn scaleName.value (primaryTime scaleName o) := by
  refine cleanOn_present (List.forall_mem_append.mpr
    ⟨List.forall_mem_append.mpr ⟨?_, settled_ownAnchor o⟩, ?_⟩)
  · simp
  · simp [encodeLabels]

theorem subLabels_clean (h : o.RawOffsetFree) :
    CleanOn scaleName.value (subLabels o scaleName) := by
  have hupdate := Label.nullFree_controlledUpdate o.labelAlign (nullFree_str _ o.labelFontWeight)
    "subLabel" o.labelOrientation o.position (subLabelSignal o)
  have hvalues := nullFree_valuesField (o.subLabels.map SubLabel.value)
  refine Fields.forall_erase (Fields.forall_erase ((plain_clean h).overlay ?_) _) _
  rw [nullFree_fields, List.forall_mem_append]
  refine ⟨?_, nullFree_fields.mp hvalues⟩
  simpa [encodeLabels] using hupdate

theorem base_clean (h : o.RawOffsetFree) : CleanOn scaleName.value (base o scaleName) := by
  have hupdate := Label.nullFree_controlledUpdate o.labelAlign (nullFree_str _ o.labelFontWeight)
    "label" o.labelOrientation o.position (labelSignal o)
  have htooltip : (obj (if o.hasTooltip then [("tooltip", Encoding.rawValue)] else [])).nullFree =
      true := by
    split <;> simp
  unfold base
  split
  · exact plain_clean h
  · refine ((plain_clean h).overlay (nullFree_valuesField _)).set _ ?_
    simp [encodeLabels, hupdate, htooltip]

theorem titled_clean (h : CleanOn name axis) : CleanOn name (titled o axis) := by
  unfold titled padTitle
  split
  · exact h.set _ (nullFree_int _ _)
  · exact h

theorem labelAxes_clean (h : o.RawOffsetFree) :
    ∀ axis ∈ labelAxes o b, CleanOn b.scaleName.value axis := by
  intro axis haxis
  rcases mem_labelAxes haxis with rfl | rfl | rfl | rfl
  · exact titled_clean (base_clean h)
  · exact titled_clean (secondaryTime_clean o _)
  · exact primaryTime_clean o _
  · exact subLabels_clean h

theorem layoutAxis_clean (scaleName : ScaleName) (a : Note) :
    CleanOn scaleName.value (Note.layoutAxis scaleName a) := by
  simp [CleanOn, Note.layoutAxis]

-- ---------------------------------------------------------------------------
-- Roles and decorations
-- ---------------------------------------------------------------------------

theorem CleanOn.mergeEncode (h : CleanOn name axis) (hencodings : (obj encodings).nullFree = true)
    (heq : mergeEncode axis encodings = .ok axis') : CleanOn name axis' := by
  simp only [Axis.mergeEncode] at heq
  split at heq
  · obtain ⟨encode, hencode, heq⟩ := bind_ok.mp heq
    obtain rfl := pure_ok.mp heq
    have hold : (obj encode).nullFree = true := by
      have hsettled : Settled (axis.getD "encode") := h.settled (by simp)
      cases hvalue : axis.getD "encode" with
      | obj fs =>
        rw [hvalue] at hencode hsettled
        cases hencode
        exact hsettled (by simp)
      | _ =>
        rw [hvalue] at hencode
        cases hencode
    exact h.set _ (nullFree_mergeFields _ _ hold hencodings)
  · obtain rfl := pure_ok.mp heq
    exact h.set _ hencodings

theorem nullFree_encodings (scheme : ColorScheme) (role : MetricRole) :
    (obj (DualMetric.encodings scheme role)).nullFree = true := by
  cases role <;> simp [DualMetric.encodings, style, primaryStyle, secondaryStyle, fade]

theorem CleanOn.inRole (h : CleanOn name axis) {role : MetricRole} {scheme : ColorScheme}
    {scale : String} (heq : inRole role scale scheme axis = .ok axis') : CleanOn name axis' :=
  (h.set "scale" (nullFree_str _ (role.scaleName scale))).mergeEncode
    (nullFree_encodings scheme role) heq

theorem labelled_clean (h : o.RawOffsetFree)
    (hlabels : (labelled o b).run context = .ok labels context') :
    ∀ axis ∈ labels, CleanOn b.scaleName.value axis :=
  labelled_forall (fun hclean heq => hclean.inRole heq) (labelAxes_clean h) hlabels

theorem CleanOn.drawBaseline (h : CleanOn name axis) : CleanOn name (drawBaseline o b axis) := by
  unfold Axis.drawBaseline withBaseline
  split
  · exact h
  · exact (h.set _ (nullFree_bool _ _)).set _ (nullFree_int _ _)

theorem nullFree_hidingRules (o : ResolvedAxis) (scaleName : ScaleName) :
    ∀ rule ∈ ReferenceLine.hidingRules o scaleName, rule.nullFree = true := by
  intro rule hrule
  obtain ⟨l, -, rfl⟩ := List.mem_map.mp hrule
  simp [ReferenceLine.hidingRule]

theorem CleanOn.modifyPath {f : Json → Json} (h : CleanOn name axis)
    (hf : ∀ v, v.nullFree = true → (f v).nullFree = true) :
    CleanOn name (axis.modifyPath f Encoding.labelTextPath) := by
  rw [Encoding.labelTextPath, Fields.modifyPath]
  · split
    · next inner hinner => exact h.set _ (nullFree_modifyPath hf _ (h.get? (by simp) hinner))
    · exact h
  · exact List.cons_ne_nil _ _

theorem CleanOn.hideCovered (h : CleanOn name axis) (heq : hideCovered o b axis = .ok axis') :
    CleanOn name axis' := by
  unfold Axis.hideCovered at heq
  split at heq
  · obtain ⟨text, htext, heq⟩ := bind_ok.mp heq
    split at heq
    · next rules =>
      obtain rfl := pure_ok.mp heq
      rcases descend_cons_ok.mp htext with ⟨encode, hencode, hrules⟩ | ⟨-, hnone⟩
      · have hold := nullFree_items.mp (nullFree_descend (h.get? (by simp) hencode) hrules)
        refine h.modifyPath fun v _ => ?_
        rw [nullFree_items, List.forall_mem_append]
        exact ⟨nullFree_hidingRules o b.scaleName, hold⟩
      · cases hnone
    · obtain rfl := pure_ok.mp heq
      exact h
  · cases heq
    exact h

theorem nullFree_labelEncoding (t : Thumbnail) (p : Position) :
    (obj (t.labelEncoding p)).nullFree = true := by
  cases p <;> simp [Thumbnail.labelEncoding, Thumbnail.labelOffset, Thumbnail.whenHidden]

theorem decorate_clean (h : ∀ axis ∈ labels, CleanOn b.scaleName.value axis)
    (heq : decorate o b labels = .ok axes) : ∀ axis ∈ axes, CleanOn b.scaleName.value axis :=
  decorate_forall (fun hclean hfirst => hclean.drawBaseline.hideCovered hfirst)
    (fun hclean hmerge => hclean.mergeEncode (nullFree_labelEncoding _ _) hmerge)
    (layoutAxis_clean b.scaleName) h heq

theorem rawOffsetFree_header (h : o.RawOffsetFree) (ho : Trellis.withHeader scaleName o = .ok o') :
    o'.RawOffsetFree := by
  rcases Trellis.withHeader_ok ho with ⟨-, rfl⟩ | ⟨-, header, -, rfl⟩
  · exact h
  · intro fs hfs
    cases hfs
    simp

theorem bundle_named (h : (bundle o b).run context = .ok axes context') :
    b.scaleName.value ≠ .null := by
  obtain ⟨_, _, hheader, -⟩ := bundle_run_ok.mp h
  exact searchable_of_header hheader

/-- No axis of a bundle has a null, unless in the name of its scale. -/
theorem bundle_clean (h : o.RawOffsetFree) (hrun : (bundle o b).run context = .ok axes context') :
    ∀ axis ∈ axes, CleanOn b.scaleName.value axis := by
  obtain ⟨o', labels, ho', hlabels, hdecorate⟩ := bundle_run_ok.mp hrun
  exact decorate_clean (labelled_clean (rawOffsetFree_header h ho') hlabels) hdecorate

end Axis

end VegaAxes
