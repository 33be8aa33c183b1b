import VegaAxes.Note
import VegaAxes.Proofs.Axis.Formed

/-!
# The form of single axes

Every axis object is `Formed` as it is first made, without a role: the plain axis, both
halves of a time axis, the companion with sub-labels, and the empty axis of a note.
-/

namespace VegaAxes.Axis

variable {axis : Fields} {scale : Json} {scaleName : ScaleName}

/-- The encodings of labels as axes come with them: rules for the text, no colors and opacities. -/
structure LabelForm (labels : Fields) : Prop where
  text : ∃ text, (Json.obj labels).descend ["update", "text"] = .ok text ∧
    Document.isLabelText text = true
  plain : ∀ time ∈ ["enter", "update"], ∀ key ∈ ["fill", "fillOpacity"],
    (Json.obj labels).descend [time, key] = .ok none

theorem formed_of_labels {labels : Fields} {p : Position} (hscale : axis.get? "scale" = some scale)
    (horient : axis.get? "orient" = some (Vocabulary.toJson p))
    (hencode : axis.get? "encode" = some (encodeLabels labels)) (h : LabelForm labels) :
    Formed scale noStyle axis where
  scale := hscale
  orient := ⟨p, horient⟩
  text := by
    obtain ⟨text, htext, hrules⟩ := h.text
    exact ⟨text, Json.descend_cons_ok.mpr (.inl ⟨_, hencode, htext⟩), hrules⟩
  style part hpart time htime key hkey := by
    refine ⟨none, rfl, Json.descend_cons_ok.mpr (.inl ⟨_, hencode, ?_⟩)⟩
    simp only [List.mem_cons, List.not_mem_nil, or_false] at hpart
    rcases hpart with rfl | rfl
    · exact h.plain time htime key hkey
    · rfl

theorem formed_of_bare {p : Position} (hscale : axis.get? "scale" = some scale)
    (horient : axis.get? "orient" = some (Vocabulary.toJson p))
    (hencode : axis.get? "encode" = none) : Formed scale noStyle axis where
  scale := hscale
  orient := ⟨p, horient⟩
  text := ⟨none, Json.descend_cons_ok.mpr (.inr ⟨hencode, rfl⟩), rfl⟩
  style _ _ _ _ _ _ := ⟨none, rfl, Json.descend_cons_ok.mpr (.inr ⟨hencode, rfl⟩)⟩

theorem labelForm_of_update {update : Fields} {text : Json} (interactive : Json)
    (htext : update.get? "text" = some text) (hrules : Document.isLabelText (some text) = true)
    (hfill : update.get? "fill" = none) (hopacity : update.get? "fillOpacity" = none) :
    LabelForm [("interactive", interactive), ("update", .obj update)] where
  text := ⟨some text, Json.descend_cons_ok.mpr (.inl ⟨_, rfl, Json.descend_cons_ok.mpr
    (.inl ⟨text, htext, rfl⟩)⟩), hrules⟩
  plain time htime key hkey := by
    simp only [List.mem_cons, List.not_mem_nil, or_false] at htime hkey
    rcases htime with rfl | rfl
    · rfl
    · refine Json.descend_cons_ok.mpr (.inl ⟨_, rfl, Json.descend_cons_ok.mpr (.inr ⟨?_, rfl⟩)⟩)
      rcases hkey with rfl | rfl
      · exact hfill
      · exact hopacity

-- ---------------------------------------------------------------------------
-- The axes of a description
-- ---------------------------------------------------------------------------

theorem labelText_format (o : ResolvedAxis) (scaleName : ScaleName) :
    Document.isLabelText (some (Label.format o scaleName)) = true := by
  unfold Label.format
  cases o.labelFormat <;> rfl

theorem valuesField_unique (values : List AxisValue) : (valuesField values).Unique := by
  unfold valuesField
  split <;> simp [Fields.Unique, Fields.keys]

theorem get?_valuesField {key : String} (hkey : key ≠ "values") (values : List AxisValue) :
    (valuesField values).get? key = none := by
  unfold valuesField
  split
  · rfl
  · simp [Fields.get?_cons, hkey]

theorem hasSubLabels_iff {o : ResolvedAxis} :
    o.hasSubLabels = true ↔ o.subLabels ≠ [] ∧ o.labelOrientation = .horizontal := by
  simp [ResolvedAxis.hasSubLabels]

section
variable (o : ResolvedAxis)

theorem plain_scale (hname : scaleName.value ≠ .null) :
    (plain o scaleName).get? "scale" = some scaleName.value :=
  Fields.get?_present rfl hname

theorem plain_orient : (plain o scaleName).get? "orient" = some (Vocabulary.toJson o.position) :=
  Fields.get?_present rfl (by simp [Vocabulary.toJson])

theorem base_get? {key : String} (hvalues : key ≠ "values") (hencode : key ≠ "encode") :
    (base o scaleName).get? key = (plain o scaleName).get? key := by
  unfold base
  split
  · rfl
  · rw [Fields.get?_set_of_ne _ _ hencode, Fields.get?_overlay (valuesField_unique _),
      get?_valuesField hvalues, Option.none_or]

theorem base_scale (hname : scaleName.value ≠ .null) :
    (base o scaleName).get? "scale" = some scaleName.value := by
  rw [base_get? o (by simp) (by simp), plain_scale o hname]

theorem base_orient : (base o scaleName).get? "orient" = some (Vocabulary.toJson o.position) := by
  rw [base_get? o (by simp) (by simp), plain_orient o]

theorem base_formed (hname : scaleName.value ≠ .null) :
    Formed scaleName.value noStyle (base o scaleName) := by
  have hscale := base_scale o hname
  have horient : (base o scaleName).get? "orient" = _ := base_orient o
  unfold base at hscale horient ⊢
  split at hscale
  · next hplain =>
    rw [if_pos hplain] at horient ⊢
    refine formed_of_labels hscale horient (Fields.get?_present rfl ?_)
      (labelForm_of_update _ rfl (labelText_format o scaleName) rfl rfl)
    simp [encodeLabels]
  · next hlabels =>
    rw [if_neg hlabels] at horient ⊢
    have htooltip {key : String} (hkey : key ≠ "tooltip") :
        Fields.get? (if o.hasTooltip then [("tooltip", Encoding.rawValue)] else []) key = none := by
      split <;> simp [Fields.get?_cons, hkey]
    refine formed_of_labels hscale horient (Fields.get?_set_self _ _ _)
      (labelForm_of_update _ rfl rfl ?_ ?_)
    · rw [Fields.get?_append, htooltip (by simp)]
      rfl
    · rw [Fields.get?_append, htooltip (by simp)]
      rfl

theorem companion_unique (values : List AxisValue) (domain grid padding encode : Json) :
    Fields.Unique ([("domain", domain), ("grid", grid), ("labelPadding", padding), ("ticks", grid),
      ("encode", encode)] ++ valuesField values) := by
  unfold valuesField
  split <;> simp [Fields.Unique, Fields.keys]

theorem get?_erase_title {key : String} (htitle : key ≠ "title") (hwidth : key ≠ "domainWidth")
    (fs : Fields) : ((fs.erase "title").erase "domainWidth").get? key = fs.get? key := by
  rw [Fields.get?_erase, Fields.get?_erase, if_neg hwidth, if_neg htitle]

theorem subLabels_encode (scaleName : ScaleName) :
    (subLabels o scaleName).get? "encode" =
      some (encodeLabels [("interactive", .bool o.hasTooltip),
        ("update", .obj (Label.controlledUpdate o.labelAlign (.str o.labelFontWeight) "subLabel"
          o.labelOrientation o.position (subLabelSignal o)))]) := by
  rw [subLabels, get?_erase_title (by simp) (by simp), Fields.get?_overlay (companion_unique ..),
    Fields.get?_append]
  rfl

theorem subLabels_orient :
    (subLabels o scaleName).get? "orient" = some (Vocabulary.toJson o.position) := by
  rw [subLabels, get?_erase_title (by simp) (by simp), Fields.get?_overlay (companion_unique ..),
    Fields.get?_append, get?_valuesField (by simp)]
  exact plain_orient o

theorem subLabels_formed (hname : scaleName.value ≠ .null) :
    Formed scaleName.value noStyle (subLabels o scaleName) := by
  refine formed_of_labels (p := o.position) ?_ (subLabels_orient o) (subLabels_encode o scaleName)
    (labelForm_of_update _ rfl rfl rfl rfl)
  rw [subLabels, get?_erase_title (by simp) (by simp), Fields.get?_overlay (companion_unique ..),
    Fields.get?_append, get?_valuesField (by simp)]
  exact plain_scale o hname

/-- Only a vertical time axis formats its labels by an expression. -/
theorem secondaryTime_encode (scaleName : ScaleName) :
    (secondaryTime scaleName o).get? "encode" =
      if o.position.isVertical then some (encodeLabels [("update",
        .obj [("text", Encoding.signal "formatVerticalAxisTimeLabels(datum)")])]) else none := by
  unfold secondaryTime secondaryTimeFormat
  split
  · exact Fields.get?_present rfl (by simp [encodeLabels])
  · exact Fields.get?_present_none rfl

theorem secondaryTime_orient :
    (secondaryTime scaleName o).get? "orient" = some (Vocabulary.toJson o.position) :=
  Fields.get?_present rfl (by simp [Vocabulary.toJson])

theorem secondaryTime_formed (hname : scaleName.value ≠ .null) :
    Formed scaleName.value noStyle (secondaryTime scaleName o) := by
  have hscale : (secondaryTime scaleName o).get? "scale" = some scaleName.value :=
    Fields.get?_present rfl hname
  have horient : (secondaryTime scaleName o).get? "orient" = _ := secondaryTime_orient o
  have hencode := secondaryTime_encode o scaleName
  cases hp : o.position.isVertical with
  | true =>
    rw [if_pos hp] at hencode
    refine formed_of_labels hscale horient hencode ⟨⟨_, rfl, rfl⟩, ?_⟩
    simp only [List.mem_cons, List.not_mem_nil, or_false, forall_eq_or_imp, forall_eq]
    exact ⟨⟨rfl, rfl⟩, rfl, rfl⟩
  | false =>
    rw [if_neg (by simp [hp])] at hencode
    exact formed_of_bare hscale horient hencode

theorem primaryTime_orient :
    (primaryTime scaleName o).get? "orient" = some (Vocabulary.toJson o.position) :=
  Fields.get?_present rfl (by simp [Vocabulary.toJson])

theorem primaryTime_formed (hname : scaleName.value ≠ .null) :
    Formed scaleName.value noStyle (primaryTime scaleName o) := by
  refine formed_of_labels (Fields.get?_present rfl hname) (primaryTime_orient o)
    (Fields.get?_present rfl (by simp [encodeLabels])) ⟨⟨_, rfl, rfl⟩, ?_⟩
  simp only [List.mem_cons, List.not_mem_nil, or_false, forall_eq_or_imp, forall_eq]
  exact ⟨⟨rfl, rfl⟩, rfl, rfl⟩

end

theorem layoutAxis_formed (scaleName : ScaleName) (a : Note) :
    Formed scaleName.value noStyle (Note.layoutAxis scaleName a) :=
  formed_of_bare (p := .bottom) rfl rfl rfl

theorem titled_formed (o : ResolvedAxis) (h : Formed scale noStyle axis) :
    Formed scale noStyle (titled o axis) := by
  unfold titled padTitle
  split
  · exact h.set (by simp) _
  · exact h

end VegaAxes.Axis
