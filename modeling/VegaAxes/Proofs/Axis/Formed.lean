import VegaAxes.Document.Validity
import VegaAxes.Proofs.Axis.Bundle
import VegaAxes.Proofs.Json.Paths

/-!
# The form of axes

`Formed`: what every axis has that is drawn for a description: its scale and its side, rules
for the text of its labels, and the style of its role, or none. Merged encodings keep to
what they are about (`mergeEncode_of_upper`), and `Formed.inRole` gives an axis its role.
-/

namespace VegaAxes.Axis

open DualMetric

variable {axis axis' encodings : Fields} {scale style : Json} {o : ResolvedAxis} {b : Binding}
  {scaleName : ScaleName} {key : String} {keys : List String} {v : Json} {x : Option Json}

structure Formed (scale style : Json) (axis : Fields) : Prop where
  scale : axis.get? "scale" = some scale
  orient : ∃ p : Position, axis.get? "orient" = some (Vocabulary.toJson p)
  text : ∃ text, (Json.obj axis).descend Encoding.labelTextPath = .ok text ∧
    Document.isLabelText text = true
  style : ∀ part ∈ ["labels", "title"], ∀ time ∈ ["enter", "update"],
    ∀ key ∈ ["fill", "fillOpacity"], ∃ x, style.descend [time, key] = .ok x ∧
      (Json.obj axis).descend ["encode", part, time, key] = .ok x

def noStyle : Json :=
  .obj []

theorem Formed.congr (h : Formed scale style axis) (hscale : axis'.get? "scale" = axis.get? "scale")
    (horient : axis'.get? "orient" = axis.get? "orient")
    (hencode : axis'.get? "encode" = axis.get? "encode") : Formed scale style axis' where
  scale := hscale.trans h.scale
  orient := horient ▸ h.orient
  text := by
    unfold Encoding.labelTextPath
    rw [Json.descend_congr hencode]
    exact h.text
  style part hpart time htime key hkey := by
    rw [Json.descend_congr hencode]
    exact h.style part hpart time htime key hkey

theorem Formed.set (h : Formed scale style axis) (hkey : key ∉ ["scale", "orient", "encode"])
    (v : Json) : Formed scale style (axis.set key v) := by
  simp only [List.mem_cons, List.not_mem_nil, or_false, not_or] at hkey
  exact h.congr (Fields.get?_set_of_ne _ _ (Ne.symm hkey.1))
    (Fields.get?_set_of_ne _ _ (Ne.symm hkey.2.1)) (Fields.get?_set_of_ne _ _ (Ne.symm hkey.2.2))

-- ---------------------------------------------------------------------------
-- Merged encodings
-- ---------------------------------------------------------------------------

/-- Encodings go over those of the axis, or in their place if there are none. -/
theorem mergeEncode_ok (h : (Json.obj axis).descend ("encode" :: key :: keys) = .ok x)
    (encodings : Fields) :
    ∃ encode, mergeEncode axis encodings = .ok (axis.set "encode" (.obj encode)) ∧
      ((∃ old : Fields, axis.get? "encode" = some (.obj old) ∧ encode = old.merge encodings) ∨
        encode = encodings ∧
          ∀ key keys, (Json.obj axis).descend ("encode" :: key :: keys) = .ok none) := by
  unfold mergeEncode
  rcases Json.descend_cons_ok.mp h with ⟨v, hv, hvx⟩ | ⟨hnone, -⟩
  · obtain ⟨old, rfl⟩ := Json.descend_cons_object hvx
    rw [Fields.getD, hv]
    cases old with
    | nil =>
      refine ⟨_, rfl, .inr ⟨rfl, fun key keys => ?_⟩⟩
      exact Json.descend_cons_ok.mpr (.inl ⟨_, hv, rfl⟩)
    | cons field old => exact ⟨_, rfl, .inl ⟨_, rfl, rfl⟩⟩
  · rw [Fields.getD, hnone]
    exact ⟨_, rfl, .inr ⟨rfl, fun _ _ => Json.descend_cons_ok.mpr (.inr ⟨hnone, rfl⟩)⟩⟩

theorem mergeEncode_of_upper (h : mergeEncode axis encodings = .ok axis')
    (hu : Json.UniqueAlong (key :: keys) (.obj encodings))
    (hupper : (Json.obj encodings).descend (key :: keys) = .ok none)
    (hx : (Json.obj axis).descend ("encode" :: key :: keys) = .ok x) :
    (Json.obj axis').descend ("encode" :: key :: keys) = .ok x := by
  obtain ⟨encode, heq, hencode⟩ := mergeEncode_ok hx encodings
  cases h.symm.trans heq
  rw [Json.descend_set_self]
  rcases hencode with ⟨old, hold, rfl⟩ | ⟨rfl, hnone⟩
  · rcases Json.descend_cons_ok.mp hx with ⟨_, hv, hvx⟩ | ⟨hnone, -⟩
    · cases hold.symm.trans hv
      exact Json.descend_merge_of_upper hu hupper hvx
    · cases hold.symm.trans hnone
  · cases (hnone key keys).symm.trans hx
    exact hupper

theorem mergeEncode_of_below (h : mergeEncode axis encodings = .ok axis')
    (hu : Json.UniqueAlong (key :: keys) (.obj encodings))
    (hbelow : (Json.obj axis).descend ("encode" :: key :: keys) = .ok none)
    (hx : (Json.obj encodings).descend (key :: keys) = .ok x) :
    (Json.obj axis').descend ("encode" :: key :: keys) = .ok x := by
  obtain ⟨encode, heq, hencode⟩ := mergeEncode_ok hbelow encodings
  cases h.symm.trans heq
  rw [Json.descend_set_self]
  rcases hencode with ⟨old, hold, rfl⟩ | ⟨rfl, -⟩
  · rcases Json.descend_cons_ok.mp hbelow with ⟨_, hv, hvnone⟩ | ⟨hnone, -⟩
    · cases hold.symm.trans hv
      exact Json.descend_merge_of_below hu hvnone hx
    · cases hold.symm.trans hnone
  · exact hx

theorem Formed.mergeEncode_succeeds (h : Formed scale style axis) (encodings : Fields) :
    ∃ axis', mergeEncode axis encodings = .ok axis' := by
  obtain ⟨text, htext, -⟩ := h.text
  obtain ⟨_, heq, -⟩ := mergeEncode_ok htext encodings
  exact ⟨_, heq⟩

theorem mergeEncode_get? (h : mergeEncode axis encodings = .ok axis') (hkey : key ≠ "encode") :
    axis'.get? key = axis.get? key := by
  simp only [mergeEncode] at h
  split at h
  · obtain ⟨_, -, h⟩ := bind_ok.mp h
    cases h
    exact Fields.get?_set_of_ne _ _ hkey
  · cases h
    exact Fields.get?_set_of_ne _ _ hkey

-- ---------------------------------------------------------------------------
-- Roles
-- ---------------------------------------------------------------------------

def scaleIn (scaleName : ScaleName) : Option MetricRole → Json
  | some role => .str (role.scaleName scaleName.spliced)
  | none => scaleName.value

def styleIn (scheme : ColorScheme) : Option MetricRole → Json
  | some role => DualMetric.style scheme role
  | none => noStyle

theorem encodings_unique (scheme : ColorScheme) (role : MetricRole) (part time key : String) :
    Json.UniqueAlong [part, time, key] (.obj (DualMetric.encodings scheme role)) := by
  have hstyle (v : Json) (hv : v = DualMetric.style scheme role) :
      Json.UniqueAlong [time, key] v := by
    subst hv
    cases role with
    | primary =>
      refine ⟨by simp [Fields.Unique, Fields.keys], fun v hv => ?_⟩
      obtain ⟨-, rfl⟩ : _ ∧ _ = v := by simpa [Fields.get?_cons] using hv
      exact ⟨by simp [Fields.Unique, Fields.keys], fun _ _ => trivial⟩
    | secondary =>
      refine ⟨by simp [Fields.Unique, Fields.keys], fun v hv => ?_⟩
      rw [Fields.get?_cons, Fields.get?_cons] at hv
      split at hv
      · cases hv
        exact ⟨by simp [Fields.Unique, Fields.keys], fun _ _ => trivial⟩
      · obtain ⟨-, rfl⟩ : _ ∧ _ = v := by simpa using hv
        exact ⟨by simp [Fields.Unique, Fields.keys], fun _ _ => trivial⟩
  refine ⟨by simp [Fields.Unique, Fields.keys, DualMetric.encodings], fun v hv => hstyle v ?_⟩
  simp only [DualMetric.encodings, Fields.get?_cons, Fields.get?_nil] at hv
  split at hv
  · exact (Option.some.inj hv).symm
  · split at hv
    · exact (Option.some.inj hv).symm
    · cases hv

theorem encodings_style (scheme : ColorScheme) (role : MetricRole) {part : String}
    (hpart : part ∈ ["labels", "title"]) (keys : List String) :
    (Json.obj (DualMetric.encodings scheme role)).descend (part :: keys) =
      (DualMetric.style scheme role).descend keys := by
  simp only [List.mem_cons, List.not_mem_nil, or_false] at hpart
  rcases hpart with rfl | rfl <;> rfl

theorem style_descend (scheme : ColorScheme) (role : MetricRole) :
    ∀ time ∈ ["enter", "update"], ∀ key ∈ ["fill", "fillOpacity"],
      ∃ x, (DualMetric.style scheme role).descend [time, key] = .ok x := by
  intro time htime key hkey
  simp only [List.mem_cons, List.not_mem_nil, or_false] at htime hkey
  rcases htime with rfl | rfl <;> rcases hkey with rfl | rfl <;> cases role <;>
    exact ⟨_, rfl⟩

theorem Formed.inRole (h : Formed scale noStyle axis) {scheme : ColorScheme} {role : MetricRole}
    (haxis : DualMetric.inRole role scaleName.spliced scheme axis = .ok axis') :
    Formed (scaleIn scaleName (some role)) (styleIn scheme (some role)) axis' := by
  have hplaced (keys : List String) :
      (Json.obj (axis.set "scale" (.str (role.scaleName scaleName.spliced)))).descend
          ("encode" :: keys) =
        (Json.obj axis).descend ("encode" :: keys) :=
    Json.descend_set_of_ne (by simp) keys
  refine ⟨?_, ?_, ?_, fun part hpart time htime key hkey => ?_⟩
  · rw [mergeEncode_get? haxis (by simp)]
    exact Fields.get?_set_self _ _ _
  · rw [mergeEncode_get? haxis (by simp), Fields.get?_set_of_ne _ _ (by simp)]
    exact h.orient
  · obtain ⟨text, htext, hrules⟩ := h.text
    refine ⟨text, mergeEncode_of_upper haxis (encodings_unique ..) ?_ ?_, hrules⟩
    · cases role <;> rfl
    · rw [hplaced]
      exact htext
  · obtain ⟨x, hx⟩ := style_descend scheme role time htime key hkey
    obtain ⟨_, hnone, haxis'⟩ := h.style part hpart time htime key hkey
    cases hnone
    refine ⟨x, hx, mergeEncode_of_below haxis (encodings_unique ..) ?_ ?_⟩
    · rw [hplaced]
      exact haxis'
    · rw [encodings_style scheme role hpart]
      exact hx

theorem inRole_succeeds (h : Formed scale style axis) (role : MetricRole) (name : String)
    (scheme : ColorScheme) : ∃ axis', DualMetric.inRole role name scheme axis = .ok axis' := by
  obtain ⟨text, htext, -⟩ := h.text
  have hplaced : (Json.obj (axis.set "scale" (.str (role.scaleName name)))).descend
      ["encode", "labels", "update", "text"] = .ok text := by
    rw [Json.descend_set_of_ne (by simp)]
    exact htext
  obtain ⟨_, heq, -⟩ := mergeEncode_ok hplaced (DualMetric.encodings scheme role)
  exact ⟨_, heq⟩

end VegaAxes.Axis
