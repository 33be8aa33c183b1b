import VegaAxes.Proofs.Options.Rereading
import VegaAxes.Proofs.Options.Resolving

/-!
# Normalizing keeps what was checked

The options that a description is checked to have are written out and checked again.
`resolveFor_eq`: what comes of it is what resolving the checked options answers, whatever the
scale's type and the index are. `normalize_faithful`: nothing is lost or changed on the way.
-/

namespace VegaAxes

open RecordReader

variable {intake other : Intake} {v : Json} {source : Fields} {o : AxisOptions}

-- ---------------------------------------------------------------------------
-- What a checked description is known to have
-- ---------------------------------------------------------------------------

theorem Reader.optional_some {r : Reader α} {a : α} (h : optional r v = .ok (some a)) :
    r v = .ok a := by
  have hmap (h : (r v).map some = .ok (some a)) : r v = .ok a := by
    simpa [Checked.map_eq_ok] using h
  cases v with
  | null => cases h
  | _ => exact hmap h

theorem RecordReader.strict_ok {r : RecordReader α} {kind : ProblemKind} {a : α}
    (h : r.strict kind v = .ok a) : v = .obj v.ownFields ∧ r.read v.ownFields = .ok a := by
  cases v with
  | obj fs =>
    rw [strict] at h
    split at h
    · cases h
    · simp only [Checked.seq_eq_ok, Checked.map_eq_ok] at h
      obtain ⟨_, _, ⟨a, hread, rfl⟩, -, rfl⟩ := h
      exact ⟨rfl, hread⟩
  | _ => cases h

theorem Schema.features_of_read {o : AxisFeatures} (h : (axisFeatures intake).read source = .ok o) :
    (FieldKey.find? ⟨"baselineOffset", "baseline_offset"⟩ source = none → o.baselineOffset = 0) ∧
      ∀ n, o.vegaLabelPadding ≠ some (.int n) := by
  unfold axisFeatures at h
  repeat (rw [field_ok] at h; obtain ⟨_, _, h, _, rfl⟩ := h)
  rw [required_ok] at h
  obtain ⟨_, _, _, _, h, -, -, rfl⟩ := h
  cases h
  constructor
  · intro homitted
    obtain ⟨used, v, hfind, -⟩ | ⟨-, hdefault⟩ :=
      ‹(∃ used v, FieldKey.find? ⟨"baselineOffset", "baseline_offset"⟩ source =
        some (used, v) ∧ _) ∨
        _›
    · rw [homitted] at hfind
      cases hfind
    · exact hdefault.symm
  · rintro n rfl
    obtain ⟨used, v, -, hread⟩ | ⟨-, hdefault⟩ :=
      ‹(∃ used v, FieldKey.find? ⟨"vegaLabelPadding", "vega_label_padding"⟩ source =
        some (used, v) ∧ _) ∨ _›
    · obtain ⟨x, -, hx⟩ := Checked.map_eq_ok.mp (Reader.optional_some hread)
      cases hx
    · cases hdefault

theorem AxisOptions.features_of_read (haccepted : AxisOptions.read intake v = .ok o) :
    (Schema.axisFeatures intake).read v.ownFields = .ok o.toAxisFeatures := by
  obtain ⟨-, h⟩ := RecordReader.strict_ok haccepted
  unfold Schema.axisFields at h
  iterate 3 (rw [field_ok] at h; obtain ⟨_, _, h, -, rfl⟩ := h)
  simp only [RecordReader.seq, Checked.seq_eq_ok] at h
  obtain ⟨_, _, h, hfeatures, rfl⟩ := h
  cases h
  exact hfeatures

theorem AxisOptions.keptOffset_read (h : AxisOptions.read intake v = .ok o) :
    Reader.float (o.keptOffset v.ownFields) = .ok o.baselineOffset := by
  have homitted := (Schema.features_of_read (features_of_read h)).1
  unfold keptOffset
  split
  · rfl
  · next hfind =>
    rw [homitted hfind]
    decide

-- ---------------------------------------------------------------------------
-- The second reading
-- ---------------------------------------------------------------------------

theorem Schema.features_reads {o : AxisFeatures} {offset : Json}
    (hoffset : Reader.float offset = .ok o.baselineOffset)
    (hpadding : ∀ n, o.vegaLabelPadding ≠ some (.int n)) :
    Reads (axisFeatures intake) (o.toFields.set "baseline_offset" offset) (.ok o) := by
  have hpadding : (Reader.optional (Reader.float.map .float))
      (.ofOption Number.toJson o.vegaLabelPadding) = .ok o.vegaLabelPadding := by
    cases hvalue : o.vegaLabelPadding with
    | none => rfl
    | some n =>
      cases n with
      | int n => exact absurd hvalue (hpadding n)
      | float x => rfl
  exact Reads.pure _ AxisFeatures.mk
    |>.required rfl ((Reader.word_recovers (by decide)).read _)
    |>.field rfl (Reader.flag_recovers.read _)
    |>.field rfl hoffset
    |>.field rfl ((Reader.word_recovers (by decide)).read _)
    |>.field rfl (Reader.flag_recovers.read _)
    |>.field rfl (Reader.flag_recovers.read _)
    |>.field rfl (Reader.text_recovers.read _)
    |>.field rfl ((Reader.word_recovers (by decide)).read _)
    |>.field rfl ((axisLabel_recovers intake).list.read _)
    |>.field rfl (Reader.text_recovers.read _)
    |>.field rfl (Reader.float_recovers.pair.optional _)
    |>.field rfl ((subLabel_recovers intake).list.read _)
    |>.field rfl (Reader.flag_recovers.read _)
    |>.field rfl (Reader.integer_recovers.optional _)
    |>.field rfl (Reader.float_recovers.optional _)
    |>.field rfl (title_recovers.optional _)
    |>.field rfl (Reader.flag_recovers.read _)
    |>.field rfl (Reader.flag_recovers.read _)
    |>.field rfl (Reader.flag_recovers.optional _)
    |>.field rfl ((referenceLine_recovers intake).list.read _)
    |>.field rfl ((note_recovers intake).list.read _)
    |>.field rfl ((thumbnail_recovers intake).list.read _)
    |>.field rfl (Reader.text_recovers.optional _)
    |>.field rfl (Reader.text_recovers.optional _)
    |>.field rfl (labelOffset_recovers.optional _)
    |>.field rfl hpadding

theorem AxisOptions.dump_reads (h : AxisOptions.read intake v = .ok o) (rest : Fields)
    (hrest : ∀ key ∈ (Schema.axisFeatures other).keys, key.main ∉ "label_align" :: rest.keys) :
    Reads (Schema.axisFeatures other) (o.dump v.ownFields ++ rest) (.ok o.toAxisFeatures) := by
  have hpadding := (Schema.features_of_read (features_of_read h)).2
  rw [dump, List.append_assoc]
  refine (Schema.features_reads (keptOffset_read h) hpadding).append fun key hkey => ?_
  exact Fields.get?_eq_none_iff.mpr (hrest key hkey)

theorem AxisOptions.dump_keys (intake : Intake) (source : Fields) (o : AxisOptions) :
    Fields.keys (o.dump source) =
      (Schema.axisFeatures intake).keys.map (·.other) ++ ["label_align"] := by
  simp [dump, Fields.keys, AxisFeatures.toFields, Fields.set, Schema.axisFeatures,
    RecordReader.field, RecordReader.required, RecordReader.seq, RecordReader.pure]

theorem AxisOptions.read_wholeDump (h : AxisOptions.read intake v = .ok o) (other : Intake) :
    AxisOptions.read other (o.wholeDump v.ownFields) = .ok o := by
  have hkeys : ∀ key ∈ (Schema.axisFeatures other).keys,
      key.main ∉ ["label_align", "name", "label_format"] := by
    cases other <;> decide
  refine Reads.strict ?_ (by cases other <;> decide) ?_ _
  · exact ((Reads.pure _ AxisOptions.mk).seq (dump_reads h _ hkeys))
      |>.field rfl (Reader.text_recovers.optional _)
      |>.field rfl (Schema.align_recovers.read _)
      |>.field rfl ((Reader.word_recovers (by decide)).optional _)
  · rw [Fields.keys, List.map_append, ← Fields.keys, dump_keys other]
    simp [Schema.axisFields, RecordReader.field, RecordReader.seq, RecordReader.pure]

theorem given_of_ne {s : String} (h : s ≠ "") : given (some s) = some s := by
  unfold given
  split
  · next heq => exact absurd (Option.some.inj heq) h
  · rfl

theorem AxisOptions.resolve_of_type {type : Json} {s : String} (i : Int) (scheme : ColorScheme)
    (name : String) (h : type.orElse (.str "linear") = .str s) :
    ({ o.resolve (some s) scheme i with name } : ResolvedAxis) =
      ⟨o.toAxisFeatures, name, i, scheme, s, some o.labelAlign, o.formatFor (.str s)⟩ := by
  have hs : s ≠ "" := by
    unfold Json.orElse at h
    split at h
    · next htruthy =>
      rw [h] at htruthy
      simpa [Json.truthy] using htruthy
    · cases h
      decide
  unfold resolve formatFor
  rw [given_of_ne hs]
  cases o.labelFormat <;> rfl

/-- The scale's type and the index are all that can fail. -/
theorem AxisOptions.normalize_eq (h : AxisOptions.read intake v = .ok o) (type index : Json)
    (scheme : ColorScheme) :
    o.normalize v.ownFields type scheme index =
      (((Reader.integer index).under "index").map fun i s =>
        { o.resolve (some s) scheme i with name := s!"axis{index.spliced}" }).seq
        ((Reader.text (type.orElse (.str "linear"))).under "scale_type") := by
  have hkeys : ∀ key ∈ (Schema.axisFeatures .caller).keys, key.main ∉
      ["label_align", "name", "index", "color_scheme", "scale_type", "label_format"] := by
    decide
  have hparts : (((Reader.integer index).under "index").map fun i s =>
        ({ o.resolve (some s) scheme i with name := s!"axis{index.spliced}" } : ResolvedAxis)).seq
        ((Reader.text (type.orElse (.str "linear"))).under "scale_type") =
      (((((Checked.ok (ResolvedAxis.mk o.toAxisFeatures s!"axis{index.spliced}")).seq
        ((Reader.integer index).under "index")).seq (.ok scheme)).seq
        ((Reader.text (type.orElse (.str "linear"))).under "scale_type")).seq
        (.ok (some o.labelAlign))).seq (.ok (o.formatFor (type.orElse (.str "linear")))) := by
    cases htype : type.orElse (.str "linear") with
    | str s =>
      cases Reader.integer index with
      | ok i => exact congrArg Checked.ok (o.resolve_of_type i scheme _ htype)
      | bad problems => rfl
    | _ => cases Reader.integer index <;> rfl
  rw [hparts, normalize]
  refine Reads.strict ?_ (by decide) ?_ _
  · exact ((Reads.pure _ ResolvedAxis.mk).seq (dump_reads h _ hkeys))
      |>.required rfl (Reader.text_recovers.read _)
      |>.anyField rfl rfl
      |>.anyField rfl ((Reader.word_recovers (by decide)).read _)
      |>.anyField rfl rfl
      |>.anyField rfl (Schema.align_recovers.optional (some o.labelAlign))
      |>.anyField rfl ((Reader.word_recovers (by decide)).read _)
  · rw [Fields.keys, List.map_append, ← Fields.keys, dump_keys .caller]
    simp [Schema.resolvedFields, RecordReader.field, RecordReader.required, RecordReader.seq,
      RecordReader.pure]

/-- Resolving answers what normalizing does, and reports the same problems. -/
theorem AxisOptions.resolveFor_eq (h : AxisOptions.read intake v = .ok o) (type index : Json)
    (scheme : ColorScheme) :
    o.resolveFor type scheme index = match o.normalize v.ownFields type scheme index with
      | .ok axis => .ok axis
      | .bad problems => .error (.invalid .resolved problems) := by
  rw [normalize_eq h]
  rfl

theorem orElse_linear (scaleType : Option String) :
    ∃ s, (textJson scaleType).orElse (.str "linear") = .str s ∧
      (scaleType = none ∨ scaleType = some "" → s = "linear") ∧
      ∀ s', scaleType = some s' → s' ≠ "" → s = s' := by
  cases scaleType with
  | none => exact ⟨"linear", rfl, fun _ => rfl, by simp⟩
  | some s =>
    by_cases hs : s = ""
    · subst hs
      exact ⟨"linear", rfl, fun _ => rfl, fun s' hs' hne => absurd (Option.some.inj hs').symm hne⟩
    · refine ⟨s, ?_, fun hunset => ?_, fun s' hs' _ => Option.some.inj hs'⟩
      · simp [textJson, Json.ofOption, Json.orElse, Json.truthy, hs]
      · simp [hs] at hunset

/-- Options that were accepted are accepted again as they were written out, with every feature
as it is; the name, the type and the format of the axis are those that it is given. -/
theorem AxisOptions.normalize_faithful (h : AxisOptions.read intake v = .ok o)
    (scaleType : Option String) (scheme : ColorScheme) (index : Int) :
    AxisOptions.read intake (o.wholeDump v.ownFields) = .ok o ∧
      ∃ axis, o.normalize v.ownFields (textJson scaleType) scheme (.int index) = .ok axis ∧
        o.resolveFor (textJson scaleType) scheme (.int index) = .ok axis ∧
        axis.toAxisFeatures = o.toAxisFeatures ∧ axis.labelAlign = some o.labelAlign ∧
        (FieldKey.find? ⟨"baselineOffset", "baseline_offset"⟩ v.ownFields = none →
          axis.baselineOffset = 0) ∧
        axis.name = s!"axis{index}" ∧ axis.index = index ∧ axis.colorScheme = scheme ∧
        (scaleType = none ∨ scaleType = some "" → axis.scaleType = "linear") ∧
        (∀ s, scaleType = some s → s ≠ "" → axis.scaleType = s) ∧
        axis.labelFormat = o.labelFormat.getD
          (if axis.scaleType = "time" ∨ axis.scaleType = "utc" then .time else .linear) := by
  obtain ⟨s, hs, hunset, hset⟩ := orElse_linear scaleType
  have hnormal := normalize_eq h (textJson scaleType) (.int index) scheme
  rw [hs] at hnormal
  have hresolved := hnormal.trans (congrArg Checked.ok (o.resolve_of_type index scheme _ hs))
  have homitted := (Schema.features_of_read (features_of_read h)).1
  refine ⟨read_wholeDump h intake, _, hresolved, ?_, rfl, rfl, homitted, rfl, rfl, rfl, hunset,
    hset, ?_⟩
  · rw [resolveFor_eq h, hresolved]
  · unfold formatFor
    cases o.labelFormat <;> rfl

def mixedSource : Json :=
  .obj [("position", .str "bottom"), ("label_align", .str "end"), ("tickMinStep", .str "1_0"),
    ("labels", .arr [.int 3, .obj [("value", .bool true), ("font_weight", .str "bold")]])]

def mixedOptions : AxisOptions :=
  { position := .bottom, labelAlign := .finish, tickMinStep := some 10
    labels := [.plain (.int 3), .styled { value := .float 1, fontWeight := some "bold" }] }

theorem mixedSource_normalized :
    AxisOptions.read .caller mixedSource = .ok mixedOptions ∧
      ∃ axis, mixedOptions.normalize mixedSource.ownFields (.str "utc") .dark (.int 2) = .ok axis ∧
        axis.toAxisFeatures = mixedOptions.toAxisFeatures ∧ axis.labelAlign = some .finish ∧
        axis.name = "axis2" ∧ axis.scaleType = "utc" ∧ axis.labelFormat = .time := by
  have hread : AxisOptions.read .caller mixedSource = .ok mixedOptions := by decide +kernel
  obtain ⟨-, axis, hnormal, -, hfeatures, halign, -, hname, -, -, -, htype, hformat⟩ :=
    AxisOptions.normalize_faithful hread (some "utc") .dark 2
  have htype := htype "utc" rfl (by decide)
  refine ⟨hread, axis, hnormal, hfeatures, halign, hname, htype, ?_⟩
  rw [hformat, htype]
  rfl

end VegaAxes
