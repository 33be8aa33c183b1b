import VegaAxes.Proofs.Builder.MarkAddition
import VegaAxes.Proofs.Document.Validity
import VegaAxes.Proofs.Json.Fields

/-!
# Marks that axes draw

Reference lines, baselines, notes and thumbnails are all `Drawn`: valid marks with a name
that bring no axes, no scales and no facets, and marks only as a list.
`lined_drawn`, `based_drawn` and `decorations_drawn` say so of all marks of an axis.
-/

namespace VegaAxes

open Document

structure Fields.IsDrawn (fs : Fields) : Prop where
  valid : ValidMark (.obj fs)
  name : ∃ s, fs.get? "name" = some (.str s)
  axes : fs.get? "axes" = none
  scales : fs.get? "scales" = none
  marks : ∀ v, fs.get? "marks" = some v → ∃ ms, v = .arr ms
  source : ∀ v, fs.get? "from" = some v → ∃ table, v = .obj [("data", .str table)]

def Drawn (mark : Json) : Prop :=
  ∃ fs, mark = .obj fs ∧ Fields.IsDrawn fs

theorem validMark_plain {fs : Fields} (type : String) (htype : fs.get? "type" = some (.str type))
    (hplain : type ≠ "group") : ValidMark (.obj fs) :=
  .plain (by rw [Fields.getD, htype]; rfl) hplain

theorem drawn_of_fields {fs : Fields} (type name : String) (hplain : type ≠ "group")
    (htype : fs.get? "type" = some (.str type)) (hname : fs.get? "name" = some (.str name))
    (haxes : fs.get? "axes" = none) (hscales : fs.get? "scales" = none)
    (hmarks : fs.get? "marks" = none) (hfrom : fs.get? "from" = none) : Drawn (.obj fs) :=
  ⟨fs, rfl, validMark_plain type htype hplain, ⟨name, hname⟩, haxes, hscales, by simp [hmarks],
    by simp [hfrom]⟩

theorem validMark_group {fs : Fields} {marks : List Json}
    (htype : fs.get? "type" = some (.str "group")) (haxes : fs.get? "axes" = none)
    (hmarks : fs.get? "marks" = some (.arr marks))
    (hvalid : ∀ mark ∈ marks, ValidMark mark) : ValidMark (.obj fs) := by
  have haxes' : (fs.getD "axes" (.arr [])).elements = .ok [] := by
    rw [Fields.getD, haxes]
    rfl
  refine .group (by rw [Fields.getD, htype]; rfl) haxes' ?_ (by simp) hvalid
  rw [Fields.getD, hmarks]
  rfl

variable {o : ResolvedAxis} {scaleName : ScaleName} {m : Json}

namespace ReferenceLine

theorem drawn_ruleMark (l : ReferenceLine) : Drawn (ruleMark o scaleName l) :=
  drawn_of_fields "rule" l.name (by simp) rfl rfl rfl rfl rfl rfl

theorem drawn_symbolMark (l : ReferenceLine) (icon : String) :
    Drawn (symbolMark o scaleName l icon) :=
  drawn_of_fields "symbol" s!"{l.name}_symbol" (by simp) rfl rfl rfl rfl rfl rfl

theorem drawn_textMark (l : ReferenceLine) (label : String) :
    Drawn (textMark o scaleName l label) :=
  drawn_of_fields "text" s!"{l.name}_label" (by simp) rfl rfl rfl rfl rfl rfl

theorem drawn_layerMarks {layer : Layer} (h : m ∈ layerMarks o scaleName layer) : Drawn m := by
  obtain ⟨l, -, h⟩ := List.mem_flatMap.mp h
  rcases List.mem_cons.mp h with rfl | h
  · exact drawn_ruleMark l
  rcases List.mem_append.mp h with h | h
  · obtain ⟨icon, -, rfl⟩ := List.mem_map.mp h
    exact drawn_symbolMark l icon
  · obtain ⟨label, -, rfl⟩ := List.mem_map.mp h
    exact drawn_textMark l label

end ReferenceLine

theorem Baseline.drawn_rule (offset : Json) (p : Position) : Drawn (rule offset p) :=
  drawn_of_fields "rule" (name p) (by simp) rfl rfl rfl rfl rfl rfl

namespace Note

theorem bracket_valid (a : Note) : ∀ mark ∈ bracket scaleName a, ValidMark mark := by
  intro mark hmark
  simp only [bracket, List.mem_cons, List.not_mem_nil, or_false] at hmark
  rcases hmark with rfl | rfl | rfl <;>
    exact validMark_plain "rect" rfl (by simp)

theorem spanMark_valid (a : Note) : ValidMark (spanMark scaleName a) := by
  refine validMark_group rfl rfl rfl fun mark hmark => ?_
  simp only [List.mem_cons, List.not_mem_nil, or_false] at hmark
  rcases hmark with rfl | rfl
  · exact validMark_group rfl rfl rfl (bracket_valid a)
  · exact validMark_plain "path" rfl (by simp)

theorem summaryMark_valid (a : Note) : ValidMark (summaryMark a) := by
  refine validMark_group rfl rfl rfl fun mark hmark => ?_
  obtain rfl := List.mem_singleton.mp hmark
  exact validMark_plain "path" rfl (by simp)

theorem drawn_mark (a : Note) : Drawn (mark scaleName a) := by
  unfold mark
  cases a.format with
  | span =>
    refine ⟨_, rfl, spanMark_valid a, ⟨s!"{a.name}_group", rfl⟩, rfl, rfl, fun v hv => ?_,
      fun v hv => nomatch hv⟩
    exact ⟨_, (Option.some.inj hv).symm⟩
  | summary =>
    refine ⟨_, rfl, summaryMark_valid a, ⟨s!"{a.name}_group", rfl⟩, rfl, rfl, fun v hv => ?_,
      fun v hv => ?_⟩
    · exact ⟨_, (Option.some.inj hv).symm⟩
    · exact ⟨_, (Option.some.inj hv).symm⟩

end Note

theorem Thumbnail.drawn_mark {name field : String} {p : Position} (t : Thumbnail) :
    Drawn (Thumbnail.mark name field p t) := by
  refine ⟨_, rfl, validMark_plain "image" rfl (by simp), ⟨t.name, rfl⟩, rfl, rfl,
    fun v hv => (nomatch hv), fun v hv => ?_⟩
  exact ⟨_, (Option.some.inj hv).symm⟩

namespace Builder

variable {binding : Axis.Binding}

theorem lined_drawn (o : ResolvedAxis) (scaleName : ScaleName) (ms : List Json) :
    ∃ before after, lined o scaleName ms = before ++ ms ++ after ∧
      ∀ m ∈ before ++ after, Drawn m := by
  unfold lined
  split
  · refine ⟨_, _, rfl, fun m hm => ?_⟩
    rcases List.mem_append.mp hm with hm | hm <;> exact ReferenceLine.drawn_layerMarks hm
  · exact ⟨[], [], by simp, by simp⟩

theorem based_drawn (o : ResolvedAxis) (binding : Axis.Binding) (ms : List Json) :
    ∃ before after, based o binding ms = before ++ ms ++ after ∧
      ∀ m ∈ before ++ after, Drawn m := by
  unfold based
  split
  · split
    · refine ⟨[], [_], rfl, fun m hm => ?_⟩
      obtain rfl := List.mem_singleton.mp hm
      exact Baseline.drawn_rule _ _
    · refine ⟨[_], [], (List.append_nil _).symm, fun m hm => ?_⟩
      obtain rfl := List.mem_singleton.mp hm
      exact Baseline.drawn_rule _ _
  · exact ⟨[], [], by simp, by simp⟩

theorem decorations_drawn {dataField : Option String} (h : m ∈ decorations o scaleName dataField) :
    Drawn m := by
  rcases List.mem_append.mp h with h | h
  · obtain ⟨a, -, rfl⟩ := List.mem_map.mp h
    exact Note.drawn_mark a
  · split at h
    · split at h
      · obtain ⟨t, -, rfl⟩ := List.mem_map.mp h
        exact Thumbnail.drawn_mark t
      · cases h
    · cases h

end Builder

end VegaAxes
