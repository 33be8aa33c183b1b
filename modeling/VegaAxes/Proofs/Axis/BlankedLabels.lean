import VegaAxes.Proofs.Axis.HiddenLabels
import VegaAxes.Proofs.Encoding
import VegaAxes.Proofs.Json.Placing

/-!
# Labels blanked for reference lines

`hideLabels_reading`: of an axis whose encodings can be followed only a list of text rules is
changed. It gets one blank for each line with something in its middle, in the order of the lines, so
that a label is blank where one of them is too close, and else has the text that it had.
-/

namespace VegaAxes

variable {axis : Fields} {o : ResolvedAxis} {scaleName : ScaleName} {text : Option Json}
  {rules : List Json}

theorem map_filter_mapIdx {f : Nat → α → β} {p : β → Bool} {q : α → Bool} {g : β → γ} {h : α → γ}
    (hp : ∀ i x, p (f i x) = q x) (hg : ∀ i x, g (f i x) = h x) (xs : List α) :
    ((xs.mapIdx f).filter p).map g = (xs.filter q).map h := by
  induction xs generalizing f with
  | nil => rfl
  | cons x xs ih =>
    have hrest := ih (f := fun i => f (i + 1)) (fun i => hp (i + 1)) (fun i => hg (i + 1))
    rw [List.mapIdx_cons, List.filter_cons, List.filter_cons, hp]
    split
    · rw [List.map_cons, List.map_cons, hg, hrest]
    · exact hrest

/-- Whether the line has an icon or a label in its middle, where the axis has its own. -/
def ReferenceLineOptions.isCovering (line : ReferenceLineOptions) : Bool :=
  (line.icon.any (· ≠ "") || line.label.any (· ≠ "")) && line.position = .center

namespace ReferenceLine

open Encoding

def clearanceTest (scaleName : ScaleName) (value : AxisValue) : String :=
  let name := scaleName.spliced
  s!"abs(scale('{name}', {literal value}) - scale('{name}', datum.value)) < {clearance}"

def clearanceTests (o : ResolvedAxis) (scaleName : ScaleName) : List String :=
  (o.referenceLines.filter ReferenceLineOptions.isCovering).map (clearanceTest scaleName ·.value)

theorem isSome_given (s : Option String) : (given s).isSome = s.any (· ≠ "") := by
  rcases s with _ | s
  · rfl
  · unfold given
    split
    · next heq =>
      cases heq
      rfl
    · next hne =>
      have hne : s ≠ "" := fun heq => hne (congrArg some heq)
      simp [hne]

theorem hidingRules_eq (o : ResolvedAxis) (scaleName : ScaleName) :
    hidingRules o scaleName = blanks (clearanceTests o scaleName) := by
  rw [clearanceTests, blanks, List.map_map]
  refine map_filter_mapIdx (f := ofOptions o) (fun i line => ?_) (fun i line => rfl) _
  rw [coversLabels, isSome_given, isSome_given]
  rfl

/-- The encodings that the text of the labels is found in are objects, as far as there are any. -/
def EncodesInObjects (axis : Fields) : Prop :=
  ∀ path ∈ [["encode"], ["encode", "labels"], ["encode", "labels", "update"]],
    ∀ v, (Json.obj axis).descend path = .ok (some v) → ∃ fs, v = .obj fs

theorem EncodesInObjects.found (h : EncodesInObjects axis) :
    ∃ text, (Json.obj axis).descend labelTextPath = .ok text := by
  cases hfound : (Json.obj axis).descend labelTextPath with
  | ok text => exact ⟨text, rfl⟩
  | error e =>
    obtain ⟨-, before, key, after, w, hpath, hw, hne⟩ := Json.descend_error.mp hfound
    have hbefore : before = [] ∨ before ∈ [["encode"], ["encode", "labels"],
        ["encode", "labels", "update"]] := by
      rcases before with _ | ⟨a, _ | ⟨b, _ | ⟨c, _ | ⟨d, before⟩⟩⟩⟩ <;>
        simp_all [labelTextPath]
    rcases hbefore with rfl | hbefore
    · cases hw
      exact absurd rfl (hne axis)
    · obtain ⟨fs, rfl⟩ := h before hbefore w hw
      exact absurd rfl (hne fs)

theorem hideLabels_rules (o : ResolvedAxis) (scaleName : ScaleName)
    (h : (Json.obj axis).descend labelTextPath = .ok (some (.arr rules))) :
    ∃ axis', hideLabels axis o scaleName = .ok axis' ∧ .obj axis' =
      (Json.obj axis).put labelTextPath (.arr (blanks (clearanceTests o scaleName) ++ rules)) := by
  refine ⟨axis.modifyPath (fun _ => .arr (hidingRules o scaleName ++ rules)) labelTextPath, ?_, ?_⟩
  · rw [hideLabels, h]
    rfl
  · rw [← hidingRules_eq]
    exact Json.modifyPath_eq_put h

theorem hideLabels_still (h : (Json.obj axis).descend labelTextPath = .ok text)
    (hrules : ∀ rules, text ≠ some (.arr rules)) : hideLabels axis o scaleName = .ok axis := by
  rw [hideLabels, h]
  rcases text with _ | _ | _ | _ | _ | _ | rules | _
  case some.arr => exact absurd rfl (hrules rules)
  all_goals rfl

/-- Hiding labels means what it says: the new list blanks exactly the labels that a covering line is
too close to. -/
theorem hideLabels_reading (axis : Fields) (o : ResolvedAxis) (scaleName : ScaleName)
    (hobjects : EncodesInObjects axis) :
    ∃ axis', hideLabels axis o scaleName = .ok axis' ∧
      ((∀ rules, (Json.obj axis).descend labelTextPath ≠ .ok (some (.arr rules))) → axis' = axis) ∧
      ∀ rules, (Json.obj axis).descend labelTextPath = .ok (some (.arr rules)) →
        .obj axis' = (Json.obj axis).put labelTextPath
          (.arr (blanks (clearanceTests o scaleName) ++ rules)) ∧
        (∀ path, Json.apart path labelTextPath = true →
          (Json.obj axis').descend path = (Json.obj axis).descend path) ∧
        ∀ holds, reading holds (blanks (clearanceTests o scaleName) ++ rules) =
          if ∃ line ∈ o.referenceLines, line.isCovering = true ∧
            holds (.str (clearanceTest scaleName line.value)) = true then some (Encoding.text "")
          else reading holds rules := by
  obtain ⟨text, htext⟩ := hobjects.found
  by_cases hlist : ∃ rules, text = some (.arr rules)
  · obtain ⟨rules, rfl⟩ := hlist
    obtain ⟨axis', haxis', hput⟩ := hideLabels_rules o scaleName htext
    refine ⟨axis', haxis', fun hnone => absurd htext (hnone rules), fun rules' htext' => ?_⟩
    cases htext.symm.trans htext'
    refine ⟨hput, fun path hpath => ?_, fun holds => ?_⟩
    · rw [hput]
      exact Json.descend_put_of_apart hpath htext _
    · have hany : ((clearanceTests o scaleName).any fun test => holds (.str test)) = true ↔
          ∃ line ∈ o.referenceLines, line.isCovering = true ∧
            holds (.str (clearanceTest scaleName line.value)) = true := by
        simp [clearanceTests]
      simp only [reading_blanks_append, hany]
  · have hother : ∀ rules, text ≠ some (.arr rules) := fun rules heq => hlist ⟨rules, heq⟩
    refine ⟨axis, hideLabels_still htext hother, fun _ => rfl, fun rules hrules => ?_⟩
    exact absurd (Except.ok.inj (htext.symm.trans hrules)) (hother rules)

def years : Fields :=
  [("scale", .str "xScale"), ("encode", .obj [("labels", .obj [("update", .obj
    [("text", .arr [rawValue])])])])]

def yearLines : ResolvedAxis where
  position := .bottom
  name := "axis0"
  referenceLines :=
    [{ value := .int 2000, icon := some "star" }, { value := .int 2010, icon := some "" },
      { value := .int 2020, label := some "now" }]

theorem years_reading :
    EncodesInObjects years ∧ ∃ axis', hideLabels years yearLines ⟨.str "xScale"⟩ = .ok axis' ∧
      (Json.obj axis').descend labelTextPath = .ok (some (.arr
        [testedValue "abs(scale('xScale', 2000) - scale('xScale', datum.value)) < 30" (.str ""),
          testedValue "abs(scale('xScale', 2020) - scale('xScale', datum.value)) < 30" (.str ""),
          rawValue])) := by
  have hobjects : EncodesInObjects years := by
    intro path hpath v hv
    simp only [List.mem_cons, List.not_mem_nil, or_false] at hpath
    rcases hpath with rfl | rfl | rfl <;> cases hv <;> exact ⟨_, rfl⟩
  obtain ⟨axis', haxis', -, hrules⟩ := hideLabels_reading years yearLines ⟨.str "xScale"⟩ hobjects
  obtain ⟨hput, -⟩ := hrules [rawValue] rfl
  have htests : clearanceTests yearLines ⟨.str "xScale"⟩ =
      ["abs(scale('xScale', 2000) - scale('xScale', datum.value)) < 30",
        "abs(scale('xScale', 2020) - scale('xScale', datum.value)) < 30"] := by decide +kernel
  refine ⟨hobjects, axis', haxis', ?_⟩
  rw [hput, Json.descend_put_self, htests]
  rfl

end ReferenceLine

end VegaAxes
