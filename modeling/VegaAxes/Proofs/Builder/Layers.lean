import VegaAxes.Proofs.Builder.NotePieces
import VegaAxes.Proofs.Builder.Outcomes
import VegaAxes.Proofs.Builder.UndrawnLines

/-!
# Layers of marks

Marks are drawn in the order of their list. What an axis draws goes under all marks that are there
or over them (`add_layers`), so that the marks of a build end up in layers around those of the
document (`drawnRun_layers`, `compileAxes_layers`). `layerMarks_kinds`: each reference line is a
rule, its symbol and its text, in one block.
-/

namespace VegaAxes

open Trellis

namespace ReferenceLine

variable {r : ResolvedAxis}

-- ---------------------------------------------------------------------------
-- The block of a line
-- ---------------------------------------------------------------------------

def kindOf (mark : Json) : Option Json × Option String :=
  (Fields.get? mark.ownFields "type", Document.entryName? mark)

/-- The kinds of the marks of a line: a symbol if it has an icon, a text if it has a label. -/
def kinds (axisName : String) (index : Nat) (line : ReferenceLineOptions) :
    List (String × String) :=
  let name := axisName ++ "ReferenceLine" ++ toString index
  ("rule", name) ::
    ((if line.icon.getD "" = "" then [] else [("symbol", name ++ "_symbol")]) ++
      if line.label.getD "" = "" then [] else [("text", name ++ "_label")])

def layerKinds (o : AxisFeatures) (axisName : String) (layer : Layer) : List (String × String) :=
  (o.referenceLines.zipIdx.filter (·.1.layer = layer)).flatMap fun line =>
    kinds axisName line.2 line.1

theorem map_given (text : Option String) (f : String → β) :
    (given text).toList.map f = if text.getD "" = "" then [] else [f (text.getD "")] := by
  cases text with
  | none => rfl
  | some text =>
    by_cases h : text = ""
    · subst h
      rfl
    · simp [given, h]

theorem marks_kinds (r : ResolvedAxis) (scaleName : ScaleName) (index : Nat)
    (line : ReferenceLineOptions) :
    (marks r scaleName (ofOptions r index line)).map kindOf =
      (kinds r.name index line).map fun kind => (some (.str kind.1), some kind.2) := by
  have hrule : kindOf (ruleMark r scaleName (ofOptions r index line)) =
      (some (.str "rule"), some (r.name ++ "ReferenceLine" ++ toString index)) := rfl
  have hsymbol (icon : String) : kindOf (symbolMark r scaleName (ofOptions r index line) icon) =
      (some (.str "symbol"), some (r.name ++ "ReferenceLine" ++ toString index ++ "_symbol")) := rfl
  have htext (label : String) : kindOf (textMark r scaleName (ofOptions r index line) label) =
      (some (.str "text"), some (r.name ++ "ReferenceLine" ++ toString index ++ "_label")) := rfl
  have hicon : (ofOptions r index line).icon = line.icon := rfl
  have hlabel : (ofOptions r index line).label = line.label := rfl
  rw [marks, kinds, hicon, hlabel, map_given, map_given]
  by_cases h : line.icon.getD "" = "" <;> by_cases h' : line.label.getD "" = "" <;>
    simp [h, h', hrule, hsymbol, htext]

theorem layerMarks_kinds (r : ResolvedAxis) (scaleName : ScaleName) (layer : Layer) :
    (layerMarks r scaleName layer).map kindOf =
      (layerKinds r.toAxisFeatures r.name layer).map fun kind =>
        (some (.str kind.1), some kind.2) := by
  rw [layerMarks, all, List.mapIdx_eq_zipIdx_map, List.filter_map, List.flatMap_map,
    List.map_flatMap, layerKinds, List.map_flatMap]
  exact congrArg (List.flatMap · _) (funext fun line => marks_kinds r scaleName line.2 line.1)

end ReferenceLine

namespace Builder

variable {b b' b'' : Builder} {o : AxisOptions} {index : Json} {ms kept : List Json}
  {calls : List Call}

-- ---------------------------------------------------------------------------
-- Drawings
-- ---------------------------------------------------------------------------

structure Drawing where
  axis : ResolvedAxis
  scaleName : ScaleName
  dataField : Option String
  /-- The baseline is one of the document's marks. -/
  hasBaseline : Bool

namespace Drawing

def lines (d : Drawing) (layer : Layer) : List Json :=
  if Scale.supportsReferenceLines d.axis.scaleType then
    ReferenceLine.layerMarks d.axis d.scaleName layer
  else []

/-- A baseline at zero is in front of the data. -/
def baselineLayer (d : Drawing) : Layer :=
  if d.axis.baselineOffset == 0 then .front else .back

def baseline (d : Drawing) (layer : Layer) : List Json :=
  if d.hasBaseline = true ∧ d.baselineLayer = layer then
    [Baseline.rule (.float d.axis.baselineOffset) d.axis.position]
  else []

/-- The marks under all others. -/
def beneath (d : Drawing) : List Json :=
  d.baseline .back ++ d.lines .back

def above (d : Drawing) : List Json :=
  d.lines .front ++ d.baseline .front ++ decorations d.axis d.scaleName d.dataField

end Drawing

def isTrellised (b : Builder) : Bool :=
  match findGroup? 0 (itemsOf b.marks) with
  | .ok (some _) => true
  | _ => false

namespace Addition

/-- In a trellised chart the baseline is within the trellis group. -/
def drawing (a : Addition b o index) : Drawing where
  axis := a.axis
  scaleName := a.binding.scaleName
  dataField := a.bound.dataField
  hasBaseline := a.axis.baseline && a.binding.opposesLinear && !isTrellised b

end Addition

-- ---------------------------------------------------------------------------
-- One call
-- ---------------------------------------------------------------------------

theorem lined_eq (d : Drawing) (ms : List Json) :
    lined d.axis d.scaleName ms = d.lines .back ++ ms ++ d.lines .front := by
  unfold lined Drawing.lines
  split <;> simp

theorem lines_unmentioning (a : Addition b o index) (layer : Layer) :
    ∀ m ∈ a.drawing.lines layer, Unmentioning m := by
  intro m hm
  unfold Drawing.lines at hm
  split at hm
  · exact ReferenceLine.layerMarks_unmentioning a.name_plain hm
  · cases hm

theorem rule_unmentioning (offset : Json) (p : Position) : Unmentioning (Baseline.rule offset p) :=
  unmentioning_of_name rfl (by cases p <;> decide)

theorem beneath_unmentioning (a : Addition b o index) :
    ∀ m ∈ a.drawing.beneath, Unmentioning m := by
  intro m hm
  rcases List.mem_append.mp hm with hm | hm
  · unfold Drawing.baseline at hm
    split at hm
    · obtain rfl := List.mem_singleton.mp hm
      exact rule_unmentioning _ _
    · cases hm
  · exact lines_unmentioning a .back m hm

theorem based_eq (d : Drawing) {binding : Axis.Binding}
    (h : d.hasBaseline = (d.axis.baseline && binding.opposesLinear)) (ms : List Json) :
    based d.axis binding ms = d.baseline .back ++ ms ++ d.baseline .front := by
  unfold based Drawing.baseline Drawing.baselineLayer
  rw [h]
  by_cases hdrawn : (d.axis.baseline && binding.opposesLinear) = true
  · by_cases hzero : (d.axis.baselineOffset == 0) = true <;> simp [hdrawn, hzero]
  · simp [hdrawn]

theorem isTrellised_eq (hm : b.marks = .arr ms) {found : Option Nat}
    (h : findGroup? 0 ms = .ok found) : isTrellised b = found.isSome := by
  rw [isTrellised, hm, itemsOf, h]
  cases found <;> rfl

/-- The lines of the axis go around the marks, and what decorates it after them. Between the two
steps the baseline is added, among the marks or within the trellis group. -/
theorem Addition.marks_ok (a : Addition b o index) (hm : b.marks = .arr ms)
    (h : (addMarks a.axis a.binding a.bound.dataField).run a.unmarked = .ok () b') :
    (findGroup? 0 ms = .ok none ∧
      b'.marks = .arr
        (based a.axis a.binding (a.drawing.lines .back ++ ms ++ a.drawing.lines .front) ++
        decorations a.axis a.binding.scaleName a.bound.dataField)) ∨
    ∃ place g, ∃ f : FacetAddition a.axis a.binding a.context g,
      IsGroupAt ms place ∧ ms[place]? = some (.obj g) ∧
      b'.marks = .arr (a.drawing.lines .back ++ ms.set place (.obj f.result) ++
        a.drawing.lines .front ++
        decorations a.axis a.binding.scaleName a.bound.dataField) := by
  have hlined : lined a.axis a.binding.scaleName ms = _ := lined_eq a.drawing ms
  have hgroup := findGroup?_block (lines_unmentioning a .back) (lines_unmentioning a .front) ms
  rw [← hlined] at hgroup
  rcases (addMarks_ok (b := a.unmarked) hm).mp h with ⟨hnone, rfl⟩ | ⟨place, g, f, hplace, hg, rfl⟩
  · obtain ⟨found, hfound, hmap⟩ := map_ok.mp (hgroup.symm.trans hnone)
    obtain rfl : found = none := by simpa using hmap
    exact .inl ⟨hfound, by rw [hlined]⟩
  · obtain ⟨found, hfound, hmap⟩ := map_ok.mp (hgroup.symm.trans hplace)
    obtain ⟨i, rfl, rfl⟩ := Option.map_eq_some_iff.mp hmap
    have hlt : i < ms.length := by simpa using findGroup?_lt hfound
    refine .inr ⟨i, g, f, hfound, ?_, ?_⟩
    · rwa [hlined, List.append_assoc, List.getElem?_append_right (by omega),
        Nat.add_sub_cancel_left, List.getElem?_append_left hlt] at hg
    · rw [hlined, List.append_assoc, List.set_append_right _ _ (by omega), Nat.add_sub_cancel_left,
        List.set_append_left _ _ hlt, List.append_assoc _ (ms.set i _)]

/-- The marks of the axis go under all others and above them; of these only the trellis group
changes, in which the axis is repeated. -/
theorem add_layers (hm : b.marks = .arr ms) (a : Addition b o index)
    (h : (addMarks a.axis a.binding a.bound.dataField).run a.unmarked = .ok () b') :
    ∃ kept, b'.marks = .arr (a.drawing.beneath ++ kept ++ a.drawing.above) ∧
      ChangedAt (IsGroupAt ms) (Faceted a.axis a.binding a.context) ms kept := by
  rcases a.marks_ok hm h with ⟨hfound, hmarks⟩ | ⟨place, g, f, hfound, hg, hmarks⟩
  · have hbaseline : a.drawing.hasBaseline = (a.axis.baseline && a.binding.opposesLinear) := by
      simp [Addition.drawing, isTrellised_eq hm hfound]
    refine ⟨ms, hmarks.trans (congrArg Json.arr ?_), .refl _ _ _⟩
    rw [show based a.axis a.binding _ = _ from based_eq a.drawing hbaseline _]
    simp only [Drawing.beneath, Drawing.above, List.append_assoc]
    rfl
  · have hbaseline (layer : Layer) : a.drawing.baseline layer = [] := by
      simp [Drawing.baseline, Addition.drawing, isTrellised_eq hm hfound]
    refine ⟨ms.set place (.obj f.result), hmarks.trans (congrArg Json.arr ?_),
      .set hfound hg ⟨f, rfl⟩⟩
    simp only [Drawing.beneath, Drawing.above, hbaseline, List.append_assoc, List.nil_append]
    rfl

-- ---------------------------------------------------------------------------
-- Runs
-- ---------------------------------------------------------------------------

/-- The calls succeed one after the other, and draw what is listed. -/
inductive DrawnRun : Builder → List Call → List Drawing → Builder → Prop where
  | nil (b : Builder) : DrawnRun b [] [] b
  | cons {b b' b'' : Builder} {c : Call} {o : AxisOptions} {calls : List Call} {ds : List Drawing}
    (options : c.options = .ok o) (a : Addition b o c.index)
    (marks : (addMarks a.axis a.binding a.bound.dataField).run a.unmarked = .ok () b')
    (tail : DrawnRun b' calls ds b'') : DrawnRun b (c :: calls) (a.drawing :: ds) b''

theorem Runs.drawn (h : Runs b calls b') : ∃ ds, DrawnRun b calls ds b' := by
  induction h with
  | nil b => exact ⟨[], .nil b⟩
  | cons head _ ih =>
    obtain ⟨ds, hds⟩ := ih
    obtain ⟨o, ho, hadd⟩ := Call.run_ok.mp head
    obtain ⟨a, hmarks⟩ := add_ok.mp hadd
    exact ⟨_, .cons ho a hmarks hds⟩

theorem kept_beneath {beneath rest kept : List Json} (hbeneath : ∀ m ∈ beneath, Unmentioning m)
    (h : ChangedAt (IsGroupAt (beneath ++ rest)) (Fields.SameExcept listKeys)
      (beneath ++ rest) kept) :
    ∃ kept', kept = beneath ++ kept' ∧
      ChangedAt (IsGroupAt rest) (Fields.SameExcept listKeys) rest kept' := by
  obtain ⟨beneath', kept', rfl, hkept, hlength⟩ := h.append_right
  obtain ⟨beneath'', kept'', heq, hbeneath', hlength'⟩ := h.append_left
  obtain ⟨rfl, rfl⟩ := List.append_inj heq (hlength.trans hbeneath'.1)
  have hskip : findGroup? 0 (beneath ++ rest) = findGroup? (0 + beneath.length) rest :=
    findGroup?_skip hbeneath 0
  have hnone : ∀ i < beneath.length, ¬IsGroupAt (beneath ++ rest) i := by
    intro i hi hgroup
    rw [IsGroupAt, hskip] at hgroup
    have := (findGroup?_obj hgroup).1
    omega
  obtain rfl := hbeneath'.eq_of_forall_not hnone
  refine ⟨kept', rfl, hkept.mono fun i hplace => ?_⟩
  obtain ⟨-, hgroup⟩ := hplace
  rw [IsGroupAt, hskip, findGroup?_shift] at hgroup
  obtain ⟨found, hfound, hmap⟩ := map_ok.mp hgroup
  obtain ⟨j, rfl, hj⟩ := Option.map_eq_some_iff.mp hmap
  obtain rfl : j = i := by omega
  exact hfound

/-- What later axes draw is further out, on both sides. Of the marks between only the trellis group
changes, in its lists. -/
theorem drawnRun_layers {ds : List Drawing} (h : DrawnRun b calls ds b') (hm : b.marks = .arr ms) :
    ∃ kept, b'.marks = .arr (ds.reverse.flatMap Drawing.beneath ++ kept) ∧
      ChangedAt (IsGroupAt (ms ++ ds.flatMap Drawing.above)) (Fields.SameExcept listKeys)
        (ms ++ ds.flatMap Drawing.above) kept := by
  induction h generalizing ms with
  | nil b => exact ⟨ms, hm, by simpa using .refl _ _ _⟩
  | @cons b b₁ b' c o calls ds options a marks tail ih =>
    obtain ⟨kept, hkept, hfaceted⟩ := add_layers hm a marks
    have hchanged : ChangedAt (IsGroupAt ms) (Fields.SameExcept listKeys) ms kept := by
      refine hfaceted.imp fun _ _ hresult => ?_
      obtain ⟨f, rfl⟩ := hresult
      exact fun key hkey => f.result_get? hkey
    obtain ⟨kept', hkept', hchanged'⟩ := ih hkept
    rw [List.append_assoc, List.append_assoc] at hchanged'
    obtain ⟨kept'', rfl, hchanged''⟩ := kept_beneath (beneath_unmentioning a) hchanged'
    refine ⟨kept'', by rw [hkept']; simp, ?_⟩
    rw [List.flatMap_cons]
    generalize a.drawing.above ++ ds.flatMap Drawing.above = added at hchanged''
    have hfirst : ChangedAt (IsGroupAt (ms ++ added)) (Fields.SameExcept listKeys) (ms ++ added)
        (kept ++ added) :=
      (hchanged.mono fun i hgroup => findGroup?_append_left hgroup added).append_same added
    have hplaces : IsGroupAt (kept ++ added) = IsGroupAt (ms ++ added) :=
      isGroupAt_of_names hfirst fun hsame => hsame "name" (by simp [listKeys])
    rw [hplaces] at hchanged''
    exact hfirst.trans .trans hchanged''

theorem drawnRun_axes {ds : List Drawing} {n : Nat} {axes : List AxisOptions}
    (h : DrawnRun b (callsFrom .read n axes) ds b') :
    ds.map (·.axis.toAxisFeatures) = axes.map (·.toAxisFeatures) ∧
      ds.map (·.axis.name) = (List.range' n axes.length).map ("axis" ++ toString ·) := by
  induction axes generalizing b n ds with
  | nil =>
    cases h
    exact ⟨rfl, rfl⟩
  | cons o axes ih =>
    obtain _ | ⟨ho, a, -, tail⟩ := h
    cases ho
    obtain ⟨hfeatures, hnames⟩ := ih tail
    rw [List.map_cons, List.map_cons, List.map_cons, hfeatures, hnames, List.length_cons,
      List.range'_succ, List.map_cons]
    refine ⟨congrArg (· :: _) (AxisOptions.resolveFor_features a.axis_eq), congrArg (· :: _) ?_⟩
    exact a.name_eq

theorem lines_kinds (d : Drawing) (layer : Layer) :
    (d.lines layer).map ReferenceLine.kindOf =
      if d.axis.scaleType ∈ ["linear", "time", "utc"] then
        (ReferenceLine.layerKinds d.axis.toAxisFeatures d.axis.name layer).map fun kind =>
          (some (.str kind.1), some kind.2)
      else [] := by
  unfold Drawing.lines Scale.supportsReferenceLines
  by_cases h : d.axis.scaleType ∈ ["linear", "time", "utc"]
  · rw [if_pos h, if_pos (decide_eq_true h)]
    exact ReferenceLine.layerMarks_kinds d.axis d.scaleName layer
  · rw [if_neg h, if_neg (by simpa using h)]
    rfl

end Builder

open Builder

variable {settings : Settings} {document : Json} {axes : List AxisOptions}
  {context : Option Context}
  {validated : Option Bool} {c : Compiled}

theorem compileAxes_drawn (hc : compileAxes settings document axes context validated = .ok c) :
    ∃ b b' ds, ofDocument settings document context = .ok b ∧
      DrawnRun b (callsFrom .read 0 axes) ds b' ∧ c.document.marks.thaw = b'.marks := by
  obtain ⟨b, hb, hc⟩ := bind_ok.mp hc
  obtain ⟨b', hrun, -, hmarks⟩ := compile_run hc
  have hruns : Runs b (callsFrom .read 0 axes) b' := addEach_runs.mp hrun
  obtain ⟨ds, hds⟩ := hruns.drawn
  exact ⟨b, b', ds, hb, hds, hmarks⟩

/-- The first axis finds a list of marks, since the marks are unset or not empty. -/
theorem drawnRun_listed {b b' : Builder} {ds : List Drawing}
    (hb : ofDocument settings document context = .ok b)
    (h : DrawnRun b (callsFrom .read 0 axes) ds b') (haxes : axes ≠ []) :
    ∃ ms, b.marks = .arr ms := by
  by_cases hlisted : ∃ ms, b.marks = .arr ms
  · exact hlisted
  obtain ⟨o, axes, rfl⟩ := List.exists_cons_of_ne_nil haxes
  obtain _ | ⟨-, a, hmarks, -⟩ := h
  have hempty := addMarks_elements (b := a.unmarked) (fun ms hms => hlisted ⟨ms, hms⟩) hmarks
  obtain ⟨fs, context, -, rfl⟩ := ofDocument_start hb
  exact ⟨[], orElse_empty hempty⟩

/-- The marks of a compiled document lie in layers around those of the one that it is made from:
the lines and baselines that are drawn behind the data before these, those of a later axis first,
and all others after them, those of a later axis last. -/
theorem compileAxes_layers (hc : compileAxes settings document axes context validated = .ok c) :
    (∀ r scaleName layer, (ReferenceLine.layerMarks r scaleName layer).map ReferenceLine.kindOf =
      (ReferenceLine.layerKinds r.toAxisFeatures r.name layer).map fun kind =>
        (some (.str kind.1), some kind.2)) ∧
    ∃ b b' ds, ofDocument settings document context = .ok b ∧
      DrawnRun b (callsFrom .read 0 axes) ds b' ∧ c.document.marks.thaw = b'.marks ∧
      ds.map (·.axis.toAxisFeatures) = axes.map (·.toAxisFeatures) ∧
      ds.map (·.axis.name) = (List.range axes.length).map ("axis" ++ toString ·) ∧
      (∀ d ∈ ds, ∀ layer, (d.lines layer).map ReferenceLine.kindOf =
        if d.axis.scaleType ∈ ["linear", "time", "utc"] then
          (ReferenceLine.layerKinds d.axis.toAxisFeatures d.axis.name layer).map fun kind =>
            (some (.str kind.1), some kind.2)
        else []) ∧
      (axes ≠ [] → ∃ ms, b.marks = .arr ms) ∧
      ∀ ms, b.marks = .arr ms → ∃ kept,
        b'.marks = .arr (ds.reverse.flatMap Drawing.beneath ++ kept) ∧
        ChangedAt (IsGroupAt (ms ++ ds.flatMap Drawing.above)) (Fields.SameExcept listKeys)
          (ms ++ ds.flatMap Drawing.above) kept := by
  obtain ⟨b, b', ds, hb, hds, hmarks⟩ := compileAxes_drawn hc
  obtain ⟨hfeatures, hnames⟩ := drawnRun_axes hds
  exact ⟨ReferenceLine.layerMarks_kinds, b, b', ds, hb, hds, hmarks, hfeatures,
    List.range_eq_range' ▸ hnames, fun d _ => lines_kinds d, drawnRun_listed hb hds,
    fun ms hm => drawnRun_layers hds hm⟩

def linearBars : Json :=
  .obj [("scales", .arr [
      .obj [("name", .str "xLinear"), ("type", .str "linear"), ("range", .str "width")],
      .obj [("name", .str "yLinear"), ("type", .str "linear"), ("range", .str "height")]]),
    ("marks", .arr [.obj [("name", .str "bars"), ("type", .str "rect")]])]

def linedAxes : List AxisOptions :=
  [{ position := .bottom, baseline := true, baselineOffset := 1,
      notes := [{ name := some "release" }],
      referenceLines := [{ value := .int 1 },
        { value := .int 2, layer := .back, icon := some "flag" }] },
    { position := .left, baseline := true,
      referenceLines := [{ value := .int 3, layer := .back },
        { value := .int 4, icon := some "", label := some "goal" }] }]

theorem linearBars_compiles : ∃ c, compileAxes (.ofEnvironment {}) linearBars linedAxes
    (some ⟨.vertical, .light, .null⟩) none = .ok c := by
  have hsome : (compileAxes (.ofEnvironment {}) linearBars linedAxes
      (some ⟨.vertical, .light, .null⟩) none).toOption.isSome = true := by decide +kernel
  obtain ⟨c, hc⟩ := Option.isSome_iff_exists.mp hsome
  exact ⟨c, toOption_eq_some.mp hc⟩

theorem linearBars_layers :
    ∃ (c : Compiled) (b : Builder) (ds : List Drawing) (kept : List Json),
      compileAxes (.ofEnvironment {}) linearBars linedAxes
          (some ⟨.vertical, .light, .null⟩) none = .ok c ∧
      ofDocument (.ofEnvironment {}) linearBars (some ⟨.vertical, .light, .null⟩) = .ok b ∧
      ds.map (·.axis.name) = ["axis0", "axis1"] ∧
      c.document.marks.thaw = .arr (ds.reverse.flatMap Drawing.beneath ++ kept) ∧
      ChangedAt (IsGroupAt (itemsOf b.marks ++ ds.flatMap Drawing.above))
        (Fields.SameExcept Trellis.listKeys)
        (itemsOf b.marks ++ ds.flatMap Drawing.above) kept := by
  obtain ⟨c, hc⟩ := linearBars_compiles
  obtain ⟨-, b, b', ds, hb, -, hmarks, -, hnames, -, hlisted, hlayers⟩ := compileAxes_layers hc
  obtain ⟨ms, hm⟩ := hlisted (by simp [linedAxes])
  obtain ⟨kept, hkept, hchanged⟩ := hlayers ms hm
  refine ⟨c, b, ds, kept, hc, hb, hnames.trans (by decide +kernel), hmarks.trans hkept, ?_⟩
  rw [hm]
  exact hchanged

example :
    (compileAxes (.ofEnvironment {}) linearBars linedAxes (some ⟨.vertical, .light, .null⟩)
        none).toOption.map (fun c => Document.namesOf (itemsOf c.document.marks.thaw)) =
      some ["axis1ReferenceLine0", "xBaseline", "axis0ReferenceLine1", "axis0ReferenceLine1_symbol",
        "bars", "axis0ReferenceLine0", "release_group", "axis1ReferenceLine1",
        "axis1ReferenceLine1_label", "yBaseline"] := by
  decide +kernel

end VegaAxes
