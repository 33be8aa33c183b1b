import VegaAxes.Proofs.Axis.Untouched
import VegaAxes.Proofs.Builder.Runs
import VegaAxes.Proofs.Builder.WellFormed

/-!
# The pieces of notes

A note is data tables, signals, a group of marks and an empty axis. `add_notePieces`: an axis that
is added leaves all pieces of all its notes, or none, but for one case: the notes of a bottom axis
on a scale that lays out facets have no empty axis, since the axis is a header by then.
-/

namespace VegaAxes.Builder

open Document Axis

variable {b b' : Builder} {o : AxisOptions} {r : ResolvedAxis} {index : Json} {ms : List Json}

-- ---------------------------------------------------------------------------
-- Counting pieces
-- ---------------------------------------------------------------------------

def wordEnds (words : List String) (name : String) : Bool :=
  words.any fun word => word.toList.isSuffixOf name.toList

def endsIn (words : List String) (entry : Json) : Bool :=
  (entryName? entry).any (wordEnds words)

def isOfType (type : String) (mark : Json) : Bool :=
  Fields.get? mark.ownFields "type" = some (.str type)

def isEmptyAxis (axis : Json) : Bool :=
  IsEmpty axis.ownFields

def detailTables (b : Builder) : Nat :=
  (itemsOf b.data).countP (endsIn ["_details"])

/-- The signals of notes that show a range. -/
def spanSignals (b : Builder) : Nat :=
  (itemsOf b.signals).countP (endsIn noteWords)

def groups (b : Builder) : Nat :=
  (itemsOf b.marks).countP (isOfType "group")

def emptyAxes (b : Builder) : Nat :=
  (itemsOf b.axes).countP isEmptyAxis

theorem countP_eq_zero_of {p : α → Bool} {items : List α} (h : ∀ m ∈ items, p m = false) :
    items.countP p = 0 :=
  List.countP_eq_zero.mpr fun m hm => by simp [h m hm]

theorem countP_eq_length_of {p : α → Bool} {items : List α} (h : ∀ m ∈ items, p m = true) :
    items.countP p = items.length :=
  List.countP_eq_length.mpr h

theorem countP_grow {p : Json → Bool} {v w : Json} {items : List Json} (h : grow v items = .ok w) :
    (itemsOf w).countP p = (itemsOf v).countP p + items.countP p := by
  unfold grow at h
  split at h
  · next hempty =>
    cases h
    rw [List.isEmpty_iff.mp hempty]
    rfl
  · obtain ⟨old, rfl, rfl⟩ := append_ok.mp h
    exact List.countP_append

-- ---------------------------------------------------------------------------
-- Tables and signals
-- ---------------------------------------------------------------------------

theorem countP_endsIn {entries : List Json} {parts : List (String × String)}
    {words own : List String} (hwords : Text.NoneEnds words) (hown : ∀ word ∈ own, word ∈ words)
    (hparts : ∀ part ∈ parts, part.2 ∈ words)
    (hnames : entries.map entryName? = (parts.map Text.joined).map some) :
    entries.countP (endsIn own) = parts.countP fun part => decide (part.2 ∈ own) := by
  have hnamed : entries.countP (endsIn own) =
      (entries.map entryName?).countP (·.any (wordEnds own)) :=
    List.countP_map.symm
  rw [hnamed, hnames, List.countP_map, List.countP_map]
  refine List.countP_congr fun part hpart => ?_
  simp only [Function.comp, Option.any_some, wordEnds, List.any_eq_true, List.isSuffixOf_iff_suffix,
    decide_eq_true_eq]
  constructor
  · rintro ⟨word, hword, hends⟩
    rwa [← (hwords.suffix_iff (hown word hword) (hparts part hpart)).mp hends]
  · exact fun h => ⟨part.2, h, (hwords.suffix_iff (hparts part hpart) (hparts part hpart)).mpr rfl⟩

/-- Of the tables of a note one has its details. -/
theorem countP_details (r : ResolvedAxis) :
    ((Note.all r).flatMap Note.tables).countP (endsIn ["_details"]) = (Note.all r).length := by
  rw [countP_endsIn tableWords_noneEnds (by decide) (fun _ h => (mem_tableParts h).2)
    (tables_names r), ResolvedAxis.tableParts]
  induction Note.all r with
  | nil => rfl
  | cons a notes ih =>
    have hown : a.tableParts.countP (fun part => decide (part.2 ∈ ["_details"])) = 1 := by
      unfold Note.tableParts
      cases a.format <;> rfl
    rw [List.flatMap_cons, List.countP_append, ih, hown, List.length_cons, Nat.add_comm]

theorem countP_spanSignals (r : ResolvedAxis) (scaleName : String) :
    (axisSignals r scaleName).countP (endsIn noteWords) =
      ((Note.all r).flatMap Note.signals).length := by
  have hlength : ((Note.all r).flatMap Note.signals).length =
      ((Note.all r).flatMap Note.signalParts).length := by
    rw [List.length_flatMap, List.length_flatMap]
    congr 2
    funext a
    unfold Note.signals Note.signalParts
    cases a.format <;> rfl
  have hlabels : r.labelParts.countP (fun part => decide (part.2 ∈ noteWords)) = 0 :=
    countP_eq_zero_of fun part h => decide_eq_false (noteWords_apart _ (mem_labelParts h).2)
  have hnotes : ((Note.all r).flatMap Note.signalParts).countP
      (fun part => decide (part.2 ∈ noteWords)) =
      ((Note.all r).flatMap Note.signalParts).length :=
    countP_eq_length_of fun part h => decide_eq_true (mem_noteParts h).2
  have hsizes : (r.thumbnailNames.map (·, sizeWord)).countP
      (fun part => decide (part.2 ∈ noteWords)) = 0 := by
    refine countP_eq_zero_of fun part h => decide_eq_false fun hword => sizeWord_apart ?_
    exact List.mem_append_right _ ((mem_sizeParts h).2 ▸ hword)
  rw [countP_endsIn signalWords_noneEnds (by decide) (fun _ h => signalParts_words h)
    (axisSignals_names r scaleName), ResolvedAxis.signalParts, List.countP_append,
    List.countP_append, hlabels, hnotes, hsizes, hlength]
  omega

-- ---------------------------------------------------------------------------
-- Groups and images
-- ---------------------------------------------------------------------------

def lineTypes : List String :=
  ["rule", "symbol", "text"]

section

variable {type : String} (htype : type ∉ lineTypes)
include htype

theorem countP_lines (r : ResolvedAxis) (scaleName : ScaleName) (layer : Layer) :
    (ReferenceLine.layerMarks r scaleName layer).countP (isOfType type) = 0 := by
  simp only [lineTypes, List.mem_cons, List.not_mem_nil, or_false, not_or] at htype
  obtain ⟨hrule, hsymbol, htext⟩ := htype
  refine countP_eq_zero_of fun m hm => ?_
  obtain ⟨l, -, hm⟩ := List.mem_flatMap.mp hm
  rcases List.mem_cons.mp hm with rfl | hm
  · simpa [isOfType, ReferenceLine.ruleMark, Json.ownFields, Fields.get?_cons] using Ne.symm hrule
  rcases List.mem_append.mp hm with hm | hm
  · obtain ⟨icon, -, rfl⟩ := List.mem_map.mp hm
    simpa [isOfType, ReferenceLine.symbolMark, Json.ownFields,
      Fields.get?_cons] using Ne.symm hsymbol
  · obtain ⟨label, -, rfl⟩ := List.mem_map.mp hm
    simpa [isOfType, ReferenceLine.textMark, Json.ownFields, Fields.get?_cons] using Ne.symm htext

theorem countP_lined (r : ResolvedAxis) (scaleName : ScaleName) (ms : List Json) :
    (lined r scaleName ms).countP (isOfType type) = ms.countP (isOfType type) := by
  unfold lined
  split
  · rw [List.countP_append, List.countP_append, countP_lines htype, countP_lines htype,
      Nat.zero_add, Nat.add_zero]
  · rfl

theorem countP_based (r : ResolvedAxis) (binding : Axis.Binding) (ms : List Json) :
    (based r binding ms).countP (isOfType type) = ms.countP (isOfType type) := by
  have hrule : isOfType type (Baseline.rule (.float r.baselineOffset) r.position) = false := by
    simp only [lineTypes, List.mem_cons, not_or] at htype
    simpa [isOfType, Baseline.rule, Json.ownFields, Fields.get?_cons] using Ne.symm htype.1
  unfold based
  split
  · split
    · rw [List.countP_append, List.countP_singleton, hrule]
      rfl
    · rw [List.countP_cons, hrule]
      rfl
  · rfl

end

def images (r : ResolvedAxis) (scaleName : ScaleName) (dataField : Option String)
    (side : Position) :
    List Json :=
  match given dataField with
  | some field =>
    if Scale.supportsThumbnails r.scaleType then
      (Thumbnail.all r).map (Thumbnail.mark scaleName.spliced field side)
    else []
  | none => []

theorem mem_images {scaleName : ScaleName} {dataField : Option String} {side : Position} {m : Json}
    (hm : m ∈ images r scaleName dataField side) :
    ∃ t field, m = Thumbnail.mark scaleName.spliced field side t := by
  unfold images at hm
  split at hm
  · split at hm
    · obtain ⟨t, -, rfl⟩ := List.mem_map.mp hm
      exact ⟨t, _, rfl⟩
    · cases hm
  · cases hm

theorem decorations_eq (scaleName : ScaleName) (dataField : Option String) :
    decorations r scaleName dataField =
      (Note.all r).map (Note.mark scaleName) ++ images r scaleName dataField r.position :=
  rfl

theorem pieceless {binding : Axis.Binding} {dataField : Option String}
    (hm : ∀ ms, b.marks ≠ .arr ms)
    (h : (addMarks r binding dataField).run b = .ok () b') :
    b' = b ∧ Note.all r = [] ∧ images r binding.scaleName dataField r.position = [] := by
  obtain ⟨rfl, hnone, -⟩ := addMarks_markless hm h
  obtain ⟨hnotes, himages⟩ := List.append_eq_nil_iff.mp ((decorations_eq ..).symm.trans hnone)
  exact ⟨rfl, List.map_eq_nil_iff.mp hnotes, himages⟩

theorem groups_images (scaleName : ScaleName) (dataField : Option String) (side : Position) :
    (images r scaleName dataField side).countP (isOfType "group") = 0 := by
  refine countP_eq_zero_of fun m hm => ?_
  obtain ⟨t, field, rfl⟩ := mem_images hm
  rfl

theorem groups_noteMarks (scaleName : ScaleName) (notes : List Note) :
    (notes.map (Note.mark scaleName)).countP (isOfType "group") = notes.length := by
  rw [countP_eq_length_of, List.length_map]
  intro m hm
  obtain ⟨a, -, rfl⟩ := List.mem_map.mp hm
  unfold Note.mark
  cases a.format <;> rfl

theorem countP_set {p : Json → Bool} {place : Nat} {x y : Json} (hx : ms[place]? = some x)
    (hxy : p y = p x) : (ms.set place y).countP p = ms.countP p := by
  obtain ⟨hlt, rfl⟩ := List.getElem?_eq_some_iff.mp hx
  have hcount (items : List Json) : items.countP p = (items.map p).countP id := by
    rw [List.countP_map]
    rfl
  have hmap : (ms.set place y).map p = ms.map p := by
    rw [List.map_set, hxy, ← List.getElem_map p (h := by simpa using hlt)]
    exact List.set_getElem_self _
  rw [hcount, hmap, ← hcount]

/-- At the end come the groups of the axis's notes and the images of its thumbnails. Before them
there are as many marks as before of every type that lines are not drawn by. -/
theorem addMarks_pieces {binding : Axis.Binding} {dataField : Option String}
    (hm : b.marks = .arr ms)
    (h : (addMarks r binding dataField).run b = .ok () b') :
    ∃ rest,
      b'.marks = .arr (rest ++ (Note.all r).map (Note.mark binding.scaleName) ++
        images r binding.scaleName dataField r.position) ∧
      ∀ type ∉ lineTypes, rest.countP (isOfType type) = ms.countP (isOfType type) := by
  rcases (addMarks_ok hm).mp h with ⟨-, rfl⟩ | ⟨place, g, a, -, hg, rfl⟩
  · refine ⟨_, by rw [decorations_eq, List.append_assoc], fun type htype => ?_⟩
    rw [countP_based htype, countP_lined htype]
  · refine ⟨_, by rw [decorations_eq, List.append_assoc], fun type htype => ?_⟩
    rw [countP_set hg, countP_lined htype]
    rw [isOfType, isOfType, Json.ownFields, Json.ownFields, a.result_get? (by simp)]

-- ---------------------------------------------------------------------------
-- All pieces
-- ---------------------------------------------------------------------------

/-- Every piece of the notes is there, the empty axes of those that are spaced, and no other piece
of a note. -/
structure NotesAdded (scaleName : ScaleName) (notes spaced : List Note) (b b' : Builder) :
    Prop where
  tables : grow b.data (notes.flatMap Note.tables) = .ok b'.data
  tableCount : detailTables b' = detailTables b + notes.length
  signals : ∃ labels sizes,
    grow b.signals (labels ++ notes.flatMap Note.signals ++ sizes) = .ok b'.signals
  signalCount : spanSignals b' = spanSignals b + (notes.flatMap Note.signals).length
  marks : notes ≠ [] → ∃ rest images,
    b'.marks = .arr (rest ++ notes.map (Note.mark scaleName) ++ images)
  markCount : groups b' = groups b + notes.length
  axes : ∃ rest, b'.axes = .arr (rest ++ (spaced.map (Note.layoutAxis scaleName)).map .obj)
  axisCount : emptyAxes b' = emptyAxes b + spaced.length

/-- The notes of an axis that are spaced: all that it carries, unless it is a header. -/
def spacedNotes (scaleName : ScaleName) (r : ResolvedAxis) : List Note :=
  if Trellis.laysOutFacets scaleName then [] else Note.all r

theorem note_all_of_position (h : r.position ≠ .bottom) : Note.all r = [] :=
  if_neg (by simpa [Position.supportsNotes] using h)

theorem spacedNotes_eq_iff {scaleName : ScaleName} :
    spacedNotes scaleName r = Note.all r ↔
      ¬(r.position = .bottom ∧ r.notes ≠ [] ∧ Trellis.laysOutFacets scaleName = true) := by
  unfold spacedNotes
  cases Trellis.laysOutFacets scaleName with
  | false => simp
  | true =>
    by_cases hp : r.position = .bottom
    · have hnotes : Note.all r = r.notes.mapIdx (Note.ofOptions r) :=
        if_pos (by simpa [Position.supportsNotes] using hp)
      rw [if_pos rfl, hnotes, eq_comm, List.mapIdx_eq_nil_iff]
      simp [hp]
    · rw [if_pos rfl, note_all_of_position hp]
      simp [hp]

theorem countP_layoutAxes (scaleName : ScaleName) (notes : List Note) :
    ((notes.map (Note.layoutAxis scaleName)).map Json.obj).countP isEmptyAxis = notes.length := by
  rw [List.map_map, countP_eq_length_of, List.length_map]
  intro m hm
  obtain ⟨a, -, rfl⟩ := List.mem_map.mp hm
  exact decide_eq_true (isEmpty_layoutAxis scaleName a)

theorem Addition.axes_spaced (a : Addition b o index) :
    ∃ labels, a.axes = labels ++ (spacedNotes ⟨a.bound.name⟩ a.axis).map
        (Note.layoutAxis ⟨a.bound.name⟩) ∧ ∀ axis ∈ labels, ¬IsEmpty axis := by
  obtain ⟨o', labels, ho', haxes, hlabels⟩ := bundle_emptyAxes a.axes_eq
  refine ⟨labels, haxes.trans (congrArg (labels ++ List.map _ ·) ?_), hlabels⟩
  rcases Trellis.withHeader_ok ho' with ⟨hplain, rfl⟩ | ⟨hheader, header, hposition, rfl⟩
  · rw [spacedNotes, hplain]
    rfl
  · -- by the time empty axes are added the header has left the bottom
    rw [spacedNotes, hheader]
    exact note_all_of_position fun hbottom =>
      Trellis.headerSide_ne_bottom (hposition.symm.trans hbottom)

/-- Adding an axis adds all pieces of the notes that it carries, but for the empty axes of
headers. -/
theorem Addition.notesAdded (a : Addition b o index)
    (h : (addMarks a.axis a.binding a.bound.dataField).run a.unmarked = .ok () b') :
    NotesAdded ⟨a.bound.name⟩ (Note.all a.axis) (spacedNotes ⟨a.bound.name⟩ a.axis) b b' := by
  have hframe := addMarks_frame h
  have hdata : b'.data = a.data := congrArg Builder.data hframe.symm
  have hsignals : b'.signals = a.signals := congrArg Builder.signals hframe.symm
  have haxes : b'.axes = .arr (a.oldAxes ++ a.axes.map .obj) := congrArg Builder.axes hframe.symm
  obtain ⟨labels, hspaced, hlabels⟩ := a.axes_spaced
  have hmarks : Note.all a.axis ≠ [] → ∃ ms, b.marks = .arr ms := by
    intro hne
    cases hm : b.marks with
    | arr ms => exact ⟨ms, rfl⟩
    | _ => exact absurd (pieceless (b := a.unmarked) (by simp [Addition.unmarked, hm]) h).2.1 hne
  refine ⟨hdata ▸ a.data_eq, ?_, ?_, ?_, fun hne => ?_, ?_, ?_, ?_⟩
  · rw [detailTables, hdata, countP_grow a.data_eq, countP_details]
    rfl
  · rw [hsignals]
    exact ⟨_, _, a.signals_eq⟩
  · rw [spanSignals, hsignals, countP_grow a.signals_eq, countP_spanSignals]
    rfl
  · obtain ⟨ms, hm⟩ := hmarks hne
    obtain ⟨rest, heq, -⟩ := addMarks_pieces (b := a.unmarked) hm h
    exact ⟨rest, _, heq⟩
  · cases hm : b.marks with
    | arr ms =>
      obtain ⟨rest, heq, hrest⟩ := addMarks_pieces (b := a.unmarked) hm h
      have hgroups : rest.countP (isOfType "group") = ms.countP (isOfType "group") :=
        hrest "group" (by decide)
      rw [groups, groups, heq, hm, itemsOf, itemsOf, List.countP_append,
        List.countP_append, hgroups, groups_images, groups_noteMarks]
      rfl
    | _ =>
      obtain ⟨rfl, hnone, -⟩ := pieceless (b := a.unmarked) (by simp [Addition.unmarked, hm]) h
      rw [hnone]
      rfl
  · refine ⟨a.oldAxes ++ labels.map .obj, ?_⟩
    rw [haxes, hspaced, List.map_append, List.append_assoc]
  · have hlabels' : (labels.map Json.obj).countP isEmptyAxis = 0 := by
      refine countP_eq_zero_of fun m hm => ?_
      obtain ⟨axis, haxis, rfl⟩ := List.mem_map.mp hm
      exact decide_eq_false (hlabels axis haxis)
    rw [emptyAxes, emptyAxes, haxes, a.oldAxes_eq, hspaced, itemsOf, itemsOf, List.map_append,
      List.countP_append, List.countP_append, hlabels', countP_layoutAxes, Nat.zero_add]

/-- Each axis that is added leaves all pieces of all its notes, or none. Only the notes of a bottom
axis that is a header by its scale's name are left without their empty axes, and then these are
fewer than the notes' groups and tables. -/
theorem add_notePieces (h : (add o index).run b = .ok () b') :
    ∃ a : Addition b o index,
      NotesAdded ⟨a.bound.name⟩ (Note.all a.axis) (spacedNotes ⟨a.bound.name⟩ a.axis) b b' ∧
      (Note.all a.axis =
        if o.position = .bottom then o.notes.mapIdx (Note.ofOptions a.axis) else []) ∧
      ((∃ n, emptyAxes b' = emptyAxes b + n ∧ groups b' = groups b + n ∧
          detailTables b' = detailTables b + n) ↔
        ¬(o.position = .bottom ∧ o.notes ≠ [] ∧
          Trellis.laysOutFacets ⟨a.bound.name⟩ = true)) := by
  obtain ⟨a, hmarks⟩ := add_ok.mp h
  have hadded := a.notesAdded hmarks
  have hfeatures := AxisOptions.resolveFor_features a.axis_eq
  refine ⟨a, hadded, ?_, ?_⟩
  · rw [← hfeatures, Note.all, Position.supportsNotes]
    simp only [decide_eq_true_eq]
  · rw [← hfeatures, ← spacedNotes_eq_iff]
    constructor
    · rintro ⟨n, haxes, hgroups, -⟩
      have hlength : (spacedNotes ⟨a.bound.name⟩ a.axis).length = (Note.all a.axis).length := by
        have := hadded.axisCount
        have := hadded.markCount
        omega
      unfold spacedNotes at hlength ⊢
      split
      · next hheader =>
        rw [if_pos hheader] at hlength
        exact (List.length_eq_zero_iff.mp hlength.symm).symm
      · rfl
    · intro heq
      exact ⟨_, heq ▸ hadded.axisCount, hadded.markCount, hadded.tableCount⟩

def annotated : AxisOptions where
  position := .bottom
  notes := [{}]

theorem bars_annotated :
    ∃ b, (add annotated (.int 0)).run bars = .ok () b ∧ emptyAxes b = 1 ∧ groups b = 1 ∧
      detailTables b = 1 := by
  have hsome : (after bars [.read annotated (.int 0)]).isSome = true := by decide +kernel
  obtain ⟨b, hb⟩ := Option.isSome_iff_exists.mp hsome
  have hrun : (add annotated (.int 0)).run bars = .ok () b := runs_single.mp (after_eq_some.mp hb)
  obtain ⟨a, hadded, hnotes, hcounts⟩ := add_notePieces hrun
  have hname : a.bound.name = .str "xScale" := by
    have hbound : (boundScale bars.scales annotated).toOption.map (·.1.name) =
        some (.str "xScale") := by decide +kernel
    rw [a.bound_eq] at hbound
    exact Option.some.inj hbound
  have hplain : Trellis.laysOutFacets ⟨a.bound.name⟩ = false := by
    rw [hname]
    decide
  have hone : (Note.all a.axis).length = 1 := by
    rw [hnotes]
    rfl
  obtain ⟨n, haxes, hgroups, htables⟩ := hcounts.mpr (by simp [hplain])
  have hn : n = 1 := by
    have hmarks := hadded.markCount
    omega
  subst hn
  exact ⟨b, hrun, haxes, hgroups, htables⟩

def headedBars : Builder :=
  { bars with
    scales := .arr
      [.obj [("name", .str "xTrellisBand"), ("type", .str "band"), ("range", .str "width")]]
    marks := .arr [] }

theorem facetBands_unspaced :
    (after headedBars [.read annotated (.int 0)]).map
      (fun b => (groups b, detailTables b, emptyAxes b)) = some (1, 1, 0) := by
  decide +kernel

end VegaAxes.Builder
