import Mathlib.Data.List.Count
import Mathlib.Data.List.Nodup
import Mathlib.Data.List.Perm.Basic
import VegaAxes.Proofs.Builder.Layers

/-!
# Names of marks

The marks that axes draw are named for what they are (`MarkName`), and two names are written alike
only if they are the same. `compileAxes_markNames`: where no two notes are called the same, no two
marks that a build adds to a document have one name, save that baselines across one direction share
theirs.
-/

namespace VegaAxes

open Document Text

-- ---------------------------------------------------------------------------
-- Names
-- ---------------------------------------------------------------------------

/-- What a mark of an axis is the mark of: an axis is given by its place, as are its lines and
thumbnails within it. -/
inductive MarkName where
  | line (axis index : Nat)
  | symbol (axis index : Nat)
  | label (axis index : Nat)
  | note (name : String)
  | image (axis index : Nat)
  | baseline (vertical : Bool)
deriving DecidableEq

namespace MarkName

def numbered (axis : Nat) (part : String) (index : Nat) : String :=
  "axis" ++ toString axis ++ part ++ toString index

def stem : MarkName → String
  | line axis index | symbol axis index | label axis index => numbered axis "ReferenceLine" index
  | note name => name
  | image axis index => numbered axis "AxisThumbnail" index
  | baseline vertical => if vertical then "y" else "x"

/-- The word that the name ends in; those of lines and images end in their number. -/
def word : MarkName → String
  | line _ _ | image _ _ => ""
  | symbol _ _ => "_symbol"
  | label _ _ => "_label"
  | note _ => "_group"
  | baseline _ => "Baseline"

def text (name : MarkName) : String :=
  joined (name.stem, name.word)

def axis? : MarkName → Option Nat
  | line axis _ | symbol axis _ | label axis _ | image axis _ => some axis
  | note _ | baseline _ => none

def index? : MarkName → Option Nat
  | line _ index | symbol _ index | label _ index | image _ index => some index
  | note _ | baseline _ => none

variable {m n : MarkName} {a b i j : Nat}

theorem numbered_ext {part : String} {c : Char} {cs : List Char} (hpart : part.toList = c :: cs)
    (hc : c.isDigit = false) (h : numbered a part i = numbered b part j) : a = b ∧ i = j := by
  have hlist := congrArg String.toList h
  simp only [numbered, String.toList_append, List.append_assoc, hpart, List.cons_append] at hlist
  obtain rfl := numbered_inj hc (List.append_cancel_left hlist)
  exact ⟨rfl, toString_inj ((String.append_right_inj _).mp h)⟩

theorem line_ne_image : numbered a "ReferenceLine" i ≠ numbered b "AxisThumbnail" j := by
  intro h
  have hR : 'R' ∉ (numbered b "AxisThumbnail" j).toList := by
    have hnumber (n : Nat) : 'R' ∉ (toString n).toList := not_mem_numbered (by decide) n
    simp only [numbered, String.toList_append, List.mem_append, not_or]
    exact ⟨⟨⟨by decide, hnumber b⟩, by decide⟩, hnumber j⟩
  rw [← h] at hR
  exact hR (by simp [numbered])

theorem last_digit (xs : List Char) (n : Nat) :
    (xs ++ (toString n).toList).getLast?.any Char.isDigit = true := by
  rw [Nat.toString_eq_repr, Nat.toList_repr]
  have hne : Nat.toDigits 10 n ≠ [] := Nat.toDigits_ne_nil
  rw [List.getLast?_append, List.getLast?_eq_some_getLast hne, Option.some_or, Option.any_some]
  exact Nat.isDigit_of_mem_toDigits (by decide) (by decide) (List.getLast_mem hne)

theorem text_digit (n : MarkName) :
    n.text.toList.getLast?.any Char.isDigit = decide (n.word = "") := by
  have hnumbered (axis : Nat) (part : String) (index : Nat) :
      (numbered axis part index ++ "").toList.getLast?.any Char.isDigit = true := by
    rw [String.append_empty, numbered, String.toList_append]
    exact last_digit _ index
  have hworded (stem word : String) (c : Char) (hword : word.toList.getLast? = some c) :
      (stem ++ word).toList.getLast?.any Char.isDigit = c.isDigit := by
    rw [String.toList_append, List.getLast?_append, hword]
    rfl
  cases n with
  | line axis index => exact hnumbered axis _ index
  | image axis index => exact hnumbered axis _ index
  | symbol => exact hworded _ "_symbol" 'l' (by decide)
  | label => exact hworded _ "_label" 'l' (by decide)
  | note => exact hworded _ "_group" 'p' (by decide)
  | baseline => exact hworded _ "Baseline" 'e' (by decide)

theorem words_noneEnds : NoneEnds ["_symbol", "_label", "_group", "Baseline"] := by decide

theorem mem_words (h : n.word ≠ "") : n.word ∈ ["_symbol", "_label", "_group", "Baseline"] := by
  cases n <;> simp_all [word]

theorem parts_eq (h : m.text = n.text) : m.word = n.word ∧ m.stem = n.stem := by
  have hdigit : m.word = "" ↔ n.word = "" := by
    rw [← decide_eq_decide, ← text_digit, ← text_digit, h]
  have hword : m.word = n.word := by
    by_cases hm : m.word = ""
    · rw [hm, hdigit.mp hm]
    · exact (words_noneEnds.append_inj (mem_words hm) (mem_words (mt hdigit.mpr hm)) h).2
  rw [text, text, joined, joined, hword] at h
  exact ⟨hword, (String.append_left_inj _).mp h⟩

theorem text_injective : Function.Injective text := by
  intro m n h
  obtain ⟨hword, hstem⟩ := parts_eq h
  cases m <;> cases n <;> simp [word] at hword
  case line.line | symbol.symbol | label.label =>
    obtain ⟨rfl, rfl⟩ := numbered_ext (c := 'R') rfl (by decide) hstem
    rfl
  case image.image =>
    obtain ⟨rfl, rfl⟩ := numbered_ext (c := 'A') rfl (by decide) hstem
    rfl
  case line.image => exact absurd hstem line_ne_image
  case image.line => exact absurd hstem.symm line_ne_image
  case note.note => exact congrArg note hstem
  case baseline.baseline v w =>
    revert hstem
    cases v <;> cases w <;> decide

end MarkName

namespace Builder

open ReferenceLine

variable {b b' : Builder} {d : Drawing} {ds : List Drawing}
  {placed : List (Drawing × Nat)} {n i : Nat}
  {line : ReferenceLineOptions} {name : MarkName} {axes : List AxisOptions} {calls : List Call}
  {ms : List Json}

-- ---------------------------------------------------------------------------
-- The names of one axis
-- ---------------------------------------------------------------------------

namespace Drawing

def lineNames (n i : Nat) (line : ReferenceLineOptions) : List MarkName :=
  .line n i ::
    ((if line.icon.getD "" = "" then [] else [.symbol n i]) ++
      if line.label.getD "" = "" then [] else [.label n i])

def placedLines (d : Drawing) (layer : Layer) : List (ReferenceLineOptions × Nat) :=
  if d.axis.scaleType ∈ ["linear", "time", "utc"] then
    d.axis.referenceLines.zipIdx.filter (·.1.layer = layer)
  else []

def images (d : Drawing) : List Json :=
  Builder.images d.axis d.scaleName d.dataField d.axis.position

/-- The names of all marks of the axis but its baseline. -/
def ownNames (d : Drawing) (n : Nat) : List MarkName :=
  (d.placedLines .back ++ d.placedLines .front).flatMap (fun line => lineNames n line.2 line.1) ++
    d.axis.noteNames.map .note ++ (List.range d.images.length).map (.image n)

def baselineNames (d : Drawing) : List MarkName :=
  if d.hasBaseline then [.baseline d.axis.position.isVertical] else []

end Drawing

open Drawing

theorem kinds_names (n i : Nat) (line : ReferenceLineOptions) :
    (kinds ("axis" ++ toString n) i line).map (·.2) = (lineNames n i line).map MarkName.text := by
  have hline : (MarkName.line n i).text = "axis" ++ toString n ++ "ReferenceLine" ++ toString i :=
    String.append_empty
  rw [kinds, lineNames, List.map_cons, List.map_cons, hline, List.map_append, List.map_append]
  by_cases h : line.icon.getD "" = "" <;> by_cases h' : line.label.getD "" = "" <;>
    simp only [h, h', if_true, if_false, List.map_nil, List.map_cons] <;> rfl

theorem lines_names (hname : d.axis.name = "axis" ++ toString n) (layer : Layer) :
    (d.lines layer).map entryName? =
      ((d.placedLines layer).flatMap fun line => lineNames n line.2 line.1).map (some ·.text) := by
  have hkinds := congrArg (List.map Prod.snd) (lines_kinds d layer)
  rw [List.map_map] at hkinds
  refine (show (d.lines layer).map entryName? = _ from hkinds).trans ?_
  unfold placedLines
  split
  · rw [layerKinds, hname, List.map_map, List.map_flatMap, List.map_flatMap]
    refine congrArg (List.flatMap · _) (funext fun line => ?_)
    have hline := congrArg (List.map some) (kinds_names n line.2 line.1)
    rw [List.map_map, List.map_map] at hline
    exact hline
  · rfl

theorem notes_names (r : ResolvedAxis) (scaleName : ScaleName) :
    ((Note.all r).map (Note.mark scaleName)).map entryName? =
      (r.noteNames.map MarkName.note).map (some ·.text) := by
  rw [ResolvedAxis.noteNames, List.map_map, List.map_map, List.map_map]
  refine List.map_congr_left fun a _ => ?_
  simp only [Function.comp, Note.mark]
  cases a.format <;> rfl

theorem images_names (hname : d.axis.name = "axis" ++ toString n) :
    d.images.map entryName? =
      ((List.range d.images.length).map (MarkName.image n)).map (some ·.text) := by
  unfold Drawing.images Builder.images
  split
  · split
    · refine List.ext_getElem (by simp) fun i hi hi' => ?_
      simp only [List.getElem_map, List.getElem_range, Thumbnail.all, List.getElem_mapIdx]
      have himage : (MarkName.image n i).text = "axis" ++ toString n ++
          "AxisThumbnail" ++ toString i :=
        String.append_empty
      rw [himage, ← hname]
      rfl
    · rfl
  · rfl

theorem baseline_names (d : Drawing) :
    (d.baseline .back ++ d.baseline .front).map entryName? =
      d.baselineNames.map (some ·.text) := by
  have hrule (p : Position) (offset : Json) :
      entryName? (Baseline.rule offset p) = some (MarkName.baseline p.isVertical).text := by
    cases p <;> rfl
  unfold Drawing.baseline Drawing.baselineNames
  cases d.hasBaseline with
  | false => rfl
  | true => cases d.baselineLayer <;> simp [hrule]

theorem drawing_names (hname : d.axis.name = "axis" ++ toString n) :
    ((d.beneath ++ d.above).map entryName?).Perm
      ((d.baselineNames ++ d.ownNames n).map (some ·.text)) := by
  have himages : (Builder.images d.axis d.scaleName d.dataField d.axis.position).map entryName? =
      ((List.range d.images.length).map (MarkName.image n)).map (some ·.text) := images_names hname
  simp only [Drawing.beneath, Drawing.above, decorations_eq, ownNames, List.map_append, himages,
    List.flatMap_append, ← baseline_names, ← lines_names hname, ← notes_names d.axis d.scaleName,
    List.perm_iff_count, List.count_append]
  intro name
  omega

-- ---------------------------------------------------------------------------
-- Distinct names
-- ---------------------------------------------------------------------------

theorem pairwise_zipIdx (xs : List α) (k : Nat) : (xs.zipIdx k).Pairwise (·.2 ≠ ·.2) := by
  have hplaces : ((xs.zipIdx k).map (·.2)).Nodup := by
    rw [List.zipIdx_map_snd]
    exact List.nodup_range'
  exact List.pairwise_map.mp hplaces

theorem mem_lineNames (h : name ∈ lineNames n i line) :
    name = .line n i ∨ name = .symbol n i ∨ name = .label n i := by
  rcases List.mem_cons.mp h with rfl | h
  · exact .inl rfl
  rcases List.mem_append.mp h with h | h
  · split at h
    · cases h
    · exact .inr (.inl (List.mem_singleton.mp h))
  · split at h
    · cases h
    · exact .inr (.inr (List.mem_singleton.mp h))

theorem lineNames_nodup (n i : Nat) (line : ReferenceLineOptions) : (lineNames n i line).Nodup := by
  unfold lineNames
  split <;> split <;> simp

theorem placedLines_nodup (d : Drawing) :
    (d.placedLines .back ++ d.placedLines .front).Pairwise (·.2 ≠ ·.2) := by
  unfold placedLines
  split
  · have hlayer : (fun line : ReferenceLineOptions × Nat => decide (line.1.layer = .front)) =
        fun line => !decide (line.1.layer = .back) := by
      funext line
      cases line.1.layer <;> rfl
    rw [hlayer]
    exact ((List.filter_append_perm _ _).pairwise_iff Ne.symm).mpr (pairwise_zipIdx _ 0)
  · exact .nil

theorem mem_linesNames {lines : List (ReferenceLineOptions × Nat)}
    (h : name ∈ lines.flatMap fun line => lineNames n line.2 line.1) :
    ∃ i, name = .line n i ∨ name = .symbol n i ∨ name = .label n i := by
  obtain ⟨line, -, h⟩ := List.mem_flatMap.mp h
  exact ⟨line.2, mem_lineNames h⟩

theorem mem_ownNames (h : name ∈ d.ownNames n) :
    name.axis? = some n ∨ ∃ text ∈ d.axis.noteNames, name = .note text := by
  rcases List.mem_append.mp h with h | h
  · rcases List.mem_append.mp h with h | h
    · obtain ⟨i, rfl | rfl | rfl⟩ := mem_linesNames h <;> exact .inl rfl
    · obtain ⟨text, htext, rfl⟩ := List.mem_map.mp h
      exact .inr ⟨text, htext, rfl⟩
  · obtain ⟨i, -, rfl⟩ := List.mem_map.mp h
    exact .inl rfl

theorem ownNames_nodup (n : Nat) (hnotes : d.axis.noteNames.Nodup) : (d.ownNames n).Nodup := by
  have hlines : ((d.placedLines .back ++ d.placedLines .front).flatMap fun line =>
      lineNames n line.2 line.1).Nodup := by
    refine List.pairwise_flatMap.mpr ⟨fun line _ => lineNames_nodup n line.2 line.1, ?_⟩
    refine (placedLines_nodup d).imp fun hne x hx y hy heq => hne ?_
    have hindex {i : Nat} {line : ReferenceLineOptions} {name : MarkName}
        (h : name ∈ lineNames n i line) : name.index? = some i := by
      rcases mem_lineNames h with rfl | rfl | rfl <;> rfl
    exact Option.some.inj ((hindex hx).symm.trans (heq ▸ hindex hy))
  have hnames : (d.axis.noteNames.map MarkName.note).Nodup :=
    List.pairwise_map.mpr (hnotes.imp fun hne heq => hne (MarkName.note.inj heq))
  have himages : ((List.range d.images.length).map (MarkName.image n)).Nodup :=
    List.pairwise_map.mpr (List.nodup_range.imp fun hne heq => hne (MarkName.image.inj heq).2)
  refine List.nodup_append.mpr ⟨List.nodup_append.mpr ⟨hlines, hnames, ?_⟩, himages, ?_⟩
  · rintro x hx y hy rfl
    obtain ⟨text, -, rfl⟩ := List.mem_map.mp hy
    obtain ⟨i, h⟩ := mem_linesNames hx
    simp at h
  · rintro x hx y hy rfl
    obtain ⟨j, -, rfl⟩ := List.mem_map.mp hy
    rcases List.mem_append.mp hx with hx | hx
    · obtain ⟨i, h⟩ := mem_linesNames hx
      simp at h
    · simp at hx

/-- Axes with places of their own have names of their own, as long as their notes have. -/
theorem allNames_nodup (hplaces : placed.Pairwise (·.2 ≠ ·.2))
    (hnotes : (placed.flatMap (·.1.axis.noteNames)).Nodup) :
    (placed.flatMap fun d => d.1.ownNames d.2).Nodup := by
  obtain ⟨hown, hothers⟩ := List.pairwise_flatMap.mp hnotes
  refine List.pairwise_flatMap.mpr ⟨fun d hd => ownNames_nodup d.2 (hown d hd), ?_⟩
  refine (hplaces.and hothers).imp ?_
  rintro d d' ⟨hne, hnote⟩ x hx y hy rfl
  rcases mem_ownNames hx with h | ⟨text, htext, rfl⟩
  · rcases mem_ownNames hy with h' | ⟨text, -, rfl⟩
    · exact hne (Option.some.inj (h.symm.trans h'))
    · cases h
  · rcases mem_ownNames hy with h' | ⟨text', htext', heq⟩
    · cases h'
    · exact hnote text htext text' htext' (MarkName.note.inj heq)

def baselineCount (vertical : Bool) (ds : List Drawing) : Nat :=
  ds.countP fun d => d.hasBaseline && d.axis.position.isVertical == vertical

theorem count_baselines (placed : List (Drawing × Nat)) (vertical : Bool) :
    (placed.flatMap (·.1.baselineNames)).count (.baseline vertical) =
      baselineCount vertical (placed.map Prod.fst) := by
  induction placed with
  | nil => rfl
  | cons d placed ih =>
    rw [List.flatMap_cons, List.map_cons, List.count_append, ih, baselineCount, baselineCount,
      List.countP_cons, Nat.add_comm]
    unfold baselineNames
    cases d.1.hasBaseline with
    | false => simp
    | true => cases d.1.axis.position.isVertical <;> cases vertical <;> rfl

theorem mem_baselines (h : name ∈ placed.flatMap (·.1.baselineNames)) :
    ∃ vertical, name = .baseline vertical := by
  obtain ⟨d, -, h⟩ := List.mem_flatMap.mp h
  unfold baselineNames at h
  split at h
  · exact ⟨_, List.mem_singleton.mp h⟩
  · cases h

theorem baseline_not_mem (vertical : Bool) :
    MarkName.baseline vertical ∉ placed.flatMap fun d => d.1.ownNames d.2 := by
  intro h
  obtain ⟨d, -, h⟩ := List.mem_flatMap.mp h
  rcases mem_ownNames h with h | ⟨text, -, h⟩
  · cases h
  · cases h

/-- The added marks have names of their own, but baselines across one direction are called
the same. -/
structure NamesApart (ds : List Drawing) (added : List Json) : Prop where
  named : ∀ m ∈ added, (entryName? m).isSome = true
  others : ((added.map entryName?).filter (· ∉ [some "xBaseline", some "yBaseline"])).Nodup
  baselines : ∀ vertical, (added.map entryName?).count
    (some (if vertical then "yBaseline" else "xBaseline")) = baselineCount vertical ds
  distinct_iff : (added.map entryName?).Nodup ↔ ∀ vertical, baselineCount vertical ds ≤ 1

theorem namesApart_of_perm {added : List Json} (hplaces : placed.Pairwise (·.2 ≠ ·.2))
    (hnotes : (placed.flatMap (·.1.axis.noteNames)).Nodup)
    (hperm : (added.map entryName?).Perm
      ((placed.flatMap (·.1.baselineNames) ++
        placed.flatMap fun d => d.1.ownNames d.2).map (some ·.text))) :
    NamesApart (placed.map Prod.fst) added := by
  have hinj : Function.Injective fun name : MarkName => some name.text :=
    fun _ _ h => MarkName.text_injective (Option.some.inj h)
  have hown := allNames_nodup hplaces hnotes
  have hbaseline (vertical : Bool) :
      (some (MarkName.baseline vertical).text) =
        some (if vertical then "yBaseline" else "xBaseline") := by
    cases vertical <;> rfl
  have hcount (vertical : Bool) : (placed.flatMap (·.1.baselineNames) ++
      placed.flatMap fun d => d.1.ownNames d.2).count (.baseline vertical) =
        baselineCount vertical (placed.map Prod.fst) := by
    rw [List.count_append, count_baselines, List.count_eq_zero.mpr (baseline_not_mem vertical)]
    rfl
  refine ⟨fun m hm => ?_, ?_, fun vertical => ?_, ?_⟩
  · obtain ⟨name, -, heq⟩ := List.mem_map.mp (hperm.subset (List.mem_map_of_mem hm))
    rw [← heq]
    rfl
  · rw [(hperm.filter _).nodup_iff, List.map_append, List.filter_append, List.filter_eq_nil_iff.mpr,
      List.nil_append]
    · exact ((List.nodup_map_iff hinj).mpr hown).filter _
    · intro name hname
      obtain ⟨name, hmem, rfl⟩ := List.mem_map.mp hname
      obtain ⟨vertical, rfl⟩ := mem_baselines hmem
      cases vertical <;> decide
  · rw [← hbaseline, hperm.count_eq]
    exact (List.count_map_of_injective _ _ hinj _).trans (hcount vertical)
  · rw [hperm.nodup_iff, List.nodup_map_iff hinj, List.nodup_append]
    constructor
    · rintro ⟨hbaselines, -, -⟩ vertical
      rw [← count_baselines placed]
      exact List.nodup_iff_count_le_one.mp hbaselines _
    · intro hle
      refine ⟨List.nodup_iff_count_le_one.mpr fun name => ?_, hown, ?_⟩
      · by_cases hname : name ∈ placed.flatMap (·.1.baselineNames)
        · obtain ⟨vertical, rfl⟩ := mem_baselines hname
          exact (count_baselines placed vertical).symm ▸ hle vertical
        · rw [List.count_eq_zero.mpr hname]
          exact Nat.zero_le 1
      · rintro x hx y hy rfl
        obtain ⟨vertical, rfl⟩ := mem_baselines hx
        exact baseline_not_mem vertical hy

-- ---------------------------------------------------------------------------
-- Builds
-- ---------------------------------------------------------------------------

def drawnNotes : (n : Nat) → List AxisOptions → List String
  | _, [] => []
  | n, o :: axes =>
    (if o.position = .bottom then
      o.notes.mapIdx fun i note => (given note.name).getD s!"axis{n}Annotation{i}"
    else []) ++ drawnNotes (n + 1) axes

theorem drawnRun_notes (h : DrawnRun b (callsFrom .read n axes) ds b') :
    ds.flatMap (·.axis.noteNames) = drawnNotes n axes := by
  induction axes generalizing b n ds with
  | nil =>
    cases h
    rfl
  | cons o axes ih =>
    obtain _ | ⟨ho, a, -, tail⟩ := h
    cases ho
    rw [List.flatMap_cons, ih tail, drawnNotes]
    refine congrArg (· ++ _) ?_
    have hfeatures : a.axis.toAxisFeatures = o.toAxisFeatures :=
      AxisOptions.resolveFor_features a.axis_eq
    have hname : a.axis.name = "axis" ++ toString n := a.name_eq
    have hnotes : a.axis.notes = o.notes := congrArg AxisFeatures.notes hfeatures
    have hposition : a.axis.position = o.position := congrArg AxisFeatures.position hfeatures
    rw [show a.drawing.axis = a.axis from rfl, ResolvedAxis.noteNames, Note.all, hposition, hnotes,
      Position.supportsNotes]
    by_cases hbottom : o.position = .bottom
    · rw [if_pos hbottom, if_pos (decide_eq_true hbottom)]
      refine List.ext_getElem (by simp) fun i hi hi' => ?_
      simp only [List.getElem_map, List.getElem_mapIdx, Note.ofOptions, hname]
      rfl
    · rw [if_neg hbottom, if_neg (by simpa using hbottom)]
      rfl

theorem drawnRun_places (h : DrawnRun b (callsFrom .read n axes) ds b') :
    ∀ d ∈ ds.zipIdx n, d.1.axis.name = "axis" ++ toString d.2 := by
  induction axes generalizing b n ds with
  | nil =>
    cases h
    simp
  | cons o axes ih =>
    obtain _ | ⟨-, a, -, tail⟩ := h
    simp only [List.zipIdx_cons, List.mem_cons, forall_eq_or_imp]
    exact ⟨a.name_eq, ih tail⟩

theorem drawings_names (hnames : ∀ d ∈ placed, d.1.axis.name = "axis" ++ toString d.2) :
    (((placed.map Prod.fst).reverse.flatMap Drawing.beneath ++
        (placed.map Prod.fst).flatMap Drawing.above).map entryName?).Perm
      ((placed.flatMap (·.1.baselineNames) ++
        placed.flatMap fun d => d.1.ownNames d.2).map (some ·.text)) := by
  have hdrawn : ((placed.map Prod.fst).reverse.flatMap Drawing.beneath ++
      (placed.map Prod.fst).flatMap Drawing.above).Perm
        ((placed.map Prod.fst).flatMap fun d => d.beneath ++ d.above) :=
    (((List.reverse_perm _).flatMap_right _).append_right _).trans (List.flatMap_append_perm _ _ _)
  have hnamed : (((placed.map Prod.fst).flatMap fun d => d.beneath ++ d.above).map entryName?).Perm
      ((placed.flatMap fun d => d.1.baselineNames ++ d.1.ownNames d.2).map (some ·.text)) := by
    rw [List.flatMap_map, List.map_flatMap, List.map_flatMap]
    exact List.Perm.flatMap_left _ fun d hd => drawing_names (hnames d hd)
  exact ((hdrawn.map _).trans hnamed).trans ((List.flatMap_append_perm _ _ _).symm.map _)

/-- The marks that are drawn around those of the document have names of their own where the notes of
the axes have, but for baselines across one direction. -/
theorem drawnRun_markNames (h : DrawnRun b calls ds b') (hm : b.marks = .arr ms)
    (hds : placed.map Prod.fst = ds) (hplaces : placed.Pairwise (·.2 ≠ ·.2))
    (hnames : ∀ d ∈ placed, d.1.axis.name = "axis" ++ toString d.2)
    (hnotes : (ds.flatMap (·.axis.noteNames)).Nodup) :
    ∃ before kept after, b'.marks = .arr (before ++ kept ++ after) ∧
      ChangedAt (IsGroupAt (ms ++ ds.flatMap Drawing.above)) (Fields.SameExcept Trellis.listKeys)
        ms kept ∧
      NamesApart ds (before ++ after) := by
  subst hds
  obtain ⟨all, hall, hchanged⟩ := drawnRun_layers h hm
  obtain ⟨kept, after, rfl, hkept, -⟩ := hchanged.append_left
  obtain ⟨kept', after', heq, hafter, hlength⟩ := hchanged.append_right
  obtain ⟨rfl, rfl⟩ := List.append_inj heq (hkept.1.symm.trans hlength.symm)
  have hsame : after.map entryName? =
      ((placed.map Prod.fst).flatMap Drawing.above).map entryName? :=
    hafter.map_eq fun hsame => by
      simp only [entryName?, Fields.getD_eq_of_get?
        (hsame "name" (by simp [Trellis.listKeys])) .null]
  rw [List.flatMap_map] at hnotes
  refine ⟨_, kept, after, by rw [hall, List.append_assoc], hkept, ?_⟩
  refine namesApart_of_perm hplaces hnotes ?_
  rw [List.map_append, hsame, ← List.map_append]
  exact drawings_names hnames

end Builder

open Builder

variable {settings : Settings} {document : Json} {axes : List AxisOptions}
  {context : Option Context}
  {validated : Option Bool} {c : Compiled}

/-- The marks that a build adds around those of the document have names of their own where its notes
have, but for baselines across one direction. -/
theorem compileAxes_markNames (hc : compileAxes settings document axes context validated = .ok c)
    (hnotes : (drawnNotes 0 axes).Nodup) :
    ∃ b b' ds, ofDocument settings document context = .ok b ∧
      DrawnRun b (callsFrom .read 0 axes) ds b' ∧ c.document.marks.thaw = b'.marks ∧
      ∀ ms, b.marks = .arr ms → ∃ before kept after,
        c.document.marks.thaw = .arr (before ++ kept ++ after) ∧
        ChangedAt (IsGroupAt (ms ++ ds.flatMap Drawing.above)) (Fields.SameExcept Trellis.listKeys)
          ms kept ∧
        NamesApart ds (before ++ after) := by
  obtain ⟨b, b', ds, hb, hds, hmarks⟩ := compileAxes_drawn hc
  refine ⟨b, b', ds, hb, hds, hmarks, fun ms hm => ?_⟩
  rw [hmarks]
  exact drawnRun_markNames hds hm (List.zipIdx_map_fst 0 ds) (pairwise_zipIdx ds 0)
    (drawnRun_places hds) (drawnRun_notes hds ▸ hnotes)

theorem linearBars_names :
    (drawnNotes 0 linedAxes).Nodup ∧
      ∃ (c : Compiled) (ds : List Drawing) (before kept after : List Json),
        compileAxes (.ofEnvironment {}) linearBars linedAxes
          (some ⟨.vertical, .light, .null⟩) none = .ok c ∧
        c.document.marks.thaw = .arr (before ++ kept ++ after) ∧
          NamesApart ds (before ++ after) := by
  have hnotes : (drawnNotes 0 linedAxes).Nodup := by decide
  obtain ⟨c, hc⟩ := linearBars_compiles
  obtain ⟨b, b', ds, hb, hds, hmarks, hnames⟩ := compileAxes_markNames hc hnotes
  obtain ⟨ms, hm⟩ := drawnRun_listed hb hds (by simp [linedAxes])
  obtain ⟨before, kept, after, hall, -, hapart⟩ := hnames ms hm
  exact ⟨hnotes, c, ds, before, kept, after, hc, hall, hapart⟩

def facingAxes : List AxisOptions :=
  [{ position := .bottom, baseline := true }, { position := .top, baseline := true }]

theorem facingAxes_alike :
    (drawnNotes 0 facingAxes).Nodup ∧
      (compileAxes (.ofEnvironment {}) linearBars facingAxes (some ⟨.vertical, .light, .null⟩)
        none).toOption.map (fun c => namesOf (itemsOf c.document.marks.thaw)) =
      some ["bars", "xBaseline", "xBaseline"] := by
  decide +kernel

end VegaAxes
