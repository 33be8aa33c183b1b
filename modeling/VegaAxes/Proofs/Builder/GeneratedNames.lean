import VegaAxes.Builder.Adding
import VegaAxes.Proofs.Document.Validity
import VegaAxes.Proofs.Text.Endings

/-!
# Generated names

Every signal and every data table of an axis is named for the axis, one of its notes or one
of its thumbnails, and ends in a word for what it is. `generatedSignals_nodup` and
`generatedTables_nodup`: whatever the notes of several axes are called, as long as no two
are called the same, no two signals and no two tables of all the axes have one name.
-/

namespace VegaAxes

open Document Text

variable {r r' : ResolvedAxis} {axes : List ResolvedAxis}

-- ---------------------------------------------------------------------------
-- Stems and words
-- ---------------------------------------------------------------------------

namespace Builder

/-- The words that the names of signals end in: those of the axis, its notes and its thumbnails. -/
def labelWords : List String :=
  ["_labels", "_subLabels"]
def noteWords : List String :=
  ["_highlighted", "_clicked", "_selected"]
def sizeWord : String :=
  "ThumbnailSize"

def tableWords : List String :=
  ["_details", "_summary", "_aggregate", "_range"]

theorem signalWords_noneEnds : NoneEnds (labelWords ++ noteWords ++ [sizeWord]) := by decide
theorem tableWords_noneEnds : NoneEnds tableWords := by decide

theorem noteWords_apart : ∀ word ∈ labelWords, word ∉ noteWords := by decide
theorem sizeWord_apart : sizeWord ∉ labelWords ++ noteWords := by decide

end Builder

namespace Note

def signalParts (a : Note) : List (String × String) :=
  match a.format with
  | .span => [(a.name, "_highlighted"), (a.name, "_clicked"), (a.name, "_selected")]
  | .summary => []

def tableParts (a : Note) : List (String × String) :=
  (a.name, "_details") :: match a.format with
    | .summary => [(a.name, "_summary")]
    | .span => [(a.name, "_aggregate"), (a.name, "_range")]

end Note

namespace ResolvedAxis

def noteNames (r : ResolvedAxis) : List String :=
  (Note.all r).map (·.name)

def thumbnailNames (r : ResolvedAxis) : List String :=
  (Thumbnail.all r).map (·.name)

def labelParts (r : ResolvedAxis) : List (String × String) :=
  (if r.labels.isEmpty then [] else [(r.name, "_labels")]) ++
    if r.hasSubLabels then [(r.name, "_subLabels")] else []

def signalParts (r : ResolvedAxis) : List (String × String) :=
  r.labelParts ++ (Note.all r).flatMap Note.signalParts ++
    r.thumbnailNames.map (·, Builder.sizeWord)

def tableParts (r : ResolvedAxis) : List (String × String) :=
  (Note.all r).flatMap Note.tableParts

def generatedSignals (r : ResolvedAxis) : List String :=
  r.signalParts.map joined

def generatedTables (r : ResolvedAxis) : List String :=
  r.tableParts.map joined

end ResolvedAxis

namespace Builder

-- ---------------------------------------------------------------------------
-- Names of entries
-- ---------------------------------------------------------------------------

theorem axisSignals_names (r : ResolvedAxis) (scaleName : String) :
    (axisSignals r scaleName).map entryName? = r.generatedSignals.map some := by
  have hnotes : ((Note.all r).flatMap Note.signals).map entryName? =
      (((Note.all r).flatMap Note.signalParts).map joined).map some := by
    rw [List.map_flatMap, List.map_flatMap, List.map_flatMap]
    refine congrArg (List.flatMap · _) (funext fun a => ?_)
    unfold Note.signals Note.signalParts
    cases a.format <;> rfl
  simp only [axisSignals, ResolvedAxis.generatedSignals, ResolvedAxis.signalParts,
    ResolvedAxis.labelParts, ResolvedAxis.thumbnailNames, List.map_append, List.map_map, hnotes]
  cases r.labels.isEmpty <;> cases r.hasSubLabels <;> rfl

theorem tables_names (r : ResolvedAxis) :
    ((Note.all r).flatMap Note.tables).map entryName? = r.generatedTables.map some := by
  rw [ResolvedAxis.generatedTables, ResolvedAxis.tableParts, List.map_flatMap, List.map_flatMap,
    List.map_flatMap]
  refine congrArg (List.flatMap · _) (funext fun a => ?_)
  unfold Note.tables Note.tableParts
  cases a.format <;> rfl

-- ---------------------------------------------------------------------------
-- Parts of names
-- ---------------------------------------------------------------------------

theorem mem_noteParts {part : String × String} (h : part ∈ (Note.all r).flatMap Note.signalParts) :
    part.1 ∈ r.noteNames ∧ part.2 ∈ noteWords := by
  obtain ⟨a, ha, h⟩ := List.mem_flatMap.mp h
  have hname := List.mem_map_of_mem (f := (·.name)) ha
  unfold Note.signalParts at h
  split at h
  · simp only [List.mem_cons, List.not_mem_nil, or_false] at h
    rcases h with rfl | rfl | rfl <;> exact ⟨hname, by simp [noteWords]⟩
  · cases h

theorem mem_labelParts {part : String × String} (h : part ∈ r.labelParts) :
    part.1 = r.name ∧ part.2 ∈ labelWords := by
  rcases List.mem_append.mp h with h | h
  · split at h
    · cases h
    · obtain rfl := List.mem_singleton.mp h
      exact ⟨rfl, by simp [labelWords]⟩
  · split at h
    · obtain rfl := List.mem_singleton.mp h
      exact ⟨rfl, by simp [labelWords]⟩
    · cases h

theorem mem_sizeParts {part : String × String} (h : part ∈ r.thumbnailNames.map (·, sizeWord)) :
    part.1 ∈ r.thumbnailNames ∧ part.2 = sizeWord := by
  obtain ⟨name, hname, rfl⟩ := List.mem_map.mp h
  exact ⟨hname, rfl⟩

theorem mem_signalParts {part : String × String} (h : part ∈ r.signalParts) :
    part.1 = r.name ∧ part.2 ∈ labelWords ∨ part.1 ∈ r.noteNames ∧ part.2 ∈ noteWords ∨
      part.1 ∈ r.thumbnailNames ∧ part.2 = sizeWord := by
  rcases List.mem_append.mp h with h | h
  · exact (List.mem_append.mp h).imp mem_labelParts fun h => .inl (mem_noteParts h)
  · exact .inr (.inr (mem_sizeParts h))

theorem signalParts_words {part : String × String} (h : part ∈ r.signalParts) :
    part.2 ∈ labelWords ++ noteWords ++ [sizeWord] := by
  rcases mem_signalParts h with ⟨-, h⟩ | ⟨-, h⟩ | ⟨-, h⟩
  · exact List.mem_append_left _ (List.mem_append_left _ h)
  · exact List.mem_append_left _ (List.mem_append_right _ h)
  · exact List.mem_append_right _ (List.mem_singleton.mpr h)

theorem mem_tableParts {part : String × String} (h : part ∈ r.tableParts) :
    part.1 ∈ r.noteNames ∧ part.2 ∈ tableWords := by
  obtain ⟨a, ha, h⟩ := List.mem_flatMap.mp h
  have hname := List.mem_map_of_mem (f := (·.name)) ha
  unfold Note.tableParts at h
  rcases List.mem_cons.mp h with rfl | h
  · exact ⟨hname, by simp [tableWords]⟩
  · split at h
    · obtain rfl := List.mem_singleton.mp h
      exact ⟨hname, by simp [tableWords]⟩
    · simp only [List.mem_cons, List.not_mem_nil, or_false] at h
      rcases h with rfl | rfl <;> exact ⟨hname, by simp [tableWords]⟩

theorem generatedSignals_ne_empty : "" ∉ r.generatedSignals := by
  have hwords : ∀ word ∈ labelWords ++ noteWords ++ [sizeWord], word ≠ "" := by decide
  intro h
  obtain ⟨part, hpart, heq⟩ := List.mem_map.mp h
  exact joined_ne_empty (hwords _ (signalParts_words hpart)) heq

theorem generatedTables_ne_empty : "" ∉ r.generatedTables := by
  have hwords : ∀ word ∈ tableWords, word ≠ "" := by decide
  intro h
  obtain ⟨part, hpart, heq⟩ := List.mem_map.mp h
  exact joined_ne_empty (hwords _ (mem_tableParts hpart).2) heq

-- ---------------------------------------------------------------------------
-- Several axes
-- ---------------------------------------------------------------------------

/-- Two axes with names of their own, and thumbnails with names of their own. -/
structure Apart (r r' : ResolvedAxis) : Prop where
  names : r.name ≠ r'.name
  thumbnails : ∀ name ∈ r.thumbnailNames, name ∉ r'.thumbnailNames

theorem thumbnailNames_nodup (r : ResolvedAxis) : r.thumbnailNames.Nodup := by
  rw [ResolvedAxis.thumbnailNames, Thumbnail.all, List.Nodup, List.pairwise_map,
    List.pairwise_iff_getElem]
  intro i j hi hj hlt heq
  rw [List.getElem_mapIdx, List.getElem_mapIdx] at heq
  have hnumber := toString_inj ((String.append_right_inj (r.name ++ "AxisThumbnail")).mp heq)
  omega

theorem notes_nodup {parts : Note → List (String × String)}
    (hparts : ∀ a, (parts a).Nodup ∧ ∀ part ∈ parts a, part.1 = a.name) (h : r.noteNames.Nodup) :
    ((Note.all r).flatMap parts).Nodup := by
  refine List.pairwise_flatMap.mpr ⟨fun a _ => (hparts a).1, ?_⟩
  refine (List.pairwise_map.mp h).imp fun {a a'} hne p hp q hq heq => hne ?_
  rw [← (hparts a).2 p hp, ← (hparts a').2 q hq, heq]

theorem signalParts_nodup (h : r.noteNames.Nodup) : r.signalParts.Nodup := by
  have hlabels : r.labelParts.Nodup := by
    unfold ResolvedAxis.labelParts
    cases r.labels.isEmpty <;> cases r.hasSubLabels <;> simp
  have hnotes : ((Note.all r).flatMap Note.signalParts).Nodup := by
    refine notes_nodup (fun a => ?_) h
    unfold Note.signalParts
    cases a.format <;> simp
  have hsizes : (r.thumbnailNames.map (·, sizeWord)).Nodup :=
    List.pairwise_map.mpr ((thumbnailNames_nodup r).imp fun hne heq => hne (Prod.mk.inj heq).1)
  refine List.nodup_append.mpr ⟨List.nodup_append.mpr ⟨hlabels, hnotes, ?_⟩, hsizes, ?_⟩
  · rintro p hp _ hq rfl
    exact noteWords_apart _ (mem_labelParts hp).2 (mem_noteParts hq).2
  · rintro p hp _ hq rfl
    refine sizeWord_apart ((mem_sizeParts hq).2 ▸ List.mem_append.mpr ?_)
    exact (List.mem_append.mp hp).imp (fun h => (mem_labelParts h).2) fun h => (mem_noteParts h).2

theorem generatedSignals_nodup (hapart : axes.Pairwise Apart)
    (hnotes : (axes.flatMap ResolvedAxis.noteNames).Nodup) :
    (axes.flatMap ResolvedAxis.generatedSignals).Nodup := by
  obtain ⟨hown, hothers⟩ := List.pairwise_flatMap.mp hnotes
  have hparts : (axes.flatMap ResolvedAxis.signalParts).Nodup := by
    refine List.pairwise_flatMap.mpr ⟨fun r hr => signalParts_nodup (hown r hr), ?_⟩
    refine (hapart.and hothers).imp ?_
    rintro r r' ⟨hr, hnote⟩ p hp _ hq rfl
    have hsize (h : p.2 ∈ labelWords ∨ p.2 ∈ noteWords) (heq : p.2 = sizeWord) : False :=
      sizeWord_apart (heq ▸ List.mem_append.mpr h)
    rcases mem_signalParts hp with ⟨hp, hw⟩ | ⟨hp, hw⟩ | ⟨hp, hw⟩ <;>
      rcases mem_signalParts hq with ⟨hq, hw'⟩ | ⟨hq, hw'⟩ | ⟨hq, hw'⟩
    · exact hr.names (hp.symm.trans hq)
    · exact noteWords_apart _ hw hw'
    · exact hsize (.inl hw) hw'
    · exact noteWords_apart _ hw' hw
    · exact hnote _ hp _ hq rfl
    · exact hsize (.inr hw) hw'
    · exact hsize (.inl hw') hw
    · exact hsize (.inr hw') hw
    · exact hr.thumbnails _ hp hq
  rw [show ResolvedAxis.generatedSignals = fun r => r.signalParts.map joined from rfl,
    ← List.map_flatMap]
  refine nodup_joined signalWords_noneEnds (fun p hp => ?_) hparts
  obtain ⟨r, -, hp⟩ := List.mem_flatMap.mp hp
  exact signalParts_words hp

theorem generatedTables_nodup (hnotes : (axes.flatMap ResolvedAxis.noteNames).Nodup) :
    (axes.flatMap ResolvedAxis.generatedTables).Nodup := by
  obtain ⟨hown, hothers⟩ := List.pairwise_flatMap.mp hnotes
  have hparts : (axes.flatMap ResolvedAxis.tableParts).Nodup := by
    refine List.pairwise_flatMap.mpr ⟨fun r hr => notes_nodup (fun a => ?_) (hown r hr), ?_⟩
    · unfold Note.tableParts
      cases a.format <;> simp
    · refine hothers.imp ?_
      rintro r r' hnote p hp _ hq rfl
      exact hnote _ (mem_tableParts hp).1 _ (mem_tableParts hq).1 rfl
  rw [show ResolvedAxis.generatedTables = fun r => r.tableParts.map joined from rfl,
    ← List.map_flatMap]
  refine nodup_joined tableWords_noneEnds (fun p hp => ?_) hparts
  obtain ⟨r, -, hp⟩ := List.mem_flatMap.mp hp
  exact (mem_tableParts hp).2

-- ---------------------------------------------------------------------------
-- The axes of a build
-- ---------------------------------------------------------------------------

/-- The axes of a build as they resolve, the first at place `index`, given the type of the scale
at each position. -/
def resolvedAxes (type : Position → String) (scheme : ColorScheme) (index : Nat) :
    List AxisOptions → List ResolvedAxis
  | [] => []
  | o :: os => o.resolve (some (type o.position)) scheme index ::
      resolvedAxes type scheme (index + 1) os

theorem name_resolvedAxes {type : Position → String} {scheme : ColorScheme} {index : Nat}
    {os : List AxisOptions} (h : r ∈ resolvedAxes type scheme index os) :
    ∃ n, index ≤ n ∧ r.name = "axis" ++ toString n := by
  induction os generalizing index with
  | nil => cases h
  | cons o os ih =>
    rcases List.mem_cons.mp h with rfl | h
    · exact ⟨index, Nat.le_refl _, rfl⟩
    · obtain ⟨n, hn, hname⟩ := ih h
      exact ⟨n, by omega, hname⟩

theorem apart_of_names {m n : Nat} (hne : m ≠ n) (hr : r.name = "axis" ++ toString m)
    (hr' : r'.name = "axis" ++ toString n) : Apart r r' where
  names heq := by
    rw [hr, hr'] at heq
    exact hne (toString_inj ((String.append_right_inj _).mp heq))
  thumbnails := by
    intro name hname hname'
    obtain ⟨t, ht, rfl⟩ := List.mem_map.mp hname
    obtain ⟨t', ht', heq⟩ := List.mem_map.mp hname'
    obtain ⟨i, hi, rfl⟩ := List.mem_mapIdx.mp ht
    obtain ⟨j, hj, rfl⟩ := List.mem_mapIdx.mp ht'
    have hlist : ("axis" ++ toString n ++ "AxisThumbnail" ++ toString j).toList =
        ("axis" ++ toString m ++ "AxisThumbnail" ++ toString i).toList := by
      rw [← hr, ← hr']
      exact congrArg String.toList heq
    simp only [String.toList_append, List.append_assoc] at hlist
    exact hne (numbered_inj (by decide) (List.append_cancel_left hlist)).symm

theorem resolvedAxes_apart (type : Position → String) (scheme : ColorScheme) (index : Nat)
    (os : List AxisOptions) : (resolvedAxes type scheme index os).Pairwise Apart := by
  induction os generalizing index with
  | nil => exact .nil
  | cons o os ih =>
    refine List.pairwise_cons.mpr ⟨fun r hr => ?_, ih (index + 1)⟩
    obtain ⟨n, hn, hname⟩ := name_resolvedAxes hr
    exact apart_of_names (m := index) (by omega) rfl hname

end Builder

end VegaAxes
