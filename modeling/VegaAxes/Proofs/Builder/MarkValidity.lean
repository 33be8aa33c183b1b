import VegaAxes.Proofs.Builder.GroupValidity

/-!
# Marks that take axes

`addMarks_succeeds`: the marks of an axis can be added to `Searchable` marks, whose trellis group,
if there is one, can take axes. The marks are then as they were in this regard, whichever of them
is the trellis group of the next axis, and are valid, or legible, if they were.
-/

namespace VegaAxes

open Document Scale Trellis

variable {m : Json} {g : Fields}

theorem Drawn.valid (h : Drawn m) : ValidMark m := by
  obtain ⟨fs, rfl, h⟩ := h
  exact h.valid

theorem Drawn.named (h : Drawn m) : IsWord (Fields.getD m.ownFields "name") := by
  obtain ⟨fs, rfl, h⟩ := h
  obtain ⟨s, hname⟩ := h.name
  exact .inr ⟨s, by rw [Json.ownFields, Fields.getD, hname]; rfl⟩

theorem Drawn.ready (h : Drawn (.obj g)) : Ready g := by
  obtain ⟨_, heq, h⟩ := h
  cases heq
  refine ⟨⟨[], by rw [Fields.getD, h.scales]; rfl, by simp⟩, h.hasLists "axes" (by simp [listKeys]),
    h.hasLists "marks" (by simp [listKeys]), ?_⟩
  cases hfrom : g.get? "from" with
  | none => exact ⟨[], [], by rw [Fields.getD, hfrom]; rfl, rfl⟩
  | some v =>
    obtain ⟨table, rfl⟩ := h.source v hfrom
    exact ⟨_, [], by rw [Fields.getD, hfrom]; rfl, rfl⟩

namespace Builder

variable {ms ms' before after : List Json} {g' : Fields} {place start : Nat}

/-- Marks with texts for names where they are set. The trellis group, if there is one, can take
axes. -/
structure Searchable (ms : List Json) : Prop where
  objects : ∀ m ∈ ms, isObject m = true
  named : ∀ m ∈ ms, IsWord (Fields.getD m.ownFields "name")
  group : ∀ place g, IsGroupAt ms place → ms[place]? = some (.obj g) → Ready g

structure SoundMarks (ms : List Json) : Prop where
  valid : ∀ m ∈ ms, ValidMark m
  named : ∀ m ∈ ms, IsWord (Fields.getD m.ownFields "name")
  group : ∀ place g, IsGroupAt ms place → ms[place]? = some (.obj g) → Ready g

theorem SoundMarks.searchable (h : SoundMarks ms) : Searchable ms :=
  ⟨fun m hm => (h.valid m hm).isObject, h.named, h.group⟩

/-- A mark that is the older one, or that one as a group with more in its lists. -/
def StemsFrom (old m : Json) : Prop :=
  m = old ∨ ∃ g g', old = .obj g ∧ m = .obj g' ∧ Extended g g'

def AddedTo (ms ms' : List Json) : Prop :=
  ∀ m ∈ ms', ∃ old, (old ∈ ms ∨ Drawn old) ∧ StemsFrom old m

theorem StemsFrom.trans {m' m'' : Json} (h : StemsFrom m m') (h' : StemsFrom m' m'') :
    StemsFrom m m'' := by
  rcases h with rfl | ⟨g, g', rfl, rfl, hext⟩
  · exact h'
  · rcases h' with rfl | ⟨_, g'', heq, rfl, hext'⟩
    · exact .inr ⟨g, g', rfl, rfl, hext⟩
    · cases heq
      exact .inr ⟨g, g'', rfl, rfl, hext.trans hext'⟩

theorem AddedTo.trans {ms'' : List Json} (h : AddedTo ms ms') (h' : AddedTo ms' ms'') :
    AddedTo ms ms'' := by
  intro m hm
  obtain ⟨mid, hmid | hdrawn, hstems⟩ := h' m hm
  · obtain ⟨old, hold, hstems'⟩ := h mid hmid
    exact ⟨old, hold, hstems'.trans hstems⟩
  · exact ⟨mid, .inr hdrawn, hstems⟩

theorem AddedTo.block (ms : List Json) (haround : ∀ m ∈ before ++ after, Drawn m) :
    AddedTo ms (before ++ ms ++ after) := by
  intro m hm
  simp only [List.mem_append] at hm haround
  rcases hm with (hm | hm) | hm
  · exact ⟨m, .inr (haround m (.inl hm)), .inl rfl⟩
  · exact ⟨m, .inl hm, .inl rfl⟩
  · exact ⟨m, .inr (haround m (.inr hm)), .inl rfl⟩

theorem AddedTo.set (hg : ms[place]? = some (.obj g)) (hext : Extended g g') :
    AddedTo ms (ms.set place (.obj g')) := by
  intro m hm
  rcases List.mem_or_eq_of_mem_set hm with hm | rfl
  · exact ⟨m, .inl hm, .inl rfl⟩
  · exact ⟨_, .inl (List.mem_of_getElem? hg), .inr ⟨g, g', rfl, rfl, hext⟩⟩

theorem AddedTo.valid (h : AddedTo ms ms') (hms : ∀ m ∈ ms, ValidMark m) :
    ∀ m ∈ ms', ValidMark m := by
  intro m hm
  obtain ⟨old, hold, hstems⟩ := h m hm
  have hvalid : ValidMark old := hold.elim (hms old) Drawn.valid
  rcases hstems with rfl | ⟨g, g', rfl, rfl, hext⟩
  · exact hvalid
  · exact hext.valid hvalid

theorem AddedTo.legible (h : AddedTo ms ms') (hms : ∀ m ∈ ms, LegibleMark m) :
    ∀ m ∈ ms', LegibleMark m := by
  intro m hm
  obtain ⟨old, hold, hstems⟩ := h m hm
  have hlegible : LegibleMark old := hold.elim (hms old) fun hdrawn => hdrawn.valid.legible
  rcases hstems with rfl | ⟨g, g', rfl, rfl, hext⟩
  · exact hlegible
  · exact hext.legible hlegible

-- ---------------------------------------------------------------------------
-- The trellis group
-- ---------------------------------------------------------------------------

theorem markName_text (hm : isObject m = true) (hname : IsWord (Fields.getD m.ownFields "name")) :
    ∃ s, markName m = .ok (.str s) ∧ (s ≠ "" → Fields.get? m.ownFields "name" = some (.str s)) := by
  obtain ⟨fs, rfl⟩ := isObject_iff.mp hm
  have hmark : markName (.obj fs) = .ok ((Fields.getD fs "name").orElse (.str "")) := rfl
  rw [hmark]
  rcases hname with hname | ⟨s, hname⟩
  · replace hname : Fields.getD fs "name" = .null := hname
    exact ⟨"", by rw [hname]; rfl, fun h => absurd rfl h⟩
  · replace hname : Fields.getD fs "name" = .str s := hname
    by_cases hs : s = ""
    · exact ⟨"", by rw [hname, hs]; rfl, fun h => absurd rfl h⟩
    · exact ⟨s, by simp [hname, Json.orElse, Json.truthy, hs], fun _ => get?_of_getD hname⟩

theorem findGroup?_succeeds (hobjects : ∀ m ∈ ms, isObject m = true)
    (hnames : ∀ m ∈ ms, IsWord (Fields.getD m.ownFields "name")) (start : Nat) :
    ∃ found, findGroup? start ms = .ok found := by
  induction ms generalizing start with
  | nil => exact ⟨none, rfl⟩
  | cons m ms ih =>
    simp only [List.mem_cons, forall_eq_or_imp] at hobjects hnames
    obtain ⟨s, hname, -⟩ := markName_text hobjects.1 hnames.1
    obtain ⟨found, hfound⟩ := ih hobjects.2 hnames.2 (start + 1)
    simp only [findGroup?, hname, Json.holds, bind_ok, Except.ok.injEq, exists_eq_left']
    cases Text.contains s "Trellis" with
    | true => exact ⟨some start, rfl⟩
    | false => exact ⟨found, hfound⟩

theorem findGroup?_name (h : findGroup? start ms = .ok (some place))
    (hm : ms[place - start]? = some m) :
    ∃ name, markName m = .ok name ∧ name.holds "Trellis" = .ok true := by
  induction ms generalizing start with
  | nil => cases hm
  | cons head ms ih =>
    have hle := (findGroup?_obj h).1
    simp only [findGroup?, bind_ok] at h
    obtain ⟨name, hname, found, hfound, h⟩ := h
    cases found with
    | true =>
      obtain rfl : start = place := by simpa [pure_ok] using h
      obtain rfl : head = m := by simpa using hm
      exact ⟨name, hname, hfound⟩
    | false =>
      have hlt := (findGroup?_obj h).1
      rw [show place - start = place - (start + 1) + 1 by omega, List.getElem?_cons_succ] at hm
      exact ih h hm

theorem Searchable.namedGroup (h : Searchable ms) (hgroup : IsGroupAt ms place)
    (hg : ms[place]? = some (.obj g)) : NamedGroup g := by
  have hmem := List.mem_of_getElem? hg
  refine ⟨h.group place g hgroup hg, ?_⟩
  obtain ⟨s, hname, hget⟩ := markName_text (h.objects _ hmem) (h.named _ hmem)
  obtain ⟨name, hname', hheld⟩ := findGroup?_name hgroup hg
  cases hname.symm.trans hname'
  have hne : s ≠ "" := by
    rintro rfl
    cases hheld
  exact ⟨s, hget hne, hne⟩

-- ---------------------------------------------------------------------------
-- Marks around others
-- ---------------------------------------------------------------------------

theorem Searchable.block (h : Searchable ms) (haround : ∀ m ∈ before ++ after, Drawn m) :
    Searchable (before ++ ms ++ after) := by
  have hmem {m : Json} (hm : m ∈ before ++ ms ++ after) : m ∈ ms ∨ Drawn m := by
    simp only [List.mem_append] at hm haround
    rcases hm with (hm | hm) | hm
    · exact .inr (haround m (.inl hm))
    · exact .inl hm
    · exact .inr (haround m (.inr hm))
  refine ⟨fun m hm => ?_, fun m hm => ?_, fun place g hgroup hg => ?_⟩
  · exact (hmem hm).elim (h.objects m) fun h => h.valid.isObject
  · exact (hmem hm).elim (h.named m) Drawn.named
  · rcases getElem?_block hg with hg | ⟨i, rfl, hi⟩
    · exact (haround _ hg).ready
    · exact h.group i g (findGroup?_middle (List.getElem?_eq_some_iff.mp hi).1 hgroup) hi

theorem Searchable.set (h : Searchable ms) (hgroup : IsGroupAt ms place)
    (hg : ms[place]? = some (.obj g)) (hg' : NamedGroup g') (hgrown : Grown g g') :
    Searchable (ms.set place (.obj g')) := by
  refine ⟨fun m hm => ?_, fun m hm => ?_, fun i fs hi hfs => ?_⟩
  · rcases List.mem_or_eq_of_mem_set hm with hm | rfl
    · exact h.objects m hm
    · rfl
  · rcases List.mem_or_eq_of_mem_set hm with hm | rfl
    · exact h.named m hm
    · obtain ⟨name, hname, -⟩ := hg'.name
      exact .inr ⟨name, by rw [Json.ownFields, Fields.getD, hname]; rfl⟩
  · have hchanged : ChangedAt (IsGroupAt ms) Grown ms (ms.set place (.obj g')) :=
      .set hgroup hg hgrown
    rw [isGroupAt_congr hchanged] at hi
    cases hi.symm.trans hgroup
    rw [List.getElem?_set_self (List.getElem?_eq_some_iff.mp hg).1] at hfs
    cases hfs
    exact hg'.toReady

-- ---------------------------------------------------------------------------
-- The marks of an axis
-- ---------------------------------------------------------------------------

variable {b : Builder} {o : ResolvedAxis} {binding : Axis.Binding} {name : String}

theorem addMarks_succeeds (hms : Searchable ms) (hm : b.marks = .arr ms)
    (hname : binding.scaleName = ⟨.str name⟩) (hne : name ≠ "")
    (hcount : ∃ next, (DualMetric.startedCount b.context).successor = .ok next)
    (dataField : Option String) :
    ∃ ms', (addMarks o binding dataField).run b = .ok () { b with marks := .arr ms' } ∧
      Searchable ms' ∧ AddedTo ms ms' := by
  obtain ⟨before, after, hlined, hdrawn⟩ := lined_drawn o binding.scaleName ms
  have hsearchable : Searchable (lined o binding.scaleName ms) := hlined ▸ hms.block hdrawn
  have hadded : AddedTo ms (lined o binding.scaleName ms) := hlined ▸ .block ms hdrawn
  have hdecorations : ∀ m ∈ [] ++ decorations o binding.scaleName dataField, Drawn m :=
    fun m => decorations_drawn
  obtain ⟨found, hfound⟩ := findGroup?_succeeds hsearchable.objects hsearchable.named 0
  cases found with
  | none =>
    refine ⟨_, (addMarks_ok hm).mpr (.inl ⟨hfound, rfl⟩), ?_⟩
    obtain ⟨before', after', hbased, hdrawn'⟩ :=
      based_drawn o binding (lined o binding.scaleName ms)
    rw [hbased]
    exact ⟨(hsearchable.block hdrawn').block hdecorations,
      hadded.trans (.trans (.block _ hdrawn') (.block _ hdecorations))⟩
  | some place =>
    obtain ⟨-, g, hg⟩ := findGroup?_obj hfound
    have hgroup := hsearchable.namedGroup hfound hg
    obtain ⟨a, ha⟩ := facetAddition_succeeds (o := o) hgroup hname hne hcount
    refine ⟨_, (addMarks_ok hm).mpr (.inr ⟨place, g, a, hfound, hg, rfl⟩), ?_⟩
    have hset := hsearchable.set hfound hg (ha.namedGroup hgroup) (a.grown hgroup.hasLists)
    exact ⟨hset.block hdecorations, hadded.trans (.trans (.set hg ha) (.block _ hdecorations))⟩

end Builder

end VegaAxes
