import VegaAxes.Proofs.Document.Verdicts

/-!
# The grammar of documents

`validate_grammar`: of documents whose values can be read, the check accepts exactly those
of a grammar, and finds a defect in all others. The grammar speaks of the axes and marks that are
`Reached`, at whatever depth of nested groups, and of no others: nothing is asked of
what stands under a mark that is no group.
-/

namespace VegaAxes.Document

variable {marks mark axis : Json} {fs : Fields} {key : String} {v : Json}

-- ---------------------------------------------------------------------------
-- What the check comes to
-- ---------------------------------------------------------------------------

/-- The marks of a list and, below each group among them, those that the group lists. -/
inductive Reached (marks : Json) : Json → Prop where
  | listed {entries : List Json} {mark : Json} (marks_eq : marks = .arr entries)
    (mem : mark ∈ entries) : Reached marks mark
  | nested {group : Fields} {entries : List Json} {mark : Json}
    (reached : Reached marks (.obj group))
    (type_eq : group.getD "type" = .str "group")
    (marks_eq : group.get? "marks" = some (.arr entries))
    (mem : mark ∈ entries) : Reached marks mark

inductive ReachedAxis (axes marks : Json) : Json → Prop where
  | listed {entries : List Json} {axis : Json} (axes_eq : axes = .arr entries)
    (mem : axis ∈ entries) : ReachedAxis axes marks axis
  | grouped {group : Fields} {entries : List Json} {axis : Json}
    (reached : Reached marks (.obj group))
    (type_eq : group.getD "type" = .str "group") (axes_eq : group.get? "axes" = some (.arr entries))
    (mem : axis ∈ entries) : ReachedAxis axes marks axis

-- ---------------------------------------------------------------------------
-- What can be read
-- ---------------------------------------------------------------------------

/-- The side has no parts, and what leads to the text of the labels are objects as far as it is
there. -/
structure OrderlyAxis (axis : Fields) : Prop where
  orient_items : ∀ items, axis.getD "orient" ≠ .arr items
  orient_fields : ∀ gs, axis.getD "orient" ≠ .obj gs
  way : ∀ path ∈ wayToText, ∀ v, (Json.obj axis).descend path = .ok (some v) → isObject v = true

/-- Signals and data are objects, the axes are orderly, and what groups have as axes and marks
are lists. -/
structure Orderly (fs : Fields) : Prop where
  signals : Each (isObject · = true) (fs.getD "signals")
  data : Each (isObject · = true) (fs.getD "data")
  axes : ∀ axis, ReachedAxis (fs.getD "axes") (fs.getD "marks") (.obj axis) → OrderlyAxis axis
  groups : ∀ group : Fields, Reached (fs.getD "marks") (.obj group) →
    group.getD "type" = .str "group" →
    ∀ key ∈ ["axes", "marks"], ∀ v, group.get? key = some v → ∃ entries, v = .arr entries

-- ---------------------------------------------------------------------------
-- The grammar
-- ---------------------------------------------------------------------------

def IsMark (mark : Json) : Prop :=
  ∃ fs type, mark = .obj fs ∧ Fields.getD fs "type" = .str type

structure Grammatical (fs : Fields) : Prop where
  lists : ∀ key ∈ ["scales", "axes", "marks", "signals", "data"], ∃ entries,
    fs.getD key = .arr entries
  scales : Each (isObject · = true) (fs.getD "scales")
  names : ∀ key ∈ ["scales", "signals", "data"], ∀ entries, fs.getD key = .arr entries →
    Named entries
  axes : ∀ axis, ReachedAxis (fs.getD "axes") (fs.getD "marks") axis → ValidAxis axis
  marks : ∀ mark, Reached (fs.getD "marks") mark → IsMark mark

-- ---------------------------------------------------------------------------
-- The marks of the grammar are the valid ones
-- ---------------------------------------------------------------------------

theorem getD_listed {group : Fields}
    (h : ∀ v, group.get? key = some v → ∃ entries, v = .arr entries) :
    ∃ entries, group.getD key (.arr []) = .arr entries ∧
      ∀ entry ∈ entries, group.get? key = some (.arr entries) := by
  rw [Fields.getD]
  cases hget : group.get? key with
  | none => exact ⟨[], rfl, fun _ hentry => absurd hentry List.not_mem_nil⟩
  | some v =>
    obtain ⟨entries, rfl⟩ := h v hget
    exact ⟨entries, rfl, fun _ _ => rfl⟩

theorem elements_listed {group : Fields} {entries items : List Json}
    (hget : group.get? key = some (.arr items))
    (h : (group.getD key (.arr [])).elements = .ok entries) : entries = items := by
  rw [Fields.getD, hget] at h
  exact (Except.ok.inj h).symm

/-- Validity is passed down from the listed marks to all that are reached. -/
theorem Reached.valid (h : Reached marks mark) (hmarks : Each ValidMark marks) :
    ValidMark mark := by
  induction h with
  | listed marks_eq mem => exact hmarks _ marks_eq _ mem
  | nested _ type_eq inner_eq mem ih =>
    cases ih with
    | plain type_eq' isPlain => exact absurd (Json.str.inj (type_eq'.symm.trans type_eq)) isPlain
    | group _ _ marks_eq _ marks_valid =>
      obtain rfl := elements_listed inner_eq marks_eq
      exact marks_valid _ mem

theorem ReachedAxis.valid {axes : Json} (h : ReachedAxis axes marks axis)
    (haxes : Each ValidAxis axes) (hmarks : Each ValidMark marks) : ValidAxis axis := by
  cases h with
  | listed axes_eq mem => exact haxes _ axes_eq _ mem
  | grouped reached type_eq inner_eq mem =>
    cases reached.valid hmarks with
    | plain type_eq' isPlain => exact absurd (Json.str.inj (type_eq'.symm.trans type_eq)) isPlain
    | group _ axes_eq _ axes_valid _ =>
      obtain rfl := elements_listed inner_eq axes_eq
      exact axes_valid _ mem

theorem ValidMark.isMark (h : ValidMark mark) : IsMark mark := by
  cases h with
  | plain type_eq _ => exact ⟨_, _, rfl, type_eq⟩
  | group type_eq _ _ _ _ => exact ⟨_, _, rfl, type_eq⟩

section Orderly

variable (h : Orderly fs)

include h

/-- A group has lists, and what is in them is reached. -/
theorem Orderly.group_lists {group : Fields} (hmark : Reached (fs.getD "marks") (.obj group))
    (htype : group.getD "type" = .str "group") :
    ∃ axes inner, group.getD "axes" (.arr []) = .arr axes ∧
      group.getD "marks" (.arr []) = .arr inner ∧
      (∀ axis ∈ axes, ReachedAxis (fs.getD "axes") (fs.getD "marks") axis) ∧
      ∀ below ∈ inner, Reached (fs.getD "marks") below := by
  obtain ⟨axes, haxes, haxis⟩ := getD_listed (h.groups group hmark htype "axes" (by simp))
  obtain ⟨inner, hinner, hbelow⟩ := getD_listed (h.groups group hmark htype "marks" (by simp))
  exact ⟨axes, inner, haxes, hinner, fun _ hmem => .grouped hmark htype (haxis _ hmem) hmem,
    fun _ hmem => .nested hmark htype (hbelow _ hmem) hmem⟩

/-- Marks are valid if they and all that is reached below them follow the grammar. -/
theorem Orderly.validMark (hg : Grammatical fs) (mark : Json) :
    Reached (fs.getD "marks") mark → ValidMark mark := by
  induction mark using nested_induction with
  | step mark ih =>
    intro hmark
    obtain ⟨group, type, rfl, htype⟩ := hg.marks mark hmark
    by_cases hgroup : type = "group"
    · subst hgroup
      obtain ⟨axes, inner, haxes, hinner, haxis, hbelow⟩ := h.group_lists hmark htype
      refine .group htype (by rw [haxes]; rfl) (by rw [hinner]; rfl) ?_ ?_
      · exact fun axis hmem => hg.axes axis (haxis axis hmem)
      · exact fun below hmem => ih group inner rfl hinner below hmem (hbelow below hmem)
    · exact .plain htype hgroup

theorem Orderly.legibleAxis (haxis : ReachedAxis (fs.getD "axes") (fs.getD "marks") axis) :
    LegibleAxis axis := by
  refine ⟨?_, ?_⟩
  · rintro own rfl
    have horderly := h.axes own haxis
    cases horient : Fields.getD own "orient" with
    | arr items => exact absurd horient (horderly.orient_items items)
    | obj gs => exact absurd horient (horderly.orient_fields gs)
    | _ => rfl
  · rintro own rfl
    cases htext : (Json.obj own).descend Encoding.labelTextPath with
    | ok text => exact ⟨text, rfl⟩
    | error e =>
      obtain ⟨-, path, hpath, w, hw, hne⟩ := descend_text_error.mp htext
      rw [(h.axes own haxis).way path hpath w hw] at hne
      cases hne

theorem Orderly.legibleMark (mark : Json) :
    Reached (fs.getD "marks") mark → LegibleMark mark := by
  induction mark using nested_induction with
  | step mark ih =>
    intro hmark
    by_cases hgroup : ∃ group : Fields, mark = .obj group ∧ group.getD "type" = .str "group"
    · obtain ⟨group, rfl, htype⟩ := hgroup
      obtain ⟨axes, inner, haxes, hinner, haxis, hbelow⟩ := h.group_lists hmark htype
      refine .group (by rw [haxes]; rfl) (by rw [hinner]; rfl) ?_ ?_
      · exact fun axis hmem => h.legibleAxis (haxis axis hmem)
      · exact fun below hmem => ih group inner rfl hinner below hmem (hbelow below hmem)
    · exact .plain fun group hmark htype => hgroup ⟨group, hmark, htype⟩

theorem Orderly.legible : LegibleFields fs where
  axes _ haxes _ hmem := h.legibleAxis (.listed haxes hmem)
  marks _ hmarks mark hmem := h.legibleMark mark (.listed hmarks hmem)
  signals := h.signals
  data := h.data

theorem Orderly.validate_iff : validate (.obj fs) = .ok () ↔ Grammatical fs := by
  rw [validate_ok]
  constructor
  · rintro ⟨scales, axes, marks, signals, data, hscales, haxes, hmarks, hsignals, hdata, hvalid⟩
    have hvalidAxes : Each ValidAxis (fs.getD "axes") := by
      rintro _ heq
      cases haxes.symm.trans heq
      exact hvalid.axes
    have hvalidMarks : Each ValidMark (fs.getD "marks") := by
      rintro _ heq
      cases hmarks.symm.trans heq
      exact hvalid.marks
    refine ⟨?_, ?_, ?_, fun axis haxis => haxis.valid hvalidAxes hvalidMarks,
      fun mark hmark => (hmark.valid hvalidMarks).isMark⟩
    · simp [hscales, haxes, hmarks, hsignals, hdata]
    · rintro _ heq
      cases hscales.symm.trans heq
      exact hvalid.scales.isObject
    · simpa [hscales, hsignals, hdata] using ⟨hvalid.scales, hvalid.signals, hvalid.data⟩
  · intro hg
    have hlists := hg.lists
    simp only [List.mem_cons, List.not_mem_nil, or_false, forall_eq_or_imp, forall_eq] at hlists
    obtain ⟨⟨scales, hscales⟩, ⟨axes, haxes⟩, ⟨marks, hmarks⟩, ⟨signals, hsignals⟩, data, hdata⟩ :=
      hlists
    refine ⟨scales, axes, marks, signals, data, hscales, haxes, hmarks, hsignals, hdata, ?_⟩
    exact {
      scales := hg.names "scales" (by simp) scales hscales
      signals := hg.names "signals" (by simp) signals hsignals
      data := hg.names "data" (by simp) data hdata
      axes := fun _ hmem => hg.axes _ (.listed haxes hmem)
      marks := fun mark hmem => h.validMark hg mark (.listed hmarks hmem) }

end Orderly

/-- The check decides the grammar. -/
theorem validate_grammar (h : Orderly fs) :
    (validate (.obj fs) = .ok () ↔ Grammatical fs) ∧
      (¬ Grammatical fs → ∃ defect, validate (.obj fs) = .error (.malformed defect)) := by
  refine ⟨h.validate_iff, fun hg => ?_⟩
  cases hvalid : validate (.obj fs) with
  | ok _ => exact absurd (h.validate_iff.mp hvalid) hg
  | error e =>
    obtain ⟨defect, rfl⟩ := validate_decides h.legible e hvalid
    exact ⟨defect, rfl⟩

def rect : Fields :=
  [("type", .str "rect")]

def innerGroup : Fields :=
  [("type", .str "group"), ("marks", .arr [.obj rect])]

def groupAxis : Fields :=
  [("scale", .str "x"), ("orient", .str "left"),
    ("encode", .obj [("labels", .obj [("update", .obj [("text", .arr [])])])])]

def outerGroup : Fields :=
  [("type", .str "group"), ("axes", .arr [.obj groupAxis]), ("marks", .arr [.obj innerGroup])]

def groupedRect : Fields :=
  [("scales", .arr [.obj [("name", .str "x")]]), ("axes", .arr []),
    ("marks", .arr [.obj outerGroup]), ("signals", .arr []), ("data", .arr [])]

theorem groupedRect_reached (h : Reached (groupedRect.getD "marks") mark) :
    mark = .obj outerGroup ∨ mark = .obj innerGroup ∨ mark = .obj rect := by
  induction h with
  | listed marks_eq mem =>
    cases marks_eq
    exact .inl (List.mem_singleton.mp mem)
  | nested _ type_eq inner_eq mem ih =>
    rcases ih with heq | heq | heq
    · cases heq
      cases inner_eq
      exact .inr (.inl (List.mem_singleton.mp mem))
    · cases heq
      cases inner_eq
      exact .inr (.inr (List.mem_singleton.mp mem))
    · cases heq
      exact absurd type_eq (by decide)

theorem groupAxis_orderly : OrderlyAxis groupAxis where
  orient_items := by rintro _ ⟨⟩
  orient_fields := by rintro _ ⟨⟩
  way := by
    simp only [wayToText, List.mem_cons, List.not_mem_nil, or_false, forall_eq_or_imp, forall_eq]
    refine ⟨?_, ?_, ?_⟩
    all_goals
      rintro _ ⟨⟩
      rfl

theorem groupedRect_orderly : Orderly groupedRect where
  signals := by
    rintro _ ⟨⟩
    simp
  data := by
    rintro _ ⟨⟩
    simp
  axes := by
    rintro axis (⟨axes_eq, mem⟩ | ⟨reached, type_eq, axes_eq, mem⟩)
    · cases axes_eq
      cases mem
    · rcases groupedRect_reached reached with heq | heq | heq
      · cases heq
        cases axes_eq
        cases List.mem_singleton.mp mem
        exact groupAxis_orderly
      · cases heq
        cases axes_eq
      · cases heq
        cases axes_eq
  groups := by
    simp only [List.mem_cons, List.not_mem_nil, or_false, forall_eq_or_imp, forall_eq]
    intro group reached _
    rcases groupedRect_reached reached with heq | heq | heq
    all_goals
      cases heq
      refine ⟨?_, ?_⟩
      all_goals
        rintro _ ⟨⟩
        try exact ⟨_, rfl⟩

theorem groupedRect_grammatical : Orderly groupedRect ∧ Grammatical groupedRect :=
  ⟨groupedRect_orderly, (validate_grammar groupedRect_orderly).1.mp rfl⟩

end VegaAxes.Document
