import VegaAxes.Document
import VegaAxes.Document.Validity
import VegaAxes.Proofs.Attempt
import VegaAxes.Proofs.Json.Fields

/-!
# What the checks of a document decide

`validate_ok`: a document is valid exactly if its five lists are lists, the entries of
three of them have names of their own, and all its axes and marks are well formed. Each
check is read as the rule it decides, wherever its entry stands.
-/

namespace VegaAxes.Document

variable {list : NamedList} {index : Nat} {place : Place} {seen : List String} {u : Unit}
  {v axis mark entry : Json} {entries : List Json} {fs : Fields}

theorem ensure_ok {condition : Bool} {defect : Defect} :
    ensure condition defect = .ok u ↔ condition = true := by
  cases condition
  · exact ⟨fun h => (nomatch h), fun h => (nomatch h)⟩
  · exact ⟨fun _ => rfl, fun _ => rfl⟩

theorem checkObject_ok : checkObject place entry = .ok u ↔ isObject entry = true :=
  ensure_ok

theorem isObject_iff : isObject v = true ↔ ∃ fs, v = .obj fs := by
  cases v <;> simp [isObject]

theorem isFilledText_iff : isFilledText v = true ↔ ∃ s, v = .str s ∧ s ≠ "" := by
  cases v <;> simp [isFilledText]

theorem field_ok {key : String} :
    entry.field key = .ok v ↔ ∃ fs, entry = .obj fs ∧ Fields.getD fs key = v := by
  cases entry <;> simp [Json.field, Json.fields, Except.map]

theorem checkEntries_ok {check : Nat → Json → Except Error Unit} {P : Json → Prop}
    (hcheck : ∀ entry ∈ entries, ∀ index, check index entry = .ok () ↔ P entry) :
    checkEntries check index entries = .ok () ↔ ∀ entry ∈ entries, P entry := by
  induction entries generalizing index with
  | nil => simp [checkEntries]
  | cons entry entries ih =>
    simp only [List.mem_cons, forall_eq_or_imp] at hcheck
    simp only [checkEntries, bind_ok, hcheck.1, ih hcheck.2, exists_const, List.mem_cons,
      forall_eq_or_imp]

-- ---------------------------------------------------------------------------
-- Names
-- ---------------------------------------------------------------------------

def entryName? : Json → Option String
  | .obj fs => match Fields.getD fs "name" with
    | .str name => some name
    | _ => none
  | _ => none

def namesOf (entries : List Json) : List String :=
  entries.filterMap entryName?

/-- Every entry has a name of its own. -/
structure Named (entries : List Json) : Prop where
  named : ∀ entry ∈ entries, ∃ name, entryName? entry = some name ∧ name ≠ ""
  distinct : (namesOf entries).Nodup

theorem entryName?_eq_some {name : String} :
    entryName? entry = some name ↔ ∃ fs, entry = .obj fs ∧ Fields.getD fs "name" = .str name := by
  cases entry with
  | obj fs =>
    rw [entryName?]
    cases hname : Fields.getD fs "name" <;> simp [hname]
  | _ => simp [entryName?]

theorem isObject_of_name {name : String} (h : entryName? entry = some name) :
    isObject entry = true := by
  obtain ⟨fs, rfl, -⟩ := entryName?_eq_some.mp h
  rfl

theorem namesOf_append (xs ys : List Json) : namesOf (xs ++ ys) = namesOf xs ++ namesOf ys :=
  List.filterMap_append

theorem mem_namesOf {name : String} :
    name ∈ namesOf entries ↔ ∃ entry ∈ entries, entryName? entry = some name :=
  List.mem_filterMap

theorem namesOf_eq (entries : List Json) :
    namesOf entries = (entries.map entryName?).filterMap id := by
  rw [List.filterMap_map]
  rfl

theorem namesOf_congr {xs ys : List Json} (h : ys.map entryName? = xs.map entryName?) :
    namesOf ys = namesOf xs := by
  rw [namesOf_eq, namesOf_eq, h]

theorem exists_of_map_eq {α β γ : Type} {f : α → γ} {g : β → γ} {xs : List α} {ys : List β} {x : α}
    (h : xs.map f = ys.map g) (hx : x ∈ xs) : ∃ y ∈ ys, g y = f x := by
  have hmem := List.mem_map_of_mem (f := f) hx
  rw [h] at hmem
  exact List.mem_map.mp hmem

theorem checkNames_ok :
    checkNames list index seen entries = .ok () ↔
      (∀ entry ∈ entries, ∃ name, entryName? entry = some name ∧ name ≠ "" ∧ name ∉ seen) ∧
        (namesOf entries).Nodup := by
  induction entries generalizing index seen with
  | nil => simp [checkNames, namesOf]
  | cons entry entries ih =>
    have hhead : checkNames list index seen (entry :: entries) = .ok () ↔
        ∃ name, entryName? entry = some name ∧ name ≠ "" ∧ name ∉ seen ∧
          checkNames list (index + 1) (name :: seen) entries = .ok () := by
      simp only [checkNames, bind_ok, field_ok, entryName?_eq_some]
      constructor
      · rintro ⟨name, ⟨fs, rfl, hname⟩, h⟩
        cases name with
        | str name =>
          simp only [bind_ok, ensure_ok, exists_const] at h
          exact ⟨name, ⟨fs, rfl, hname⟩, by simpa using h.1, by simpa using h.2.1, h.2.2⟩
        | _ => exact absurd h (by simp [throw_ok])
      · rintro ⟨name, ⟨fs, rfl, hname⟩, hne, hseen, h⟩
        refine ⟨.str name, ⟨fs, rfl, hname⟩, ?_⟩
        simp only [bind_ok, ensure_ok, exists_const]
        exact ⟨by simpa using hne, by simpa using hseen, h⟩
    rw [hhead]
    constructor
    · rintro ⟨name, hname, hne, hseen, h⟩
      obtain ⟨hall, hnodup⟩ := ih.mp h
      refine ⟨?_, ?_⟩
      · rintro e he
        rcases List.mem_cons.mp he with rfl | he
        · exact ⟨name, hname, hne, hseen⟩
        · obtain ⟨n, hn, hne', hnot⟩ := hall e he
          exact ⟨n, hn, hne', fun h => hnot (List.mem_cons_of_mem _ h)⟩
      · rw [namesOf, List.filterMap_cons_some hname]
        refine List.nodup_cons.mpr ⟨fun hmem => ?_, hnodup⟩
        obtain ⟨e, he, heq⟩ := mem_namesOf.mp hmem
        obtain ⟨n, hn, -, hnot⟩ := hall e he
        cases heq.symm.trans hn
        exact hnot (by simp)
    · rintro ⟨hall, hnodup⟩
      obtain ⟨name, hname, hne, hseen⟩ := hall entry (by simp)
      rw [namesOf, List.filterMap_cons_some hname] at hnodup
      obtain ⟨hfresh, hnodup⟩ := List.nodup_cons.mp hnodup
      refine ⟨name, hname, hne, hseen, ih.mpr ⟨fun e he => ?_, hnodup⟩⟩
      obtain ⟨n, hn, hne', hnot⟩ := hall e (List.mem_cons_of_mem _ he)
      refine ⟨n, hn, hne', fun hmem => ?_⟩
      rcases List.mem_cons.mp hmem with rfl | hmem
      · exact hfresh (mem_namesOf.mpr ⟨e, he, hn⟩)
      · exact hnot hmem

theorem checkNames_start_ok : checkNames list 0 [] entries = .ok u ↔ Named entries := by
  refine checkNames_ok.trans ?_
  simp only [List.not_mem_nil, not_false_iff, and_true]
  exact ⟨fun h => ⟨h.1, h.2⟩, fun h => ⟨h.1, h.2⟩⟩

theorem Named.congr {xs ys : List Json} (hx : Named xs)
    (h : ys.map entryName? = xs.map entryName?) :
    Named ys where
  named entry hentry := by
    obtain ⟨old, hold, heq⟩ := exists_of_map_eq h hentry
    exact heq ▸ hx.named old hold
  distinct := namesOf_congr h ▸ hx.distinct

theorem Named.sublist {xs ys : List Json} (hx : Named xs) (h : ys.Sublist xs) : Named ys where
  named entry hentry := hx.named entry (h.subset hentry)
  distinct := hx.distinct.sublist (h.filterMap _)

theorem Named.append {xs ys : List Json}
    (hx : ∀ x ∈ xs, ∃ name, entryName? x = some name ∧ name ≠ "")
    (hy : ∀ y ∈ ys, ∃ name, entryName? y = some name ∧ name ≠ "")
    (h : (namesOf xs ++ namesOf ys).Nodup) : Named (xs ++ ys) where
  named entry hentry := (List.mem_append.mp hentry).elim (hx entry) (hy entry)
  distinct := namesOf_append xs ys ▸ h

-- ---------------------------------------------------------------------------
-- Axes
-- ---------------------------------------------------------------------------

structure IsAxis (fs : Fields) : Prop where
  scale : ∃ s, fs.getD "scale" = .str s ∧ s ≠ ""
  orient : ∃ s, fs.getD "orient" = .str s ∧ s ∈ orients
  text : ∃ text, (Json.obj fs).descend Encoding.labelTextPath = .ok text ∧ isLabelText text = true

def ValidAxis (axis : Json) : Prop :=
  ∃ fs, axis = .obj fs ∧ IsAxis fs

theorem isOrient_ok : isOrient v = .ok true ↔ ∃ s, v = .str s ∧ s ∈ orients := by
  cases v <;> simp [isOrient]

theorem checkAxis_ok : checkAxis place axis = .ok () ↔ ValidAxis axis := by
  simp only [checkAxis, checkObject, bind_ok, ensure_ok, field_ok, isFilledText_iff, exists_const]
  constructor
  · rintro ⟨-, _, ⟨fs, rfl, rfl⟩, hscale, _, ⟨_, heq, rfl⟩, _, horient, rfl, text, htext, hrules⟩
    cases heq
    exact ⟨fs, rfl, hscale, isOrient_ok.mp horient, text, htext, hrules⟩
  · rintro ⟨fs, rfl, h⟩
    obtain ⟨text, htext, hrules⟩ := h.text
    exact ⟨rfl, _, ⟨fs, rfl, rfl⟩, h.scale, _, ⟨fs, rfl, rfl⟩, true, isOrient_ok.mpr h.orient, rfl,
      text, htext, hrules⟩

theorem checkAxes_ok :
    checkAxes place v = .ok u ↔ ∃ axes, v.elements = .ok axes ∧ ∀ axis ∈ axes, ValidAxis axis := by
  rw [checkAxes, bind_ok]
  exact exists_congr fun _ => and_congr_right fun _ => checkEntries_ok fun _ _ _ => checkAxis_ok

-- ---------------------------------------------------------------------------
-- Marks
-- ---------------------------------------------------------------------------

/-- Marks with a type are well formed; a group if all its axes and marks are. -/
inductive ValidMark : Json → Prop where
  | plain {fs : Fields} {type : String} (type_eq : fs.getD "type" = .str type)
    (isPlain : type ≠ "group") : ValidMark (.obj fs)
  | group {fs : Fields} {axes marks : List Json} (type_eq : fs.getD "type" = .str "group")
    (axes_eq : (fs.getD "axes" (.arr [])).elements = .ok axes)
    (marks_eq : (fs.getD "marks" (.arr [])).elements = .ok marks)
    (axes_valid : ∀ axis ∈ axes, ValidAxis axis) (marks_valid : ∀ mark ∈ marks, ValidMark mark) :
    ValidMark (.obj fs)

theorem ValidMark.isObject (h : ValidMark mark) : isObject mark = true := by
  cases h <;> rfl

theorem checkGroupAxes_ok :
    checkGroupAxes place fs = .ok u ↔
      ∃ axes, (fs.getD "axes" (.arr [])).elements = .ok axes ∧ ∀ axis ∈ axes, ValidAxis axis := by
  rw [checkGroupAxes, Fields.getD]
  cases fs.get? "axes" with
  | none => simp [Json.elements]
  | some v => exact checkAxes_ok

theorem elements_texts (hv : ∀ items, v ≠ .arr items) (h : v.elements = .ok entries) :
    ∀ entry ∈ entries, ∃ s, entry = .str s := by
  intro entry hentry
  cases v with
  | arr items => exact absurd rfl (hv items)
  | obj fs =>
    cases h
    obtain ⟨field, -, rfl⟩ := List.mem_map.mp hentry
    exact ⟨_, rfl⟩
  | str s =>
    cases h
    obtain ⟨letter, -, rfl⟩ := List.mem_map.mp hentry
    exact ⟨_, rfl⟩
  | _ => cases h

/-- What is no array passes for the marks of a group only if it is empty. -/
theorem checkOtherMarks_ok (hv : ∀ items, v ≠ .arr items) :
    (do checkEntries (fun index => checkObject (place ++ [("marks", index)])) 0 (← v.elements)) =
        .ok () ↔ ∃ marks, v.elements = .ok marks ∧ ∀ mark ∈ marks, ValidMark mark := by
  rw [bind_ok]
  refine exists_congr fun entries => and_congr_right fun hentries => ?_
  refine (checkEntries_ok (P := (isObject · = true)) fun _ _ _ => checkObject_ok).trans ?_
  refine forall₂_congr fun entry hentry => ⟨fun h => ?_, ValidMark.isObject⟩
  obtain ⟨s, rfl⟩ := elements_texts hv hentries entry hentry
  cases h

theorem checkMarks_eq (place : Place) (marks : List Json) :
    checkMarks place index marks =
      checkEntries (fun index => checkMark (place ++ [("marks", index)])) index marks := by
  induction marks generalizing index with
  | nil => rfl
  | cons mark marks ih => rw [checkMarks, checkEntries, ih]

theorem checkGroupMarks_skip {key : String} (h : key ≠ "marks") :
    checkGroupMarks place ((key, v) :: fs) = checkGroupMarks place fs := by
  rw [checkGroupMarks, if_neg h]
  rintro _ rfl
  exact absurd rfl h

theorem checkGroupMarks_list {marks : List Json} (h : fs.getD "marks" (.arr []) = .arr marks) :
    checkGroupMarks place fs = checkMarks place 0 marks := by
  induction fs with
  | nil =>
    cases h
    rfl
  | cons field fs ih =>
    obtain ⟨key, v⟩ := field
    by_cases hkey : key = "marks"
    · subst hkey
      rw [Fields.getD_cons_self] at h
      rw [h, checkGroupMarks]
    · rw [Fields.getD_cons_of_ne _ _ _ hkey] at h
      rw [checkGroupMarks_skip hkey, ih h]

theorem checkGroupMarks_other (h : ∀ items, fs.getD "marks" (.arr []) ≠ .arr items) :
    checkGroupMarks place fs = (do
      checkEntries (fun index => checkObject (place ++ [("marks", index)])) 0
        (← (fs.getD "marks" (.arr [])).elements)) := by
  induction fs with
  | nil => exact absurd rfl (h [])
  | cons field fs ih =>
    obtain ⟨key, v⟩ := field
    by_cases hkey : key = "marks"
    · subst hkey
      rw [Fields.getD_cons_self] at h ⊢
      cases v with
      | arr items => exact absurd rfl (h items)
      | _ => simp only [checkGroupMarks, if_true]
    · rw [Fields.getD_cons_of_ne _ _ _ hkey] at h ⊢
      rw [checkGroupMarks_skip hkey, ih h]

theorem nested_induction {P : Json → Prop}
    (step : ∀ mark, (∀ (group : Fields) (marks : List Json), mark = .obj group →
      group.getD "marks" (.arr []) = .arr marks → ∀ inner ∈ marks, P inner) → P mark)
    (mark : Json) : P mark :=
  step mark fun _ _ _ _ inner _ => nested_induction step inner
termination_by mark
decreasing_by
  next group marks hmark hmarks hinner =>
  subst hmark
  have hitem := List.sizeOf_lt_of_mem hinner
  rw [Fields.getD] at hmarks
  cases hget : group.get? "marks" with
  | none =>
    rw [hget] at hmarks
    cases hmarks
    cases hinner
  | some v =>
    rw [hget] at hmarks
    cases hmarks
    have hfield := List.sizeOf_lt_of_mem (Fields.mem_of_get? hget)
    simp only [Prod.mk.sizeOf_spec, Json.arr.sizeOf_spec, Json.obj.sizeOf_spec] at hfield ⊢
    omega

theorem checkGroupMarks_ok
    (ih : ∀ marks, fs.getD "marks" (.arr []) = .arr marks →
      ∀ mark ∈ marks, ∀ place, checkMark place mark = .ok () ↔ ValidMark mark) :
    checkGroupMarks place fs = .ok () ↔
      ∃ marks, (fs.getD "marks" (.arr [])).elements = .ok marks ∧
        ∀ mark ∈ marks, ValidMark mark := by
  by_cases hlist : ∃ marks, fs.getD "marks" (.arr []) = .arr marks
  · obtain ⟨marks, hmarks⟩ := hlist
    rw [checkGroupMarks_list hmarks, checkMarks_eq,
      checkEntries_ok fun mark hmem _ => ih marks hmarks mark hmem _, hmarks]
    simp [Json.elements]
  · have hother : ∀ items, fs.getD "marks" (.arr []) ≠ .arr items := fun items h => hlist ⟨items, h⟩
    rw [checkGroupMarks_other hother]
    exact checkOtherMarks_ok hother

theorem checkMark_ok (place : Place) (mark : Json) :
    checkMark place mark = .ok () ↔ ValidMark mark := by
  induction mark using nested_induction generalizing place with
  | step mark ih =>
    cases mark with
    | obj fs =>
      simp only [checkMark, bind_ok, ensure_ok, exists_const]
      by_cases hgroup : Fields.getD fs "type" = .str "group"
      · have hmarks : checkGroupMarks place fs = .ok () ↔ _ :=
          checkGroupMarks_ok fun marks hmarks mark hmem place =>
            ih fs marks rfl hmarks mark hmem place
        simp only [hgroup, if_true, bind_ok, exists_const, checkGroupAxes_ok, hmarks]
        constructor
        · rintro ⟨-, ⟨axes, haxes, hvalid⟩, marks, hmarks, hvalid'⟩
          exact .group hgroup haxes hmarks hvalid hvalid'
        · intro h
          cases h with
          | plain htype hplain => exact absurd (Json.str.inj (htype.symm.trans hgroup)) hplain
          | group _ haxes hmarks hvalid hvalid' =>
            exact ⟨rfl, ⟨_, haxes, hvalid⟩, _, hmarks, hvalid'⟩
      · simp only [hgroup, if_false, pure_ok, and_true]
        constructor
        · intro h
          cases htype : Fields.getD fs "type" <;> simp only [htype, isText, Bool.false_eq_true] at h
          refine .plain htype fun heq => hgroup ?_
          rw [htype, heq]
        · intro h
          cases h with
          | plain htype _ => rw [htype]; rfl
          | group htype _ _ _ _ => exact absurd htype hgroup
    | _ =>
      simp only [checkMark, reduceCtorEq, false_iff]
      rintro ⟨⟩

theorem checkMarks_ok (place : Place) (index : Nat) (marks : List Json) :
    checkMarks place index marks = .ok () ↔ ∀ mark ∈ marks, ValidMark mark := by
  rw [checkMarks_eq, checkEntries_ok fun mark _ _ => checkMark_ok _ mark]

-- ---------------------------------------------------------------------------
-- Documents
-- ---------------------------------------------------------------------------

theorem checkList_ok {key : String} :
    checkList fs key = .ok entries ↔ fs.getD key = .arr entries := by
  unfold checkList
  cases fs.getD key <;> simp

theorem Named.isObject (h : Named entries) : ∀ entry ∈ entries, isObject entry = true := by
  intro entry hentry
  obtain ⟨name, hname, -⟩ := h.named entry hentry
  exact isObject_of_name hname

structure ValidLists (scales axes marks signals data : List Json) : Prop where
  scales : Named scales
  signals : Named signals
  data : Named data
  axes : ∀ axis ∈ axes, ValidAxis axis
  marks : ∀ mark ∈ marks, ValidMark mark

theorem validate_ok :
    validate (.obj fs) = .ok () ↔
      ∃ scales axes marks signals data, fs.getD "scales" = .arr scales ∧
        fs.getD "axes" = .arr axes ∧
        fs.getD "marks" = .arr marks ∧ fs.getD "signals" = .arr signals ∧
        fs.getD "data" = .arr data ∧ ValidLists scales axes marks signals data := by
  have hobjects (scales : List Json) :
      checkEntries (fun index => checkObject [("scales", index)]) 0 scales = .ok () ↔
        ∀ scale ∈ scales, isObject scale = true :=
    checkEntries_ok fun _ _ _ => checkObject_ok
  have haxes (axes : List Json) :
      checkAxes [] (.arr axes) = .ok () ↔ ∀ axis ∈ axes, ValidAxis axis := by
    simp [checkAxes_ok, Json.elements]
  simp only [validate, bind_ok, checkList_ok, exists_const, hobjects, checkNames_start_ok, haxes,
    checkMarks_ok]
  constructor
  · rintro ⟨scales, hscales, axes, haxes, marks, hmarks, signals, hsignals, data,
      hdata, -, hscales', hsignals', hdata', haxes', hmarks'⟩
    exact ⟨scales, axes, marks, signals, data, hscales, haxes, hmarks, hsignals, hdata,
      ⟨hscales', hsignals', hdata', haxes', hmarks'⟩⟩
  · rintro ⟨scales, axes, marks, signals, data, hscales, haxes, hmarks, hsignals, hdata, h⟩
    exact ⟨scales, hscales, axes, haxes, marks, hmarks, signals, hsignals, data, hdata,
      h.scales.isObject, h.scales, h.signals, h.data, h.axes, h.marks⟩

/-- A document's own lists are found where no other fields have their names. -/
theorem getD_toJson (d : Document) {key : String} (hkey : d.lists.get? key = some v)
    (rest : Fields) :
    Fields.getD (thawFields d.extra ++ d.lists ++ rest) key = (thawFields d.extra).getD key v := by
  rw [Fields.getD, Fields.get?_append, Fields.get?_append, hkey, Fields.getD]
  cases (thawFields d.extra).get? key <;> rfl

/-- A document's own lists are those that are checked, but where other fields have their names. -/
theorem validate_toJson (d : Document) :
    validate d.toJson = .ok () ↔
      ∃ scales axes marks signals data,
        (thawFields d.extra).getD "scales" d.scales.thaw = .arr scales ∧
        (thawFields d.extra).getD "axes" d.axes.thaw = .arr axes ∧
        (thawFields d.extra).getD "marks" d.marks.thaw = .arr marks ∧
        (thawFields d.extra).getD "signals" d.signals.thaw = .arr signals ∧
        (thawFields d.extra).getD "data" d.data.thaw = .arr data ∧
        ValidLists scales axes marks signals data := by
  rw [toJson, validate_ok, getD_toJson d rfl, getD_toJson d rfl, getD_toJson d rfl,
    getD_toJson d rfl, getD_toJson d rfl]

end VegaAxes.Document
