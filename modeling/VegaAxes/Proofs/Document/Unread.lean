import VegaAxes.Proofs.Document.Verdicts

/-!
# Documents that the check cannot read

The check goes through a document in order and ends at the first value that is not as it should
be. Mostly that is a defect. `validate_outcome` says which values it asks for what they have not got
instead: signals and data that are no objects, sides with parts, what is no object on the way
to the text of labels, and axes and marks of groups that cannot be gone through.
-/

namespace VegaAxes.Document

variable {list : NamedList} {index : Nat} {place : Place} {seen : List String} {e : Error}
  {v axis mark entry : Json} {entries : List Json} {fs : Fields} {P Q fine unread : Json → Prop}

/-- The first entry that is not fine cannot be read. -/
def FirstUnread (fine unread : Json → Prop) (entries : List Json) : Prop :=
  ∃ before entry after, entries = before ++ entry :: after ∧ (∀ earlier ∈ before, fine earlier) ∧
    unread entry

/-- Such an entry is among the items of the value, or it has no items. -/
def UnreadItems (e : Error) (fine unread : Json → Prop) (v : Json) : Prop :=
  v.elements = .error e ∨ ∃ entries, v.elements = .ok entries ∧ FirstUnread fine unread entries

theorem not_firstUnread_nil : ¬ FirstUnread fine unread [] := by
  rintro ⟨before, entry, after, heq, -⟩
  simp at heq

theorem firstUnread_cons :
    FirstUnread fine unread (entry :: entries) ↔
      unread entry ∨ fine entry ∧ FirstUnread fine unread entries := by
  constructor
  · rintro ⟨before, found, after, heq, hfine, hunread⟩
    cases before with
    | nil =>
      obtain ⟨rfl, -⟩ := List.cons.inj heq
      exact .inl hunread
    | cons first before =>
      obtain ⟨rfl, rfl⟩ := List.cons.inj heq
      simp only [List.mem_cons, forall_eq_or_imp] at hfine
      exact .inr ⟨hfine.1, before, found, after, rfl, hfine.2, hunread⟩
  · rintro (hunread | ⟨hentry, before, found, after, rfl, hfine, hunread⟩)
    · exact ⟨[], entry, entries, rfl, by simp, hunread⟩
    · refine ⟨entry :: before, found, after, rfl, ?_, hunread⟩
      simpa using ⟨hentry, hfine⟩

theorem elements_error (h : v.elements = .error e) : e = .unfit .items := by
  cases v <;> cases h <;> rfl

-- ---------------------------------------------------------------------------
-- The kinds of values that cannot be read
-- ---------------------------------------------------------------------------

/-- The entries up to one that is no object have names of their own. -/
def UnreadNames (entries : List Json) : Prop :=
  ∃ before entry after, entries = before ++ entry :: after ∧ Named before ∧ isObject entry = false

inductive UnreadAxis : Error → Json → Prop where
  | orient {fs : Fields} (scale : isFilledText (fs.getD "scale") = true)
    (parts : (fs.getD "orient").checkWord = .error (.unfit .lookup)) :
    UnreadAxis (.unfit .lookup) (.obj fs)
  | text {fs : Fields} {path : List String} {w : Json}
    (scale : isFilledText (fs.getD "scale") = true)
    (orient : ∃ s, fs.getD "orient" = .str s ∧ s ∈ orients) (path_mem : path ∈ wayToText)
    (path_eq : (Json.obj fs).descend path = .ok (some w)) (notObject : isObject w = false) :
    UnreadAxis (.unfit .field) (.obj fs)

def UnreadAxes (e : Error) (axes : Json) : Prop :=
  UnreadItems e ValidAxis (UnreadAxis e) axes

theorem unreadAxes_list {axes : List Json} :
    UnreadAxes e (.arr axes) ↔ FirstUnread ValidAxis (UnreadAxis e) axes := by
  simp [UnreadAxes, UnreadItems, Json.elements]

/-- Groups whose axes cannot be read, or whose marks cannot while the axes are valid. -/
inductive UnreadMark : Error → Json → Prop where
  | axes {fs : Fields} {e : Error} (type_eq : fs.getD "type" = .str "group")
    (unread : UnreadAxes e (fs.getD "axes" (.arr []))) : UnreadMark e (.obj fs)
  | items {fs : Fields} {axes : List Json} {e : Error} (type_eq : fs.getD "type" = .str "group")
    (axes_eq : (fs.getD "axes" (.arr [])).elements = .ok axes)
    (axes_valid : ∀ axis ∈ axes, ValidAxis axis)
    (marks_eq : (fs.getD "marks" (.arr [])).elements = .error e) : UnreadMark e (.obj fs)
  | mark {fs : Fields} {axes before after : List Json} {mark : Json} {e : Error}
    (type_eq : fs.getD "type" = .str "group")
    (axes_eq : (fs.getD "axes" (.arr [])).elements = .ok axes)
    (axes_valid : ∀ axis ∈ axes, ValidAxis axis)
    (marks_eq : (fs.getD "marks" (.arr [])).elements = .ok (before ++ mark :: after))
    (before_valid : ∀ earlier ∈ before, ValidMark earlier) (unread : UnreadMark e mark) :
    UnreadMark e (.obj fs)

theorem unreadMark_group (hgroup : fs.getD "type" = .str "group") :
    UnreadMark e (.obj fs) ↔ UnreadAxes e (fs.getD "axes" (.arr [])) ∨
      (∃ axes, (fs.getD "axes" (.arr [])).elements = .ok axes ∧ ∀ axis ∈ axes, ValidAxis axis) ∧
        UnreadItems e ValidMark (UnreadMark e) (fs.getD "marks" (.arr [])) := by
  constructor
  · rintro (⟨_, hunread⟩ | ⟨_, haxes, hvalid, hmarks⟩ |
      ⟨_, haxes, hvalid, hmarks, hbefore, hunread⟩)
    · exact .inl hunread
    · exact .inr ⟨⟨_, haxes, hvalid⟩, .inl hmarks⟩
    · exact .inr ⟨⟨_, haxes, hvalid⟩, .inr ⟨_, hmarks, _, _, _, rfl, hbefore, hunread⟩⟩
  · rintro (hunread | ⟨⟨axes, haxes, hvalid⟩, hmarks | ⟨_, hmarks, hfirst⟩⟩)
    · exact .axes hgroup hunread
    · exact .items hgroup haxes hvalid hmarks
    · obtain ⟨before, mark, after, rfl, hbefore, hunread⟩ := hfirst
      exact .mark hgroup haxes hvalid hmarks hbefore hunread

theorem UnreadMark.isGroup (h : UnreadMark e (.obj fs)) : fs.getD "type" = .str "group" := by
  cases h <;> assumption

structure ListsAre (fs : Fields) (scales axes marks signals data : List Json) : Prop where
  scales : fs.getD "scales" = .arr scales
  axes : fs.getD "axes" = .arr axes
  marks : fs.getD "marks" = .arr marks
  signals : fs.getD "signals" = .arr signals
  data : fs.getD "data" = .arr data

inductive Unread : Error → Json → Prop where
  | signals {fs : Fields} {scales axes marks signals data : List Json}
    (lists : ListsAre fs scales axes marks signals data) (scales_named : Named scales)
    (unread : UnreadNames signals) : Unread (.unfit .field) (.obj fs)
  | data {fs : Fields} {scales axes marks signals data : List Json}
    (lists : ListsAre fs scales axes marks signals data) (scales_named : Named scales)
    (signals_named : Named signals) (unread : UnreadNames data) : Unread (.unfit .field) (.obj fs)
  | axes {fs : Fields} {scales axes marks signals data : List Json} {e : Error}
    (lists : ListsAre fs scales axes marks signals data) (scales_named : Named scales)
    (signals_named : Named signals) (data_named : Named data)
    (unread : FirstUnread ValidAxis (UnreadAxis e) axes) : Unread e (.obj fs)
  | marks {fs : Fields} {scales axes marks signals data : List Json} {e : Error}
    (lists : ListsAre fs scales axes marks signals data) (scales_named : Named scales)
    (signals_named : Named signals) (data_named : Named data)
    (axes_valid : ∀ axis ∈ axes, ValidAxis axis)
    (unread : FirstUnread ValidMark (UnreadMark e) marks) : Unread e (.obj fs)

-- ---------------------------------------------------------------------------
-- Failures of the checks other than defects
-- ---------------------------------------------------------------------------

theorem checkEntries_error {check : Nat → Json → Except Error Unit}
    (hok : ∀ index entry, check index entry = .ok () ↔ P entry)
    (herror : ∀ entry ∈ entries, ∀ index, check index entry = .error e ↔ Q entry) :
    checkEntries check index entries = .error e ↔ FirstUnread P Q entries := by
  induction entries generalizing index with
  | nil => simp [checkEntries, not_firstUnread_nil]
  | cons entry entries ih =>
    simp only [List.mem_cons, forall_eq_or_imp] at herror
    simp only [checkEntries, bind_error, hok, herror.1, ih herror.2, firstUnread_cons, exists_const]

theorem field_error {key : String} :
    entry.field key = .error e ↔ e = .unfit .field ∧ isObject entry = false := by
  cases entry <;> simp [Json.field, Json.fields, Except.map, isObject, eq_comm]

theorem isOrient_error :
    isOrient v = .error e ↔ e = .unfit .lookup ∧ v.checkWord = .error (.unfit .lookup) := by
  cases v <;> simp [isOrient, Json.checkWord, eq_comm]

section Failures

variable (he : ∀ defect, e ≠ .malformed defect)

include he

theorem malformed_error {defect : Defect} :
    (.error (.malformed defect) : Except Error α) = .error e ↔ False :=
  iff_false_intro fun h => he defect (Except.error.inj h).symm

theorem ensure_error {condition : Bool} {defect : Defect} :
    ensure condition defect = .error e ↔ False := by
  cases condition with
  | true => simp [ensure]
  | false => exact malformed_error he

theorem checkNames_error :
    checkNames list index seen entries = .error e ↔ e = .unfit .field ∧
      ∃ before entry after, entries = before ++ entry :: after ∧
        checkNames list index seen before = .ok () ∧ isObject entry = false := by
  induction entries generalizing index seen with
  | nil => simp [checkNames]
  | cons entry entries ih =>
    rw [checkNames, bind_error, field_error]
    constructor
    · rintro (⟨rfl, hentry⟩ | ⟨v, hv, h⟩)
      · exact ⟨rfl, [], entry, entries, rfl, rfl, hentry⟩
      · split at h
        · simp only [bind_error, ensure_error he, false_or, ensure_ok, exists_const] at h
          obtain ⟨hfilled, hfresh, h⟩ := h
          obtain ⟨rfl, before, found, after, rfl, hok, hfound⟩ := ih.mp h
          refine ⟨rfl, entry :: before, found, after, rfl, ?_, hfound⟩
          rw [checkNames, bind_ok]
          refine ⟨_, hv, ?_⟩
          simp only [bind_ok, ensure_ok, exists_const]
          exact ⟨hfilled, hfresh, hok⟩
        · exact ((malformed_error he).mp h).elim
    · rintro ⟨rfl, before, found, after, heq, hok, hfound⟩
      cases before with
      | nil =>
        obtain ⟨rfl, -⟩ := List.cons.inj heq
        exact .inl ⟨rfl, hfound⟩
      | cons first before =>
        obtain ⟨rfl, rfl⟩ := List.cons.inj heq
        rw [checkNames, bind_ok] at hok
        obtain ⟨v, hv, hok⟩ := hok
        refine .inr ⟨v, hv, ?_⟩
        split at hok
        · simp only [bind_ok, ensure_ok, exists_const] at hok
          simp only [bind_error, ensure_error he, false_or, ensure_ok, exists_const]
          exact ⟨hok.1, hok.2.1, ih.mpr ⟨rfl, before, found, after, rfl, hok.2.2, hfound⟩⟩
        · cases hok

theorem checkNames_start_error :
    checkNames list 0 [] entries = .error e ↔ e = .unfit .field ∧ UnreadNames entries := by
  simp only [checkNames_error he, checkNames_start_ok, UnreadNames]

theorem checkAxis_error : checkAxis place axis = .error e ↔ UnreadAxis e axis := by
  simp only [checkAxis, checkObject, bind_error, ensure_error he, ensure_ok, field_error, field_ok,
    isOrient_error, false_or, or_false, and_false, exists_const]
  constructor
  · rintro ⟨hobject, ⟨-, hnot⟩ | ⟨_, ⟨fs, rfl, rfl⟩, hscale, ⟨-, hnot⟩ | ⟨_, ⟨_, heq, rfl⟩, h⟩⟩⟩
    · exact absurd hobject (by simp [hnot])
    · exact absurd hobject (by simp [hnot])
    · cases heq
      rcases h with ⟨rfl, hparts⟩ | ⟨_, horient, rfl, htext⟩
      · exact .orient hscale hparts
      · obtain ⟨rfl, path, hpath, w, hw, hne⟩ := descend_text_error.mp htext
        exact .text hscale (isOrient_ok.mp horient) hpath hw hne
  · rintro (⟨hscale, hparts⟩ | ⟨hscale, horient, hpath, hw, hne⟩)
    · exact ⟨rfl, .inr ⟨_, ⟨_, rfl, rfl⟩, hscale, .inr ⟨_, ⟨_, rfl, rfl⟩, .inl ⟨rfl, hparts⟩⟩⟩⟩
    · refine ⟨rfl, .inr ⟨_, ⟨_, rfl, rfl⟩, hscale, .inr ⟨_, ⟨_, rfl, rfl⟩, .inr ?_⟩⟩⟩
      exact ⟨true, isOrient_ok.mpr horient, rfl, descend_text_error.mpr ⟨rfl, _, hpath, _, hw, hne⟩⟩

theorem checkAxes_error : checkAxes place v = .error e ↔ UnreadAxes e v := by
  rw [checkAxes, bind_error, UnreadAxes, UnreadItems]
  refine or_congr_right (exists_congr fun _ => and_congr_right fun _ => ?_)
  exact checkEntries_error (fun _ _ => checkAxis_ok) fun _ _ _ => checkAxis_error he

theorem checkGroupAxes_error :
    checkGroupAxes place fs = .error e ↔ UnreadAxes e (fs.getD "axes" (.arr [])) := by
  rw [checkGroupAxes, Fields.getD]
  cases fs.get? "axes" with
  | none => simp [UnreadAxes, UnreadItems, Json.elements, not_firstUnread_nil]
  | some axes => exact checkAxes_error he

theorem checkObjects_error {places : Nat → Place} :
    checkEntries (fun index => checkObject (places index)) index entries = .error e ↔ False := by
  have hok (index : Nat) (entry : Json) :
      checkObject (places index) entry = .ok () ↔ isObject entry = true :=
    checkObject_ok
  have herror (entry : Json) (_ : entry ∈ entries) (index : Nat) :
      checkObject (places index) entry = .error e ↔ False :=
    ensure_error he
  rw [checkEntries_error hok herror, iff_false]
  rintro ⟨_, _, _, _, _, ⟨⟩⟩

/-- What is no array has texts for items, which are defects as marks. -/
theorem checkOtherMarks_error (hv : ∀ items, v ≠ .arr items) :
    (do checkEntries (fun index => checkObject (place ++ [("marks", index)])) 0 (← v.elements)) =
        .error e ↔ UnreadItems e ValidMark (UnreadMark e) v := by
  rw [bind_error, UnreadItems]
  refine or_congr_right (exists_congr fun entries => and_congr_right fun hentries => ?_)
  rw [checkObjects_error he, false_iff]
  rintro ⟨before, entry, after, rfl, -, hunread⟩
  obtain ⟨s, rfl⟩ := elements_texts hv hentries entry (by simp)
  cases hunread

theorem checkGroupMarks_error
    (ih : ∀ marks, fs.getD "marks" (.arr []) = .arr marks →
      ∀ mark ∈ marks, ∀ place, checkMark place mark = .error e ↔ UnreadMark e mark) :
    checkGroupMarks place fs = .error e ↔
      UnreadItems e ValidMark (UnreadMark e) (fs.getD "marks" (.arr [])) := by
  by_cases hlist : ∃ marks, fs.getD "marks" (.arr []) = .arr marks
  · obtain ⟨marks, hmarks⟩ := hlist
    rw [checkGroupMarks_list hmarks, checkMarks_eq, hmarks]
    have hok (index : Nat) (mark : Json) :
        checkMark (place ++ [("marks", index)]) mark = .ok () ↔ ValidMark mark :=
      checkMark_ok _ mark
    rw [checkEntries_error hok fun mark hmem _ => ih marks hmarks mark hmem _]
    simp [UnreadItems, Json.elements]
  · have hother : ∀ items, fs.getD "marks" (.arr []) ≠ .arr items := fun items h => hlist ⟨items, h⟩
    rw [checkGroupMarks_other hother]
    exact checkOtherMarks_error he hother

theorem checkMark_error (place : Place) (mark : Json) :
    checkMark place mark = .error e ↔ UnreadMark e mark := by
  induction mark using nested_induction generalizing place with
  | step mark ih =>
    cases mark with
    | obj fs =>
      simp only [checkMark, bind_error, ensure_error he, ensure_ok, false_or, exists_const]
      by_cases hgroup : Fields.getD fs "type" = .str "group"
      · have hmarks : checkGroupMarks place fs = .error e ↔ _ :=
          checkGroupMarks_error he fun marks hmarks mark hmem place =>
            ih fs marks rfl hmarks mark hmem place
        simp only [hgroup, isText, if_true, true_and, bind_error, checkGroupAxes_error he,
          checkGroupAxes_ok, hmarks, unreadMark_group hgroup, exists_const]
      · rw [if_neg hgroup]
        refine iff_of_false ?_ fun h => hgroup h.isGroup
        rintro ⟨-, h⟩
        cases h
    | _ =>
      simp only [checkMark, malformed_error he, false_iff]
      rintro ⟨⟩

theorem checkMarks_error (place : Place) (index : Nat) (marks : List Json) :
    checkMarks place index marks = .error e ↔ FirstUnread ValidMark (UnreadMark e) marks := by
  rw [checkMarks_eq]
  exact checkEntries_error (fun _ _ => checkMark_ok _ _) fun mark _ _ => checkMark_error he _ mark

theorem checkList_error {key : String} : checkList fs key = .error e ↔ False := by
  unfold checkList
  cases fs.getD key with
  | arr entries => simp
  | _ => exact malformed_error he

theorem validate_error : validate v = .error e ↔ Unread e v := by
  cases v with
  | obj fs =>
    have hobjects (scales : List Json) :
        checkEntries (fun index => checkObject [("scales", index)]) 0 scales = .ok () ↔
          ∀ scale ∈ scales, isObject scale = true :=
      checkEntries_ok fun _ _ _ => checkObject_ok
    have haxes (axes : List Json) :
        checkAxes [] (.arr axes) = .ok () ↔ ∀ axis ∈ axes, ValidAxis axis := by
      simp [checkAxes_ok, Json.elements]
    simp only [validate, bind_error, checkList_error he, checkList_ok,
      checkObjects_error he, hobjects, checkNames_start_error he, checkNames_start_ok,
      checkAxes_error he, unreadAxes_list, haxes, checkMarks_error he, false_or, exists_const]
    constructor
    · rintro ⟨scales, hscales, axes, haxes, marks, hmarks, signals, hsignals, data,
        hdata, hobjects, h⟩
      have lists : ListsAre fs scales axes marks signals data :=
        ⟨hscales, haxes, hmarks, hsignals, hdata⟩
      rcases h with ⟨-, before, scale, after, rfl, -, hscale⟩ | ⟨hscales, h⟩
      · exact absurd (hobjects scale (by simp)) (by simp [hscale])
      · rcases h with ⟨rfl, h⟩ | ⟨hsignals, h⟩
        · exact .signals lists hscales h
        · rcases h with ⟨rfl, h⟩ | ⟨hdata, h | ⟨haxes, h⟩⟩
          · exact .data lists hscales hsignals h
          · exact .axes lists hscales hsignals hdata h
          · exact .marks lists hscales hsignals hdata haxes h
    · intro h
      cases h with
      | signals lists hscales h =>
        exact ⟨_, lists.scales, _, lists.axes, _, lists.marks, _, lists.signals, _, lists.data,
          hscales.isObject, .inr ⟨hscales, .inl ⟨rfl, h⟩⟩⟩
      | data lists hscales hsignals h =>
        exact ⟨_, lists.scales, _, lists.axes, _, lists.marks, _, lists.signals, _, lists.data,
          hscales.isObject, .inr ⟨hscales, .inr ⟨hsignals, .inl ⟨rfl, h⟩⟩⟩⟩
      | axes lists hscales hsignals hdata h =>
        exact ⟨_, lists.scales, _, lists.axes, _, lists.marks, _, lists.signals, _, lists.data,
          hscales.isObject, .inr ⟨hscales, .inr ⟨hsignals, .inr ⟨hdata, .inl h⟩⟩⟩⟩
      | marks lists hscales hsignals hdata haxes h =>
        exact ⟨_, lists.scales, _, lists.axes, _, lists.marks, _, lists.signals, _, lists.data,
          hscales.isObject, .inr ⟨hscales, .inr ⟨hsignals, .inr ⟨hdata, .inr ⟨haxes, h⟩⟩⟩⟩⟩
  | _ =>
    refine (malformed_error he).trans (iff_of_false not_false ?_)
    rintro ⟨⟩

end Failures

-- ---------------------------------------------------------------------------
-- Verdicts
-- ---------------------------------------------------------------------------

def IsUnfit (e : Error) : Prop :=
  e = .unfit .field ∨ e = .unfit .lookup ∨ e = .unfit .items

theorem UnreadAxis.unfit (h : UnreadAxis e axis) : IsUnfit e := by
  cases h with
  | orient => exact .inr (.inl rfl)
  | text => exact .inl rfl

theorem UnreadItems.unfit (h : UnreadItems e fine unread v)
    (hentry : ∀ entry, unread entry → IsUnfit e) :
    IsUnfit e := by
  rcases h with h | ⟨_, _, _, entry, _, _, _, h⟩
  · exact .inr (.inr (elements_error h))
  · exact hentry entry h

theorem UnreadMark.unfit (h : UnreadMark e mark) : IsUnfit e := by
  induction h with
  | axes _ unread => exact UnreadItems.unfit unread fun _ h => h.unfit
  | items _ _ _ marks_eq => exact .inr (.inr (elements_error marks_eq))
  | mark _ _ _ _ _ _ ih => exact ih

theorem Unread.unfit (h : Unread e v) : IsUnfit e := by
  cases h with
  | signals => exact .inl rfl
  | data => exact .inl rfl
  | axes _ _ _ _ unread =>
    obtain ⟨_, _, _, _, _, h⟩ := unread
    exact h.unfit
  | marks _ _ _ _ _ unread =>
    obtain ⟨_, _, _, _, _, h⟩ := unread
    exact h.unfit

/-- A document is valid, or has a defect, or cannot be read, which is so for just these. -/
theorem validate_outcome (v : Json) :
    (validate v = .ok () ∨ (∃ defect, validate v = .error (.malformed defect)) ∨
        ∃ e, validate v = .error e ∧ Unread e v) ∧
      ∀ e, Unread e v → validate v = .error e ∧ IsUnfit e := by
  have hunfit {e : Error} (h : IsUnfit e) (defect : Defect) : e ≠ .malformed defect := by
    rcases h with rfl | rfl | rfl <;> nofun
  refine ⟨?_, fun e h => ⟨(validate_error (hunfit h.unfit)).mpr h, h.unfit⟩⟩
  cases hvalid : validate v with
  | ok _ => exact .inl rfl
  | error e =>
    by_cases hdefect : ∃ defect, e = .malformed defect
    · obtain ⟨defect, rfl⟩ := hdefect
      exact .inr (.inl ⟨defect, rfl⟩)
    · refine .inr (.inr ⟨e, rfl,
        (validate_error fun defect heq => hdefect ⟨defect, heq⟩).mp hvalid⟩)

def onlyList (key : String) (entries : List Json) : Json :=
  .obj (["scales", "axes", "marks", "signals", "data"].map fun other =>
    (other, .arr (if other = key then entries else [])))

def numberedGroup : Fields :=
  [("type", .str "group"), ("axes", .int 5)]

def groupOf (groups : List Fields) : Fields :=
  [("type", .str "group"), ("marks", .arr (groups.map .obj))]

theorem numberedGroup_unread :
    Unread (.unfit .items) (onlyList "marks" [.obj (groupOf [numberedGroup])]) ∧
      validate (onlyList "marks" [.obj (groupOf [numberedGroup])]) = .error (.unfit .items) := by
  have hlists : ListsAre (onlyList "marks" [.obj (groupOf [numberedGroup])]).ownFields [] []
      [.obj (groupOf [numberedGroup])] [] [] := ⟨rfl, rfl, rfl, rfl, rfl⟩
  have hnamed : Named [] := ⟨by simp, List.nodup_nil⟩
  have hinner : UnreadMark (.unfit .items) (.obj numberedGroup) := .axes rfl (.inl rfl)
  have houter : UnreadMark (.unfit .items) (.obj (groupOf [numberedGroup])) := by
    refine (unreadMark_group rfl).mpr (.inr ⟨⟨[], rfl, by simp⟩, .inr ⟨_, rfl, ?_⟩⟩)
    exact ⟨[], _, [], rfl, by simp, hinner⟩
  have hunread : Unread (.unfit .items) (onlyList "marks" [.obj (groupOf [numberedGroup])]) :=
    .marks hlists hnamed hnamed hnamed (by simp) ⟨[], _, [], rfl, by simp, houter⟩
  exact ⟨hunread, ((validate_outcome _).2 _ hunread).1⟩

/-- A scale that is no object is a defect, and such a signal is none; nor is a side with parts, a
null on the way to the text of labels, or a number for the axes of a group. -/
theorem onlyList_undecided :
    validate (onlyList "scales" [.int 1]) = .error (.malformed (.entryNotObject [("scales", 0)])) ∧
      validate (onlyList "signals" [.int 1]) = .error (.unfit .field) ∧
      validate (onlyList "axes" [.obj [("scale", .str "x"), ("orient", .arr [])]]) =
        .error (.unfit .lookup) ∧
      validate (onlyList "axes"
        [.obj [("scale", .str "x"), ("orient", .str "top"), ("encode", .null)]]) =
        .error (.unfit .field) ∧
      validate (onlyList "marks" [.obj [("type", .str "group"), ("axes", .int 5)]]) =
        .error (.unfit .items) ∧
      ¬ Decides (validate (onlyList "signals" [.int 1])) := by
  refine ⟨rfl, rfl, rfl, rfl, rfl, fun h => ?_⟩
  obtain ⟨defect, heq⟩ := h (.unfit .field) rfl
  cases heq

end VegaAxes.Document
