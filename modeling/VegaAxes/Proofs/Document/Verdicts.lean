import VegaAxes.Proofs.Document.Validity
import VegaAxes.Proofs.Json.Paths

/-!
# When the check of a document comes to a verdict

A check decides as long as it can read what it looks at: the sides of axes, the path to the
text of their labels, and the lists of groups. `validate_decides`: a document whose lists are
`Legible` is valid or has a defect, and no check of it fails in any other way.
-/

namespace VegaAxes.Document

variable {list : NamedList} {index : Nat} {place : Place} {seen : List String}
  {v axis mark entry : Json} {entries : List Json} {fs : Fields}

/-- The check succeeds or finds a defect. -/
def Decides (x : Except Error α) : Prop :=
  ∀ e, x = .error e → ∃ defect, e = .malformed defect

theorem Decides.ok (a : α) : Decides (.ok a) :=
  fun _ h => nomatch h

theorem Decides.malformed (defect : Defect) :
    Decides (.error (.malformed defect) : Except Error α) := by
  rintro _ ⟨⟩
  exact ⟨defect, rfl⟩

theorem Decides.ensure (condition : Bool) (defect : Defect) :
    Decides (ensure condition defect) := by
  cases condition
  · exact .malformed defect
  · exact .ok ()

theorem Decides.bind {x : Except Error α} {f : α → Except Error β} (hx : Decides x)
    (hf : ∀ a, x = .ok a → Decides (f a)) : Decides (x >>= f) := by
  cases x with
  | ok a => exact hf a rfl
  | error e =>
    rintro _ ⟨⟩
    exact hx e rfl

theorem Decides.after {x : Except Error α} {a : α} {f : α → Except Error β} (hx : x = .ok a)
    (hf : Decides (f a)) : Decides (x >>= f) := by
  rw [hx]
  exact hf

theorem Decides.checkEntries {check : Nat → Json → Except Error Unit}
    (h : ∀ index, ∀ entry ∈ entries, Decides (check index entry)) :
    Decides (Document.checkEntries check index entries) := by
  induction entries generalizing index with
  | nil => exact .ok ()
  | cons entry entries ih =>
    simp only [List.mem_cons, forall_eq_or_imp] at h
    exact .bind (h index).1 fun _ _ => ih fun index => (h index).2

theorem Decides.checkList (fs : Fields) (key : String) {f : List Json → Except Error Unit}
    (h : ∀ entries, fs.getD key = .arr entries → Decides (f entries)) :
    Decides (Document.checkList fs key >>= f) := by
  unfold Document.checkList
  split
  · next heq => exact h _ heq
  · exact .malformed _

-- ---------------------------------------------------------------------------
-- Names
-- ---------------------------------------------------------------------------

theorem checkNames_decides (h : ∀ entry ∈ entries, isObject entry = true) :
    Decides (checkNames list index seen entries) := by
  induction entries generalizing index seen with
  | nil => exact .ok ()
  | cons entry entries ih =>
    simp only [List.mem_cons, forall_eq_or_imp] at h
    obtain ⟨fs, rfl⟩ := isObject_iff.mp h.1
    refine .after (field_ok.mpr ⟨fs, rfl, rfl⟩) ?_
    split
    · exact .bind (.ensure _ _) fun _ _ => .bind (.ensure _ _) fun _ _ => ih h.2
    · exact .malformed _

-- ---------------------------------------------------------------------------
-- Axes
-- ---------------------------------------------------------------------------

def wayToText : List (List String) :=
  [["encode"], ["encode", "labels"], ["encode", "labels", "update"]]

theorem descend_text_error {e : Error} :
    (Json.obj fs).descend Encoding.labelTextPath = .error e ↔ e = .unfit .field ∧
      ∃ path ∈ wayToText, ∃ w, (Json.obj fs).descend path = .ok (some w) ∧ isObject w = false := by
  have hobject (w : Json) : (∀ gs, w ≠ .obj gs) ↔ isObject w = false := by
    rw [← Bool.not_eq_true, isObject_iff, not_exists]
  simp only [Json.descend_error, hobject]
  refine and_congr_right fun _ => ?_
  constructor
  · rintro ⟨before, key, after, w, hpath, hw, hne⟩
    refine ⟨before, ?_, w, hw, hne⟩
    rcases before with _ | ⟨_, _ | ⟨_, _ | ⟨_, _ | ⟨_, before⟩⟩⟩⟩
    · cases hw
      cases hne
    all_goals simp_all [Encoding.labelTextPath, wayToText]
  · rintro ⟨path, hpath, w, hw, hne⟩
    simp only [wayToText, List.mem_cons, List.not_mem_nil, or_false] at hpath
    rcases hpath with rfl | rfl | rfl
    · exact ⟨_, "labels", ["update", "text"], w, rfl, hw, hne⟩
    · exact ⟨_, "update", ["text"], w, rfl, hw, hne⟩
    · exact ⟨_, "text", [], w, rfl, hw, hne⟩

/-- What is read of an axis can be read: its side has no parts, and only objects lie on the way
to the text of its labels. -/
structure LegibleAxis (axis : Json) : Prop where
  orient : ∀ fs : Fields, axis = .obj fs → (fs.getD "orient").checkWord = .ok ()
  text : ∀ fs : Fields, axis = .obj fs →
    ∃ text, (Json.obj fs).descend Encoding.labelTextPath = .ok text

theorem isOrient_succeeds (h : v.checkWord = .ok ()) : ∃ known, isOrient v = .ok known := by
  cases v with
  | arr items => cases h
  | obj fs => cases h
  | _ => exact ⟨_, rfl⟩

theorem checkAxis_decides (h : LegibleAxis axis) : Decides (checkAxis place axis) := by
  refine .bind (.ensure _ _) fun _ hobject => ?_
  obtain ⟨fs, rfl⟩ := isObject_iff.mp (ensure_ok.mp hobject)
  obtain ⟨known, hknown⟩ := isOrient_succeeds (h.orient fs rfl)
  obtain ⟨text, htext⟩ := h.text fs rfl
  refine .after (field_ok.mpr ⟨fs, rfl, rfl⟩) (.bind (.ensure _ _) fun _ _ => ?_)
  refine .after (field_ok.mpr ⟨fs, rfl, rfl⟩) (.after hknown (.bind (.ensure _ _) fun _ _ => ?_))
  exact .after htext (.ensure _ _)

theorem checkAxes_decides {axes : List Json} (hv : v.elements = .ok axes)
    (h : ∀ axis ∈ axes, LegibleAxis axis) : Decides (checkAxes place v) :=
  .after hv (.checkEntries fun _ axis haxis => checkAxis_decides (h axis haxis))

theorem ValidAxis.legible (h : ValidAxis axis) : LegibleAxis axis := by
  obtain ⟨fs, rfl, h⟩ := h
  obtain ⟨side, hside, -⟩ := h.orient
  obtain ⟨text, htext, -⟩ := h.text
  refine ⟨?_, ?_⟩
  · rintro _ ⟨⟩
    rw [hside]
    rfl
  · rintro _ ⟨⟩
    exact ⟨text, htext⟩

-- ---------------------------------------------------------------------------
-- Marks
-- ---------------------------------------------------------------------------

/-- Of marks other than groups only the type is read. Groups have axes and marks that can be read,
as far as they have any. -/
inductive LegibleMark : Json → Prop where
  | plain {mark : Json} (isPlain : ∀ fs : Fields, mark = .obj fs → fs.getD "type" ≠ .str "group") :
    LegibleMark mark
  | group {fs : Fields} {axes marks : List Json}
    (axes_eq : (fs.getD "axes" (.arr [])).elements = .ok axes)
    (marks_eq : (fs.getD "marks" (.arr [])).elements = .ok marks)
    (axes_legible : ∀ axis ∈ axes, LegibleAxis axis)
    (marks_legible : ∀ mark ∈ marks, LegibleMark mark) : LegibleMark (.obj fs)

theorem ValidMark.legible (h : ValidMark mark) : LegibleMark mark := by
  induction h with
  | plain type_eq isPlain =>
    refine .plain ?_
    rintro _ ⟨⟩ heq
    exact isPlain (Json.str.inj (type_eq.symm.trans heq))
  | group _ axes_eq marks_eq axes_valid _ ih =>
    exact .group axes_eq marks_eq (fun axis haxis => (axes_valid axis haxis).legible) ih

theorem checkGroupAxes_decides {axes : List Json}
    (haxes : (fs.getD "axes" (.arr [])).elements = .ok axes)
    (h : ∀ axis ∈ axes, LegibleAxis axis) : Decides (checkGroupAxes place fs) := by
  rw [Fields.getD] at haxes
  unfold checkGroupAxes
  split
  · next hget =>
    rw [hget] at haxes
    exact checkAxes_decides haxes h
  · exact .ok ()

theorem checkGroupMarks_decides {marks : List Json}
    (hmarks : (fs.getD "marks" (.arr [])).elements = .ok marks)
    (h : ∀ mark ∈ marks, ∀ place, Decides (checkMark place mark)) :
    Decides (checkGroupMarks place fs) := by
  by_cases hlist : ∃ items, fs.getD "marks" (.arr []) = .arr items
  · obtain ⟨items, hitems⟩ := hlist
    rw [hitems] at hmarks
    cases hmarks
    rw [checkGroupMarks_list hitems, checkMarks_eq]
    exact .checkEntries fun _ mark hmem => h mark hmem _
  · rw [checkGroupMarks_other fun items hitems => hlist ⟨items, hitems⟩]
    exact .after hmarks (.checkEntries fun _ _ _ => .ensure _ _)

theorem checkMark_decides (h : LegibleMark mark) (place : Place) :
    Decides (checkMark place mark) := by
  induction h generalizing place with
  | plain isPlain =>
    unfold checkMark
    split
    · refine .bind (.ensure _ _) fun _ _ => ?_
      rw [if_neg (isPlain _ rfl)]
      exact .ok ()
    · exact .malformed _
  | group axes_eq marks_eq axes_legible _ ih =>
    unfold checkMark
    refine .bind (.ensure _ _) fun _ _ => ?_
    split
    · exact .bind (checkGroupAxes_decides axes_eq axes_legible) fun _ _ =>
        checkGroupMarks_decides marks_eq ih
    · exact .ok ()

theorem checkMarks_decides {marks : List Json} (h : ∀ mark ∈ marks, LegibleMark mark) :
    Decides (checkMarks place index marks) := by
  rw [checkMarks_eq]
  exact .checkEntries fun _ mark hmem => checkMark_decides (h mark hmem) _

-- ---------------------------------------------------------------------------
-- Documents
-- ---------------------------------------------------------------------------

def Each (P : Json → Prop) (v : Json) : Prop :=
  ∀ entries, v = .arr entries → ∀ entry ∈ entries, P entry

/-- What is read of the entries of a document's lists can be read. -/
structure Legible (axes marks signals data : Json) : Prop where
  axes : Each LegibleAxis axes
  marks : Each LegibleMark marks
  signals : Each (isObject · = true) signals
  data : Each (isObject · = true) data

def LegibleFields (fs : Fields) : Prop :=
  Legible (fs.getD "axes") (fs.getD "marks") (fs.getD "signals") (fs.getD "data")

/-- Such a document is valid, or malformed. -/
theorem validate_decides (h : LegibleFields fs) : Decides (validate (.obj fs)) := by
  refine .checkList fs _ fun scales _ => .checkList fs _ fun axes haxes =>
    .checkList fs _ fun marks hmarks =>
    .checkList fs _ fun signals hsignals => .checkList fs _ fun tables hdata => ?_
  refine .bind (.checkEntries fun _ _ _ => .ensure _ _) fun _ hscales => ?_
  have hobjects : ∀ scale ∈ scales, isObject scale = true :=
    (checkEntries_ok (P := (isObject · = true)) fun _ _ _ => checkObject_ok).mp hscales
  refine .bind (checkNames_decides hobjects) fun _ _ => ?_
  refine .bind (checkNames_decides (h.signals signals hsignals)) fun _ _ => ?_
  refine .bind (checkNames_decides (h.data tables hdata)) fun _ _ => ?_
  refine .bind (checkAxes_decides rfl (h.axes axes haxes)) fun _ _ => ?_
  exact checkMarks_decides (h.marks marks hmarks)

end VegaAxes.Document
