import VegaAxes.Proofs.Json.Growth
import VegaAxes.Proofs.Scale.Binding

/-!
# Growth of scales

`Kept`: among newer scales the older ones stand first, with nothing but the
domains of some changed, and no more are added than there were vacant ranges. An
axis keeps the scales it is bound among (`kept_completed`, `kept_narrowed`).
-/

namespace VegaAxes.Scale

variable {e : Extent} {p : Position} {old new newer items added : List Json}
  {narrowed narrowed' : Nat → Prop}

-- ---------------------------------------------------------------------------
-- Vacant ranges
-- ---------------------------------------------------------------------------

def vacancies (items : List Json) : Nat :=
  (missing .width items).length + (missing .height items).length

theorem vacancies_le (items : List Json) : vacancies items ≤ 2 := by
  have hle (e : Extent) : (missing e items).length ≤ 1 := by
    unfold missing
    split <;> simp
  have := hle .width
  have := hle .height
  unfold vacancies
  omega

theorem isOccupied_congr {xs ys : List Json}
    (h : ys.map (fun scale => Fields.getD scale.ownFields "range") =
      xs.map fun scale => Fields.getD scale.ownFields "range") (e : Extent) :
    isOccupied e ys = isOccupied e xs := by
  have hany (zs : List Json) : isOccupied e zs =
      (zs.map fun scale => Fields.getD scale.ownFields "range").any fun range =>
        decide (range = .str e.word) := by
    simp [isOccupied, List.any_map, Function.comp_def]
  rw [hany, hany, h]

theorem isOccupied_append (e : Extent) (xs ys : List Json) :
    isOccupied e (xs ++ ys) = (isOccupied e xs || isOccupied e ys) :=
  List.any_append

theorem isOccupied_missing (e : Extent) (items : List Json) :
    isOccupied e (items ++ missing e items) = true := by
  rw [isOccupied_append, missing]
  cases isOccupied e items with
  | true => rfl
  | false => cases e <;> rfl

theorem length_missing_append (e : Extent) (xs ys : List Json) :
    (missing e (xs ++ ys)).length ≤ (missing e xs).length := by
  unfold missing
  rw [isOccupied_append]
  cases isOccupied e xs <;> cases isOccupied e ys <;> simp

/-- The scales that an axis is bound among: both ranges are occupied. -/
def completed (p : Position) (items : List Json) : List Json :=
  items ++ missing p.extent items ++ missing p.opposingExtent (items ++ missing p.extent items)

theorem extent_cases (e : Extent) (p : Position) :
    p.extent = e ∧ p.opposingExtent = e.other ∨ p.extent = e.other ∧ p.opposingExtent = e := by
  unfold Position.opposingExtent
  cases e <;> cases p.extent <;> simp [Extent.other]

theorem isOccupied_completed (p : Position) (items : List Json) (e : Extent) :
    isOccupied e (completed p items) = true := by
  unfold completed
  rcases extent_cases e p with ⟨hown, -⟩ | ⟨-, hopposing⟩
  · rw [isOccupied_append, hown, isOccupied_missing, Bool.true_or]
  · rw [hopposing, isOccupied_missing]

theorem isOccupied_missing_other (e : Extent) (items : List Json) :
    isOccupied e (items ++ missing e.other items) = isOccupied e items := by
  rw [isOccupied_append, missing]
  cases isOccupied e.other items <;> cases e <;>
    simp [isOccupied, Extent.other, Extent.defaultScale, Json.ownFields, Fields.getD,
      Fields.get?_cons, Extent.word]

/-- What the default scale of a range is, and that of the other is not, some scale is at last if one
was at first or no scale had the range. -/
theorem any_completed {q : Json → Bool} (hown : q e.defaultScale = true)
    (hother : q e.other.defaultScale = false) (p : Position) (items : List Json) :
    (completed p items).any q = (items.any q || !isOccupied e items) := by
  have hmissing (xs : List Json) : (missing e xs).any q = !isOccupied e xs := by
    unfold missing
    cases isOccupied e xs
    · simp [hown]
    · rfl
  have hmissing' (xs : List Json) : (missing e.other xs).any q = false := by
    unfold missing
    cases isOccupied e.other xs
    · simp [hother]
    · rfl
  rw [completed, List.any_append, List.any_append]
  rcases extent_cases e p with ⟨hextent, hopposing⟩ | ⟨hextent, hopposing⟩
  · rw [hextent, hopposing, hmissing, hmissing', Bool.or_false]
  · rw [hextent, hopposing, hmissing, hmissing', isOccupied_missing_other, Bool.or_false]

theorem vacancies_completed (p : Position) (items : List Json) :
    vacancies (completed p items) = 0 := by
  simp [vacancies, missing, isOccupied_completed]

theorem length_added (p : Position) (items : List Json) :
    (missing p.extent items).length +
        (missing p.opposingExtent (items ++ missing p.extent items)).length ≤ vacancies items := by
  have hle := length_missing_append p.opposingExtent items (missing p.extent items)
  have hboth : vacancies items =
      (missing p.extent items).length + (missing p.opposingExtent items).length := by
    unfold vacancies Position.opposingExtent
    cases p.extent
    · rfl
    · exact Nat.add_comm _ _
  omega

-- ---------------------------------------------------------------------------
-- Kept scales
-- ---------------------------------------------------------------------------

/-- The older scales stand first, with the domains of the narrowed ones changed;
scales are added for vacant ranges only. -/
def Kept (narrowed : Nat → Prop) (old new : List Json) : Prop :=
  ∃ kept added, new = kept ++ added ∧
    ChangedAt narrowed (Fields.SameExcept ["domain", "zero"]) old kept ∧
    added.length ≤ 2 ∧ added.length + vacancies new ≤ vacancies old

theorem Kept.refl (narrowed : Nat → Prop) (items : List Json) : Kept narrowed items items :=
  ⟨items, [], by simp, .refl _ _ _, by simp, by simp⟩

theorem Kept.mono (h : Kept narrowed old new) (hsub : ∀ i, narrowed i → narrowed' i) :
    Kept narrowed' old new := by
  obtain ⟨kept, added, hnew, hkept, hlen, hvacant⟩ := h
  exact ⟨kept, added, hnew, hkept.mono hsub, hlen, hvacant⟩

theorem Kept.trans (h : Kept narrowed old new) (h' : Kept narrowed new newer) :
    Kept narrowed old newer := by
  obtain ⟨kept, added, rfl, hkept, -, hvacant⟩ := h
  obtain ⟨all, more, rfl, hall, -, hvacant'⟩ := h'
  obtain ⟨kept', added', rfl, hkept', hlen⟩ := hall.append_left
  have := vacancies_le old
  refine ⟨kept', added' ++ more, by simp, hkept.trans .trans hkept', ?_, ?_⟩
  · rw [List.length_append]
    omega
  · rw [List.length_append]
    omega

theorem sameExcept_setDomain (low high : Float) (fs : Fields) :
    Fields.SameExcept ["domain", "zero"] fs (setDomain low high fs) := by
  have hdomain : Fields.SameExcept ["domain", "zero"] fs
      (fs.set "domain" (.arr [.float low, .float high])) := .set _ _ (by simp)
  unfold setDomain
  split
  · exact hdomain.trans (.set _ _ (by simp))
  · exact hdomain

theorem changedAt_narrowed {place : Nat} {fs : Fields} (hplace : narrowed place)
    (hfs : items[place]? = some (.obj fs)) (low high : Float) :
    ChangedAt narrowed (Fields.SameExcept ["domain", "zero"]) items
      (items.set place (.obj (setDomain low high fs))) :=
  .set hplace hfs (sameExcept_setDomain low high fs)

theorem kept_completed (narrowed : Nat → Prop) (p : Position) (items : List Json) :
    Kept narrowed items (completed p items) := by
  have hadded := length_added p items
  have hle := vacancies_le items
  refine ⟨items, _, List.append_assoc .., .refl _ _ _, ?_, ?_⟩
  · rw [List.length_append]
    omega
  · rw [vacancies_completed, List.length_append]
    omega

theorem kept_narrowed (h : ChangedAt narrowed (Fields.SameExcept ["domain", "zero"]) old new) :
    Kept narrowed old new := by
  have hranges := h.map_eq (F := fun scale => Fields.getD scale.ownFields "range")
    fun h => h.getD (by simp) .null
  refine ⟨new, [], (List.append_nil _).symm, h, by simp, ?_⟩
  simp only [vacancies, missing, isOccupied_congr hranges, List.length_nil, Nat.zero_add,
    Nat.le_refl]

end VegaAxes.Scale
