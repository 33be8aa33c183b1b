import VegaAxes.Builder.ScaleBinding
import VegaAxes.Proofs.Attempt

/-!
# How axes are bound to scales

`resolve_ok` and `resolveOpposingType_ok`: a scale is added exactly where no scale
occupies the range, and all others stay as they are.
-/

namespace VegaAxes.Scale

variable {e : Extent} {p : Position} {items : List Json} {scale : Json}

-- ---------------------------------------------------------------------------
-- Occupied ranges
-- ---------------------------------------------------------------------------

def isOccupied (e : Extent) (items : List Json) : Bool :=
  items.any fun scale => decide (Fields.getD scale.ownFields "range" = .str e.word)

theorem occupies_ok {here : Bool} (h : occupies e scale = .ok here) :
    here = decide (Fields.getD scale.ownFields "range" = .str e.word) := by
  cases scale with
  | obj fs => exact (Except.ok.inj h).symm
  | _ => cases h

theorem occupants_ok {start : Nat} {places : List Nat} (h : occupants e start items = .ok places) :
    places.isEmpty = !isOccupied e items := by
  induction items generalizing start places with
  | nil => cases h; rfl
  | cons scale items ih =>
    simp only [occupants, bind_ok] at h
    obtain ⟨here, hhere, rest, hrest, h⟩ := h
    obtain rfl := occupies_ok hhere
    simp only [isOccupied, List.any_cons, Bool.not_or]
    rw [← isOccupied, ← ih hrest]
    by_cases hr : Fields.getD scale.ownFields "range" = .str e.word
    · simp only [hr, decide_true, if_true, pure_ok] at h
      subst h
      simp only [hr, decide_true, Bool.not_true, Bool.false_and, List.isEmpty_cons]
    · simp only [hr, decide_false, Bool.false_eq_true, if_false, pure_ok] at h
      subst h
      simp [hr]

theorem occupants_lt {start place : Nat} {places : List Nat}
    (h : occupants e start items = .ok places) (hm : place ∈ places) :
    start ≤ place ∧ place < start + items.length := by
  induction items generalizing start places with
  | nil => cases h; simp at hm
  | cons scale items ih =>
    simp only [occupants, bind_ok, pure_ok] at h
    obtain ⟨here, -, rest, hrest, h⟩ := h
    rw [List.length_cons]
    by_cases hm' : place ∈ rest
    · have := ih hrest hm'
      omega
    · obtain rfl : place = start := by
        cases here <;> simp at h <;> subst h <;> simp_all
      omega

theorem firstTrellis?_lt {start place : Nat} (h : firstTrellis? start items = .ok (some place)) :
    place < start + items.length := by
  induction items generalizing start with
  | nil => cases h
  | cons scale items ih =>
    simp only [firstTrellis?, bind_ok] at h
    obtain ⟨name, -, found, -, h⟩ := h
    rw [List.length_cons]
    cases found with
    | true => simp only [if_true, pure_ok, Option.some.injEq] at h; omega
    | false =>
      simp only [Bool.false_eq_true, if_false] at h
      have := ih h
      omega

theorem find?_eq_none {found : Option Nat} (h : find? e items = .ok found) :
    found.isNone = !isOccupied e items := by
  simp only [find?, bind_ok] at h
  obtain ⟨places, hplaces, h⟩ := h
  rw [← occupants_ok hplaces]
  split at h
  · cases h; rfl
  · cases h; rfl
  · simp only [bind_ok, pure_ok] at h
    obtain ⟨_, -, rfl⟩ := h
    rfl

theorem find?_lt {place : Nat} (h : find? e items = .ok (some place)) : place < items.length := by
  simp only [find?, bind_ok] at h
  obtain ⟨places, hplaces, h⟩ := h
  have hlt {i : Nat} (hi : i ∈ places) : i < items.length := by
    have := occupants_lt hplaces hi
    omega
  split at h
  · cases h
  · cases h
    exact hlt (by simp)
  · simp only [bind_ok, pure_ok, Option.some.injEq] at h
    obtain ⟨trellis, htrellis, rfl⟩ := h
    cases trellis with
    | none => exact hlt (by simp)
    | some i =>
      have := firstTrellis?_lt htrellis
      simpa using this

-- ---------------------------------------------------------------------------
-- Added scales
-- ---------------------------------------------------------------------------

def missing (e : Extent) (items : List Json) : List Json :=
  if isOccupied e items then [] else [e.defaultScale]

theorem occupants_objects {start : Nat} {places : List Nat}
    (h : occupants e start items = .ok places) : ∀ scale ∈ items, ∃ fs, scale = .obj fs := by
  induction items generalizing start places with
  | nil => simp
  | cons scale items ih =>
    simp only [occupants, bind_ok] at h
    obtain ⟨here, hhere, rest, hrest, -⟩ := h
    simp only [List.mem_cons, forall_eq_or_imp]
    refine ⟨?_, ih hrest⟩
    cases scale with
    | obj fs => exact ⟨fs, rfl⟩
    | _ => cases hhere

theorem find?_texts {found : Option Nat} (hitems : ∀ scale ∈ items, ∃ key, scale = .str key)
    (h : find? e items = .ok found) : found = none := by
  simp only [find?, bind_ok] at h
  obtain ⟨places, hplaces, h⟩ := h
  cases items with
  | nil =>
    cases hplaces
    exact (pure_ok.mp h).symm
  | cons scale items =>
    obtain ⟨fs, rfl⟩ := occupants_objects hplaces _ List.mem_cons_self
    obtain ⟨key, heq⟩ := hitems _ List.mem_cons_self
    cases heq

/-- An axis is bound among the scales of a list only: neither the keys of an object nor the letters
of a text are scales, and nothing can be added to them. -/
theorem resolve_list {scales : Json} {bound : Bound} (h : resolve scales p = .ok bound) :
    ∃ items, scales = .arr items := by
  simp only [resolve, bind_ok] at h
  obtain ⟨items, hitems, found, hfound, h⟩ := h
  cases scales with
  | arr xs => exact ⟨xs, rfl⟩
  | obj fs =>
    cases hitems
    obtain rfl := find?_texts (fun scale hscale => by
      obtain ⟨field, -, rfl⟩ := List.mem_map.mp hscale
      exact ⟨field.1, rfl⟩) hfound
    cases h
  | str s =>
    cases hitems
    obtain rfl := find?_texts (fun scale hscale => by
      obtain ⟨letter, -, rfl⟩ := List.mem_map.mp hscale
      exact ⟨_, rfl⟩) hfound
    cases h
  | _ => cases hitems

theorem resolve_ok {bound : Bound} (h : resolve (.arr items) p = .ok bound) :
    bound.scales = .arr (items ++ missing p.extent items) ∧
      (items ++ missing p.extent items)[bound.place]? = some bound.scale := by
  simp only [resolve, Json.elements, bind_ok, Except.ok.injEq, exists_eq_left'] at h
  obtain ⟨found, hfound, h⟩ := h
  have hnone := find?_eq_none hfound
  cases found with
  | none =>
    have hfree : isOccupied p.extent items = false := by simpa using hnone
    simp only [Json.append, bind_ok, pure_ok, Except.ok.injEq, exists_eq_left'] at h
    subst h
    simp [missing, hfree]
  | some place =>
    have hheld : isOccupied p.extent items = true := by simpa using hnone
    simp only [pure_ok] at h
    subst h
    have hlt := find?_lt hfound
    simp [missing, hheld, List.getD, hlt]

theorem firstType?_eq_none {found : Option Json} (h : firstType? e items = .ok found) :
    found.isNone = !isOccupied e items := by
  induction items with
  | nil => cases h; rfl
  | cons scale items ih =>
    simp only [firstType?, bind_ok] at h
    obtain ⟨here, hhere, h⟩ := h
    obtain rfl := occupies_ok hhere
    by_cases hr : Fields.getD scale.ownFields "range" = .str e.word
    · simp only [hr, decide_true, if_true, bind_ok, pure_ok] at h
      obtain ⟨_, -, rfl⟩ := h
      simp [isOccupied, hr]
    · simp only [hr, decide_false, Bool.false_eq_true, if_false] at h
      rw [ih h]
      simp [isOccupied, hr]

theorem resolveOpposingType_ok {scales type : Json}
    (h : resolveOpposingType (.arr items) p = .ok (scales, type)) :
    scales = .arr (items ++ missing p.opposingExtent items) := by
  simp only [resolveOpposingType, Json.elements, bind_ok, Except.ok.injEq, exists_eq_left'] at h
  obtain ⟨found, hfound, h⟩ := h
  have hnone := firstType?_eq_none hfound
  cases found with
  | none =>
    have hfree : isOccupied p.opposingExtent items = false := by simpa using hnone
    simp only [Json.append, bind_ok, pure_ok, Except.ok.injEq, exists_eq_left', Prod.mk.injEq] at h
    rw [← h.1, missing, hfree]
    rfl
  | some t =>
    have hheld : isOccupied p.opposingExtent items = true := by simpa using hnone
    simp only [pure_ok, Prod.mk.injEq] at h
    rw [← h.1, missing, hheld]
    simp

end VegaAxes.Scale
