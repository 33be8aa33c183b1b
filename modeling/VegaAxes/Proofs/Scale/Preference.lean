import VegaAxes.Proofs.Scale.Bindable

/-!
# The preferred scale of a range

Among several scales of a range the first facet scale is preferred. The search for one does not
stop at the range, so what is chosen is preferred exactly where ranges are `Unmixed`
(`chosen?_eq_preferred?`, `hasRange_chosenScale_iff`). The type that an axis is told of the scale
across is that of the preferred one exactly where `FirstTyped` (`toldType_eq_iff`).
-/

namespace VegaAxes.Scale

variable {e : Extent} {items xs ys : List Json} {place : Nat} {scale : Json}

-- ---------------------------------------------------------------------------
-- Searches in a list
-- ---------------------------------------------------------------------------

section
variable {α : Type} {p q : α → Bool} {as : List α} {a : α}

theorem findIdx?_and_of_find? (h : as.find? q = some a) (ha : p a = true) :
    as.findIdx? (fun a => p a && q a) = as.findIdx? q := by
  induction as with
  | nil => cases h
  | cons head as ih =>
    rw [List.findIdx?_cons, List.findIdx?_cons]
    cases hq : q head with
    | true =>
      obtain rfl : head = a := by simpa [List.find?_cons, hq] using h
      rw [ha, Bool.and_self, if_pos rfl, if_pos rfl]
    | false => rw [Bool.and_false, ih (by simpa [List.find?_cons, hq] using h)]

theorem findIdx?_and_or (h : as.countP p ≤ 1) :
    (as.findIdx? fun a => p a && q a).or (as.findIdx? p) = as.findIdx? p := by
  induction as with
  | nil => rfl
  | cons head as ih =>
    rw [List.findIdx?_cons, List.findIdx?_cons]
    cases hp : p head with
    | true =>
      rw [List.countP_cons_of_pos hp] at h
      have hnone : as.findIdx? (fun a => p a && q a) = none := by
        have hrest : ∀ a ∈ as, ¬ p a = true := List.countP_eq_zero.mp (by omega)
        rw [List.findIdx?_eq_none_iff]
        intro a ha
        simp [hrest a ha]
      rw [hnone]
      cases q head <;> rfl
    | false =>
      rw [List.countP_cons_of_neg (by simp [hp])] at h
      simp only [Bool.false_and, Bool.false_eq_true, if_false]
      rw [← Option.map_or, ih h]

end

-- ---------------------------------------------------------------------------
-- Chosen and preferred scales
-- ---------------------------------------------------------------------------

def preferred? (e : Extent) (items : List Json) : Option Nat :=
  (items.findIdx? fun scale => hasRange e scale && namesTrellis scale).or
    (items.findIdx? (hasRange e))

/-- Where several scales have the range, the first facet scale of all is one of them. -/
def Unmixed (e : Extent) (items : List Json) : Prop :=
  1 < items.countP (hasRange e) → (items.find? namesTrellis).all (hasRange e) = true

instance (e : Extent) (items : List Json) : Decidable (Unmixed e items) :=
  inferInstanceAs (Decidable (_ → _))

theorem chosen?_eq_preferred? (h : Unmixed e items) : chosen? e items = preferred? e items := by
  rw [chosen?, preferred?]
  split
  · next hseveral =>
    have hall := h hseveral
    cases hfacet : items.find? namesTrellis with
    | none =>
      have hnone : ∀ scale ∈ items, ¬ namesTrellis scale = true := List.find?_eq_none.mp hfacet
      have hnone' : items.findIdx? namesTrellis = none := by
        rw [List.findIdx?_eq_none_iff]
        intro scale hscale
        simp [hnone scale hscale]
      have hboth : items.findIdx? (fun scale => hasRange e scale && namesTrellis scale) = none := by
        rw [List.findIdx?_eq_none_iff]
        intro scale hscale
        simp [hnone scale hscale]
      rw [hnone', hboth]
    | some scale =>
      rw [hfacet, Option.all_some] at hall
      rw [findIdx?_and_of_find? hfacet hall]
  · next hfew => exact (findIdx?_and_or (by omega)).symm

theorem hasRange_preferred (h : preferred? e items = some place) :
    ∃ scale, items[place]? = some scale ∧ hasRange e scale = true := by
  have hfound {q : Json → Bool} (hq : items.findIdx? q = some place) :
      ∃ scale, items[place]? = some scale ∧ q scale = true := by
    obtain ⟨hlt, hscale, -⟩ := List.findIdx?_eq_some_iff_getElem.mp hq
    exact ⟨_, List.getElem?_eq_getElem hlt, hscale⟩
  rcases Option.or_eq_some_iff.mp h with h | ⟨-, h⟩
  · obtain ⟨scale, hscale, hboth⟩ := hfound h
    exact ⟨scale, hscale, (Bool.and_eq_true_iff.mp hboth).1⟩
  · exact hfound h

/-- The scale that an axis gets has the axis's range exactly where ranges are unmixed. -/
theorem hasRange_chosenScale_iff : hasRange e (chosenScale e items) = true ↔ Unmixed e items := by
  constructor
  · -- among several scales the first facet scale is chosen, whatever its range
    intro h hseveral
    rw [chosenScale, chosen?, if_pos hseveral] at h
    cases hfacet : items.find? namesTrellis with
    | none => rfl
    | some scale =>
      rw [List.find?_eq_bind_findIdx?_getElem?] at hfacet
      obtain ⟨place, hplace, hscale⟩ := Option.bind_eq_some_iff.mp hfacet
      rw [hplace, Option.some_or, Option.bind_some, hscale, Option.getD_some] at h
      exact h
  · intro h
    rw [chosenScale, chosen?_eq_preferred? h]
    cases hpreferred : preferred? e items with
    | none => exact hasRange_default.trans (decide_eq_true rfl)
    | some place =>
      obtain ⟨scale, hscale, hrange⟩ := hasRange_preferred hpreferred
      rw [Option.bind_some, hscale]
      exact hrange

theorem unmixed_missing (other : Extent) :
    Unmixed e (items ++ missing other items) ↔ Unmixed e items := by
  rw [← hasRange_chosenScale_iff, chosenScale_missing, hasRange_chosenScale_iff]

theorem unmixed_narrowed {narrowed : Nat → Prop}
    (h : ChangedAt narrowed (Fields.SameExcept ["domain", "zero"]) xs ys) :
    Unmixed e ys ↔ Unmixed e xs := by
  rw [← hasRange_chosenScale_iff,
    chosenScale_congr (F := hasRange e) (chosen?_narrowed h e) (hasRange_narrowed h e),
    hasRange_chosenScale_iff]

structure Ranged (items : List Json) : Prop where
  readable : ∀ scale ∈ items, isReadable scale = true
  unmixed : ∀ e, Unmixed e items

theorem Ranged.append_missing (h : Ranged items) (e : Extent) : Ranged (items ++ missing e items) :=
  ⟨isReadable_append_missing h.readable e, fun e' => (unmixed_missing e).mpr (h.unmixed e')⟩

theorem Ranged.narrowed {narrowed : Nat → Prop} (hx : Ranged xs)
    (h : ChangedAt narrowed (Fields.SameExcept ["domain", "zero"]) xs ys) : Ranged ys :=
  ⟨isReadable_narrowed h hx.readable, fun e => (unmixed_narrowed h).mpr (hx.unmixed e)⟩

theorem Ranged.hasRange_resolve {p : Position} {bound : Bound} (h : Ranged items)
    (hbound : resolve (.arr items) p = .ok bound) : hasRange p.extent bound.scale = true := by
  rw [resolve_eq h.readable] at hbound
  cases hbound
  exact hasRange_chosenScale_iff.mpr (h.unmixed p.extent)

def preferredScale (e : Extent) (items : List Json) : Json :=
  ((items.find? fun scale => hasRange e scale && namesTrellis scale).or
    (items.find? (hasRange e))).getD e.defaultScale

theorem getElem?_preferred (e : Extent) (items : List Json) :
    ((preferred? e items).bind (items[·]?)).getD e.defaultScale = preferredScale e items := by
  rw [preferred?, preferredScale, List.find?_eq_bind_findIdx?_getElem?,
    List.find?_eq_bind_findIdx?_getElem?]
  cases hfacet : items.findIdx? fun scale => hasRange e scale && namesTrellis scale with
  | none => rfl
  | some place =>
    have hlt := (List.findIdx?_eq_some_iff_getElem.mp hfacet).1
    rw [Option.some_or, Option.bind_some, List.getElem?_eq_getElem hlt, Option.some_or]

theorem chosenScale_eq_preferredScale (h : Unmixed e items) :
    chosenScale e items = preferredScale e items := by
  rw [chosenScale, chosen?_eq_preferred? h, getElem?_preferred]

theorem chosenScale_filter (e : Extent) (items : List Json) :
    chosenScale e (items.filter (hasRange e)) = preferredScale e items := by
  have hunmixed : Unmixed e (items.filter (hasRange e)) := by
    intro
    cases hfacet : (items.filter (hasRange e)).find? namesTrellis with
    | none => rfl
    | some scale => exact (List.mem_filter.mp (List.mem_of_find?_eq_some hfacet)).2
  rw [chosenScale_eq_preferredScale hunmixed, preferredScale, List.find?_filter, List.find?_filter,
    preferredScale]
  simp

-- ---------------------------------------------------------------------------
-- The type across
-- ---------------------------------------------------------------------------

/-- The first scale of the range has the type of the preferred one, and not just by being linear
where its type is unset. -/
def FirstTyped (e : Extent) (items : List Json) : Prop :=
  ∀ first, items.find? (hasRange e) = some first →
    (givenType first).truthy = true ∧ typeOf first = typeOf (preferredScale e items)

theorem givenType_eq (h : (givenType scale).truthy = true) : givenType scale = typeOf scale := by
  unfold givenType at h ⊢
  rw [typeOf, Fields.getD]
  cases htype : Fields.get? scale.ownFields "type" with
  | none => rfl
  | some type =>
    rw [htype, Option.getD_some] at h
    rw [Option.getD_some, Option.getD_some, Json.orElse, if_pos h]

theorem typeOf_truthy (scale : Json) : (typeOf scale).truthy = true := by
  rw [typeOf, Json.orElse]
  split
  · assumption
  · rfl

theorem toldType_eq_iff :
    toldType e items = typeOf (preferredScale e items) ↔ FirstTyped e items := by
  rw [toldType, FirstTyped]
  cases hfirst : items.find? (hasRange e) with
  | none =>
    have hnone : items.find? (fun scale => hasRange e scale && namesTrellis scale) = none := by
      rw [List.find?_eq_none] at hfirst ⊢
      intro scale hscale
      simp [hfirst scale hscale]
    refine ⟨fun _ => by simp, fun _ => ?_⟩
    rw [preferredScale, hnone, hfirst]
    cases e <;> rfl
  | some first =>
    rw [Option.map_some, Option.getD_some]
    constructor
    · rintro h _ ⟨⟩
      have htruthy : (givenType first).truthy = true := h ▸ typeOf_truthy _
      exact ⟨htruthy, givenType_eq htruthy ▸ h⟩
    · intro h
      obtain ⟨htruthy, htype⟩ := h first rfl
      rw [givenType_eq htruthy, htype]

end VegaAxes.Scale
