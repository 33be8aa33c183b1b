import VegaAxes.Proofs.Json.Fields

/-!
# Growth of lists

Three ways in which one list of values goes into another: at its front
(`Extends`), as a block of it (`Surrounds`), and entry by entry with some objects
changed (`ChangedAt`).
-/

namespace VegaAxes

namespace Json

def Extends (v w : Json) : Prop :=
  ∃ old new, v = .arr old ∧ w = .arr (old ++ new)

def Surrounds (v w : Json) : Prop :=
  ∃ before old after, v = .arr old ∧ w = .arr (before ++ old ++ after)

variable {u v w : Json}

theorem Extends.refl (items : List Json) : Extends (.arr items) (.arr items) :=
  ⟨items, [], rfl, by simp⟩

theorem Extends.trans (h : Extends u v) (h' : Extends v w) : Extends u w := by
  obtain ⟨old, new, rfl, rfl⟩ := h
  obtain ⟨_, newer, heq, rfl⟩ := h'
  cases heq
  exact ⟨old, new ++ newer, rfl, by simp⟩

theorem Surrounds.refl (items : List Json) : Surrounds (.arr items) (.arr items) :=
  ⟨[], items, [], rfl, by simp⟩

theorem Surrounds.trans (h : Surrounds u v) (h' : Surrounds v w) : Surrounds u w := by
  obtain ⟨before, old, after, rfl, rfl⟩ := h
  obtain ⟨earlier, _, later, heq, rfl⟩ := h'
  cases heq
  exact ⟨earlier ++ before, old, after ++ later, rfl, by simp⟩

end Json

/-- Entry by entry the lists are the same, save that the objects at some places are related. -/
def ChangedAt (places : Nat → Prop) (R : Fields → Fields → Prop) (xs ys : List Json) : Prop :=
  xs.length = ys.length ∧ ∀ i x y, xs[i]? = some x → ys[i]? = some y →
    y = x ∨ places i ∧ ∃ fs gs, x = .obj fs ∧ y = .obj gs ∧ R fs gs

namespace ChangedAt

variable {places places' : Nat → Prop} {R : Fields → Fields → Prop} {xs ys zs : List Json}

theorem refl (places : Nat → Prop) (R : Fields → Fields → Prop) (xs : List Json) :
    ChangedAt places R xs xs :=
  ⟨rfl, fun _ _ _ hx hy => .inl (Option.some.inj (hy.symm.trans hx))⟩

theorem mono (h : ChangedAt places R xs ys) (hsub : ∀ i, places i → places' i) :
    ChangedAt places' R xs ys :=
  ⟨h.1, fun i x y hx hy => (h.2 i x y hx hy).imp_right (.imp_left (hsub i))⟩

theorem imp {R' : Fields → Fields → Prop} (h : ChangedAt places R xs ys)
    (hR : ∀ {i fs gs}, places i → xs[i]? = some (.obj fs) → R fs gs → R' fs gs) :
    ChangedAt places R' xs ys := by
  refine ⟨h.1, fun i x y hx hy => (h.2 i x y hx hy).imp_right ?_⟩
  rintro ⟨hp, fs, gs, rfl, rfl, hfg⟩
  exact ⟨hp, fs, gs, rfl, rfl, hR hp hx hfg⟩

theorem trans (hR : ∀ {fs gs hs}, R fs gs → R gs hs → R fs hs) (h : ChangedAt places R xs ys)
    (h' : ChangedAt places R ys zs) : ChangedAt places R xs zs := by
  refine ⟨h.1.trans h'.1, fun i x z hx hz => ?_⟩
  have hi : i < ys.length := h.1 ▸ (List.getElem?_eq_some_iff.mp hx).1
  obtain ⟨y, hy⟩ : ∃ y, ys[i]? = some y := ⟨_, List.getElem?_eq_getElem hi⟩
  rcases h.2 i x y hx hy with rfl | ⟨hp, fs, gs, rfl, rfl, hfg⟩
  · exact h'.2 i y z hy hz
  · rcases h'.2 i _ z hy hz with rfl | ⟨-, _, hs, heq, rfl, hgh⟩
    · exact .inr ⟨hp, fs, gs, rfl, rfl, hfg⟩
    · cases heq
      exact .inr ⟨hp, fs, hs, rfl, rfl, hR hfg hgh⟩

theorem set {place : Nat} {fs gs : Fields} (hp : places place) (hx : xs[place]? = some (.obj fs))
    (hR : R fs gs) : ChangedAt places R xs (xs.set place (.obj gs)) := by
  refine ⟨by simp, fun i x y hx' hy => ?_⟩
  by_cases hi : place = i
  · subst hi
    obtain rfl : Json.obj gs = y := by
      simpa [List.getElem?_set_self (List.getElem?_eq_some_iff.mp hx).1] using hy
    obtain rfl : Json.obj fs = x := by simpa [hx] using hx'
    exact .inr ⟨hp, fs, gs, rfl, rfl, hR⟩
  · rw [List.getElem?_set_ne hi] at hy
    exact .inl (Option.some.inj (hy.symm.trans hx'))

theorem append_left (h : ChangedAt places R (xs ++ ys) zs) :
    ∃ xs' ys', zs = xs' ++ ys' ∧ ChangedAt places R xs xs' ∧ ys'.length = ys.length := by
  have hlen : xs.length + ys.length = zs.length := by simpa using h.1
  refine ⟨zs.take xs.length, zs.drop xs.length, by simp, ⟨by simp; omega, ?_⟩, by simp; omega⟩
  intro i x y hx hy
  have hi := (List.getElem?_eq_some_iff.mp hx).1
  rw [List.getElem?_take_of_lt hi] at hy
  exact h.2 i x y (by rwa [List.getElem?_append_left hi]) hy

theorem append_right (h : ChangedAt places R (xs ++ ys) zs) :
    ∃ xs' ys', zs = xs' ++ ys' ∧
      ChangedAt (fun i => i < ys.length ∧ places (xs'.length + i)) R ys ys' ∧
      xs'.length = xs.length := by
  have hlen : xs.length + ys.length = zs.length := by simpa using h.1
  have htake : (zs.take xs.length).length = xs.length := by simp; omega
  refine ⟨zs.take xs.length, zs.drop xs.length, by simp, ⟨by simp; omega, ?_⟩, htake⟩
  intro i x y hx hy
  have hi := (List.getElem?_eq_some_iff.mp hx).1
  rw [List.getElem?_drop] at hy
  have hx' : (xs ++ ys)[xs.length + i]? = some x := by
    rwa [List.getElem?_append_right (by omega), Nat.add_sub_cancel_left]
  rw [htake]
  exact (h.2 _ x y hx' hy).imp_right fun ⟨hplace, hR⟩ => ⟨⟨hi, hplace⟩, hR⟩

theorem eq_of_forall_not (h : ChangedAt places R xs ys) (hnone : ∀ i < xs.length, ¬places i) :
    ys = xs := by
  refine List.ext_getElem h.1.symm fun i hi hi' => ?_
  rcases h.2 i _ _ (List.getElem?_eq_getElem hi')
    (List.getElem?_eq_getElem hi) with heq | ⟨hplace, -⟩
  · exact heq
  · exact absurd hplace (hnone i hi')

theorem append_same (h : ChangedAt places R xs ys) (zs : List Json) :
    ChangedAt places R (xs ++ zs) (ys ++ zs) := by
  refine ⟨by simp [h.1], fun i x y hx hy => ?_⟩
  by_cases hi : i < xs.length
  · rw [List.getElem?_append_left hi] at hx
    rw [List.getElem?_append_left (h.1 ▸ hi)] at hy
    exact h.2 i x y hx hy
  · rw [List.getElem?_append_right (by omega)] at hx
    rw [List.getElem?_append_right (by have := h.1; omega), ← h.1] at hy
    exact .inl (Option.some.inj (hy.symm.trans hx))

theorem map_eq {F : Json → β} (h : ChangedAt places R xs ys)
    (hF : ∀ {fs gs}, R fs gs → F (.obj gs) = F (.obj fs)) : ys.map F = xs.map F := by
  refine List.ext_getElem (by simp [h.1]) fun i hi hi' => ?_
  rw [List.length_map] at hi hi'
  rw [List.getElem_map, List.getElem_map]
  rcases h.2 i _ _ (List.getElem?_eq_getElem hi') (List.getElem?_eq_getElem hi) with heq | h
  · rw [heq]
  · obtain ⟨-, fs, gs, hx, hy, hR⟩ := h
    rw [hx, hy, hF hR]

end ChangedAt

end VegaAxes
