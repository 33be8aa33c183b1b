import VegaAxes.Proofs.Document.Validity
import VegaAxes.Proofs.Scale.Choice
import VegaAxes.Proofs.Scale.Growth

/-!
# Scales that axes can be bound to

Among scales with names, and types that are texts where they are set, an axis always finds
its scale (`resolve_succeeds`, `resolveOpposingType_succeeds`). Where scales are added or
narrowed on the way, the types that axes are bound to and told of stay (`SameTypes`).
-/

namespace VegaAxes.Scale

open Document

variable {e : Extent} {p : Position} {items xs ys : List Json} {scale : Json}

def IsWord (v : Json) : Prop :=
  v = .null ∨ ∃ s, v = .str s

/-- A scale with a name. Its type is a text, if it is set. -/
def Bindable (scale : Json) : Prop :=
  (∃ name, entryName? scale = some name ∧ name ≠ "") ∧ IsWord (Fields.getD scale.ownFields "type")

theorem get?_of_getD {fs : Fields} {key s : String} (h : fs.getD key = .str s) :
    fs.get? key = some (.str s) := by
  unfold Fields.getD at h
  cases hget : fs.get? key <;> simp_all

theorem Bindable.fields (h : Bindable scale) :
    ∃ (fs : Fields) (name : String), scale = .obj fs ∧
      fs.get? "name" = some (.str name) ∧ name ≠ "" ∧
      IsWord (fs.getD "type") := by
  obtain ⟨⟨name, hname, hne⟩, htype⟩ := h
  obtain ⟨fs, rfl, htext⟩ := entryName?_eq_some.mp hname
  exact ⟨fs, name, rfl, get?_of_getD htext, hne, htype⟩

theorem isReadable_of_name {name : String} (h : entryName? scale = some name) :
    isReadable scale = true := by
  obtain ⟨fs, rfl, htext⟩ := entryName?_eq_some.mp h
  exact isReadable_iff.mpr ⟨fs, rfl, .inr ⟨name, get?_of_getD htext⟩⟩

theorem Bindable.isReadable (h : Bindable scale) : isReadable scale = true := by
  obtain ⟨⟨name, hname, -⟩, -⟩ := h
  exact isReadable_of_name hname

theorem bindable_default (e : Extent) : Bindable e.defaultScale :=
  ⟨⟨e.defaultScaleName, rfl, by cases e <;> decide⟩, .inr ⟨"linear", rfl⟩⟩

theorem bindable_missing (e : Extent) (items : List Json) :
    ∀ scale ∈ missing e items, Bindable scale := by
  intro scale hscale
  unfold missing at hscale
  split at hscale
  · cases hscale
  · obtain rfl := List.mem_singleton.mp hscale
    exact bindable_default e

theorem bindable_append_missing (h : ∀ scale ∈ items, Bindable scale) (e : Extent) :
    ∀ scale ∈ items ++ missing e items, Bindable scale := fun scale hscale =>
  (List.mem_append.mp hscale).elim (h scale) (bindable_missing e items scale)

-- ---------------------------------------------------------------------------
-- Finding a scale
-- ---------------------------------------------------------------------------

theorem resolve_succeeds (h : ∀ scale ∈ items, Bindable scale) (p : Position) :
    ∃ bound, resolve (.arr items) p = .ok bound ∧ Bindable bound.scale := by
  have hbound := resolve_eq (fun scale hscale => (h scale hscale).isReadable) p
  refine ⟨_, hbound, ?_⟩
  exact bindable_append_missing h p.extent _ (List.mem_of_getElem? (resolve_ok hbound).2)

theorem resolveOpposingType_succeeds (h : ∀ scale ∈ items, Bindable scale) (p : Position) :
    ∃ scales type, resolveOpposingType (.arr items) p = .ok (scales, type) :=
  ⟨_, _, resolveOpposingType_eq (fun scale hscale => (h scale hscale).isReadable) p⟩

-- ---------------------------------------------------------------------------
-- Types that stay
-- ---------------------------------------------------------------------------

def typeOf (scale : Json) : Json :=
  (Fields.getD scale.ownFields "type").orElse (.str "linear")

theorem Bindable.typeOf_text (h : Bindable scale) : ∃ s, typeOf scale = .str s ∧ s ≠ "" := by
  unfold typeOf
  rcases h.2 with htype | ⟨s, htype⟩
  · exact ⟨"linear", by rw [htype]; rfl, by simp⟩
  · by_cases hs : s = ""
    · exact ⟨"linear", by rw [htype, hs]; rfl, by simp⟩
    · exact ⟨s, by simp [htype, Json.orElse, Json.truthy, hs], hs⟩

def boundType (items : List Json) (p : Position) : String :=
  match resolve (.arr items) p with
  | .ok bound => (typeOf bound.scale).spliced
  | .error _ => "linear"

theorem boundType_eq {bound : Bound} (h : resolve (.arr items) p = .ok bound) :
    boundType items p = (typeOf bound.scale).spliced := by
  rw [boundType, h]

theorem boundType_ne_empty (h : ∀ scale ∈ items, Bindable scale) (p : Position) :
    boundType items p ≠ "" := by
  obtain ⟨bound, hbound, hscale⟩ := resolve_succeeds h p
  obtain ⟨s, hs, hne⟩ := hscale.typeOf_text
  rw [boundType_eq hbound, hs]
  exact hne

theorem boundType_chosen (h : ∀ scale ∈ items, isReadable scale = true) (p : Position) :
    boundType items p = (typeOf (chosenScale p.extent items)).spliced :=
  boundType_eq (resolve_eq h p)

/-- What is read of all scales alike is the same of the scale that an axis gets. -/
theorem chosenScale_congr {F : Json → β} (hchosen : chosen? e ys = chosen? e xs)
    (hF : ys.map F = xs.map F) : F (chosenScale e ys) = F (chosenScale e xs) := by
  have hmap (zs : List Json) : F (chosenScale e zs) =
      ((chosen? e zs).bind ((zs.map F)[·]?)).getD (F e.defaultScale) := by
    rw [chosenScale, ← Option.getD_map F, Option.map_bind]
    simp only [Function.comp_def, List.getElem?_map]
  rw [hmap, hmap, hchosen, hF]

-- ---------------------------------------------------------------------------
-- Narrowed scales
-- ---------------------------------------------------------------------------

section
variable {narrowed : Nat → Prop}
  (h : ChangedAt narrowed (Fields.SameExcept ["domain", "zero"]) xs ys)
include h

theorem hasRange_narrowed (e : Extent) : ys.map (hasRange e) = xs.map (hasRange e) :=
  h.map_eq fun h => by rw [hasRange, hasRange, Json.ownFields, Json.ownFields, h.getD (by simp)]

theorem namesTrellis_narrowed : ys.map namesTrellis = xs.map namesTrellis :=
  h.map_eq fun h => by
    rw [namesTrellis, namesTrellis, Json.ownFields, Json.ownFields, h "name" (by simp)]

theorem typeOf_narrowed : ys.map typeOf = xs.map typeOf :=
  h.map_eq fun h => by rw [typeOf, typeOf, Json.ownFields, Json.ownFields, h.getD (by simp)]

theorem chosen?_narrowed (e : Extent) : chosen? e ys = chosen? e xs :=
  chosen?_congr (hasRange_narrowed h e) (namesTrellis_narrowed h)

theorem bindable_narrowed (hbindable : ∀ scale ∈ xs, Bindable scale) :
    ∀ scale ∈ ys, Bindable scale := by
  have hmap : ys.map (fun scale => (entryName? scale, Fields.getD scale.ownFields "type")) =
      xs.map fun scale => (entryName? scale, Fields.getD scale.ownFields "type") :=
    h.map_eq fun h => by
      rw [entryName?, entryName?, Json.ownFields, Json.ownFields, h.getD (by simp),
        h.getD (by simp)]
  intro scale hscale
  obtain ⟨old, hold, heq⟩ := exists_of_map_eq hmap hscale
  obtain ⟨hname, htype⟩ := Prod.mk.inj heq
  exact ⟨hname ▸ (hbindable old hold).1, htype ▸ (hbindable old hold).2⟩

theorem isReadable_narrowed (hreadable : ∀ scale ∈ xs, isReadable scale = true) :
    ∀ scale ∈ ys, isReadable scale = true := by
  have hmap : ys.map isReadable = xs.map isReadable :=
    h.map_eq fun h => by rw [isReadable, isReadable, h "name" (by simp)]
  intro scale hscale
  obtain ⟨old, hold, heq⟩ := exists_of_map_eq hmap hscale
  exact heq ▸ hreadable old hold

theorem toldType_narrowed (e : Extent) : toldType e ys = toldType e xs := by
  have hread : ys.map (fun scale => (hasRange e scale, givenType scale)) =
      xs.map fun scale => (hasRange e scale, givenType scale) :=
    h.map_eq fun h => by
      rw [hasRange, hasRange, givenType, givenType, Json.ownFields, Json.ownFields,
        h.getD (by simp), h "type" (by simp)]
  have hmap (zs : List Json) : toldType e zs =
      (((zs.map fun scale => (hasRange e scale, givenType scale)).find? (·.1)).map (·.2)).getD
        (.str "linear") := by
    rw [toldType, List.find?_map, Option.map_map]
    rfl
  rw [hmap, hmap, hread]

end

-- ---------------------------------------------------------------------------
-- Lists of the same types
-- ---------------------------------------------------------------------------

/-- Axes are bound among the newer scales to scales of the types that they would be bound to
among the older ones, and told the same types of those across. -/
structure SameTypes (old new : List Json) : Prop where
  readable : ∀ scale ∈ new, isReadable scale = true
  told : ∀ e, toldType e new = toldType e old
  bound : ∀ e, typeOf (chosenScale e new) = typeOf (chosenScale e old)

variable {old new newer : List Json}

theorem SameTypes.refl (h : ∀ scale ∈ items, isReadable scale = true) : SameTypes items items :=
  ⟨h, fun _ => rfl, fun _ => rfl⟩

theorem SameTypes.trans (h : SameTypes old new) (h' : SameTypes new newer) : SameTypes old newer :=
  ⟨h'.readable, fun e => (h'.told e).trans (h.told e), fun e => (h'.bound e).trans (h.bound e)⟩

theorem SameTypes.append_missing (h : SameTypes old new) (e : Extent) :
    SameTypes old (new ++ missing e new) :=
  h.trans ⟨isReadable_append_missing h.readable e, fun e' => toldType_missing e' e new,
    fun e' => by rw [chosenScale_missing]⟩

theorem SameTypes.completed (h : SameTypes old new) (p : Position) :
    SameTypes old (completed p new) :=
  (h.append_missing _).append_missing _

theorem SameTypes.narrowed {narrowed : Nat → Prop} (h : SameTypes old new)
    (hchanged : ChangedAt narrowed (Fields.SameExcept ["domain", "zero"]) new newer) :
    SameTypes old newer :=
  h.trans ⟨isReadable_narrowed hchanged h.readable, toldType_narrowed hchanged,
    fun e => chosenScale_congr (chosen?_narrowed hchanged e) (typeOf_narrowed hchanged)⟩

theorem SameTypes.boundType (h : SameTypes old new)
    (hold : ∀ scale ∈ old, isReadable scale = true) : boundType new = boundType old :=
  funext fun p => by rw [boundType_chosen h.readable, boundType_chosen hold, h.bound]

end VegaAxes.Scale
