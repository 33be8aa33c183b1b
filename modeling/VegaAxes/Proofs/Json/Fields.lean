import VegaAxes.Json

/-!
# Laws of fields

What is found under a key after several fields are set, erased, laid over others
or merged with them, and `SameExcept`: which keys a change leaves alone.
-/

namespace VegaAxes.Fields

variable {fs gs hs : Fields} {key other : String} {v w : Json} {keys : List String}

-- ---------------------------------------------------------------------------
-- Look-up
-- ---------------------------------------------------------------------------

theorem get?_append (fs gs : Fields) (key : String) :
    get? (fs ++ gs) key = (fs.get? key).or (gs.get? key) := by
  induction fs with
  | nil => simp
  | cons field fs ih =>
    obtain ⟨k, v⟩ := field
    rw [List.cons_append, get?_cons, get?_cons, ih]
    split <;> rfl

theorem foldl_erase (fs : Fields) (keys : List String) :
    keys.foldl Fields.erase fs = fs.filter fun field => field.1 ∉ keys := by
  induction keys generalizing fs with
  | nil => exact (List.filter_eq_self.mpr (by simp)).symm
  | cons key keys ih =>
    rw [List.foldl_cons, ih, Fields.erase, List.filter_filter]
    refine List.filter_congr fun field _ => ?_
    by_cases h : field.1 = key <;> simp [h]

theorem get?_eq_none_iff : fs.get? key = none ↔ key ∉ fs.keys := by
  induction fs with
  | nil => simp [keys]
  | cons field fs ih =>
    obtain ⟨k, v⟩ := field
    rw [get?_cons]
    by_cases h : key = k
    · simp [h, keys]
    · simpa [h, keys] using ih

theorem mem_of_get? (h : fs.get? key = some v) : (key, v) ∈ fs := by
  induction fs with
  | nil => cases h
  | cons field fs ih =>
    obtain ⟨k, w⟩ := field
    rw [get?_cons] at h
    split at h
    · next heq =>
      rw [beq_iff_eq] at heq
      subst heq
      cases h
      exact List.mem_cons_self
    · exact List.mem_cons_of_mem _ (ih h)

theorem getD_eq_of_get? (h : fs.get? key = gs.get? key) (default : Json) :
    fs.getD key default = gs.getD key default := by
  rw [getD, getD, h]

theorem getD_cons_self (fs : Fields) (key : String) (v default : Json) :
    getD ((key, v) :: fs) key default = v := by
  simp [getD, get?_cons]

theorem getD_cons_of_ne (fs : Fields) (v default : Json) (h : other ≠ key) :
    getD ((other, v) :: fs) key default = getD fs key default := by
  simp [getD, get?_cons, h.symm]

@[simp] theorem set_set (fs : Fields) (key : String) (v w : Json) :
    (fs.set key v).set key w = fs.set key w := by
  induction fs with
  | nil => simp [set]
  | cons field fs ih =>
    obtain ⟨k, u⟩ := field
    by_cases h : key = k <;> simp [set, h, ih]

theorem set_of_get? (h : fs.get? key = some v) : fs.set key v = fs := by
  induction fs with
  | nil => cases h
  | cons field fs ih =>
    obtain ⟨k, w⟩ := field
    rw [get?_cons] at h
    by_cases hk : key = k
    · subst hk
      obtain rfl : w = v := by simpa using h
      simp [set]
    · simp [set, hk, ih (by simpa [hk] using h)]

theorem get?_overlay (hu : gs.Unique) :
    (fs.overlay gs).get? key = (gs.get? key).or (fs.get? key) := by
  induction gs generalizing fs with
  | nil => simp [overlay]
  | cons field gs ih =>
    obtain ⟨k, v⟩ := field
    have hu' := List.nodup_cons.mp hu
    rw [overlay, List.foldl_cons, ← overlay, ih hu'.2, get?_cons, get?_set]
    by_cases h : key = k
    · subst h
      rw [get?_eq_none_iff.mpr hu'.1]
      simp
    · simp [h]

theorem get?_present (h : fs.get? key = some v) (hv : v ≠ .null) :
    fs.present.get? key = some v := by
  induction fs with
  | nil => cases h
  | cons field fs ih =>
    obtain ⟨k, w⟩ := field
    rw [get?_cons] at h
    by_cases hk : key = k
    · subst hk
      obtain rfl : w = v := by simpa using h
      simp [present, hv, get?_cons]
    · have h' := ih (by simpa [hk] using h)
      by_cases hw : w = .null
      · simpa [present, hw] using h'
      · simpa [present, hw, get?_cons, hk] using h'

theorem get?_present_none (h : fs.get? key = none) : fs.present.get? key = none := by
  rw [get?_eq_none_iff] at h ⊢
  exact fun hmem => h ((List.filter_sublist.map _).subset hmem)

theorem get?_present_null (h : ∀ v, (key, v) ∈ fs → v = .null) : fs.present.get? key = none := by
  refine get?_eq_none_iff.mpr fun hkey => ?_
  obtain ⟨⟨k, v⟩, hfield, rfl⟩ := List.mem_map.mp hkey
  obtain ⟨hmem, hset⟩ := List.mem_filter.mp hfield
  exact of_decide_eq_true hset (h v hmem)

-- ---------------------------------------------------------------------------
-- Untouched keys
-- ---------------------------------------------------------------------------

def SameExcept (keys : List String) (fs gs : Fields) : Prop :=
  ∀ key, key ∉ keys → gs.get? key = fs.get? key

theorem SameExcept.refl (keys : List String) (fs : Fields) : SameExcept keys fs fs :=
  fun _ _ => rfl

theorem SameExcept.trans (h : SameExcept keys fs gs) (h' : SameExcept keys gs hs) :
    SameExcept keys fs hs :=
  fun key hkey => (h' key hkey).trans (h key hkey)

theorem SameExcept.set (fs : Fields) (v : Json) (h : key ∈ keys) :
    SameExcept keys fs (fs.set key v) :=
  fun _ hother => get?_set_of_ne fs v fun heq => hother (heq ▸ h)

theorem SameExcept.getD (h : SameExcept keys fs gs) (hkey : key ∉ keys) (default : Json) :
    gs.getD key default = fs.getD key default :=
  getD_eq_of_get? (h key hkey) default

end VegaAxes.Fields
