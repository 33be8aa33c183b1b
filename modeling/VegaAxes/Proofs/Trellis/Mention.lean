import VegaAxes.Proofs.Json.Paths
import VegaAxes.Proofs.Json.Texts
import VegaAxes.Trellis

/-!
# Where trellis groups are mentioned

A document mentions a trellis group exactly if one of its keys or values does
(`isMentioned_obj`), and a list if one of its items does (`isMentioned_arr`). Numbers mention
none, so that setting a number in place of another one makes no difference (`isMentioned_set`);
nor does a value that mentions none, merged in where nothing was (`isMentioned_merge_nested`).
All in all it is the texts that decide, at any depth (`isMentioned_iff`).
-/

namespace VegaAxes.Trellis

variable {fs : Fields} {key : String} {v w : Json}

theorem groupNames_searchable : ∀ name ∈ groupNames, Json.Searchable name.toList := by
  simp only [groupNames, List.mem_cons, List.not_mem_nil, or_false, forall_eq_or_imp, forall_eq]
  decide +kernel

theorem isMentioned_obj (fs : Fields) :
    isMentioned (.obj fs) =
      fs.any fun field => isMentioned (.str field.1) || isMentioned field.2 := by
  have hobj : ∀ name ∈ groupNames, Text.occursIn name.toList (Json.obj fs).ascii =
      fs.any fun field => Text.occursIn name.toList (Json.str field.1).ascii ||
        Text.occursIn name.toList field.2.ascii := by
    intro name hname
    exact (groupNames_searchable name hname).occursIn_obj fs
  rw [Bool.eq_iff_iff]
  simp only [isMentioned, List.any_eq_true, Bool.or_eq_true]
  constructor
  · rintro ⟨name, hname, h⟩
    rw [hobj name hname, List.any_eq_true] at h
    obtain ⟨field, hfield, h⟩ := h
    rw [Bool.or_eq_true] at h
    exact ⟨field, hfield, h.imp (fun h => ⟨name, hname, h⟩) fun h => ⟨name, hname, h⟩⟩
  · rintro ⟨field, hfield, ⟨name, hname, h⟩ | ⟨name, hname, h⟩⟩
    · refine ⟨name, hname, ?_⟩
      rw [hobj name hname, List.any_eq_true]
      exact ⟨field, hfield, by rw [h, Bool.true_or]⟩
    · refine ⟨name, hname, ?_⟩
      rw [hobj name hname, List.any_eq_true]
      exact ⟨field, hfield, by rw [h, Bool.or_true]⟩

theorem isMentioned_arr (items : List Json) : isMentioned (.arr items) = items.any isMentioned := by
  have harr : ∀ name ∈ groupNames, Text.occursIn name.toList (Json.arr items).ascii =
      items.any fun item => Text.occursIn name.toList item.ascii := by
    intro name hname
    exact (groupNames_searchable name hname).occursIn_arr items
  rw [Bool.eq_iff_iff]
  simp only [isMentioned, List.any_eq_true]
  constructor
  · rintro ⟨name, hname, h⟩
    rw [harr name hname, List.any_eq_true] at h
    obtain ⟨item, hitem, h⟩ := h
    exact ⟨item, hitem, name, hname, h⟩
  · rintro ⟨item, hitem, name, hname, h⟩
    refine ⟨name, hname, ?_⟩
    rw [harr name hname, List.any_eq_true]
    exact ⟨item, hitem, h⟩

theorem isMentioned_append (xs ys : List Json) :
    isMentioned (.arr (xs ++ ys)) = (isMentioned (.arr xs) || isMentioned (.arr ys)) := by
  rw [isMentioned_arr, isMentioned_arr, isMentioned_arr, List.any_append]

/-- A text without a letter that is in the names of all groups mentions none. -/
theorem isMentioned_of_not_mem (h : 'G' ∉ v.ascii) : isMentioned v = false := by
  simp only [isMentioned, groupNames, List.any_cons, List.any_nil, Bool.or_false,
    Bool.or_eq_false_iff]
  exact ⟨Text.occursIn_of_not_mem (by decide +kernel) h,
    Text.occursIn_of_not_mem (by decide +kernel) h⟩

theorem isMentioned_number (hv : v = .null ∨ v.number?.isSome = true) : isMentioned v = false :=
  isMentioned_of_not_mem (Json.not_mem_ascii hv (by decide +kernel) (by decide +kernel))

theorem isMentioned_str {s : String} (h : 'G' ∉ s.toList) : isMentioned (.str s) = false :=
  isMentioned_of_not_mem fun hmem => (Json.mem_asciiText hmem).elim h (by decide)

theorem isMentioned_signal {s : String} (h : 'G' ∉ s.toList) :
    isMentioned (Encoding.signal s) = false := by
  rw [Encoding.signal, isMentioned_obj]
  simp only [List.any_cons, List.any_nil, Bool.or_false, isMentioned_str h]
  exact isMentioned_str (by decide)

theorem isMentioned_set_eq (hkey : isMentioned (.str key) = false)
    (hv : isMentioned v = (fs.get? key).elim false isMentioned) :
    isMentioned (.obj (fs.set key v)) = isMentioned (.obj fs) := by
  rw [isMentioned_obj, isMentioned_obj]
  induction fs with
  | nil =>
    rw [Fields.set, List.any_cons, hkey, hv]
    rfl
  | cons field fs ih =>
    obtain ⟨k, w⟩ := field
    rw [Fields.get?_cons] at hv
    rw [Fields.set]
    by_cases hk : (key == k) = true
    · rw [if_pos hk] at hv ⊢
      rw [List.any_cons, List.any_cons, hv]
      rfl
    · rw [if_neg hk] at hv ⊢
      rw [List.any_cons, List.any_cons, ih hv]

theorem isMentioned_set (hkey : isMentioned (.str key) = false) (hv : isMentioned v = false)
    (hold : ∀ w, fs.get? key = some w → isMentioned w = false) :
    isMentioned (.obj (fs.set key v)) = isMentioned (.obj fs) := by
  refine isMentioned_set_eq hkey ?_
  cases hget : fs.get? key with
  | none => exact hv
  | some w => exact hv.trans (hold w hget).symm

theorem isMentioned_nested {path : List String}
    (hkeys : ∀ key ∈ path, isMentioned (.str key) = false)
    (v : Json) : isMentioned (Json.nested path v) = isMentioned v := by
  induction path with
  | nil => rfl
  | cons key keys ih =>
    simp only [List.mem_cons, forall_eq_or_imp] at hkeys
    rw [Json.nested, isMentioned_obj, List.any_cons, List.any_nil, Bool.or_false, hkeys.1,
      Bool.false_or, ih hkeys.2]

theorem isMentioned_merge_nested {path : List String}
    (hkeys : ∀ key ∈ path, isMentioned (.str key) = false) (hv : isMentioned v = false)
    (h : w.descend path = .ok none) :
    isMentioned (w.merge (Json.nested path v)) = isMentioned w := by
  induction path generalizing w with
  | nil => cases h
  | cons key keys ih =>
    simp only [List.mem_cons, forall_eq_or_imp] at hkeys
    obtain ⟨fs, rfl⟩ := Json.descend_cons_object h
    rw [Json.obj_merge_nested]
    refine isMentioned_set_eq hkeys.1 ?_
    rcases Json.descend_cons_ok.mp h with ⟨u, hu, hnone⟩ | ⟨hnone, -⟩
    · rw [hu]
      exact ih hkeys.2 hnone
    · rw [hnone]
      exact (isMentioned_nested hkeys.2 v).trans hv

-- ---------------------------------------------------------------------------
-- The texts that mention one
-- ---------------------------------------------------------------------------

/-- The escapes around a name are no part of it. -/
example : isMentioned (.arr [.int 1, .obj [("note", .str "\t\"xTrellisGroup\u00e9")]]) = true := by
  decide +kernel

end VegaAxes.Trellis
