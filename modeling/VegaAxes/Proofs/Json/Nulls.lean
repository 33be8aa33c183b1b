import VegaAxes.Encoding
import VegaAxes.Json.Access
import VegaAxes.Options.Written
import VegaAxes.Proofs.Json.Paths

/-!
# Values without nulls

The grammar has no null for a property that is not set. `nullFree`: there is none in a value, at
any depth; `nullFreeExcept` does not look into some of the fields. Objects whose fields are set,
laid over others or merged have no nulls but those that go in (`nullFree_merge`). A value that is
written for an option is `Settled`: it is null, or there is none in it.
-/

namespace VegaAxes

variable {fs gs : Fields} {field : String × Json} {key : String} {v w : Json}
  {spared spared' : String × Json → Bool}

-- ---------------------------------------------------------------------------
-- Members
-- ---------------------------------------------------------------------------

namespace Fields

variable {P : String × Json → Prop}

theorem forall_set (h : ∀ field ∈ fs, P field) (hv : P (key, v)) :
    ∀ field ∈ fs.set key v, P field := by
  induction fs with
  | nil => simpa [set] using hv
  | cons field fs ih =>
    rw [List.forall_mem_cons] at h
    obtain ⟨k, w⟩ := field
    by_cases hk : key = k
    · subst hk
      simpa [set] using ⟨hv, fun k w => h.2 (k, w)⟩
    · simpa [set, hk] using ⟨h.1, fun k w => ih h.2 (k, w)⟩

theorem forall_overlay (h : ∀ field ∈ fs, P field) (h' : ∀ field ∈ gs, P field) :
    ∀ field ∈ fs.overlay gs, P field := by
  induction gs generalizing fs with
  | nil => exact h
  | cons field gs ih =>
    rw [List.forall_mem_cons] at h'
    exact ih (forall_set h h'.1) h'.2

theorem forall_erase (h : ∀ field ∈ fs, P field) (key : String) : ∀ field ∈ fs.erase key, P field :=
  fun field hfield => h field (List.mem_filter.mp hfield).1

theorem forall_present (h : ∀ field ∈ fs, field.2 ≠ .null → P field) :
    ∀ field ∈ fs.present, P field := by
  intro field hfield
  obtain ⟨hmem, hset⟩ := List.mem_filter.mp hfield
  exact h field hmem (of_decide_eq_true hset)

end Fields

namespace Json

-- ---------------------------------------------------------------------------
-- Nulls
-- ---------------------------------------------------------------------------

mutual
/-- No null is in the value, at any depth, except in fields that are spared. -/
def nullFreeExcept (spared : String × Json → Bool) : Json → Bool
  | null => false
  | arr items => nullFreeItems spared items
  | obj fs => nullFreeFields spared fs
  | _ => true
def nullFreeItems (spared : String × Json → Bool) : List Json → Bool
  | [] => true
  | v :: vs => nullFreeExcept spared v && nullFreeItems spared vs
def nullFreeFields (spared : String × Json → Bool) : List (String × Json) → Bool
  | [] => true
  | (key, v) :: fs => (spared (key, v) || nullFreeExcept spared v) && nullFreeFields spared fs
end

abbrev nullFree : Json → Bool :=
  nullFreeExcept fun _ => false

section
variable (spared)

@[simp] theorem nullFree_null : null.nullFreeExcept spared = false := by simp [nullFreeExcept]
@[simp] theorem nullFree_bool (b : Bool) : (bool b).nullFreeExcept spared = true := by
  simp [nullFreeExcept]
@[simp] theorem nullFree_int (n : Int) : (int n).nullFreeExcept spared = true := by
  simp [nullFreeExcept]
@[simp] theorem nullFree_float (x : Float) : (float x).nullFreeExcept spared = true := by
  simp [nullFreeExcept]
@[simp] theorem nullFree_str (s : String) : (str s).nullFreeExcept spared = true := by
  simp [nullFreeExcept]

theorem nullFree_arr (items : List Json) :
    (arr items).nullFreeExcept spared = items.all (nullFreeExcept spared) := by
  rw [nullFreeExcept]
  induction items with
  | nil => rfl
  | cons v vs ih => rw [nullFreeItems, ih, List.all_cons]

theorem nullFree_obj (fs : Fields) :
    (obj fs).nullFreeExcept spared =
      fs.all fun field => spared field || field.2.nullFreeExcept spared := by
  rw [nullFreeExcept]
  induction fs with
  | nil => rfl
  | cons field fs ih => rw [nullFreeFields, ih, List.all_cons]

@[simp] theorem nullFree_arr_nil : (arr []).nullFreeExcept spared = true := by
  simp [nullFree_arr]

@[simp] theorem nullFree_arr_cons (v : Json) (items : List Json) :
    (arr (v :: items)).nullFreeExcept spared =
      (v.nullFreeExcept spared && (arr items).nullFreeExcept spared) := by
  simp [nullFree_arr]

@[simp] theorem nullFree_arr_map {f : α → Json} {as : List α}
    (h : ∀ a ∈ as, (f a).nullFreeExcept spared = true) :
    (arr (as.map f)).nullFreeExcept spared = true := by
  simpa [nullFree_arr] using h

@[simp] theorem nullFree_obj_nil : (obj []).nullFreeExcept spared = true := by
  simp [nullFree_obj]

@[simp] theorem nullFree_obj_cons (field : String × Json) (fs : Fields) :
    (obj (field :: fs)).nullFreeExcept spared =
      ((spared field || field.2.nullFreeExcept spared) && (obj fs).nullFreeExcept spared) := by
  simp [nullFree_obj]

@[simp] theorem nullFree_obj_append (fs gs : Fields) :
    (obj (fs ++ gs)).nullFreeExcept spared =
      ((obj fs).nullFreeExcept spared && (obj gs).nullFreeExcept spared) := by
  simp [nullFree_obj]

end

theorem nullFree_items {items : List Json} :
    (arr items).nullFree = true ↔ ∀ v ∈ items, v.nullFree = true := by
  rw [nullFree, nullFree_arr, List.all_eq_true]

theorem nullFree_fields : (obj fs).nullFree = true ↔ ∀ field ∈ fs, field.2.nullFree = true := by
  simp only [nullFree_obj, List.all_eq_true, Bool.false_or]

mutual
theorem nullFreeExcept_imp
    (h : ∀ field, spared field = true → spared' field = true ∨
      field.2.nullFreeExcept spared' = true) :
    ∀ v : Json, v.nullFreeExcept spared = true → v.nullFreeExcept spared' = true
  | null => by simp
  | bool _ => by simp
  | int _ => by simp
  | float _ => by simp
  | str _ => by simp
  | arr items => nullFreeItems_imp h items
  | obj fs => nullFreeFields_imp h fs
theorem nullFreeItems_imp
    (h : ∀ field, spared field = true → spared' field = true ∨
      field.2.nullFreeExcept spared' = true) :
    ∀ vs : List Json, nullFreeItems spared vs = true → nullFreeItems spared' vs = true
  | [] => id
  | v :: vs => by
    simp only [nullFreeItems, Bool.and_eq_true]
    exact .imp (nullFreeExcept_imp h v) (nullFreeItems_imp h vs)
theorem nullFreeFields_imp
    (h : ∀ field, spared field = true → spared' field = true ∨
      field.2.nullFreeExcept spared' = true) :
    ∀ fs : List (String × Json), nullFreeFields spared fs = true → nullFreeFields spared' fs = true
  | [] => id
  | (key, v) :: fs => by
    simp only [nullFreeFields, Bool.and_eq_true, Bool.or_eq_true]
    refine .imp (fun hv => ?_) (nullFreeFields_imp h fs)
    rcases hv with hspared | hv
    · exact h (key, v) hspared
    · exact .inr (nullFreeExcept_imp h v hv)
end

theorem nullFree.except (h : v.nullFree = true) (spared : String × Json → Bool) :
    v.nullFreeExcept spared = true :=
  nullFreeExcept_imp (by simp) v h

-- ---------------------------------------------------------------------------
-- Merging
-- ---------------------------------------------------------------------------

theorem nullFree_get? (h : (obj fs).nullFree = true) (hv : fs.get? key = some v) :
    v.nullFree = true :=
  nullFree_fields.mp h (key, v) (Fields.mem_of_get? hv)

theorem nullFree_set (h : (obj fs).nullFree = true) (hv : v.nullFree = true) :
    (obj (fs.set key v)).nullFree = true :=
  nullFree_fields.mpr (Fields.forall_set (nullFree_fields.mp h) hv)

mutual
theorem nullFree_merge : ∀ below upper : Json, below.nullFree = true → upper.nullFree = true →
    (below.merge upper).nullFree = true := by
  intro below upper hbelow hupper
  unfold merge
  split
  · rw [nullFree_items, List.forall_mem_append]
    exact ⟨nullFree_items.mp hbelow, nullFree_items.mp hupper⟩
  · next below upper => exact nullFree_mergeFields below upper hbelow hupper
  · exact hupper
theorem nullFree_mergeFields : ∀ (below : Fields) (upper : List (String × Json)),
    (obj below).nullFree = true → (obj upper).nullFree = true →
    (obj (mergeFields below upper)).nullFree = true
  | below, [], hbelow, _ => by rwa [mergeFields]
  | below, (key, v) :: upper, hbelow, hupper => by
    obtain ⟨hv, hupper⟩ := List.forall_mem_cons.mp (nullFree_fields.mp hupper)
    rw [mergeFields]
    refine nullFree_mergeFields _ upper (nullFree_set hbelow ?_) (nullFree_fields.mpr hupper)
    cases hw : Fields.get? below key with
    | none => exact hv
    | some w => exact nullFree_merge w v (nullFree_get? hbelow hw) hv
end

theorem nullFree_descend {path : List String} (h : v.nullFree = true)
    (hw : v.descend path = .ok (some w)) : w.nullFree = true := by
  induction path generalizing v with
  | nil =>
    cases hw
    exact h
  | cons key path ih =>
    obtain ⟨fs, rfl⟩ := descend_cons_object hw
    rcases descend_cons_ok.mp hw with ⟨u, hu, huw⟩ | ⟨-, hnone⟩
    · exact ih (nullFree_get? h hu) huw
    · cases hnone

theorem nullFree_modifyPath {f : Json → Json} (hf : ∀ v, v.nullFree = true → (f v).nullFree = true)
    (path : List String) (h : (obj fs).nullFree = true) :
    (obj (fs.modifyPath f path)).nullFree = true := by
  fun_induction Fields.modifyPath f path fs with
  | case1 => exact h
  | case2 fs key v hv => exact nullFree_set h (hf v (nullFree_get? h hv))
  | case3 => exact h
  | case4 fs key keys hkeys inner hinner ih => exact nullFree_set h (ih (nullFree_get? h hinner))
  | case5 => exact h

-- ---------------------------------------------------------------------------
-- Written options
-- ---------------------------------------------------------------------------

/-- The value is null itself, or no null is in it. -/
def Settled (v : Json) : Prop :=
  v ≠ null → v.nullFree = true

@[simp] theorem settled_null : Settled null :=
  fun hnull => absurd rfl hnull

@[simp] theorem settled_of_nullFree (h : v.nullFree = true) : Settled v :=
  fun _ => h

theorem settled_ofOption {toJson : α → Json} {a : Option α}
    (h : ∀ x, a = some x → (toJson x).nullFree = true) : Settled (ofOption toJson a) := by
  cases a with
  | none => exact settled_null
  | some x => exact settled_of_nullFree (h x rfl)

@[simp] theorem settled_textJson (s : Option String) : Settled (textJson s) :=
  settled_ofOption fun s _ => nullFree_str _ s

theorem Settled.orElse (h : Settled v) (h' : Settled w) : Settled (v.orElse w) := by
  unfold Json.orElse
  split
  · exact h
  · exact h'

@[simp] theorem nullFree_number (spared : String × Json → Bool) (n : Number) :
    n.toJson.nullFreeExcept spared = true := by
  cases n <;> simp [Number.toJson]

@[simp] theorem nullFree_axisValue (spared : String × Json → Bool) (v : AxisValue) :
    v.toJson.nullFreeExcept spared = true := by
  cases v <;> simp [AxisValue.toJson]

@[simp] theorem nullFree_word [Vocabulary α] (spared : String × Json → Bool) (a : α) :
    (Vocabulary.toJson a).nullFreeExcept spared = true := by
  simp [Vocabulary.toJson]

@[simp] theorem nullFree_title (spared : String × Json → Bool) (t : Title) :
    t.toJson.nullFreeExcept spared = true := by
  cases t <;> simp [Title.toJson]

end Json

namespace Encoding

open Json

-- ---------------------------------------------------------------------------
-- Encoding rules
-- ---------------------------------------------------------------------------

section
variable (spared)

@[simp] theorem nullFree_signal (expression : String) :
    (signal expression).nullFreeExcept spared = true := by
  simp [signal]

@[simp] theorem nullFree_rawValue : rawValue.nullFreeExcept spared = true :=
  nullFree_signal spared _

@[simp] theorem nullFree_testedSignal (test expression : String) :
    (testedSignal test expression).nullFreeExcept spared = true := by
  simp [testedSignal]

@[simp] theorem nullFree_value (h : v.nullFreeExcept spared = true) :
    (value v).nullFreeExcept spared = true := by
  simp [value, h]

@[simp] theorem nullFree_text (s : String) : (text s).nullFreeExcept spared = true :=
  nullFree_value spared (nullFree_str spared s)

@[simp] theorem nullFree_number (n : Int) : (number n).nullFreeExcept spared = true :=
  nullFree_value spared (nullFree_int spared n)

@[simp] theorem nullFree_testedValue (test : String) (h : v.nullFreeExcept spared = true) :
    (testedValue test v).nullFreeExcept spared = true := by
  simp [testedValue, h]

end

end Encoding

end VegaAxes
