/-!
# Document values

Chart documents are JSON values. Integers and floats are different kinds of
value, and an object is the list of its fields in the order they were added;
`Fields.Unique` says that no key occurs twice, which `set` and `erase` keep.
`Fields.merge` lays one object over another: objects that share a key are merged
in turn, arrays are joined, and everything else is replaced.
-/

namespace VegaAxes

inductive Json where
  | null
  | bool (b : Bool)
  | int (n : Int)
  | float (x : Float)
  | str (s : String)
  | arr (items : List Json)
  | obj (fields : List (String × Json))
deriving Inhabited

abbrev Fields := List (String × Json)

namespace Json

mutual
/-- Equality of values as data: fields in order, floats by identity. -/
def same : Json → Json → Bool
  | null, null => true
  | bool a, bool b => a == b
  | int a, int b => a == b
  | float a, float b => decide (a = b)
  | str a, str b => a == b
  | arr a, arr b => sameItems a b
  | obj a, obj b => sameFields a b
  | _, _ => false
def sameItems : List Json → List Json → Bool
  | [], [] => true
  | a :: as, b :: bs => same a b && sameItems as bs
  | _, _ => false
def sameFields : List (String × Json) → List (String × Json) → Bool
  | [], [] => true
  | (k, a) :: as, (l, b) :: bs => k == l && same a b && sameFields as bs
  | _, _ => false
end

mutual
theorem same_iff : ∀ a b : Json, same a b = true ↔ a = b
  | null, b => by cases b <;> simp [same]
  | bool _, b => by cases b <;> simp [same]
  | int _, b => by cases b <;> simp [same]
  | float _, b => by cases b <;> simp [same]
  | str _, b => by cases b <;> simp [same]
  | arr as, b => by cases b <;> simp [same, sameItems_iff as]
  | obj as, b => by cases b <;> simp [same, sameFields_iff as]
theorem sameItems_iff : ∀ as bs : List Json, sameItems as bs = true ↔ as = bs
  | [], bs => by cases bs <;> simp [sameItems]
  | a :: as, bs => by cases bs <;> simp [sameItems, same_iff a, sameItems_iff as]
theorem sameFields_iff : ∀ as bs : List (String × Json), sameFields as bs = true ↔ as = bs
  | [], bs => by cases bs <;> simp [sameFields]
  | (k, a) :: as, bs => by
    cases bs with
    | nil => simp [sameFields]
    | cons p bs =>
      obtain ⟨l, b⟩ := p
      simp [sameFields, same_iff a, sameFields_iff as, and_assoc]
end

instance : DecidableEq Json := fun a b => decidable_of_iff _ (same_iff a b)

/-- Null, false, zero and everything empty count as unset. -/
def truthy : Json → Bool
  | null => false
  | bool b => b
  | int n => n != 0
  | float x => x != 0
  | str s => s != ""
  | arr items => !items.isEmpty
  | obj fields => !fields.isEmpty

def ownFields : Json → List (String × Json)
  | obj fs => fs
  | _ => []

/-- The value, or `alternative` in place of an unset one. -/
def orElse (v alternative : Json) : Json :=
  if v.truthy then v else alternative

def ofOption (toJson : α → Json) : Option α → Json
  | none => null
  | some a => toJson a

end Json

namespace Fields

def get? (fs : Fields) (key : String) : Option Json :=
  fs.lookup key

def has (fs : Fields) (key : String) : Bool :=
  (fs.get? key).isSome

def keys (fs : Fields) : List String :=
  fs.map (·.1)

/-- Replaces the field where it stands, or adds it at the end. -/
def set : Fields → String → Json → Fields
  | [], key, v => [(key, v)]
  | (k, w) :: fs, key, v => if key == k then (k, v) :: fs else (k, w) :: set fs key v

def erase (fs : Fields) (key : String) : Fields :=
  fs.filter (·.1 != key)

def overlay (base upper : Fields) : Fields :=
  upper.foldl (fun fs field => fs.set field.1 field.2) base

/-- Only the fields that have a value: the grammar has no null for a property that is not set. -/
def present (fs : Fields) : Fields :=
  fs.filter (·.2 ≠ .null)

/-- The field's value where an absent field and a null one mean the same. -/
def getD (fs : Fields) (key : String) (default : Json := .null) : Json :=
  (fs.get? key).getD default

def Unique (fs : Fields) : Prop :=
  fs.keys.Nodup

@[simp] theorem get?_nil (key : String) : get? [] key = none := rfl

theorem get?_cons (k : String) (v : Json) (fs : Fields) (key : String) :
    get? ((k, v) :: fs) key = if key == k then some v else get? fs key := by
  simp only [get?, List.lookup_cons]
  split <;> simp_all

@[simp] theorem get?_set_self (fs : Fields) (key : String) (v : Json) :
    (fs.set key v).get? key = some v := by
  induction fs with
  | nil => simp [set, get?_cons]
  | cons field fs ih =>
    obtain ⟨k, w⟩ := field
    by_cases h : key = k <;> simp [set, get?_cons, h, ih]

theorem get?_set_of_ne (fs : Fields) {key other : String} (v : Json) (h : other ≠ key) :
    (fs.set key v).get? other = fs.get? other := by
  induction fs with
  | nil => simp [set, get?_cons, h]
  | cons field fs ih =>
    obtain ⟨k, w⟩ := field
    by_cases hk : key = k
    · subst hk; simp [set, get?_cons, h]
    · simp [set, get?_cons, hk, ih]

theorem get?_set (fs : Fields) (key other : String) (v : Json) :
    (fs.set key v).get? other = if other = key then some v else fs.get? other := by
  by_cases h : other = key
  · subst h; simp
  · simp [h, get?_set_of_ne fs v h]

theorem get?_erase (fs : Fields) (key other : String) :
    (fs.erase key).get? other = if other = key then none else fs.get? other := by
  induction fs with
  | nil => simp [erase]
  | cons field fs ih =>
    obtain ⟨k, w⟩ := field
    simp only [erase] at ih
    by_cases hk : k = key
    · subst hk
      by_cases ho : other = k <;> simp_all [erase, get?_cons]
    · by_cases ho : other = k
      · subst ho; simp [erase, get?_cons, hk]
      · simp [erase, get?_cons, hk, ho, ih]

theorem keys_set (fs : Fields) (key : String) (v : Json) :
    (fs.set key v).keys = if key ∈ fs.keys then fs.keys else fs.keys ++ [key] := by
  induction fs with
  | nil => simp [set, keys]
  | cons field fs ih =>
    obtain ⟨k, w⟩ := field
    simp only [keys] at ih
    by_cases h : key = k
    · simp [set, keys, h]
    · by_cases hm : key ∈ fs.map (·.1)
      · simp_all [set, keys]
      · simp_all [set, keys]

theorem Unique.set {fs : Fields} (h : fs.Unique) (key : String) (v : Json) :
    (fs.set key v).Unique := by
  unfold Unique at h ⊢
  rw [keys_set]
  split
  · exact h
  · next hm =>
    refine List.nodup_append.2 ⟨h, by simp, ?_⟩
    intro a ha b hb
    simp only [List.mem_singleton] at hb
    subst hb
    rintro rfl
    exact hm ha

theorem Unique.erase {fs : Fields} (h : fs.Unique) (key : String) : (fs.erase key).Unique :=
  h.sublist (List.filter_sublist.map _)

end Fields

mutual
def Json.merge : Json → Json → Json
  | .arr below, .arr upper => .arr (below ++ upper)
  | .obj below, .obj upper => .obj (mergeFields below upper)
  | _, upper => upper
def mergeFields : Fields → List (String × Json) → Fields
  | below, [] => below
  | below, (key, v) :: upper =>
    mergeFields (below.set key (match below.get? key with
      | some w => w.merge v
      | none => v)) upper
end

def Fields.merge (below upper : Fields) : Fields :=
  mergeFields below upper

@[simp] theorem Fields.merge_nil (fs : Fields) : fs.merge [] = fs := by
  simp [Fields.merge, mergeFields]

end VegaAxes
