import VegaAxes.Json.Access
import VegaAxes.Proofs.Attempt
import VegaAxes.Proofs.Json.Fields

/-!
# Laws of paths

What a path leads to after its object has a field set, is merged with another
object, or is changed at the end of a path. Paths on which objects end are those
with the answer `.ok none`. A value may be `nested` at the end of a path to be merged in there.
-/

namespace VegaAxes

variable {fs below upper : Fields} {key other : String} {keys path : List String} {v w : Json}
  {x : Option Json}

theorem Fields.get?_merge (hu : upper.Unique) :
    (below.merge upper).get? key = match upper.get? key with
      | some v => some (match below.get? key with
        | some w => w.merge v
        | none => v)
      | none => below.get? key := by
  induction upper generalizing below with
  | nil => simp
  | cons field upper ih =>
    obtain ⟨k, v⟩ := field
    have hu' := List.nodup_cons.mp hu
    rw [merge, mergeFields, ← merge, ih hu'.2, get?_cons]
    by_cases h : key = k
    · subst h
      rw [get?_eq_none_iff.mpr hu'.1]
      cases get? below key <;> simp
    · simp only [h, beq_iff_eq, if_false, get?_set_of_ne _ _ h]

namespace Json

theorem descend_cons_ok :
    (obj fs).descend (key :: keys) = .ok x ↔
      (∃ v, fs.get? key = some v ∧ v.descend keys = .ok x) ∨ fs.get? key = none ∧ x = none := by
  simp only [descend, field?, fields, Except.map, bind_ok, Except.ok.injEq, exists_eq_left']
  cases fs.get? key with
  | some v => simp
  | none => simp [pure_ok.trans eq_comm]

theorem descend_cons_object (h : v.descend (key :: keys) = .ok x) : ∃ fs, v = .obj fs := by
  cases v with
  | obj fs => exact ⟨fs, rfl⟩
  | _ => cases h

theorem descend_ok_none (h : v.descend path = .ok none) : ∃ fs, v = .obj fs := by
  cases path with
  | nil => cases h
  | cons key keys => exact descend_cons_object h

theorem descend_cons_error {e : Error} :
    (obj fs).descend (key :: keys) = .error e ↔
      ∃ v, fs.get? key = some v ∧ v.descend keys = .error e := by
  simp only [descend, field?, fields, Except.map, bind_error, reduceCtorEq, false_or,
    Except.ok.injEq, exists_eq_left']
  cases fs.get? key with
  | some v => simp
  | none => simp [pure, Except.pure]

theorem descend_cons_nonobject (hv : ∀ fs, v ≠ obj fs) :
    v.descend (key :: keys) = .error (.unfit .field) := by
  cases v with
  | obj fs => exact absurd rfl (hv fs)
  | _ => rfl

/-- A path cannot be followed exactly if it goes on from a value that is no object. -/
theorem descend_error {e : Error} :
    v.descend path = .error e ↔ e = .unfit .field ∧ ∃ before key after w,
      path = before ++ key :: after ∧ v.descend before = .ok (some w) ∧ ∀ fs, w ≠ obj fs := by
  induction path generalizing v with
  | nil => simp [descend]
  | cons key keys ih =>
    by_cases hv : ∃ fs, v = obj fs
    · obtain ⟨fs, rfl⟩ := hv
      rw [descend_cons_error]
      constructor
      · rintro ⟨v, hv, h⟩
        obtain ⟨rfl, before, next, after, w, rfl, hw, hne⟩ := ih.mp h
        exact ⟨rfl, key :: before, next, after, w, rfl, descend_cons_ok.mpr (.inl ⟨v, hv, hw⟩), hne⟩
      · rintro ⟨rfl, before, next, after, w, hpath, hw, hne⟩
        cases before with
        | nil =>
          cases hw
          exact absurd rfl (hne fs)
        | cons first before =>
          obtain ⟨rfl, rfl⟩ := List.cons.inj hpath
          rcases descend_cons_ok.mp hw with ⟨v, hv, hw⟩ | ⟨-, heq⟩
          · exact ⟨v, hv, ih.mpr ⟨rfl, before, next, after, w, rfl, hw, hne⟩⟩
          · cases heq
    · have hne : ∀ fs, v ≠ obj fs := fun fs heq => hv ⟨fs, heq⟩
      rw [descend_cons_nonobject hne]
      constructor
      · rintro ⟨⟩
        exact ⟨rfl, [], key, keys, v, rfl, rfl, hne⟩
      · rintro ⟨rfl, -⟩
        rfl

theorem descend_congr {gs : Fields} (h : gs.get? key = fs.get? key) (keys : List String) :
    (obj gs).descend (key :: keys) = (obj fs).descend (key :: keys) := by
  simp only [descend, field?, fields, Except.map, h]

theorem descend_set_of_ne (h : other ≠ key) (keys : List String) :
    (obj (fs.set key v)).descend (other :: keys) = (obj fs).descend (other :: keys) :=
  descend_congr (Fields.get?_set_of_ne fs v h) keys

theorem descend_set_self : (obj (fs.set key v)).descend (key :: keys) = v.descend keys := by
  simp only [descend, field?, fields, Except.map, Fields.get?_set_self]
  rfl

-- ---------------------------------------------------------------------------
-- Merging
-- ---------------------------------------------------------------------------

def UniqueAlong : List String → Json → Prop
  | key :: keys, obj fs => Fields.Unique fs ∧ ∀ v, Fields.get? fs key = some v → UniqueAlong keys v
  | _, _ => True

theorem descend_merge_of_upper (hu : UniqueAlong path (.obj upper))
    (hupper : (obj upper).descend path = .ok none) (h : (obj below).descend path = .ok x) :
    (obj (below.merge upper)).descend path = .ok x := by
  induction path generalizing below upper with
  | nil => cases hupper
  | cons key keys ih =>
    obtain ⟨hunique, hu⟩ := hu
    rw [descend_cons_ok, Fields.get?_merge hunique]
    rcases descend_cons_ok.mp hupper with ⟨v, hv, hvnone⟩ | ⟨hv, -⟩
    · rw [hv]
      rcases descend_cons_ok.mp h with ⟨w, hw, hwx⟩ | ⟨hw, rfl⟩
      · rw [hw]
        refine .inl ⟨_, rfl, ?_⟩
        obtain ⟨gs, rfl⟩ := descend_ok_none hvnone
        cases keys with
        | nil => cases hvnone
        | cons key' keys =>
          obtain ⟨hs, rfl⟩ := descend_cons_object hwx
          exact ih (hu _ hv) hvnone hwx
      · rw [hw]
        exact .inl ⟨v, rfl, hvnone⟩
    · rw [hv]
      exact descend_cons_ok.mp h

theorem descend_merge_of_below (hu : UniqueAlong path (.obj upper))
    (hbelow : (obj below).descend path = .ok none) (h : (obj upper).descend path = .ok x) :
    (obj (below.merge upper)).descend path = .ok x := by
  induction path generalizing below upper with
  | nil => cases hbelow
  | cons key keys ih =>
    obtain ⟨hunique, hu⟩ := hu
    rw [descend_cons_ok, Fields.get?_merge hunique]
    rcases descend_cons_ok.mp h with ⟨v, hv, hvx⟩ | ⟨hv, rfl⟩
    · rw [hv]
      refine .inl ⟨_, rfl, ?_⟩
      rcases descend_cons_ok.mp hbelow with ⟨w, hw, hwnone⟩ | ⟨hw, -⟩
      · rw [hw]
        obtain ⟨gs, rfl⟩ := descend_ok_none hwnone
        cases keys with
        | nil => cases hwnone
        | cons key' keys =>
          obtain ⟨hs, rfl⟩ := descend_cons_object hvx
          exact ih (hu _ hv) hwnone hvx
      · rw [hw]
        exact hvx
    · rw [hv]
      exact descend_cons_ok.mp hbelow

-- ---------------------------------------------------------------------------
-- Changes at the end of a path
-- ---------------------------------------------------------------------------

/-- Whether the two paths part before either of them ends. -/
def apart : List String → List String → Bool
  | key :: keys, other :: others => key ≠ other || apart keys others
  | _, _ => false

theorem get?_modifyPath {f : Json → Json} (h : other ≠ key) (keys : List String) :
    Fields.get? (fs.modifyPath f (key :: keys)) other = fs.get? other := by
  cases keys with
  | nil =>
    rw [Fields.modifyPath]
    split
    · exact Fields.get?_set_of_ne _ _ h
    · rfl
  | cons next keys =>
    rw [Fields.modifyPath]
    · split
      · exact Fields.get?_set_of_ne _ _ h
      · rfl
    · exact List.cons_ne_nil next keys

theorem descend_modifyPath_of_apart {f : Json → Json} {place : List String}
    (hp : apart path place = true) :
    (obj (fs.modifyPath f place)).descend path = (obj fs).descend path := by
  induction path generalizing fs place with
  | nil => cases hp
  | cons key keys ih =>
    rcases place with _ | ⟨other, _ | ⟨next, others⟩⟩
    · cases hp
    · have hne : key ≠ other := by
        cases keys <;> simpa [apart] using hp
      rw [Fields.modifyPath]
      split
      · exact descend_set_of_ne hne keys
      · rfl
    · rw [Fields.modifyPath]
      · split
        · next inner hinner =>
          by_cases hne : key = other
          · subst hne
            have hp' : apart keys (next :: others) = true := by simpa [apart] using hp
            rw [descend_set_self, ih hp', descend, field?, fields, Except.map, hinner]
            rfl
          · exact descend_set_of_ne hne keys
        · rfl
      · exact List.cons_ne_nil next others

theorem descend_modifyPath_self {f : Json → Json}
    (h : (obj fs).descend (key :: keys) = .ok (some v)) :
    (obj (fs.modifyPath f (key :: keys))).descend (key :: keys) = .ok (some (f v)) := by
  induction keys generalizing fs key with
  | nil =>
    rcases descend_cons_ok.mp h with ⟨w, hw, hwv⟩ | ⟨-, hnone⟩
    · cases hwv
      rw [Fields.modifyPath, hw]
      exact descend_set_self
    · cases hnone
  | cons next keys ih =>
    rcases descend_cons_ok.mp h with ⟨w, hw, hwv⟩ | ⟨-, hnone⟩
    · obtain ⟨inner, rfl⟩ := descend_cons_object hwv
      rw [Fields.modifyPath, hw]
      · rw [descend_set_self]
        exact ih hwv
      · exact fun h => nomatch h
    · cases hnone

-- ---------------------------------------------------------------------------
-- Values at the end of a path
-- ---------------------------------------------------------------------------

def nested : List String → Json → Json
  | [], v => v
  | key :: keys, v => obj [(key, nested keys v)]

theorem descend_nested (path : List String) (v : Json) :
    (nested path v).descend path = .ok (some v) := by
  induction path with
  | nil => rfl
  | cons key keys ih => exact descend_cons_ok.mpr (.inl ⟨_, by simp [Fields.get?_cons], ih⟩)

theorem obj_merge_nested :
    (obj fs).merge (nested (key :: keys) v) =
      obj (fs.set key ((fs.get? key).elim (nested keys v) (·.merge (nested keys v)))) := by
  rw [nested, merge, mergeFields, mergeFields]
  cases fs.get? key <;> rfl

theorem merge_nested_of_not_obj (hw : ∀ fs, w ≠ obj fs) :
    w.merge (nested (key :: keys) v) = nested (key :: keys) v := by
  rw [nested, merge]
  · simp
  · exact fun fs _ h _ => hw fs h

theorem nested_merge_nested (path : List String) (xs ys : List Json) :
    (nested path (arr xs)).merge (nested path (arr ys)) = nested path (arr (xs ++ ys)) := by
  induction path with
  | nil => rw [nested, nested, nested, merge]
  | cons key keys ih =>
    rw [nested, obj_merge_nested, Fields.get?_cons]
    simp [nested, ih, Fields.set]

/-- Lists that are merged in at the same path one after the other are merged in together. -/
theorem merge_merge_nested (path : List String) (w : Json) (xs ys : List Json) :
    (w.merge (nested path (arr xs))).merge (nested path (arr ys)) =
      w.merge (nested path (arr (xs ++ ys))) := by
  induction path generalizing w with
  | nil =>
    simp only [nested]
    cases w <;> simp [merge]
  | cons key keys ih =>
    by_cases hw : ∃ fs, w = obj fs
    · obtain ⟨fs, rfl⟩ := hw
      rw [obj_merge_nested, obj_merge_nested, obj_merge_nested, Fields.get?_set_self,
        Fields.set_set]
      cases Fields.get? fs key with
      | none => exact congrArg (fun v => obj (Fields.set fs key v)) (nested_merge_nested keys xs ys)
      | some u => exact congrArg (fun v => obj (Fields.set fs key v)) (ih u)
    · have hw : ∀ fs, w ≠ obj fs := fun fs h => hw ⟨fs, h⟩
      rw [merge_nested_of_not_obj hw, merge_nested_of_not_obj hw]
      exact nested_merge_nested (key :: keys) xs ys

theorem descend_merge_nested (h : w.descend path = .ok none) :
    (w.merge (nested path v)).descend path = .ok (some v) := by
  induction path generalizing w with
  | nil => cases h
  | cons key keys ih =>
    obtain ⟨fs, rfl⟩ := descend_cons_object h
    rw [obj_merge_nested, descend_set_self]
    rcases descend_cons_ok.mp h with ⟨u, hu, hnone⟩ | ⟨hnone, -⟩
    · rw [hu]
      exact ih hnone
    · rw [hnone]
      exact descend_nested keys v

theorem descend_nested_of_apart {place : List String} (hp : apart path place = true) :
    (nested place v).descend path = .ok none := by
  induction path generalizing place with
  | nil => cases hp
  | cons key keys ih =>
    cases place with
    | nil => cases hp
    | cons other others =>
      rw [nested, descend_cons_ok, Fields.get?_cons]
      by_cases hne : key = other
      · subst hne
        exact .inl ⟨nested others v, by simp, ih (by simpa [apart] using hp)⟩
      · exact .inr ⟨by simp [hne], rfl⟩

theorem descend_merge_nested_of_apart {place : List String} (hp : apart path place = true)
    (h : w.descend place = .ok none) :
    (w.merge (nested place v)).descend path = w.descend path := by
  induction path generalizing w place with
  | nil => cases hp
  | cons key keys ih =>
    cases place with
    | nil => cases hp
    | cons other others =>
      obtain ⟨fs, rfl⟩ := descend_cons_object h
      rw [obj_merge_nested]
      by_cases hne : key = other
      · subst hne
        have hp' : apart keys others = true := by simpa [apart] using hp
        rw [descend_set_self]
        rcases descend_cons_ok.mp h with ⟨u, hu, hnone⟩ | ⟨hnone, -⟩
        · rw [hu, Option.elim_some, ih hp' hnone, descend, field?, fields, Except.map, hu]
          rfl
        · rw [hnone, Option.elim_none, descend_nested_of_apart hp']
          exact (descend_cons_ok.mpr (.inr ⟨hnone, rfl⟩)).symm
      · exact descend_set_of_ne hne keys

end Json

end VegaAxes
