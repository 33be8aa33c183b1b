import VegaAxes.Encoding
import VegaAxes.Proofs.Json.Merging

/-!
# The algebra of merging

Merging one object over another gives an object with the keys of both. What it has under a key,
here and on every path through objects of both, is `Merged` of what the two have there. The empty
object changes nothing on either side, and where neighbours are `Compatible` it does not matter
which two of three are merged first (`merge_assoc`). `mergeOver_algebra` says all of it.
-/

namespace VegaAxes

namespace Fields

variable {fs gs hs : Fields} {key : String}

/-- The keys that are new go after those that are there, in their own order. -/
theorem keys_merge (fs : Fields) (hu : gs.Unique) :
    (fs.merge gs).keys = fs.keys ++ gs.keys.filter (· ∉ fs.keys) := by
  induction gs generalizing fs with
  | nil => simp [keys]
  | cons field gs ih =>
    obtain ⟨k, v⟩ := field
    obtain ⟨hk, hu⟩ : k ∉ keys gs ∧ Unique gs := List.nodup_cons.mp hu
    have hkeys : keys ((k, v) :: gs) = k :: keys gs := rfl
    rw [merge, mergeFields, ← merge, ih _ hu, keys_set, hkeys]
    by_cases hmem : k ∈ fs.keys
    · rw [if_pos hmem, List.filter_cons_of_neg (by simpa using hmem)]
    · have hrest : (keys gs).filter (· ∉ fs.keys ++ [k]) = (keys gs).filter (· ∉ fs.keys) := by
        refine List.filter_congr fun other hother => ?_
        have hne : other ≠ k := fun heq => hk (heq ▸ hother)
        simp [hne]
      rw [if_neg hmem, hrest, List.filter_cons_of_pos (by simpa using hmem), List.append_assoc,
        List.singleton_append]

theorem mem_keys_merge (hu : gs.Unique) :
    key ∈ (fs.merge gs).keys ↔ key ∈ fs.keys ∨ key ∈ gs.keys := by
  rw [keys_merge fs hu, List.mem_append, List.mem_filter, decide_eq_true_eq]
  by_cases h : key ∈ fs.keys <;> simp [h]

theorem Unique.merge (h : fs.Unique) (gs : Fields) : (fs.merge gs).Unique := by
  induction gs generalizing fs with
  | nil => rwa [merge_nil]
  | cons field gs ih =>
    rw [Fields.merge, mergeFields, ← Fields.merge]
    exact ih (h.set _ _)

theorem keys_merge_assoc (fs : Fields) (hgs : gs.Unique) (hhs : hs.Unique) :
    ((fs.merge gs).merge hs).keys = (fs.merge (gs.merge hs)).keys := by
  rw [keys_merge _ hhs, keys_merge _ hgs, keys_merge _ (hgs.merge hs), keys_merge _ hhs]
  simp only [List.filter_append, List.filter_filter, List.append_assoc]
  refine congrArg (fun new => fs.keys ++ (gs.keys.filter (· ∉ fs.keys) ++ new))
    (List.filter_congr fun key _ => ?_)
  by_cases hkey : key ∈ fs.keys <;> simp [hkey]

theorem eq_of_get? (hu : fs.Unique) (hkeys : fs.keys = gs.keys)
    (h : ∀ key, fs.get? key = gs.get? key) : fs = gs := by
  induction fs generalizing gs with
  | nil => exact (List.map_eq_nil_iff.mp hkeys.symm).symm
  | cons field fs ih =>
    obtain ⟨k, v⟩ := field
    cases gs with
    | nil => cases hkeys
    | cons other gs =>
      obtain ⟨l, w⟩ := other
      obtain ⟨rfl, htail⟩ : k = l ∧ keys fs = keys gs := List.cons.inj hkeys
      obtain ⟨hk, hu⟩ : k ∉ keys fs ∧ Unique fs := List.nodup_cons.mp hu
      have hhead := h k
      rw [get?_cons, get?_cons, if_pos (beq_self_eq_true k), if_pos (beq_self_eq_true k)] at hhead
      obtain rfl := Option.some.inj hhead
      rw [ih hu htail fun key => ?_]
      by_cases hkey : key = k
      · subst hkey
        rw [get?_eq_none_iff.mpr hk, get?_eq_none_iff.mpr (htail ▸ hk)]
      · simpa [get?_cons, hkey] using h key

end Fields

namespace Json

variable {fs gs : Fields} {path : List String} {u v w below upper : Json}

inductive Kind where
  | scalar
  | array
  | object
deriving DecidableEq

def kind : Json → Kind
  | arr _ => .array
  | obj _ => .object
  | _ => .scalar

theorem unique_scalar (h : v.kind = .scalar) : v.Unique := by
  intro path
  cases v with
  | arr items => cases h
  | obj fs => cases h
  | _ => cases path <;> trivial

-- ---------------------------------------------------------------------------
-- What is found after a merge
-- ---------------------------------------------------------------------------

/-- What two objects have under a key, and what is under it once the one is merged over
the other. -/
structure Merged (below upper merged : Option Json) : Prop where
  below_only : upper = none → merged = below
  upper_only : below = none → merged = upper
  replaced : ∀ w v, below = some w → upper = some v → w.kind ≠ v.kind ∨ v.kind = .scalar →
    merged = some v
  joined : ∀ xs ys, below = some (arr xs) → upper = some (arr ys) → merged = some (arr (xs ++ ys))
  nested : ∀ fs gs : Fields, below = some (obj fs) → upper = some (obj gs) →
    merged = some (obj (fs.merge gs))

theorem merge_replaced (h : w.kind ≠ v.kind ∨ v.kind = .scalar) : w.merge v = v := by
  rw [merge]
  · rintro xs ys rfl rfl
    simp [kind] at h
  · rintro fs gs rfl rfl
    simp [kind] at h

theorem merge_cases (w v : Json) : w.merge v = v ∨ (∃ xs ys, w = arr xs ∧ v = arr ys) ∨
    ∃ fs gs, w = obj fs ∧ v = obj gs := by
  by_cases h : w.kind ≠ v.kind ∨ v.kind = .scalar
  · exact .inl (merge_replaced h)
  · cases w <;> cases v <;> simp_all [kind]

theorem merged_get? (fs : Fields) (hu : gs.Unique) (key : String) :
    Merged (fs.get? key) (gs.get? key) ((fs.merge gs).get? key) := by
  rw [Fields.get?_merge hu]
  constructor
  · intro hupper
    rw [hupper]
  · intro hbelow
    rw [hbelow]
    cases gs.get? key <;> rfl
  · intro w v hbelow hupper h
    rw [hbelow, hupper]
    exact congrArg some (merge_replaced h)
  · intro xs ys hbelow hupper
    rw [hbelow, hupper]
    rfl
  · intro fs gs hbelow hupper
    rw [hbelow, hupper]
    rfl

theorem Unique.descend (h : v.Unique) (hw : v.descend path = .ok (some w)) : w.Unique := by
  induction path generalizing v with
  | nil =>
    cases hw
    exact h
  | cons key keys ih =>
    obtain ⟨fs, rfl⟩ := descend_cons_object hw
    rcases descend_cons_ok.mp hw with ⟨u, hu, hw⟩ | ⟨-, hnone⟩
    · exact ih (h.field hu) hw
    · cases hnone

/-- Where both values can be read, the merged one has there the one merged over the other. -/
theorem descend_merge_of_both (hu : upper.Unique) (hbelow : below.descend path = .ok (some w))
    (hupper : upper.descend path = .ok (some v)) :
    (below.merge upper).descend path = .ok (some (w.merge v)) := by
  induction path generalizing below upper with
  | nil =>
    cases hbelow
    cases hupper
    rfl
  | cons key keys ih =>
    obtain ⟨fs, rfl⟩ := descend_cons_object hbelow
    obtain ⟨gs, rfl⟩ := descend_cons_object hupper
    rw [descend_merge_cons hu.fields]
    rcases descend_cons_ok.mp hbelow with ⟨w', hw, hbelow⟩ | ⟨-, hnone⟩
    · rcases descend_cons_ok.mp hupper with ⟨v', hv, hupper⟩ | ⟨-, hnone⟩
      · rw [hv, hw]
        exact ih (hu.field hv) hbelow hupper
      · cases hnone
    · cases hnone

/-- Objects are always merged. -/
theorem mergeOver_obj (fs gs : Fields) : (obj fs).mergeOver (obj gs) = .ok (obj (fs.merge gs)) := by
  cases gs with
  | nil =>
    rw [Fields.merge_nil]
    rfl
  | cons field gs => rfl

theorem Unique.merge (hw : w.Unique) (hv : v.Unique) : (w.merge v).Unique := by
  intro path
  induction path generalizing v w with
  | nil => trivial
  | cons key keys ih =>
    rcases merge_cases w v with h | ⟨xs, ys, rfl, rfl⟩ | ⟨fs, gs, rfl, rfl⟩
    · rw [h]
      exact hv (key :: keys)
    · exact unique_arr (xs ++ ys) (key :: keys)
    · rw [merge_obj]
      refine ⟨hw.fields.merge gs, fun u hu => ?_⟩
      rw [Fields.get?_merge hv.fields] at hu
      cases hupper : Fields.get? gs key with
      | none =>
        rw [hupper] at hu
        exact hw.field hu keys
      | some v =>
        rw [hupper] at hu
        cases hbelow : Fields.get? fs key with
        | none =>
          rw [hbelow] at hu
          cases hu
          exact hv.field hupper keys
        | some w =>
          rw [hbelow] at hu
          cases hu
          exact ih (hw.field hbelow) (hv.field hupper)

-- ---------------------------------------------------------------------------
-- Three values
-- ---------------------------------------------------------------------------

/-- The values are both scalars, both arrays, or both objects that have compatible values under
every key that they share. -/
inductive Compatible : Json → Json → Prop
  | scalars {v w : Json} (hv : v.kind = .scalar) (hw : w.kind = .scalar) : Compatible v w
  | arrays (xs ys : List Json) : Compatible (arr xs) (arr ys)
  | objects {fs gs : Fields} (h : ∀ key v w, fs.get? key = some v → gs.get? key = some w →
      Compatible v w) : Compatible (obj fs) (obj gs)

theorem compatible_obj (h : ∀ field ∈ gs, ∀ v, fs.get? field.1 = some v → Compatible v field.2) :
    Compatible (obj fs) (obj gs) :=
  .objects fun _ v _ hv hw => h _ (Fields.mem_of_get? hw) v hv

theorem Compatible.kind_eq (h : Compatible v w) : v.kind = w.kind := by
  cases h with
  | scalars hv hw => rw [hv, hw]
  | arrays xs ys => rfl
  | objects h => rfl

/-- Of three values in a row, each compatible with the next one, it does not matter which two are
merged first: whatever all three have under a key is of one kind. -/
theorem merge_assoc (hu : u.Unique) (hv : v.Unique) (hw : w.Unique) (huv : Compatible u v)
    (hvw : Compatible v w) : (u.merge v).merge w = u.merge (v.merge w) := by
  induction huv generalizing w with
  | scalars hu' hv' =>
    have hw' : w.kind = .scalar := hvw.kind_eq.symm.trans hv'
    rw [merge_replaced (.inr hw'), merge_replaced (.inr hw'), merge_replaced (.inr hw')]
  | arrays xs ys =>
    cases hvw with
    | scalars hv' hw' => cases hv'
    | arrays ys zs => simp only [merge, List.append_assoc]
  | @objects fs gs huv ih =>
    cases hvw with
    | scalars hv' hw' => cases hv'
    | @objects gs hs hvw =>
      rw [merge_obj, merge_obj, merge_obj, merge_obj]
      refine congrArg obj (Fields.eq_of_get? ((hu.fields.merge gs).merge hs) ?_ fun key => ?_)
      · exact Fields.keys_merge_assoc fs hv.fields hw.fields
      · rw [Fields.get?_merge hw.fields, Fields.get?_merge hv.fields,
          Fields.get?_merge (hv.fields.merge hs), Fields.get?_merge hw.fields]
        cases hx : fs.get? key with
        | none => cases gs.get? key <;> cases hs.get? key <;> rfl
        | some x =>
          cases hy : Fields.get? gs key with
          | none => cases hs.get? key <;> rfl
          | some y =>
            cases hz : Fields.get? hs key with
            | none => rfl
            | some z =>
              exact congrArg some (ih key x y hx hy (hu.field hx) (hv.field hy) (hw.field hz)
                (hvw key y z hy hz))

/-- Where kinds differ it matters: a scalar that takes the place of an array is not there any more
for the array over it to take. -/
example : ((arr [int 1]).merge (int 0)).merge (arr [int 2]) ≠
    (arr [int 1]).merge ((int 0).merge (arr [int 2])) := by decide +kernel

/-- Objects merge into an object that has the keys of both, and on every path through objects of
both what it has under a key is given by what the two have there. The empty object is neutral, and
where neighbours are compatible merging is associative. -/
theorem mergeOver_algebra {a b c : Fields} (ha : (obj a).Unique) (hb : (obj b).Unique)
    (hc : (obj c).Unique) :
    (obj a).mergeOver (obj []) = .ok (obj a) ∧ (obj []).mergeOver (obj b) = .ok (obj b) ∧
      (∃ m : Fields, (obj a).mergeOver (obj b) = .ok (obj m) ∧ (obj m).Unique ∧
        (∀ key, key ∈ m.keys ↔ key ∈ a.keys ∨ key ∈ b.keys) ∧
        ∀ path fs gs, (obj a).descend path = .ok (some (obj fs)) →
          (obj b).descend path = .ok (some (obj gs)) →
          ∃ hs, (obj m).descend path = .ok (some (obj hs)) ∧
            ∀ key, Merged (Fields.get? fs key) (Fields.get? gs key) (Fields.get? hs key)) ∧
      (Compatible (obj a) (obj b) → Compatible (obj b) (obj c) →
        ∃ ab bc abc, (obj a).mergeOver (obj b) = .ok ab ∧ (obj b).mergeOver (obj c) = .ok bc ∧
          ab.mergeOver (obj c) = .ok abc ∧ (obj a).mergeOver bc = .ok abc) := by
  refine ⟨?_, ?_, ⟨a.merge b, mergeOver_obj a b, ?_, fun key => Fields.mem_keys_merge hb.fields,
    fun path fs gs hfs hgs => ?_⟩, fun hab hbc => ?_⟩
  · rw [mergeOver_obj, Fields.merge_nil]
  · rw [mergeOver_obj, Fields.nil_merge hb.fields]
  · exact merge_obj a b ▸ ha.merge hb
  · have hread := descend_merge_of_both hb hfs hgs
    rw [merge_obj, merge_obj] at hread
    exact ⟨Fields.merge fs gs, hread, merged_get? fs (hb.descend hgs).fields⟩
  · have hassoc := merge_assoc ha hb hc hab hbc
    simp only [merge_obj] at hassoc
    exact ⟨_, _, _, mergeOver_obj a b, mergeOver_obj b c, mergeOver_obj _ c,
      (mergeOver_obj a _).trans (congrArg Except.ok hassoc.symm)⟩

def shift (offset : Int) (property : String) (v : Json) : Fields :=
  [("labels", obj [("update", obj [("dy", arr [Encoding.number offset]), (property, v)])])]

theorem shift_unique (offset : Int) {property : String} (hproperty : property ≠ "dy")
    (hv : v.Unique) :
    (obj (shift offset property v)).Unique := by
  refine unique_obj (by simp [shift, Fields.Unique, Fields.keys]) ?_
  rw [shift, List.forall_mem_singleton]
  refine unique_obj (by simp [Fields.Unique, Fields.keys]) ?_
  rw [List.forall_mem_singleton]
  refine unique_obj (by simpa [Fields.Unique, Fields.keys] using hproperty.symm) ?_
  rw [List.forall_mem_cons, List.forall_mem_singleton]
  exact ⟨unique_arr _, hv⟩

theorem shift_compatible (m n : Int) {property other : String} (hproperty : property ≠ "dy")
    (hother : other ≠ "dy") (h : property = other → Compatible v w) :
    Compatible (obj (shift m property v)) (obj (shift n other w)) := by
  refine compatible_obj ?_
  rw [shift, shift, List.forall_mem_singleton]
  rintro _ ⟨⟩
  refine compatible_obj ?_
  rw [List.forall_mem_singleton]
  rintro _ ⟨⟩
  refine compatible_obj ?_
  rw [List.forall_mem_cons, List.forall_mem_singleton]
  refine ⟨?_, fun u hu => ?_⟩
  · rintro _ ⟨⟩
    exact .arrays _ _
  · by_cases heq : other = property
    · subst heq
      obtain rfl : v = u := by simpa [Fields.get?_cons, hother] using hu
      exact h rfl
    · simp [Fields.get?_cons, hother, heq] at hu

/-- Offsets accumulate whichever two of three encodings are merged first; a property is replaced. -/
theorem shifts_merge :
    (obj (shift 0 "align" (str "left"))).Unique ∧ (obj (shift 1 "align" (str "right"))).Unique ∧
      (obj (shift 2 "limit" (int 9))).Unique ∧
      Compatible (obj (shift 0 "align" (str "left"))) (obj (shift 1 "align" (str "right"))) ∧
      Compatible (obj (shift 1 "align" (str "right"))) (obj (shift 2 "limit" (int 9))) ∧
      (∃ m hs : Fields,
        (obj (shift 0 "align" (str "left"))).mergeOver (obj (shift 1 "align" (str "right"))) =
          .ok (obj m) ∧
        (obj m).descend ["labels", "update"] = .ok (some (obj hs)) ∧
        hs.get? "dy" = some (arr [Encoding.number 0, Encoding.number 1]) ∧
        hs.get? "align" = some (str "right")) ∧
      ∃ ab bc abc,
        (obj (shift 0 "align" (str "left"))).mergeOver (obj (shift 1 "align" (str "right"))) =
          .ok ab ∧
        (obj (shift 1 "align" (str "right"))).mergeOver (obj (shift 2 "limit" (int 9))) = .ok bc ∧
        ab.mergeOver (obj (shift 2 "limit" (int 9))) = .ok abc ∧
        (obj (shift 0 "align" (str "left"))).mergeOver bc = .ok abc := by
  have ha : (obj (shift 0 "align" (str "left"))).Unique :=
    shift_unique 0 (by decide) (unique_scalar rfl)
  have hb : (obj (shift 1 "align" (str "right"))).Unique :=
    shift_unique 1 (by decide) (unique_scalar rfl)
  have hc : (obj (shift 2 "limit" (int 9))).Unique := shift_unique 2 (by decide) (unique_scalar rfl)
  have hab :
      Compatible (obj (shift 0 "align" (str "left"))) (obj (shift 1 "align" (str "right"))) :=
    shift_compatible 0 1 (by decide) (by decide) fun _ => .scalars rfl rfl
  have hbc : Compatible (obj (shift 1 "align" (str "right"))) (obj (shift 2 "limit" (int 9))) :=
    shift_compatible 1 2 (by decide) (by decide) fun _ => .scalars rfl rfl
  obtain ⟨-, -, ⟨m, hm, -, -, hread⟩, hassoc⟩ := mergeOver_algebra ha hb hc
  obtain ⟨hs, hhs, hmerged⟩ := hread ["labels", "update"] _ _ rfl rfl
  exact ⟨ha, hb, hc, hab, hbc, ⟨m, hs, hm, hhs, (hmerged "dy").joined _ _ rfl rfl,
    (hmerged "align").replaced _ _ rfl rfl (.inr rfl)⟩, hassoc hab hbc⟩

end Json

end VegaAxes
