import VegaAxes.Proofs.Json.Paths

/-!
# Values placed at the end of a path

`Json.put` places a value and makes the objects that are missing on the way. It is what a path is
read by afterwards (`descend_put_self`), other paths are read as before (`descend_put_of_apart`),
and a change at the end of a path, or a value merged in where its objects end, is placed there.
-/

namespace VegaAxes.Json

variable {fs : Fields} {key : String} {keys path place : List String} {v w : Json}
  {x : Option Json}

def put : Json → List String → Json → Json
  | _, [], v => v
  | w, key :: keys, v =>
    obj (Fields.set w.ownFields key (put ((Fields.get? w.ownFields key).getD (obj [])) keys v))

theorem descend_put_self (w : Json) (path : List String) (v : Json) :
    (w.put path v).descend path = .ok (some v) := by
  induction path generalizing w with
  | nil => rfl
  | cons key keys ih =>
    rw [put, descend_set_self]
    exact ih _

theorem descend_put_of_apart (hp : apart path place = true)
    (h : w.descend place = .ok x) (v : Json) :
    (w.put place v).descend path = w.descend path := by
  induction path generalizing w place x with
  | nil => cases hp
  | cons key keys ih =>
    cases place with
    | nil => cases hp
    | cons other others =>
      obtain ⟨fs, rfl⟩ := descend_cons_object h
      by_cases hne : key = other
      · subst hne
        have hp' : apart keys others = true := by simpa [apart] using hp
        have hinner : ∃ x, ((Fields.get? fs key).getD (obj [])).descend others = .ok x := by
          rcases descend_cons_ok.mp h with ⟨u, hu, hux⟩ | ⟨hnone, -⟩
          · exact ⟨x, by rwa [hu]⟩
          · rw [hnone]
            cases others with
            | nil => exact ⟨_, rfl⟩
            | cons next others => exact ⟨none, rfl⟩
        obtain ⟨x, hinner⟩ := hinner
        rw [put, descend_set_self, ownFields, ih hp' hinner]
        cases hget : Fields.get? fs key with
        | some u =>
          rw [descend, field?, fields, Except.map, hget]
          rfl
        | none =>
          rw [descend_cons_ok.mpr (.inr ⟨hget, rfl⟩)]
          cases keys with
          | nil => cases hp'
          | cons next keys => rfl
      · rw [put]
        exact descend_set_of_ne hne keys

theorem put_nil_fields (path : List String) (v : Json) : (obj []).put path v = nested path v := by
  induction path with
  | nil => rfl
  | cons key keys ih => exact congrArg (fun u => obj [(key, u)]) ih

theorem put_obj : (obj fs).put (key :: keys) v =
    obj (fs.set key (((fs.get? key).getD (obj [])).put keys v)) :=
  rfl

/-- What is merged in where the fields below end is placed there. -/
theorem merge_nested_eq_put (h : w.descend path = .ok none) :
    w.merge (nested path v) = w.put path v := by
  induction path generalizing w with
  | nil => cases h
  | cons key keys ih =>
    obtain ⟨fs, rfl⟩ := descend_cons_object h
    rw [obj_merge_nested, put_obj]
    rcases descend_cons_ok.mp h with ⟨u, hu, hnone⟩ | ⟨hnone, -⟩
    · rw [hu, Option.elim_some, Option.getD_some, ih hnone]
    · rw [hnone, Option.elim_none, Option.getD_none, put_nil_fields]

theorem modifyPath_eq_put (h : (obj fs).descend (key :: keys) = .ok (some w)) :
    obj (fs.modifyPath (fun _ => v) (key :: keys)) = (obj fs).put (key :: keys) v := by
  induction keys generalizing fs key with
  | nil =>
    rcases descend_cons_ok.mp h with ⟨u, hu, -⟩ | ⟨-, hnone⟩
    · rw [Fields.modifyPath, hu]
      rfl
    · cases hnone
  | cons next keys ih =>
    rcases descend_cons_ok.mp h with ⟨u, hu, hux⟩ | ⟨-, hnone⟩
    · obtain ⟨inner, rfl⟩ := descend_cons_object hux
      rw [Fields.modifyPath, hu, put_obj, hu, Option.getD_some, ← ih hux]
      exact List.cons_ne_nil next keys
    · cases hnone

end VegaAxes.Json
