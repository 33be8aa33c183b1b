import VegaAxes.Json.Access

/-!
# Frozen values

A finished document is made of values that nobody changes any more: tuples in place of
arrays, mappings in place of objects. `thaw_freeze` and `freeze_thaw`: freezing loses
nothing and adds nothing, so a frozen value is equal to another one exactly if the
thawed ones are.
-/

namespace VegaAxes

inductive Frozen where
  | null
  | bool (b : Bool)
  | int (n : Int)
  | float (x : Float)
  | str (s : String)
  | tuple (items : List Frozen)
  | mapping (fields : List (String × Frozen))

abbrev FrozenFields := List (String × Frozen)

mutual
def Json.freeze : Json → Frozen
  | .null => .null
  | .bool b => .bool b
  | .int n => .int n
  | .float x => .float x
  | .str s => .str s
  | .arr items => .tuple (freezeItems items)
  | .obj fields => .mapping (freezeFields fields)
def freezeItems : List Json → List Frozen
  | [] => []
  | v :: vs => v.freeze :: freezeItems vs
def freezeFields : List (String × Json) → FrozenFields
  | [] => []
  | (key, v) :: fs => (key, v.freeze) :: freezeFields fs
end

mutual
def Frozen.thaw : Frozen → Json
  | .null => .null
  | .bool b => .bool b
  | .int n => .int n
  | .float x => .float x
  | .str s => .str s
  | .tuple items => .arr (thawItems items)
  | .mapping fields => .obj (thawFields fields)
def thawItems : List Frozen → List Json
  | [] => []
  | w :: ws => w.thaw :: thawItems ws
def thawFields : List (String × Frozen) → Fields
  | [] => []
  | (key, w) :: fs => (key, w.thaw) :: thawFields fs
end

mutual
@[simp] theorem thaw_freeze : ∀ v : Json, v.freeze.thaw = v
  | .null | .bool _ | .int _ | .float _ | .str _ => by simp [Json.freeze, Frozen.thaw]
  | .arr items => by simp [Json.freeze, Frozen.thaw, thawItems_freezeItems items]
  | .obj fields => by simp [Json.freeze, Frozen.thaw, thawFields_freezeFields fields]
theorem thawItems_freezeItems : ∀ vs : List Json, thawItems (freezeItems vs) = vs
  | [] => rfl
  | v :: vs => by simp [freezeItems, thawItems, thaw_freeze v, thawItems_freezeItems vs]
@[simp] theorem thawFields_freezeFields :
    ∀ fs : List (String × Json), thawFields (freezeFields fs) = fs
  | [] => rfl
  | (_, v) :: fs => by
    simp [freezeFields, thawFields, thaw_freeze v, thawFields_freezeFields fs]
end

mutual
@[simp] theorem freeze_thaw : ∀ w : Frozen, w.thaw.freeze = w
  | .null | .bool _ | .int _ | .float _ | .str _ => by simp [Json.freeze, Frozen.thaw]
  | .tuple items => by simp [Json.freeze, Frozen.thaw, freezeItems_thawItems items]
  | .mapping fields => by simp [Json.freeze, Frozen.thaw, freezeFields_thawFields fields]
theorem freezeItems_thawItems : ∀ ws : List Frozen, freezeItems (thawItems ws) = ws
  | [] => rfl
  | w :: ws => by simp [freezeItems, thawItems, freeze_thaw w, freezeItems_thawItems ws]
@[simp] theorem freezeFields_thawFields :
    ∀ fs : List (String × Frozen), freezeFields (thawFields fs) = fs
  | [] => rfl
  | (_, w) :: fs => by
    simp [freezeFields, thawFields, freeze_thaw w, freezeFields_thawFields fs]
end

namespace Frozen

variable {w w' : Frozen}

theorem thaw_inj : w.thaw = w'.thaw ↔ w = w' :=
  ⟨fun h => by rw [← freeze_thaw w, h, freeze_thaw], congrArg thaw⟩

instance : DecidableEq Frozen := fun _ _ => decidable_of_iff _ thaw_inj

def length : Frozen → Except Error Nat
  | tuple items => .ok items.length
  | mapping fs => .ok fs.length
  | str s => .ok (Text.letters s).length
  | _ => .error (.unfit .length)

end Frozen

@[simp] theorem length_freezeItems (vs : List Json) : (freezeItems vs).length = vs.length := by
  induction vs with
  | nil => rfl
  | cons v vs ih => simp [freezeItems, ih]

@[simp] theorem length_freezeFields (fs : List (String × Json)) :
    (freezeFields fs).length = fs.length := by
  induction fs with
  | nil => rfl
  | cons field fs ih => simp [freezeFields, ih]

@[simp] theorem length_freeze (v : Json) : v.freeze.length = v.length := by
  cases v <;> simp [Json.freeze, Frozen.length, Json.length]

theorem length_thaw (w : Frozen) : w.thaw.length = w.length := by
  rw [← length_freeze, freeze_thaw]

end VegaAxes
