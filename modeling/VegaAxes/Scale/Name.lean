import VegaAxes.Json.Access

/-!
# Scale names

Unchecked documents name scales by values of any kind. A text mentions the words
that are pieces of it, a list and an object those that are its items or keys; in
other values no word can be looked for.
-/

namespace VegaAxes

structure ScaleName where
  value : Json
deriving DecidableEq

namespace ScaleName

def spliced (n : ScaleName) : String :=
  n.value.spliced

def isSearchable (n : ScaleName) : Bool :=
  match n.value with
  | .str _ | .arr _ | .obj _ => true
  | _ => false

def mentions (n : ScaleName) (word : String) : Bool :=
  match n.value with
  | .str s => Text.contains s word
  | .arr vs => vs.any fun v => decide (v = .str word)
  | .obj fs => Fields.has fs word
  | _ => false

def checkSearchable (n : ScaleName) : Except Error Unit :=
  if n.isSearchable then .ok () else .error (.unfit .membership)

@[simp] theorem spliced_text (s : String) : spliced ⟨.str s⟩ = s := rfl

end ScaleName

end VegaAxes
