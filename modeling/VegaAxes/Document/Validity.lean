import VegaAxes.Encoding
import VegaAxes.Json.Access

/-!
# Validity of documents

Only the shape of a document is checked: its five lists, the names in three of
them, and the axes and marks at every depth of nested groups. Whether it can be
drawn is not.
-/

namespace VegaAxes.Document

def ensure (condition : Bool) (defect : Defect) : Except Error Unit :=
  if condition then .ok () else .error (.malformed defect)

def orients : List String :=
  ["top", "bottom", "left", "right"]

def isObject : Json → Bool
  | .obj _ => true
  | _ => false

def isText : Json → Bool
  | .str _ => true
  | _ => false

def isFilledText : Json → Bool
  | .str s => s ≠ ""
  | _ => false

/-- One of the four sides. A value with parts cannot be looked up. -/
def isOrient : Json → Except Error Bool
  | .str s => .ok (orients.contains s)
  | .arr _ | .obj _ => .error (.unfit .lookup)
  | _ => .ok false

/-- One rule or a list of rules; an axis need not have any. -/
def isLabelText : Option Json → Bool
  | none | some .null | some (.arr _) | some (.obj _) => true
  | _ => false

def checkEntries (check : Nat → Json → Except Error Unit) :
    (index : Nat) → List Json → Except Error Unit
  | _, [] => .ok ()
  | index, entry :: entries => do
    check index entry
    checkEntries check (index + 1) entries

def checkList (fs : Fields) (key : String) : Except Error (List Json) :=
  match fs.getD key with
  | .arr entries => .ok entries
  | _ => .error (.malformed (.notList key))

def checkObject (place : Place) (entry : Json) : Except Error Unit :=
  ensure (isObject entry) (.entryNotObject place)

def checkNames (list : NamedList) :
    (index : Nat) → (seen : List String) → List Json → Except Error Unit
  | _, _, [] => .ok ()
  | index, seen, entry :: entries => do
    match ← entry.field "name" with
    | .str name =>
      ensure (name ≠ "") (.unnamed list index)
      ensure (!seen.contains name) (.duplicateName list name)
      checkNames list (index + 1) (name :: seen) entries
    | _ => throw (.malformed (.unnamed list index))

def checkAxis (place : Place) (axis : Json) : Except Error Unit := do
  checkObject place axis
  ensure (isFilledText (← axis.field "scale")) (.noScale place)
  let orient ← axis.field "orient"
  ensure (← isOrient orient) (.invalidOrient place orient)
  ensure (isLabelText (← axis.descend Encoding.labelTextPath)) (.invalidLabelText place)

def checkAxes (place : Place) (axes : Json) : Except Error Unit := do
  checkEntries (fun index => checkAxis (place ++ [("axes", index)])) 0 (← axes.elements)

def checkGroupAxes (place : Place) (group : Fields) : Except Error Unit :=
  match group.get? "axes" with
  | some axes => checkAxes place axes
  | none => .ok ()

mutual
def checkMark (place : Place) : Json → Except Error Unit
  | .obj fs => do
    let type := Fields.getD fs "type"
    ensure (isText type) (.noType place)
    if type = .str "group" then
      checkGroupAxes place fs
      checkGroupMarks place fs
  | _ => .error (.malformed (.entryNotObject place))
def checkMarks (place : Place) (index : Nat) : List Json → Except Error Unit
  | [] => .ok ()
  | mark :: marks => do
    checkMark (place ++ [("marks", index)]) mark
    checkMarks place (index + 1) marks
/-- The marks of a group; no other value than an array has marks among its items. -/
def checkGroupMarks (place : Place) : List (String × Json) → Except Error Unit
  | [] => .ok ()
  | ("marks", .arr marks) :: _ => checkMarks place 0 marks
  | (key, v) :: fs =>
    if key = "marks" then do
      checkEntries (fun index => checkObject (place ++ [("marks", index)])) 0 (← v.elements)
    else checkGroupMarks place fs
end

/-- Checks the five lists in turn: all of them first, then their entries. -/
def validate (document : Json) : Except Error Unit := do
  match document with
  | .obj fs =>
    let scales ← checkList fs "scales"
    let axes ← checkList fs "axes"
    let marks ← checkList fs "marks"
    let signals ← checkList fs "signals"
    let data ← checkList fs "data"
    checkEntries (fun index => checkObject [("scales", index)]) 0 scales
    checkNames .scale 0 [] scales
    checkNames .signal 0 [] signals
    checkNames .data 0 [] data
    checkAxes [] (.arr axes)
    checkMarks [] 0 marks
  | _ => throw (.malformed .notObject)

end VegaAxes.Document
