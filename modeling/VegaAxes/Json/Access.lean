import VegaAxes.Error
import VegaAxes.Number
import VegaAxes.Text.Basic
import VegaAxes.Text.Letter
import VegaAxes.Vocabulary

/-!
# Access to values of any kind

Documents come in unchecked. Each access answers what a value of a fitting kind
has, and names the demand that any other value fails.
-/

namespace VegaAxes.Json

def fields : Json → Except Error Fields
  | obj fs => .ok fs
  | _ => .error (.unfit .field)

def spread : Json → Except Error Fields
  | obj fs => .ok fs
  | _ => .error (.unfit .spreading)

def record : Json → Except Error Fields
  | obj fs => .ok fs
  | _ => .error (.unfit .assignment)

def field? (v : Json) (key : String) : Except Error (Option Json) :=
  v.fields.map (·.get? key)

/-- The field of an object; an absent one is null. -/
def field (v : Json) (key : String) : Except Error Json :=
  v.fields.map (·.getD key)

/-- The value at the end of a path of keys, where an absent field stands for an empty object. -/
def descend : List String → Json → Except Error (Option Json)
  | [], v => .ok (some v)
  | key :: keys, v => do
    match ← v.field? key with
    | some w => descend keys w
    | none => return none

/-- An array has its items, an object its keys and a text its letters. -/
def elements : Json → Except Error (List Json)
  | arr items => .ok items
  | obj fs => .ok (fs.map fun field => str field.1)
  | str s => .ok ((Text.letters s).map fun letter => str (Text.ofLetters [letter]))
  | _ => .error (.unfit .items)

/-- Whether a word is a piece of a text, an item of an array or a key of an object. -/
def holds (v : Json) (word : String) : Except Error Bool :=
  match v with
  | str s => .ok (Text.contains s word)
  | arr items => .ok (items.any fun item => decide (item = str word))
  | obj fs => .ok (Fields.has fs word)
  | _ => .error (.unfit .membership)

def append (v : Json) (items : List Json) : Except Error Json :=
  match v with
  | arr old => .ok (arr (old ++ items))
  | _ => .error (.unfit .growth)

def prepend (v item : Json) : Except Error Json :=
  match v with
  | arr old => .ok (arr (item :: old))
  | _ => .error (.unfit .growth)

def insertBlock (v : Json) (items : List Json) : Except Error Json :=
  match v with
  | arr old => .ok (arr (items ++ old))
  | _ => .error (.unfit .insertion)

def length : Json → Except Error Nat
  | arr items => .ok items.length
  | obj fs => .ok fs.length
  | str s => .ok (Text.letters s).length
  | _ => .error (.unfit .length)

def first : Json → Except Error Json
  | str s => match Text.letters s with
    | letter :: _ => .ok (str (Text.ofLetters [letter]))
    | [] => .error (.unfit .letter)
  | arr (v :: _) => .ok v
  | obj _ => .error (.absent "0")
  | _ => .error (.unfit .letter)

/-- Merges a value over another one; an unset value changes nothing. Where the value below is no
object, the first field over it decides which demand fails. -/
def mergeOver (below upper : Json) : Except Error Json := do
  match ← (upper.orElse (.obj [])).fields, below with
  | [], _ => return below
  | fields, obj fs => return obj (Fields.merge fs fields)
  | (_, obj _) :: _, _ | (_, arr _) :: _, _ => throw (.unfit .field)
  | _, _ => throw (.unfit .assignment)

/-- Only a value without parts can be looked up in a word list. -/
def checkWord : Json → Except Error Unit
  | arr _ | obj _ => .error (.unfit .lookup)
  | _ => .ok ()

/-- The number that the value is; a truth value counts as zero or one. -/
def number? : Json → Option Number
  | int n => some (.int n)
  | float x => some (.float x)
  | bool b => some (.int (if b then 1 else 0))
  | _ => none

mutual
/-- Equality of values whatever the kinds of their numbers and the order of their fields. -/
def equal : Json → Json → Bool
  | null, null => true
  | str s, str t => s == t
  | arr vs, arr ws => equalItems vs ws
  | obj fs, obj gs => fs.length == gs.length && equalFields fs gs
  | v, w => match v.number?, w.number? with
    | some m, some n => m.equal n
    | _, _ => false
def equalItems : List Json → List Json → Bool
  | [], [] => true
  | v :: vs, w :: ws => equal v w && equalItems vs ws
  | _, _ => false
def equalFields : List (String × Json) → Fields → Bool
  | [], _ => true
  | (key, v) :: fs, gs => (match Fields.get? gs key with
    | some w => equal v w
    | none => false) && equalFields fs gs
end

def successor (v : Json) : Except Error Json :=
  match v.number? with
  | some n => .ok n.successor.toJson
  | none => .error (.unfit .successor)

def isZero (v : Json) : Bool :=
  v.number?.any (·.equal (.int 0))

def toWord (α : Type) [Vocabulary α] (v : Json) : Except Error α :=
  let unknown := Except.error (Error.unknownWord (Vocabulary.title α) v)
  match v with
  | str s =>
    match Vocabulary.ofWord? s with
    | some a => .ok a
    | none => unknown
  | _ => unknown

end VegaAxes.Json

namespace VegaAxes.Fields

def modifyPath (f : Json → Json) : List String → Fields → Fields
  | [], fs => fs
  | [key], fs => match fs.get? key with
    | some v => fs.set key (f v)
    | none => fs
  | key :: keys, fs => match fs.get? key with
    | some (.obj inner) => fs.set key (.obj (modifyPath f keys inner))
    | _ => fs

end VegaAxes.Fields
