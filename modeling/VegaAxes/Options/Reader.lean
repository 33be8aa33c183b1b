import VegaAxes.Json
import VegaAxes.Decimal.Reading
import VegaAxes.Number
import VegaAxes.Options.Problem
import VegaAxes.Text.Letter
import VegaAxes.Vocabulary

/-!
# Readers of option values

A reader accepts a JSON value with the coercions that option values admit, or
reports every problem below it. A record reader also knows the keys it reads,
so that its value reader can report all others.
-/

namespace VegaAxes

abbrev Reader (α : Type) := Json → Checked α

namespace Reader

def map (f : α → β) (r : Reader α) : Reader β :=
  fun v => (r v).map f

def text : Reader String
  | .str s => .ok s
  | v => .fail .stringType v

/-- Reads a text whose letters are all characters, as every text is that is read for what
it says. -/
def wording (s : String) (r : String → Checked α) : Checked α :=
  if Text.isWhole s then r s else .fail .stringUnicode (.str s)

def flagWord? (s : String) : Option Bool :=
  let word := String.ofList (s.toList.map Char.toLower)
  if word ∈ ["0", "off", "f", "false", "n", "no"] then some false
  else if word ∈ ["1", "on", "t", "true", "y", "yes"] then some true
  else none

/-- A flag has one of two numbers; `v` is the value that has this one. -/
def flagOfInt (v : Json) : Int → Checked Bool
  | 0 => .ok false
  | 1 => .ok true
  | _ => .fail .boolParsing v

/-- Floats are read as integers only where these have 64 bits, the least of them left out. -/
def fitsWord (n : Int) : Bool :=
  n.natAbs < Decimal.twoTo 63

def isWord (n : Int) : Bool :=
  fitsWord n || n = -(Decimal.twoTo 63 : Int)

def flag : Reader Bool
  | .bool b => .ok b
  | .int n => if isWord n then flagOfInt (.int n) n else .fail .boolType (.int n)
  | .float x =>
    match Decimal.whole x with
    | .whole n => if fitsWord n then flagOfInt (.float x) n else .fail .boolType (.float x)
    | _ => .fail .boolType (.float x)
  | .str s => wording s fun s =>
    match flagWord? s with
    | some b => .ok b
    | none => .fail .boolParsing (.str s)
  | v => .fail .boolType v

def integer : Reader Int
  | .int n => .ok n
  | .bool b => .ok (if b then 1 else 0)
  | .float x =>
    match Decimal.whole x with
    | .whole n => if fitsWord n then .ok n else .fail .intParsingSize (.float x)
    | .fraction => .fail .intFromFloat (.float x)
    | .notFinite => .fail .finiteNumber (.float x)
  | .str s => wording s fun s =>
    match Decimal.readInt s with
    | .value n => .ok n
    | .tooLong => .fail .intParsingSize (.str s)
    | .malformed => .fail .intParsing (.str s)
  | v => .fail .intType v

def float : Reader Float
  | .float x => .ok x
  | .int n =>
    let x := Decimal.ofInt n
    if Decimal.magnitude x = .infinite then .fail .floatType (.int n) else .ok x
  | .bool b => .ok (if b then 1 else 0)
  | .str s => wording s fun s =>
    match Decimal.readFloat? s with
    | some x => .ok x
    | none => .fail .floatParsing (.str s)
  | v => .fail .floatType v

def word [Vocabulary α] : Reader α
  | .str s => wording s fun s =>
    match Vocabulary.ofWord? s with
    | some a => .ok a
    | none => .fail .enumeration (.str s)
  | v => .fail .enumeration v

def object : Reader Fields
  | .obj fields => .ok fields
  | v => .fail .dictType v

def optional (r : Reader α) : Reader (Option α)
  | .null => .ok none
  | v => (r v).map some

def list (r : Reader α) : Reader (List α)
  | .arr vs => Checked.items r 0 vs
  | v => .fail .listType v

def pair (r : Reader α) : Reader (α × α)
  | .arr [] => .bad [⟨["0"], .missing, .arr []⟩, ⟨["1"], .missing, .arr []⟩]
  | .arr [a] => (((r a).under "0").map Prod.mk).seq (.bad [⟨["1"], .missing, .arr [a]⟩])
  | .arr [a, b] => (((r a).under "0").map Prod.mk).seq ((r b).under "1")
  | .arr vs => .fail .tooLong (.arr vs)
  | v => .fail .tupleType v

def firstOf : List (String × Reader α) → Reader α
  | [], _ => .bad []
  | (name, r) :: members, v =>
    match r v with
    | .ok a => .ok a
    | .bad ps =>
      match firstOf members v with
      | .ok a => .ok a
      | .bad qs => .bad (ps.map (Problem.under name) ++ qs)

/-- A value that is of a member's kind as it stands is kept; any other goes to
the first member that accepts it with a coercion. -/
def union (asIs : Json → Option α) (members : List (String × Reader α)) : Reader α :=
  fun v => match asIs v with
    | some a => .ok a
    | none => firstOf members v

def number : Reader Number :=
  union
    (fun | .int n => some (.int n) | .float x => some (.float x) | _ => none)
    [("int", integer.map .int), ("float", float.map .float)]

end Reader

/-- A field may be given under either key; the first one wins. -/
structure FieldKey where
  main : String
  other : String
deriving DecidableEq

namespace FieldKey

def find? (key : FieldKey) (fs : Fields) : Option (String × Json) :=
  match fs.get? key.main with
  | some v => some (key.main, v)
  | none => (fs.get? key.other).map (key.other, ·)

def reads (key : FieldKey) (fs : Fields) (used : String) : Bool :=
  (key.find? fs).any (·.1 == used)

end FieldKey

structure RecordReader (α : Type) where
  keys : List FieldKey
  read : Fields → Checked α

namespace RecordReader

def pure (a : α) : RecordReader α :=
  ⟨[], fun _ => .ok a⟩

def seq (f : RecordReader (α → β)) (r : RecordReader α) : RecordReader β :=
  ⟨f.keys ++ r.keys, fun fs => (f.read fs).seq (r.read fs)⟩

def required (f : RecordReader (α → β)) (main other : String) (r : Reader α) : RecordReader β :=
  f.seq ⟨[⟨main, other⟩], fun fs =>
    match FieldKey.find? ⟨main, other⟩ fs with
    | some (used, v) => (r v).under used
    | none => .bad [⟨[main], .missing, .obj fs⟩]⟩

def field (f : RecordReader (α → β)) (main other : String) (default : α) (r : Reader α) :
    RecordReader β :=
  f.seq ⟨[⟨main, other⟩], fun fs =>
    match FieldKey.find? ⟨main, other⟩ fs with
    | some (used, v) => (r v).under used
    | none => .ok default⟩

def extras (r : RecordReader α) (fs : Fields) : Fields :=
  fs.filter fun field => !r.keys.any (·.reads fs field.1)

def noExtras (r : RecordReader α) (fs : Fields) : Checked Unit :=
  match r.extras fs with
  | [] => .ok ()
  | extras => .bad (extras.map fun (key, v) => ⟨[key], .extraForbidden, v⟩)

/-- Accepts objects with no other keys than those of the record. A key that is no text of
characters hides all else that is wrong. -/
def strict (r : RecordReader α) (notObject : ProblemKind) : Reader α
  | .obj fs =>
    match Fields.keys fs |>.find? (!Text.isWhole ·) with
    | some key => .fail .stringUnicode (.str key)
    | none => ((r.read fs).map fun a _ => a).seq (r.noExtras fs)
  | v => .fail notObject v

def lenient (r : RecordReader α) (notObject : ProblemKind) : Reader α
  | .obj fs => r.read fs
  | v => .fail notObject v

end RecordReader

end VegaAxes
