import VegaAxes.Json.Display
import VegaAxes.Options.Problem

/-!
# Causes of failure
-/

namespace VegaAxes

/-- What was asked of a value that is of the wrong kind for it. -/
inductive Demand where
  /-- A field, of a value that is no object. -/
  | field
  /-- To take another item at its end or front, of a value that is no list. -/
  | growth
  /-- Its first letters, of a value that is no text. -/
  | opening
  /-- Its items, of a value that has none. -/
  | items
  /-- Whether something is in it. -/
  | membership
  /-- To take a block of items at its front, of a value that is no list. -/
  | insertion
  /-- To be laid under further fields, of a value that is no object. -/
  | spreading
  /-- To take a field, of a value that is no object. -/
  | assignment
  /-- To give a field away, of a list. -/
  | removal
  /-- Its successor, of a value that is no number. -/
  | successor
  /-- Its first letter, of a value that is no text. -/
  | letter
  /-- To be looked up in a word list, of a value with parts. -/
  | lookup
  /-- Its length. -/
  | length
deriving DecidableEq, Repr

/-- Where in a document an entry stands: list names and indices from the outside in. -/
abbrev Place := List (String × Nat)

def Place.text (place : Place) : String :=
  ".".intercalate (place.map fun (name, index) => s!"{name}[{index}]")

/-- The lists of a document whose entries have unique names. -/
inductive NamedList where
  | scale | signal | data
deriving DecidableEq, Repr

def NamedList.word : NamedList → String
  | .scale => "scale"
  | .signal => "signal"
  | .data => "data"

inductive Defect where
  | notObject
  | notList (key : String)
  | entryNotObject (place : Place)
  | unnamed (list : NamedList) (index : Nat)
  | duplicateName (list : NamedList) (name : String)
  | noScale (place : Place)
  | invalidOrient (place : Place) (orient : Json)
  | invalidLabelText (place : Place)
  | noType (place : Place)
deriving DecidableEq

def Defect.message : Defect → String
  | notObject => "spec must be object"
  | notList key => s!"{key} must be a list"
  | entryNotObject place => s!"{place.text} must be object"
  | unnamed list index => s!"{list.word}[{index}] must have a name"
  | duplicateName list name => s!"duplicate {list.word} name '{name}'"
  | noScale place => s!"{place.text} missing scale"
  | invalidOrient place orient => s!"{place.text} has invalid orient {orient.shown}"
  | invalidLabelText place => s!"{place.text} label text must be a rule or rule list"
  | noType place => s!"{place.text} missing type"

inductive Described where
  | options | resolved
deriving DecidableEq, Repr

def Described.title : Described → String
  | .options => "AxisOptions"
  | .resolved => "AxisSpecOptions"

inductive Error where
  | invalid (described : Described) (problems : List Problem)
  | malformed (defect : Defect)
  | closed
  | unknownWord (vocabulary : String) (given : Json)
  | absent (key : String)
  | unfit (demand : Demand)
deriving DecidableEq

def Error.message : Error → String
  | invalid described problems => s!"{problems.length} validation errors for {described.title}"
  | malformed defect => defect.message
  | closed => "spec builder was already finalized"
  | unknownWord vocabulary given => s!"{given.shown} is not a valid {vocabulary}"
  | absent key => Text.quoted key
  | unfit _ => "a value is of the wrong kind"

end VegaAxes
