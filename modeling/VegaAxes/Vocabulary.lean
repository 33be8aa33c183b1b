/-!
# Vocabularies

The closed word lists of axis descriptions. `Vocabulary.ofWord?_word`: every
member is found by its word.
-/

namespace VegaAxes

class Vocabulary (α : Type) where
  /-- The name of the word list in messages. -/
  title : String
  members : List α
  word : α → String
  mem_members : ∀ a, a ∈ members
  word_injective : ∀ a b, word a = word b → a = b

namespace Vocabulary

def ofWord? [Vocabulary α] (s : String) : Option α :=
  (members : List α).find? fun a => word a == s

theorem word_of_ofWord? [Vocabulary α] {s : String} {a : α} (h : ofWord? s = some a) :
    word a = s := by
  simpa using List.find?_some h

theorem ofWord?_word [Vocabulary α] (a : α) : ofWord? (word a) = some a := by
  unfold ofWord?
  cases h : (members : List α).find? fun b => word b == word a with
  | none => exact absurd (List.find?_eq_none.1 h a (mem_members a)) (by simp)
  | some b => rw [word_injective b a (by simpa using List.find?_some h)]

end Vocabulary

inductive Position where
  | top | bottom | left | right
deriving DecidableEq, Repr

instance : Vocabulary Position where
  title := "Position"
  members := [.top, .bottom, .left, .right]
  word
    | .top => "top" | .bottom => "bottom" | .left => "left" | .right => "right"
  mem_members a := by cases a <;> simp
  word_injective a b := by cases a <;> cases b <;> simp

inductive Orientation where
  | horizontal | vertical
deriving DecidableEq, Repr

instance : Vocabulary Orientation where
  title := "Orientation"
  members := [.horizontal, .vertical]
  word
    | .horizontal => "horizontal" | .vertical => "vertical"
  mem_members a := by cases a <;> simp
  word_injective a b := by cases a <;> cases b <;> simp

inductive LabelAlign where
  | start | center | finish
deriving DecidableEq, Repr

instance : Vocabulary LabelAlign where
  title := "LabelAlign"
  members := [.start, .center, .finish]
  word
    | .start => "start" | .center => "center" | .finish => "end"
  mem_members a := by cases a <;> simp
  word_injective a b := by cases a <;> cases b <;> simp

inductive LabelFormat where
  | linear | percentage | duration | time
deriving DecidableEq, Repr

instance : Vocabulary LabelFormat where
  title := "LabelFormat"
  members := [.linear, .percentage, .duration, .time]
  word
    | .linear => "linear" | .percentage => "percentage" | .duration => "duration" | .time => "time"
  mem_members a := by cases a <;> simp
  word_injective a b := by cases a <;> cases b <;> simp

inductive Granularity where
  | minute | hour | day | week | month | quarter | year
deriving DecidableEq, Repr

instance : Vocabulary Granularity where
  title := "Granularity"
  members := [.minute, .hour, .day, .week, .month, .quarter, .year]
  word
    | .minute => "minute" | .hour => "hour" | .day => "day" | .week => "week"
    | .month => "month" | .quarter => "quarter" | .year => "year"
  mem_members a := by cases a <;> simp
  word_injective a b := by cases a <;> cases b <;> simp

inductive ColorScheme where
  | light | dark
deriving DecidableEq, Repr

instance : Vocabulary ColorScheme where
  title := "ColorScheme"
  members := [.light, .dark]
  word
    | .light => "light" | .dark => "dark"
  mem_members a := by cases a <;> simp
  word_injective a b := by cases a <;> cases b <;> simp

inductive Layer where
  | front | back
deriving DecidableEq, Repr

instance : Vocabulary Layer where
  title := "ReferenceLineLayer"
  members := [.front, .back]
  word
    | .front => "front" | .back => "back"
  mem_members a := by cases a <;> simp
  word_injective a b := by cases a <;> cases b <;> simp

inductive LinePosition where
  | before | center | after
deriving DecidableEq, Repr

instance : Vocabulary LinePosition where
  title := "ReferenceLinePosition"
  members := [.before, .center, .after]
  word
    | .before => "before" | .center => "center" | .after => "after"
  mem_members a := by cases a <;> simp
  word_injective a b := by cases a <;> cases b <;> simp

inductive LineType where
  | solid | dashed | dotted | dotDash | shortDash | longDash | twoDash
deriving DecidableEq, Repr

instance : Vocabulary LineType where
  title := "LineType"
  members := [.solid, .dashed, .dotted, .dotDash, .shortDash, .longDash, .twoDash]
  word
    | .solid => "solid" | .dashed => "dashed" | .dotted => "dotted" | .dotDash => "dotDash"
    | .shortDash => "shortDash" | .longDash => "longDash" | .twoDash => "twoDash"
  mem_members a := by cases a <;> simp
  word_injective a b := by cases a <;> cases b <;> simp

inductive NoteFormat where
  | span | summary
deriving DecidableEq, Repr

instance : Vocabulary NoteFormat where
  title := "AnnotationFormat"
  members := [.span, .summary]
  word
    | .span => "span" | .summary => "summary"
  mem_members a := by cases a <;> simp
  word_injective a b := by cases a <;> cases b <;> simp

namespace Position

def isVertical : Position → Bool
  | .left | .right => true
  | .top | .bottom => false

def orientation (p : Position) : Orientation :=
  if p.isVertical then .vertical else .horizontal

end Position

end VegaAxes
