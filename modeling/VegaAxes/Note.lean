import VegaAxes.Encoding
import VegaAxes.Options.Written
import VegaAxes.Scale.Name
import VegaAxes.Theme

/-!
# Notes

The annotations of a bottom axis: icons below it, each for some details of the
data. A span note also shows the range of its icon on hover and click, by three
signals. Every note takes an empty axis, which only reserves space below the plot.
-/

namespace VegaAxes

structure Note where
  name : String
  axisName : String
  format : NoteFormat
  offset : Number
  color : String
  colorScheme : ColorScheme
  dataKey : String
  details : List NoteDetail
  hasPopover : Bool
deriving DecidableEq

def Position.supportsNotes (p : Position) : Bool :=
  p = .bottom

namespace Note

def defaultFormat (scaleType : String) : NoteFormat :=
  if scaleType = "time" then .span else .summary

def ofOptions (o : ResolvedAxis) (index : Nat) (note : NoteOptions) : Note where
  name := (given note.name).getD s!"{o.name}Annotation{index}"
  axisName := o.name
  format := note.format.getD (defaultFormat o.scaleType)
  offset := note.offset.getD Theme.noteOffset
  color := (given note.color).getD Theme.noteColor
  colorScheme := o.colorScheme
  dataKey := (given note.dataKey).getD Theme.noteDataKey
  details := note.details
  hasPopover := note.hasPopover

def all (o : ResolvedAxis) : List Note :=
  if o.position.supportsNotes then o.notes.mapIdx (ofOptions o) else []

def toJson (a : Note) : Json :=
  .obj [("name", .str a.name), ("axis_name", .str a.axisName),
    ("format", Vocabulary.toJson a.format), ("offset", a.offset.toJson), ("color", .str a.color),
    ("color_scheme", Vocabulary.toJson a.colorScheme), ("data_key", .str a.dataKey),
    ("options", .arr (a.details.map NoteDetail.toJson)), ("has_popover", .bool a.hasPopover)]

/-- While the mouse is away from the icon, the range of the last click counts as hovered. -/
def highlightSignal (name : String) : Json :=
  .obj [("name", .str s!"{name}_highlighted"),
    ("value", .null),
    ("on", .arr [
      .obj [("events", .str s!"@{name}_icon:mouseover"), ("update", .str "datum")],
      .obj [("events", .str s!"@{name}_icon:mouseout"), ("update", .str s!"{name}_clicked")]])]

/-- A click lasts from the press of the button on the icon to its release anywhere. -/
def clickSignal (name : String) : Json :=
  .obj [("name", .str s!"{name}_clicked"),
    ("value", .obj []),
    ("on", .arr [
      .obj [("events", .obj [("markname", .str s!"{name}_icon"),
          ("type", .str "mousedown"),
          ("between", .arr [.obj [("type", .str "mousedown")], .obj [("type", .str "mouseup")]])]),
        ("update", .str "datum")],
      .obj [("events", .str "window:mouseup"), ("update", .str "\x7b\x7d")]])]

def selectSignal (name : String) : Json :=
  .obj [("name", .str s!"{name}_selected"), ("update", .str s!"{name}_clicked.center")]

def signals (a : Note) : List Json :=
  match a.format with
  | .span => [highlightSignal a.name, clickSignal a.name, selectSignal a.name]
  | .summary => []

/-- An axis with no values, whose only job is to reserve space. -/
def layoutAxis (scaleName : ScaleName) (a : Note) : Fields :=
  [("scale", scaleName.value), ("orient", .str "bottom"), ("values", .arr []),
    ("offset", a.offset.toJson)]

end Note

end VegaAxes
