import VegaAxes.Note

/-!
# Marks of notes

One group per note: its icons and, for a span, the bracket that shows the
range of one of them.
-/

namespace VegaAxes.Note

def sourceField (table : String) : Json :=
  .obj [("data", .str table)]

def colorField : Json :=
  .obj [("field", .str "color")]

/-- A transparent border widens the target of the mouse. -/
def iconEnter (a : Note) : Json :=
  .obj ([("stroke", Encoding.text "transparent"), ("strokeWidth", Encoding.number 2)] ++
    if a.hasPopover then [("cursor", Encoding.text "pointer")] else [])

def below (a : Note) : Json :=
  Encoding.signal s!"height + {a.offset.text}"

def summaryMark (a : Note) : Json :=
  let source := sourceField s!"{a.name}_summary"
  .obj [("name", .str s!"{a.name}_group"),
    ("type", .str "group"),
    ("from", source),
    ("marks", .arr [.obj [
      ("name", .str s!"{a.name}_icon"),
      ("type", .str "path"),
      ("from", source),
      ("zindex", .int 2),
      ("encode", .obj [
        ("enter", iconEnter a),
        ("update", .obj [("path", Encoding.signal s!"'{Theme.pointIcon}'"),
          ("fill", colorField),
          ("xc", Encoding.signal "width - 12"),
          ("yc", below a)])])]])]

def atField (scaleName : ScaleName) (field : String) : Json :=
  .obj [("scale", scaleName.value), ("field", .str field), ("band", .float 0.5)]

def bracketPart (a : Note) (placing : Fields) : Json :=
  .obj [("type", .str "rect"),
    ("from", sourceField s!"{a.name}_range"),
    ("encode", .obj [("update", .obj (placing ++
      [("fill", colorField),
        ("fillOpacity", Encoding.signal s!"{a.name}_selected ? 1.0 : 0.2")]))])]

def bracket (scaleName : ScaleName) (a : Note) : List Json :=
  let lower := atField scaleName "lower"
  let upper := atField scaleName "upper"
  [bracketPart a [("x", lower), ("y", below a), ("width", Encoding.number 2),
      ("height", Encoding.number (-4))],
    bracketPart a [("x", lower), ("y", below a), ("x2", upper), ("height", Encoding.number 2)],
    bracketPart a [("x", upper), ("y", Encoding.signal s!"height + {a.offset.text} + 2"),
      ("width", Encoding.number 2), ("height", Encoding.number (-6))]]

def spanMark (scaleName : ScaleName) (a : Note) : Json :=
  let selected := s!"{a.name}_selected"
  .obj [("name", .str s!"{a.name}_group"),
    ("type", .str "group"),
    ("marks", .arr [
      .obj [("name", .str s!"{a.name}_range"),
        ("type", .str "group"),
        ("marks", .arr (bracket scaleName a))],
      .obj [("name", .str s!"{a.name}_icon"),
        ("type", .str "path"),
        ("from", sourceField s!"{a.name}_aggregate"),
        ("encode", .obj [
          ("enter", iconEnter a),
          ("update", .obj [
            ("path",
              Encoding.signal s!"datum.width > 0 ? '{Theme.rangeIcon}' : '{Theme.pointIcon}'"),
            ("fill", colorField),
            ("xc", atField scaleName "center"),
            ("yc", below a),
            ("fillOpacity", Encoding.signal
              s!"({selected} && {selected} != datum.center) ? 0.0 : 1.0")])])]])]

def mark (scaleName : ScaleName) (a : Note) : Json :=
  match a.format with
  | .summary => summaryMark a
  | .span => spanMark scaleName a

end VegaAxes.Note
