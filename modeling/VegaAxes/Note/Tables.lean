import VegaAxes.Note

/-!
# Data tables of notes

The details by their ids, and the rows that carry the note: a summary
counts them, a span groups them by the center of their range.
-/

namespace VegaAxes.Note

def texts (words : List String) : Json :=
  .arr (words.map .str)

def formula (expression target : String) : Json :=
  .obj [("type", .str "formula"), ("expr", .str expression), ("as", .str target)]

def filter (expression : String) : Json :=
  .obj [("type", .str "filter"), ("expr", .str expression)]

def detailRow (scheme : ColorScheme) (detail : NoteDetail) : Json :=
  .obj [("id", .str detail.id),
    ("color", textJson ((given detail.color).map (Theme.color scheme)))]

def detailsTable (a : Note) : Json :=
  .obj [("name", .str s!"{a.name}_details"),
    ("values", .arr (a.details.map (detailRow a.colorScheme)))]

/-- One row for each detail that a row of the data names. -/
def flattening (a : Note) : List Json := [
  filter s!"datum.{a.dataKey}",
  .obj [("type", .str "flatten"), ("fields", texts [a.dataKey]), ("as", texts [s!"{a.name}_id"])]]

/-- The color of the only detail, or the note's own if it has several. -/
def colorLookup (a : Note) : List Json :=
  let fallback := Theme.color a.colorScheme a.color
  [formula s!"datum.annotations[0].{a.name}_id" "id",
    .obj [("type", .str "lookup"), ("from", .str s!"{a.name}_details"), ("key", .str "id"),
      ("values", texts ["color"]), ("fields", texts ["id"])],
    formula s!"datum.number > 1 || datum.color == null ? '{fallback}' : datum.color" "color"]

def aggregateTable (a : Note) : Json :=
  .obj [("name", .str s!"{a.name}_aggregate"),
    ("source", .str Theme.filteredTable),
    ("transform", .arr (flattening a ++
      [.obj [("type", .str "aggregate"), ("groupby", texts [s!"{a.name}_id"]),
          ("fields", texts ["datetime", "datetime"]), ("ops", texts ["min", "max"])],
        formula "datum.max_datetime - datum.min_datetime" "width",
        formula "datum.width / 2 + datum.min_datetime" "center",
        .obj [("type", .str "aggregate"), ("groupby", texts ["center"]),
          ("fields", texts ["min_datetime", "max_datetime", "width", a.dataKey, a.dataKey]),
          ("ops", texts ["min", "max", "max", "count", "values"]),
          ("as", texts ["lower", "upper", "width", "number", "annotations"])]] ++
      colorLookup a))]

def rangeTable (a : Note) : Json :=
  let shown := s!"{a.name}_highlighted"
  .obj [("name", .str s!"{a.name}_range"),
    ("source", .str s!"{a.name}_aggregate"),
    ("transform", .arr
      [filter s!"{shown} && datum.center == {shown}.center && {shown}.width > 0"])]

def summaryTable (a : Note) : Json :=
  .obj [("name", .str s!"{a.name}_summary"),
    ("source", .str Theme.filteredTable),
    ("transform", .arr (flattening a ++
      [.obj [("type", .str "aggregate"), ("groupby", texts [s!"{a.name}_id"])],
        .obj [("type", .str "aggregate"), ("groupby", texts ["center"]),
          ("fields", texts [a.dataKey, a.dataKey]), ("ops", texts ["count", "values"]),
          ("as", texts ["number", "annotations"])]] ++
      colorLookup a))]

def tables (a : Note) : List Json :=
  detailsTable a :: match a.format with
    | .summary => [summaryTable a]
    | .span => [aggregateTable a, rangeTable a]

end VegaAxes.Note
