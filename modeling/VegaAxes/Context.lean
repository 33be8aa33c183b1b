import VegaAxes.Json.Access
import VegaAxes.Options.Written
import VegaAxes.Settings

/-!
# Build contexts

What the axes of one build share. The metric axis count stays null until the
first metric axis is coordinated, and is carried between builds in a document's
usermeta.
-/

namespace VegaAxes

structure Context where
  orientation : Orientation
  colorScheme : ColorScheme
  metricAxisCount : Json := .null
deriving DecidableEq

namespace Context

/-- The context for a document: a given word first, then the document's, then the setting. -/
def forDocument (settings : Settings) (usermeta : Json) (orientation : Option Orientation)
    (colorScheme : Option ColorScheme) : Except Error Context := do
  let fs ← (usermeta.orElse (.obj [])).fields
  let orientation ← match orientation with
    | some o => pure o
    | none =>
      ((fs.getD "chartOrientation").orElse (.str settings.chartOrientation)).toWord Orientation
  let colorScheme ← match colorScheme with
    | some s => pure s
    | none => ((fs.getD "colorScheme").orElse (.str settings.colorScheme)).toWord ColorScheme
  return ⟨orientation, colorScheme, fs.getD "metricAxisCount"⟩

def ofUsermeta (settings : Settings) (usermeta : Json) : Except Error Context :=
  forDocument settings usermeta none none

def toUsermeta (c : Context) : Fields :=
  if c.metricAxisCount = .null then [] else [("metricAxisCount", c.metricAxisCount)]

def toJson (c : Context) : Json :=
  .obj [("chart_orientation", Vocabulary.toJson c.orientation),
    ("color_scheme", Vocabulary.toJson c.colorScheme), ("metric_axis_count", c.metricAxisCount)]

end Context

end VegaAxes
