import VegaAxes.Number
import VegaAxes.Vocabulary
import VegaAxes.Options

/-!
# Theme

Named colors, icon outlines and dash patterns, and the fixed names that axis
decorators share with the rest of a document.
-/

namespace VegaAxes.Theme

def lightColors : List (String × String) := [
  ("gray-50", "rgb(255, 255, 255)"),
  ("gray-100", "rgb(248, 248, 248)"),
  ("gray-200", "rgb(230, 230, 230)"),
  ("gray-300", "rgb(213, 213, 213)"),
  ("gray-400", "rgb(177, 177, 177)"),
  ("gray-500", "rgb(144, 144, 144)"),
  ("gray-600", "rgb(109, 109, 109)"),
  ("gray-700", "rgb(70, 70, 70)"),
  ("gray-800", "rgb(34, 34, 34)"),
  ("gray-900", "rgb(0, 0, 0)")]

def darkColors : List (String × String) := [
  ("gray-50", "rgb(8, 8, 8)"),
  ("gray-100", "rgb(29, 29, 29)"),
  ("gray-200", "rgb(48, 48, 48)"),
  ("gray-300", "rgb(75, 75, 75)"),
  ("gray-400", "rgb(106, 106, 106)"),
  ("gray-500", "rgb(141, 141, 141)"),
  ("gray-600", "rgb(176, 176, 176)"),
  ("gray-700", "rgb(208, 208, 208)"),
  ("gray-800", "rgb(235, 235, 235)"),
  ("gray-900", "rgb(255, 255, 255)")]

def colors : ColorScheme → List (String × String)
  | .light => lightColors
  | .dark => darkColors

/-- The color of a name in the scheme; any other text is a color already. -/
def color (scheme : ColorScheme) (name : String) : String :=
  ((colors scheme).lookup name).getD name

def dateIcon : String :=
  "M 0.88 -0.66 H 0.605 V -0.825 a 0.055 0.055 90 0 0 -0.055 -0.055 h -0.11 a 0.055 " ++
  "0.055 90 0 0 -0.055 0.055 V -0.66 H -0.385 V -0.825 A 0.055 0.055 90 0 0 -0.44 " ++
  "-0.88 h -0.11 a 0.055 0.055 90 0 0 -0.055 0.055 V -0.66 H -0.88 a 0.055 0.055 90 0 " ++
  "0 -0.055 0.055 v 1.43 a 0.055 0.055 90 0 0 0.055 0.055 h 1.76 a 0.055 0.055 90 0 0 " ++
  "0.055 -0.055 V -0.605 A 0.055 0.055 90 0 0 0.88 -0.66 Z M 0.825 0.77 H -0.825 V " ++
  "-0.55 H -0.605 v 0.055 a 0.055 0.055 90 0 0 0.055 0.055 h 0.11 A 0.055 0.055 90 0 0 " ++
  "-0.385 -0.495 V -0.55 h 0.77 v 0.055 a 0.055 0.055 90 0 0 0.055 0.055 h 0.11 a " ++
  "0.055 0.055 90 0 0 0.055 -0.055 V -0.55 h 0.22 Z"

/-- The outline of a named icon; any other text is an outline already. -/
def iconPath (icon : String) : String :=
  if icon = "date" then dateIcon else icon

def pointIcon : String :=
  "M 6.86 -8.32 H -7.79 a 0.53 0.53 90 0 0 -0.53 0.53 v 14.65 a 0.53 0.53 90 0 0 0.53 " ++
  "0.53 H 1.72 V 2.9 a 1.06 1.06 90 0 1 1.06 -1.06 h 4.49 V -7.79 A 0.53 0.53 90 0 0 " ++
  "6.86 -8.32 Z"

def rangeIcon : String :=
  "M 3.8 7.6 V 4.3 A 0.5 0.5 90 0 1 4.3 3.8 h 3.3 a 0.6 0.6 90 0 1 -0.1 0.4 L 4.2 7.5 " ++
  "a 0.6 0.6 90 0 1 -0.4 0.1 Z m 3.7 -15.1 a 0.5 0.5 90 0 0 -0.4 -0.2 H -7.1 a 0.5 0.5 " ++
  "90 0 0 -0.5 0.5 v 14.2 a 0.5 0.5 90 0 0 0.5 0.5 H 2.5 V 3.6 a 1.1 1.1 90 0 1 1.1 " ++
  "-1.1 H 7.6 V -7.1 A 0.5 0.5 90 0 0 7.5 -7.5 Z"

def dashPattern : LineType → List Int
  | .solid => []
  | .dashed => [7, 4]
  | .dotted => [2, 3]
  | .dotDash => [2, 3, 7, 4]
  | .shortDash => [3, 4]
  | .longDash => [11, 4]
  | .twoDash => [5, 2, 11, 2]

/-- The dash lengths of a named line type; explicit lengths are used as given. -/
def strokeDash : LineStyle → List Number
  | .named type => (dashPattern type).map .int
  | .dashes lengths => lengths

def fontColor : String := "gray-800"
def referenceLineColor : String := "gray-800"
def noteColor : String := "gray-600"
def noteOffset : Number := .int 80
def noteDataKey : String := "annotations"
def thumbnailUrlKey : String := "thumbnail"
def labelFontWeight : String := "normal"

def filteredTable : String := "filteredTable"

def colorScale : String := "color"
def firstSeries : String := "firstRscSeriesId"
def lastSeries : String := "lastRscSeriesId"
def hoveredSeries : String := "mouseOverSeries"

end VegaAxes.Theme
