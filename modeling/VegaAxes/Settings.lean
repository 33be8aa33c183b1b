import VegaAxes.Text.Basic
import VegaAxes.Text.UpperCase

/-!
# Settings

What the environment decides for all builds.
-/

namespace VegaAxes

structure Environment where
  colorScheme : Option String := none
  chartOrientation : Option String := none
  validateOutput : Option String := none
  logLevel : Option String := none

structure Settings where
  colorScheme : String
  chartOrientation : String
  validateOutput : Bool
  logLevel : String
deriving DecidableEq, Repr

namespace Settings

/-- A flag is on where its text, in any case and between blanks, is one of four words. -/
def isOn (s : String) : Bool :=
  String.ofList ((Text.trim Text.isBlankOrSeparator s.toList).map Char.toLower) ∈
    ["1", "true", "yes", "on"]

def ofEnvironment (e : Environment) : Settings where
  colorScheme := e.colorScheme.getD "light"
  chartOrientation := e.chartOrientation.getD "vertical"
  validateOutput := (e.validateOutput.map isOn).getD true
  logLevel := Text.upperCase (e.logLevel.getD "INFO")

end Settings

end VegaAxes
