import VegaAxes.Json
import VegaAxes.Decimal.Reading
import VegaAxes.Decimal.Text

/-!
# Numbers of option values

An option that admits both kinds of number keeps the kind it was given.
-/

namespace VegaAxes

inductive Number where
  | int (n : Int)
  | float (x : Float)
deriving DecidableEq

namespace Number

def toJson : Number → Json
  | int n => .int n
  | float x => .float x

def text : Number → String
  | int n => toString n
  | float x => Decimal.Style.plain.text x

def successor : Number → Number
  | int n => int (n + 1)
  | float x => float (x + 1)

/-- Equality of what the numbers stand for, whatever their kinds. -/
def equal : Number → Number → Bool
  | int m, int n => m == n
  | float x, float y => x == y
  | int n, float x | float x, int n => match Decimal.whole x with
    | .whole m => m == n
    | _ => false

end Number

end VegaAxes
