import VegaAxes.Json

/-!
# Encoding rules

The small objects that axis and mark encodings are made of. A list of rules is
read from the front: the first rule with no test, or with a test that holds, wins.
-/

namespace VegaAxes.Encoding

def signal (expression : String) : Json :=
  .obj [("signal", .str expression)]

def value (v : Json) : Json :=
  .obj [("value", v)]

def text (s : String) : Json :=
  value (.str s)

def number (n : Int) : Json :=
  value (.int n)

def testedSignal (test expression : String) : Json :=
  .obj [("test", .str test), ("signal", .str expression)]

def testedValue (test : String) (v : Json) : Json :=
  .obj [("test", .str test), ("value", v)]

def rawValue : Json :=
  signal "datum.value"

def namedValue (name : String) (v : Json) : Json :=
  .obj [("name", .str name), ("value", v)]

/-- Where an axis has the rules for the text of its labels. -/
def labelTextPath : List String :=
  ["encode", "labels", "update", "text"]

end VegaAxes.Encoding
