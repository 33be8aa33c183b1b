import VegaAxes.Json
import VegaAxes.Decimal.Text
import VegaAxes.Text.Quoted

/-!
# Values in messages and expressions

`shown` is the form for messages, in which texts are quoted; `spliced` puts a
text into an expression as it stands.
-/

namespace VegaAxes.Json

mutual
def shown : Json → String
  | null => "None"
  | bool b => if b then "True" else "False"
  | int n => toString n
  | float x => Decimal.Style.plain.text x
  | str s => Text.quoted s
  | arr items => "[" ++ ", ".intercalate (shownItems items) ++ "]"
  | obj fields => "\x7b" ++ ", ".intercalate (shownFields fields) ++ "\x7d"
def shownItems : List Json → List String
  | [] => []
  | v :: vs => shown v :: shownItems vs
def shownFields : List (String × Json) → List String
  | [] => []
  | (key, v) :: fs => (Text.quoted key ++ ": " ++ shown v) :: shownFields fs
end

def spliced : Json → String
  | str s => s
  | v => v.shown

example : (arr [str "a", null, bool true]).shown = "['a', None, True]" := by decide +kernel
example : (arr [str "a"]).spliced = "['a']" ∧ (str "a").spliced = "a" := by decide +kernel

end VegaAxes.Json
