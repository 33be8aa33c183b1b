import VegaAxes.Json
import VegaAxes.Decimal.Text
import VegaAxes.Text.Quoted

/-!
# JSON text in ASCII

Every letter outside printable ASCII is escaped, those beyond the basic plane as
two UTF-16 units.
-/

namespace VegaAxes.Json

def unitEscape (unit : Nat) : List Char :=
  '\\' :: 'u' :: Text.hex 4 unit

def asciiChar (c : Char) : List Char :=
  if c = '"' then ['\\', '"']
  else if c = '\\' then ['\\', '\\']
  else if c = '\n' then ['\\', 'n']
  else if c = '\r' then ['\\', 'r']
  else if c = '\t' then ['\\', 't']
  else if c = '\x08' then ['\\', 'b']
  else if c = '\x0c' then ['\\', 'f']
  else if 0x20 ≤ c.toNat ∧ c.toNat < 0x7f then [c]
  else if c.toNat < 0x10000 then unitEscape c.toNat
  else
    let n := c.toNat - 0x10000
    unitEscape (0xd800 + n / 0x400) ++ unitEscape (0xdc00 + n % 0x400)

def asciiLetter : Text.Letter → List Char
  | .char c => asciiChar c
  | .surrogate place => unitEscape (Text.Letter.surrogate place).code

def asciiText (s : String) : List Char :=
  '"' :: (Text.letters s).flatMap asciiLetter ++ ['"']

mutual
def ascii : Json → List Char
  | null => "null".toList
  | bool b => if b then "true".toList else "false".toList
  | int n => (toString n).toList
  | float x => Decimal.Style.json.chars x
  | str s => asciiText s
  | arr items => '[' :: asciiItems items ++ [']']
  | obj fields => '{' :: asciiFields fields ++ ['}']
def asciiItems : List Json → List Char
  | [] => []
  | [v] => ascii v
  | v :: vs => ascii v ++ ',' :: ' ' :: asciiItems vs
def asciiFields : List (String × Json) → List Char
  | [] => []
  | [(key, v)] => asciiText key ++ ':' :: ' ' :: ascii v
  | (key, v) :: fs => asciiText key ++ ':' :: ' ' :: ascii v ++ ',' :: ' ' :: asciiFields fs
end

example : String.ofList (obj [("a", arr [int 1, float 2]), ("é\n", str "😀")]).ascii =
    "\x7b\"a\": [1, 2.0], \"\\u00e9\\n\": \"\\ud83d\\ude00\"\x7d" := by decide +kernel

end VegaAxes.Json
