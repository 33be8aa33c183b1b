import VegaAxes.Text.Letter
import VegaAxes.Text.Printable

/-!
# Quoted text in messages

A text is shown between single quotes, or between double quotes where it holds
single quotes and no double one. What cannot be printed, as no surrogate can, is
written by its code.
-/

namespace VegaAxes.Text

def hexDigit (n : Nat) : Char :=
  "0123456789abcdef".toList.getD (n % 16) '0'

def hex : (width : Nat) → Nat → List Char
  | 0, _ => []
  | width + 1, n => hex width (n / 16) ++ [hexDigit n]

def codeEscape (code : Nat) : List Char :=
  if code < 0x100 then '\\' :: 'x' :: hex 2 code
  else if code < 0x10000 then '\\' :: 'u' :: hex 4 code
  else '\\' :: 'U' :: hex 8 code

def quotedLetter (mark : Char) : Letter → List Char
  | .surrogate place => codeEscape (Letter.surrogate place).code
  | .char c =>
    if c = mark ∨ c = '\\' then ['\\', c]
    else if c = '\n' then ['\\', 'n']
    else if c = '\r' then ['\\', 'r']
    else if c = '\t' then ['\\', 't']
    else if isPrintable c then [c]
    else codeEscape c.toNat

def quotationMark (cs : List Char) : Char :=
  if '\'' ∈ cs ∧ '"' ∉ cs then '"' else '\''

def quoted (s : String) : String :=
  let mark := quotationMark s.toList
  String.ofList (mark :: (letters s).flatMap (quotedLetter mark) ++ [mark])

example : quoted "it's" = "\"it's\"" := by decide +kernel
example : quoted "both ' and \"" = "'both \\' and \"'" := by decide +kernel
example : quoted "\u00a0\n" = "'\\xa0\\n'" := by decide +kernel
example : quoted (ofLetters [.surrogate 0]) = "'\\ud800'" := by decide +kernel

end VegaAxes.Text
