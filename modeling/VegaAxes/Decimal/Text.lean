import VegaAxes.Decimal.Shortest

/-!
# Text of floating-point numbers

A float is written with its shortest digits, always with a point or an
exponent, so that it is never taken for an integer.
-/

namespace VegaAxes.Decimal

structure Style where
  /-- Numbers whose first digit has an exponent from here on are written positionally. -/
  positionalFrom : Int
  /-- Numbers whose first digit has an exponent below this are written positionally. -/
  positionalBelow : Int
  exponentWidth : Nat
  infinity : String
  nan : String

def Style.plain : Style := ⟨-4, 16, 2, "inf", "nan"⟩

def Style.json : Style := ⟨-4, 16, 2, "Infinity", "NaN"⟩

def zeros (n : Nat) : List Char :=
  List.replicate n '0'

/-- `first` is the exponent of the first digit. -/
def positional (digits : List Char) (first : Int) : List Char :=
  if first < 0 then '0' :: '.' :: zeros (-first - 1).toNat ++ digits
  else
    let whole := first.toNat + 1
    let fraction := digits.drop whole
    digits.take whole ++ zeros (whole - digits.length) ++
      '.' :: (if fraction.isEmpty then ['0'] else fraction)

def scientific (width : Nat) (digits : List Char) (first : Int) : List Char :=
  let exponent := Nat.toDigits 10 first.natAbs
  digits.take 1 ++ (if digits.length ≤ 1 then [] else '.' :: digits.drop 1) ++
    'e' :: (if first < 0 then '-' else '+') :: zeros (width - exponent.length) ++ exponent

def Style.finite (style : Style) (m : Nat) (q : Int) : List Char :=
  if m = 0 then ['0', '.', '0']
  else
    let scaled := shortest m q
    let all := Nat.toDigits 10 scaled.digits
    let first := scaled.exponent + all.length - 1
    let digits := (all.reverse.dropWhile (· == '0')).reverse
    if style.positionalFrom ≤ first ∧ first < style.positionalBelow then positional digits first
    else scientific style.exponentWidth digits first

def Style.chars (style : Style) (x : Float) : List Char :=
  let sign := if isNegative x then ['-'] else []
  match magnitude x with
  | .nan => style.nan.toList
  | .infinite => sign ++ style.infinity.toList
  | .finite m q => sign ++ style.finite m q

def Style.text (style : Style) (x : Float) : String :=
  String.ofList (style.chars x)

example : Style.plain.text 10 = "10.0" := by decide +kernel
example : Style.plain.text (-0.0) = "-0.0" := by decide +kernel
example : Style.plain.text 1e-7 = "1e-07" := by decide +kernel
example : Style.plain.text 0.0001 = "0.0001" := by decide +kernel
example : Style.plain.text 1e16 = "1e+16" := by decide +kernel
example : Style.plain.text 123456789012345678 = "1.2345678901234568e+17" := by decide +kernel

end VegaAxes.Decimal
