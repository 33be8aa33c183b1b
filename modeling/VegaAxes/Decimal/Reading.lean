import VegaAxes.Decimal.Shortest
import VegaAxes.Text.Basic

/-!
# Numbers from text

Digits may be grouped by single underscores, as in `1_000`, and an integer may
have leading zeros and a fraction of zeros. Only ASCII digits count: the readers
of option values and of JSON text admit no others.
-/

namespace VegaAxes.Decimal

def isDigit (c : Char) : Bool :=
  '0' ≤ c && c ≤ '9'

def digitValue (c : Char) : Nat :=
  c.toNat - '0'.toNat

def ofDigits (cs : List Char) : Nat :=
  cs.foldl (fun n c => 10 * n + digitValue c) 0

/-- The double nearest to `± m * 10 ^ e`. Far outside the range of doubles the
exponent alone decides, so that a power of ten of that size is never built. -/
def toFloat (negative : Bool) (m : Nat) (e : Int) : Float :=
  let first := digitCount m + e
  let x :=
    if m = 0 ∨ first < -400 then 0
    else if 400 < first then 1 / 0
    else Float.ofScientific m (e < 0) e.natAbs
  if negative then -x else x

def ofInt (n : Int) : Float :=
  toFloat (n < 0) n.natAbs 0

inductive Whole where
  | whole (n : Int)
  | fraction
  | notFinite

def whole (x : Float) : Whole :=
  match magnitude x with
  | .finite m q =>
    let scaled := m * twoTo q.toNat
    let unit := twoTo (-q).toNat
    if scaled % unit = 0 then
      .whole (if isNegative x then -(scaled / unit : Nat) else (scaled / unit : Nat))
    else .fraction
  | _ => .notFinite

def hasDoubledUnderscore : List Char → Bool
  | a :: b :: cs => (a == '_' && b == '_') || hasDoubledUnderscore (b :: cs)
  | _ => false

/-- Drops the underscores, if none stands at an end or beside another one. -/
def ungroup (cs : List Char) : List Char :=
  if cs.head? = some '_' ∨ cs.getLast? = some '_' ∨ hasDoubledUnderscore cs then cs
  else cs.filter (· != '_')

def signed : List Char → Bool × List Char
  | '-' :: cs => (true, cs)
  | '+' :: cs => (false, cs)
  | cs => (false, cs)

def allDigits (cs : List Char) : Bool :=
  !cs.isEmpty && cs.all isDigit

inductive IntegerText where
  | value (n : Int)
  | tooLong
  | malformed
deriving DecidableEq, Repr

def maxIntegerDigits : Nat := 4300

/-- Drops a plus sign, after which no other sign may stand. -/
def dropPlus : List Char → List Char
  | '+' :: '-' :: cs => '+' :: '-' :: cs
  | '+' :: cs => cs
  | cs => cs

def startsInteger (c : Char) : Bool :=
  c == '-' || ('1' ≤ c && c ≤ '9')

/-- What follows leading zeros, of which `last` is the last character. One is kept before a
point and where nothing follows. -/
def afterZeros (last : Char) : List Char → Option (List Char)
  | [] => some [last]
  | c :: cs =>
    if c == '0' || c == '_' then afterZeros c cs
    else if c == '.' then some (last :: c :: cs)
    else if startsInteger c then some (c :: cs)
    else none

def dropZeros : List Char → Option (List Char)
  | '0' :: cs => afterZeros '0' cs
  | c :: cs => if startsInteger c then some (c :: cs) else none
  | [] => none

def dropZeroFraction (cs : List Char) : List Char :=
  match cs.dropWhile (· != '.') with
  | '.' :: z :: zs => if (z :: zs).all (· == '0') then cs.takeWhile (· != '.') else cs
  | _ => cs

def splitMinus : List Char → List Char × List Char
  | '-' :: cs => (['-'], cs)
  | cs => ([], cs)

/-- An integer in its only form, or one that is too long, whatever follows its digits. -/
def plainInteger (cs : List Char) : IntegerText :=
  let (sign, cs) := splitMinus cs
  let digits := cs.takeWhile isDigit
  if digits.head? = some '0' ∧ 1 < digits.length then .malformed
  else if maxIntegerDigits < digits.length then .tooLong
  else if digits.isEmpty || digits.length < cs.length then .malformed
  else .value (if sign.isEmpty then ofDigits digits else -(ofDigits digits : Int))

def plainForm? (cs : List Char) : Option (List Char) :=
  let (sign, cs) := splitMinus (dropPlus (Text.trim Text.isBlank cs))
  (dropZeros cs).map fun cs => sign ++ ungroup (dropZeroFraction cs)

/-- An integer in any form. Only in its plain form is it found too long. -/
def readInt (text : String) : IntegerText :=
  match plainInteger text.toList with
  | .malformed =>
    match (plainForm? text.toList).map plainInteger with
    | some (.value n) => .value n
    | _ => .malformed
  | read => read

def readExponent? : List Char → Option Int
  | [] => some 0
  | e :: cs =>
    let (negative, digits) := signed cs
    if (e == 'e' || e == 'E') && allDigits digits then
      some (if negative then -(ofDigits digits : Int) else ofDigits digits)
    else none

def plainFloat? (cs : List Char) : Option Float :=
  let (negative, cs) := signed cs
  let word := String.ofList (cs.map Char.toLower)
  if word = "inf" ∨ word = "infinity" then some (if negative then -(1 / 0) else 1 / 0)
  else if word = "nan" then some (0 / 0)
  else
    let whole := cs.takeWhile isDigit
    let rest := cs.dropWhile isDigit
    let (fraction, rest) := match rest with
      | '.' :: rest => (rest.takeWhile isDigit, rest.dropWhile isDigit)
      | rest => ([], rest)
    if whole.isEmpty && fraction.isEmpty then none
    else (readExponent? rest).map fun e =>
      toFloat negative (ofDigits (whole ++ fraction)) (e - fraction.length)

def readFloat? (text : String) : Option Float :=
  (plainFloat? (Text.trim Text.isBlank text.toList)).or (plainFloat? (ungroup text.toList))

example : readInt " +1_000.00 " = .value 1000 ∧ readInt "0_0" = .value 0 := by decide +kernel
example : readInt "-0_1" = .value (-1) ∧ readInt "-_1" = .malformed := by decide +kernel
example : readInt "1e3" = .malformed ∧ readInt "1__0" = .malformed ∧ readInt "" = .malformed := by
  decide +kernel
example : readFloat? ".5" = some 0.5 ∧ readFloat? "5." = some 5 ∧ readFloat? "." = none := by
  decide +kernel
example : readFloat? "1_0" = some 10 ∧ readFloat? " 1_0" = none := by decide +kernel

end VegaAxes.Decimal
