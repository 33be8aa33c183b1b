import VegaAxes.Json
import VegaAxes.Decimal.Reading
import VegaAxes.Text.Letter

/-!
# Reading JSON text

A reader takes the characters from where it stands and answers a value and the
characters after it. On failure it answers the characters from the place of
failure on, so that the offset of a failure is the length of what stands before.

A number written with a point or an exponent is a float, any other an integer.
The last of two fields with one key counts. Limits may be set to the digits of
an integer and to the depth of arrays and objects; what exceeds them is refused
as soon as it is met.
-/

namespace VegaAxes.Json

structure ReadLimits where
  /-- The most digits that an integer may have. -/
  digits : Nat
  /-- The most arrays and objects that may stand in one another. -/
  depth : Nat
deriving DecidableEq, Repr

inductive ReadFailure where
  /-- From the first character that does not fit. -/
  | unexpected (rest : List Char)
  | beyondLimits

abbrev ReadResult (α : Type) := Except ReadFailure (α × List Char)

def unexpected (rest : List Char) : ReadResult α :=
  .error (.unexpected rest)

def isJsonBlank (c : Char) : Bool :=
  c == ' ' || c == '\t' || c == '\n' || c == '\r'

def skipBlanks (cs : List Char) : List Char :=
  cs.dropWhile isJsonBlank

def hexValue? (c : Char) : Option Nat :=
  if '0' ≤ c ∧ c ≤ '9' then some (c.toNat - 48)
  else if 'a' ≤ c ∧ c ≤ 'f' then some (c.toNat - 87)
  else if 'A' ≤ c ∧ c ≤ 'F' then some (c.toNat - 55)
  else none

def unit? (a b c d : Char) : Option Nat := do
  return (((← hexValue? a) * 16 + (← hexValue? b)) * 16 + (← hexValue? c)) * 16 + (← hexValue? d)

def letterEscape? : Char → Option Char
  | '"' => some '"'
  | '\\' => some '\\'
  | '/' => some '/'
  | 'b' => some '\x08'
  | 'f' => some '\x0c'
  | 'n' => some '\n'
  | 'r' => some '\r'
  | 't' => some '\t'
  | _ => none

/-- The letter before characters that have been read, the last one first. -/
def pushLetter (letter : Text.Letter) (read : List Char) : List Char :=
  letter.chars.reverse ++ read

/-- The characters of a text after its opening quote, which stands at the head of `start`. -/
def readChars (start : List Char) (read : List Char) : List Char → ReadResult String
  | [] => unexpected start
  | '"' :: rest => .ok (String.ofList read.reverse, rest)
  | ['\\'] => unexpected start
  | '\\' :: 'u' :: a :: b :: c :: d :: e :: rest =>
    match unit? a b c d with
    | none => unexpected ('u' :: a :: b :: c :: d :: e :: rest)
    | some high =>
      match e, rest with
      | '\\', 'u' :: p :: q :: r :: s :: t :: rest =>
        if 0xd800 ≤ high ∧ high < 0xdc00 then
          match unit? p q r s with
          | none => unexpected ('u' :: p :: q :: r :: s :: t :: rest)
          | some low =>
            match Text.Letter.ofPair? high low with
            | some letter => readChars start (pushLetter letter read) (t :: rest)
            | none =>
              readChars start (pushLetter (.ofUnit high) read)
                ('\\' :: 'u' :: p :: q :: r :: s :: t :: rest)
        else
          readChars start (pushLetter (.ofUnit high) read)
            ('\\' :: 'u' :: p :: q :: r :: s :: t :: rest)
      | e, rest => readChars start (pushLetter (.ofUnit high) read) (e :: rest)
  | '\\' :: 'u' :: rest => unexpected ('u' :: rest)
  | '\\' :: c :: rest =>
    match letterEscape? c with
    | some c => readChars start (c :: read) rest
    | none => unexpected ('\\' :: c :: rest)
  | c :: rest =>
    if c.toNat < 0x20 then unexpected (c :: rest) else readChars start (c :: read) rest

def readFraction : List Char → List Char × List Char
  | '.' :: d :: rest =>
    if Decimal.isDigit d then (d :: rest.takeWhile Decimal.isDigit, rest.dropWhile Decimal.isDigit)
    else ([], '.' :: d :: rest)
  | cs => ([], cs)

def readExponentPart? : List Char → Option (Int × List Char)
  | e :: cs =>
    let (negative, cs) := Decimal.signed cs
    let digits := cs.takeWhile Decimal.isDigit
    if (e == 'e' || e == 'E') && !digits.isEmpty then
      let n : Int := Decimal.ofDigits digits
      some (if negative then -n else n, cs.dropWhile Decimal.isDigit)
    else none
  | [] => none

def readWhole : List Char → Option (List Char × List Char)
  | '0' :: rest => some (['0'], rest)
  | d :: rest =>
    if Decimal.isDigit d then
      some (d :: rest.takeWhile Decimal.isDigit, rest.dropWhile Decimal.isDigit)
    else none
  | [] => none

def readNumber (maxDigits : Nat) (start : List Char) : ReadResult Json :=
  let (negative, cs) := match start with
    | '-' :: cs => (true, cs)
    | cs => (false, cs)
  match readWhole cs with
  | none => unexpected start
  | some (digits, cs) =>
    let (fraction, cs) := readFraction cs
    match readExponentPart? cs with
    | some (e, cs) =>
      .ok (float (Decimal.toFloat negative (Decimal.ofDigits (digits ++ fraction))
        (e - fraction.length)), cs)
    | none =>
      if fraction.isEmpty then
        if maxDigits < digits.length then .error .beyondLimits else
        let n : Int := Decimal.ofDigits digits
        .ok (int (if negative then -n else n), cs)
      else
        .ok (float (Decimal.toFloat negative (Decimal.ofDigits (digits ++ fraction))
          (-(fraction.length : Int))), cs)

mutual
/-- Every call uses up a character before it reads a part of its value, so a
fuel above the number of characters is never used up. -/
def readValue (limits : ReadLimits) : (fuel depth : Nat) → List Char → ReadResult Json
  | 0, _, cs => unexpected cs
  | fuel + 1, depth, cs =>
    match cs with
    | '"' :: rest => (readChars cs [] rest).map fun (s, rest) => (str s, rest)
    | '{' :: rest =>
      if limits.depth ≤ depth then .error .beyondLimits else
      match skipBlanks rest with
      | '}' :: rest => .ok (obj [], rest)
      | rest => readFields limits fuel (depth + 1) [] rest
    | '[' :: rest =>
      if limits.depth ≤ depth then .error .beyondLimits else
      match skipBlanks rest with
      | ']' :: rest => .ok (arr [], rest)
      | rest => readItems limits fuel (depth + 1) [] rest
    | 'n' :: 'u' :: 'l' :: 'l' :: rest => .ok (null, rest)
    | 't' :: 'r' :: 'u' :: 'e' :: rest => .ok (bool true, rest)
    | 'f' :: 'a' :: 'l' :: 's' :: 'e' :: rest => .ok (bool false, rest)
    | 'N' :: 'a' :: 'N' :: rest => .ok (float (0 / 0), rest)
    | 'I' :: 'n' :: 'f' :: 'i' :: 'n' :: 'i' :: 't' :: 'y' :: rest => .ok (float (1 / 0), rest)
    | '-' :: 'I' :: 'n' :: 'f' :: 'i' :: 'n' :: 'i' :: 't' :: 'y' :: rest =>
      .ok (float (-(1 / 0)), rest)
    | cs => readNumber limits.digits cs
def readItems (limits : ReadLimits) : (fuel depth : Nat) → (read : List Json) → List Char →
    ReadResult Json
  | 0, _, _, cs => unexpected cs
  | fuel + 1, depth, read, cs =>
    match readValue limits fuel depth cs with
    | .error failure => .error failure
    | .ok (v, rest) =>
      match skipBlanks rest with
      | ']' :: rest => .ok (arr (v :: read).reverse, rest)
      | ',' :: rest => readItems limits fuel depth (v :: read) (skipBlanks rest)
      | rest => unexpected rest
def readFields (limits : ReadLimits) : (fuel depth : Nat) → (read : Fields) → List Char →
    ReadResult Json
  | 0, _, _, cs => unexpected cs
  | fuel + 1, depth, read, cs =>
    match cs with
    | '"' :: rest =>
      match readChars cs [] rest with
      | .error failure => .error failure
      | .ok (key, rest) =>
        match skipBlanks rest with
        | ':' :: rest =>
          match readValue limits fuel depth (skipBlanks rest) with
          | .error failure => .error failure
          | .ok (v, rest) =>
            match skipBlanks rest with
            | '}' :: rest => .ok (obj (read.set key v), rest)
            | ',' :: rest => readFields limits fuel depth (read.set key v) (skipBlanks rest)
            | rest => unexpected rest
        | rest => unexpected rest
    | cs => unexpected cs
end

def readAll (limits : ReadLimits) (cs : List Char) : Except ReadFailure Json :=
  match readValue limits (2 * cs.length + 2) 0 (skipBlanks cs) with
  | .error failure => .error failure
  | .ok (v, rest) =>
    match skipBlanks rest with
    | [] => .ok v
    | rest => .error (.unexpected rest)

def ReadLimits.none (text : String) : ReadLimits :=
  ⟨text.length, text.length⟩

inductive Unreadable where
  | unexpected (offset : Nat)
  | beyondLimits
deriving DecidableEq, Repr

def read (text : String) (limits : ReadLimits := .none text) : Except Unreadable Json :=
  let cs := text.toList
  match readAll limits cs with
  | .ok v => .ok v
  | .error .beyondLimits => .error .beyondLimits
  | .error (.unexpected rest) =>
    .error (.unexpected (Text.Letter.ofChars (cs.take (cs.length - rest.length))).length)

example : (read "[1, 2.0]").toOption = some (arr [int 1, float 2]) := by decide +kernel
example :
    (match read "[\x7d" with | .ok _ => none | .error e => some e) = some (.unexpected 1) := by
  decide +kernel
example : (match read "[[]]" ⟨9, 1⟩ with | .ok _ => none | .error e => some e) =
    some .beyondLimits := by decide +kernel

end VegaAxes.Json
