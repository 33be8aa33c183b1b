import VegaAxes.Text.Letter

/-!
# Bytes of JSON text

JSON text is sent in one of three encoding forms. It starts with ASCII, so that
the zeros among its first four bytes tell the form. `received?` is the text that
is read where another one was sent in the eight-bit form.
-/

namespace VegaAxes.Json.Bytes

open Text (Letter)

inductive Form where
  | utf8
  | utf16 (bigEndian : Bool)
  | utf32 (bigEndian : Bool)
deriving DecidableEq, Repr

def form : List Nat → Form
  | 0 :: 0 :: _ :: _ :: _ => .utf32 true
  | 0 :: _ :: _ :: _ :: _ => .utf16 true
  | _ :: 0 :: 0 :: 0 :: _ => .utf32 false
  | _ :: 0 :: _ :: _ :: _ => .utf16 false
  | [0, _] => .utf16 true
  | [_, 0] => .utf16 false
  | _ => .utf8

def utf8 (code : Nat) : List Nat :=
  let last := fun n => 0x80 + n % 0x40
  if code < 0x80 then [code]
  else if code < 0x800 then [0xc0 + code / 0x40, last code]
  else if code < 0x10000 then [0xe0 + code / 0x1000, last (code / 0x40), last code]
  else [0xf0 + code / 0x40000, last (code / 0x1000), last (code / 0x40), last code]

def ofLetters (letters : List Letter) : List Nat :=
  letters.flatMap fun letter => utf8 letter.code

def pairs? (bigEndian : Bool) : List Nat → Option (List Nat)
  | [] => some []
  | a :: b :: bytes =>
    (pairs? bigEndian bytes).map ((if bigEndian then a * 0x100 + b else b * 0x100 + a) :: ·)
  | _ => none

def quads? (bigEndian : Bool) : List Nat → Option (List Nat)
  | [] => some []
  | a :: b :: units =>
    (quads? bigEndian units).map ((if bigEndian then a * 0x10000 + b else b * 0x10000 + a) :: ·)
  | _ => none

/-- The text that is read where the bytes of `sent` come in. A byte order mark is no part of it. -/
def received? (sent : List Letter) : Option (List Letter) :=
  match form (ofLetters (sent.take 4)) with
  | .utf8 => some (if sent.head? = some (.char '\ufeff') then sent.tail else sent)
  | .utf16 bigEndian => (pairs? bigEndian (ofLetters sent)).map Letter.ofUnits
  | .utf32 bigEndian => do
    let codes ← quads? bigEndian (← pairs? bigEndian (ofLetters sent))
    codes.mapM Letter.ofCode?

example : received? [.char '1', .char '\x00'] = some [.char '1'] := by decide +kernel
example : received? [.char '\x00', .char '1', .char '\x00'] =
    some [.char '\x00', .char '1', .char '\x00'] := by
  decide +kernel

end VegaAxes.Json.Bytes
