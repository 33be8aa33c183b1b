/-!
# Letters of texts

A text of a JSON document may hold a surrogate without its partner, for which
there is no character. A `String` holds such a letter as two characters, a mark
and a stand-in, and the mark itself, where it is a letter, as two marks.
`ofChars_flatMap_chars`: the letters are found again in the characters.
-/

namespace VegaAxes.Text

inductive Letter where
  | char (c : Char)
  /-- The surrogate with this place among all surrogates. -/
  | surrogate (place : Fin 2048)
deriving DecidableEq

namespace Letter

def mark : Char :=
  Char.ofNat 0x10ffff

def standIn (place : Fin 2048) : Char :=
  Char.ofNat (0xf0000 + place.val)

def code : Letter → Nat
  | char c => c.toNat
  | surrogate place => 0xd800 + place.val

def isSurrogate : Letter → Bool
  | char _ => false
  | surrogate _ => true

def ofCode? (n : Nat) : Option Letter :=
  if 0xd800 ≤ n ∧ n < 0xe000 then some (surrogate (Fin.ofNat 2048 (n - 0xd800)))
  else if n < 0x110000 then some (char (Char.ofNat n))
  else none

def ofUnit (unit : Nat) : Letter :=
  (ofCode? unit).getD (char '\ufffd')

def ofPair? (high low : Nat) : Option Letter :=
  if 0xd800 ≤ high ∧ high < 0xdc00 ∧ 0xdc00 ≤ low ∧ low < 0xe000 then
    ofCode? (0x10000 + (high - 0xd800) * 0x400 + (low - 0xdc00))
  else none

def ofUnits : List Nat → List Letter
  | [] => []
  | [unit] => [ofUnit unit]
  | high :: low :: units =>
    match ofPair? high low with
    | some letter => letter :: ofUnits units
    | none => ofUnit high :: ofUnits (low :: units)

def chars : Letter → List Char
  | char c => if c = mark then [mark, mark] else [c]
  | surrogate place => [mark, standIn place]

def ofChars : List Char → List Letter
  | [] => []
  | [c] => [char c]
  | c :: d :: cs =>
    if c = mark then
      (if d = mark then char mark else surrogate (Fin.ofNat 2048 (d.toNat - 0xf0000))) :: ofChars cs
    else char c :: ofChars (d :: cs)

theorem toNat_standIn (place : Fin 2048) : (standIn place).toNat = 0xf0000 + place.val := by
  have h : (0xf0000 + place.val).isValidChar := Or.inr ⟨by omega, by omega⟩
  unfold standIn Char.ofNat
  rw [dif_pos h]
  exact UInt32.toNat_ofNatLT ..

theorem standIn_ne_mark (place : Fin 2048) : standIn place ≠ mark := by
  intro h
  have := congrArg Char.toNat h
  rw [toNat_standIn, show mark.toNat = 0x10ffff from rfl] at this
  omega

theorem ofChars_flatMap_chars (letters : List Letter) :
    ofChars (letters.flatMap chars) = letters := by
  induction letters with
  | nil => rfl
  | cons letter letters ih =>
    cases letter with
    | char c =>
      by_cases h : c = mark
      · simp [chars, h, ofChars, ih]
      · cases hr : letters.flatMap chars with
        | nil => rw [hr] at ih; simp [chars, h, ofChars, ← ih]
        | cons d ds => rw [hr] at ih; simp [chars, h, hr, ofChars, ih]
    | surrogate place =>
      simp [chars, ofChars, standIn_ne_mark, toNat_standIn, ih]

end Letter

def letters (s : String) : List Letter :=
  Letter.ofChars s.toList

def ofLetters (ls : List Letter) : String :=
  String.ofList (ls.flatMap Letter.chars)

@[simp] theorem letters_ofLetters (ls : List Letter) : letters (ofLetters ls) = ls := by
  simp [letters, ofLetters, Letter.ofChars_flatMap_chars]

/-- Whether every letter of the text is a character. -/
def isWhole (s : String) : Bool :=
  (letters s).all (!·.isSurrogate)

def codesLt (s t : String) : Bool :=
  decide ((letters s).map Letter.code < (letters t).map Letter.code)

example : isWhole "a" = true ∧ isWhole (ofLetters [.surrogate 0]) = false := by decide +kernel

end VegaAxes.Text
