/-!
# Pieces and ends of texts

`occursIn_iff`: the search finds exactly the contiguous pieces. Numbers given as text
may stand between blanks, the characters with the White_Space property. Settings also
drop the four information separators.
-/

namespace VegaAxes.Text

def occursIn (piece : List Char) : List Char → Bool
  | [] => piece.isEmpty
  | c :: cs => piece.isPrefixOf (c :: cs) || occursIn piece cs

theorem occursIn_iff {piece cs : List Char} : occursIn piece cs = true ↔ piece <:+: cs := by
  induction cs with
  | nil => simp [occursIn]
  | cons c cs ih => simp [occursIn, ih, List.infix_cons_iff]

def contains (text piece : String) : Bool :=
  occursIn piece.toList text.toList

def startsWith (text : String) (c : Char) : Bool :=
  text.toList.head? == some c

def isBlank (c : Char) : Bool :=
  [(0x9, 0xd), (0x20, 0x20), (0x85, 0x85), (0xa0, 0xa0), (0x1680, 0x1680), (0x2000, 0x200a),
    (0x2028, 0x2029), (0x202f, 0x202f), (0x205f, 0x205f), (0x3000, 0x3000)].any
    fun range => range.1 ≤ c.toNat && c.toNat ≤ range.2

def isBlankOrSeparator (c : Char) : Bool :=
  isBlank c || (0x1c ≤ c.toNat && c.toNat ≤ 0x1f)

def trim (drop : Char → Bool) (cs : List Char) : List Char :=
  ((cs.dropWhile drop).reverse.dropWhile drop).reverse

example : trim isBlank [' ', 'a', ' ', 'b', '\n'] = ['a', ' ', 'b'] := by decide

end VegaAxes.Text
