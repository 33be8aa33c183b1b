import VegaAxes.Decimal.Text
import VegaAxes.Json.Access
import VegaAxes.Json.Ascii
import VegaAxes.Proofs.Attempt

/-!
# Pieces of written values

A piece that has none of the letters between the fields of an object is found in the
object's text exactly if it is found in a key or in a value (`occursIn_obj`); likewise for lists
(`occursIn_arr`). A piece with a letter that no number has is in the text of no number
(`not_mem_ascii`), and a string is written in its own letters and escapes (`mem_asciiText`).
-/

namespace VegaAxes

namespace Text

variable {piece xs ys : List Char} {c : Char}

theorem occursIn_nil (hne : piece ≠ []) : occursIn piece [] = false := by
  simpa [occursIn] using hne

theorem occursIn_append_cons (hne : piece ≠ []) (hc : c ∉ piece) :
    occursIn piece (xs ++ c :: ys) = (occursIn piece xs || occursIn piece ys) := by
  rw [Bool.eq_iff_iff, Bool.or_eq_true, occursIn_iff, occursIn_iff, occursIn_iff,
    List.infix_append_iff_ne_nil, List.infix_cons_iff]
  have hhead {p : List Char} (hp : p ≠ []) (hmem : ∀ d ∈ p, d ∈ piece) : ¬p <+: c :: ys := by
    intro h
    cases p with
    | nil => exact hp rfl
    | cons d p =>
      obtain ⟨rfl, -⟩ := List.cons_prefix_cons.mp h
      exact hc (hmem d (by simp))
  constructor
  · rintro (h | (h | h) | ⟨l₁, l₂, -, hl₂, rfl, -, h⟩)
    · exact .inl h
    · exact absurd h (hhead hne fun _ => id)
    · exact .inr h
    · exact absurd h (hhead hl₂ fun _ hd => List.mem_append_right _ hd)
  · rintro (h | h)
    · exact .inl h
    · exact .inr (.inl (.inr h))

theorem occursIn_of_not_mem (hc : c ∈ piece) (h : c ∉ xs) : occursIn piece xs = false := by
  rw [Bool.eq_false_iff, ne_eq, occursIn_iff]
  exact fun hpiece => h (hpiece.subset hc)

theorem not_mem_append {x y : String} (hx : c ∉ x.toList) (hy : c ∉ y.toList) :
    c ∉ (x ++ y).toList := by
  rw [String.toList_append, List.mem_append]
  exact not_or.mpr ⟨hx, hy⟩

namespace Letter

theorem mem_ofChars {letter : Letter} {cs : List Char} (h : letter ∈ ofChars cs) :
    (∃ c ∈ cs, letter = char c) ∨ ∃ place, letter = surrogate place := by
  fun_induction ofChars cs with
  | case1 => cases h
  | case2 c => exact .inl ⟨c, by simp, List.mem_singleton.mp h⟩
  | case3 d cs ih =>
    rcases List.mem_cons.mp h with rfl | h
    · split
      · exact .inl ⟨mark, by simp, rfl⟩
      · exact .inr ⟨_, rfl⟩
    · exact (ih h).imp_left fun ⟨c, hc, heq⟩ => ⟨c, by simp [hc], heq⟩
  | case4 c d cs hc ih =>
    rcases List.mem_cons.mp h with rfl | h
    · exact .inl ⟨c, by simp, rfl⟩
    · exact (ih h).imp_left fun ⟨c, hc, heq⟩ => ⟨c, List.mem_cons_of_mem _ hc, heq⟩

end Letter

end Text

namespace Json

open Text

variable {piece : List Char}

/-- The letters that stand around the fields of an object, and in no piece looked for. -/
def delimiters : List Char :=
  ['\x7b', '\x7d', ',', ':', ' ']

theorem occursIn_fields (hne : piece ≠ []) (hp : ∀ c ∈ delimiters, c ∉ piece) (fs : Fields) :
    occursIn piece (asciiFields fs) =
      fs.any fun field => occursIn piece (asciiText field.1) || occursIn piece field.2.ascii := by
  have hpair (k : String) (v : Json) :
      occursIn piece (asciiText k ++ ':' :: ' ' :: v.ascii) =
        (occursIn piece (asciiText k) || occursIn piece v.ascii) := by
    rw [occursIn_append_cons hne (hp _ (by simp [delimiters]))]
    rw [show ' ' :: v.ascii = [] ++ ' ' :: v.ascii from rfl,
      occursIn_append_cons hne (hp _ (by simp [delimiters]))]
    simp [occursIn_nil hne]
  induction fs with
  | nil => simp [asciiFields, occursIn_nil hne]
  | cons field fs ih =>
    obtain ⟨k, v⟩ := field
    cases fs with
    | nil => rw [asciiFields, hpair, List.any_cons, List.any_nil, Bool.or_false]
    | cons field fs =>
      rw [asciiFields, show asciiText k ++ ':' :: ' ' :: v.ascii ++ ',' :: ' ' ::
          asciiFields (field :: fs) =
        (asciiText k ++ ':' :: ' ' :: v.ascii) ++ ',' :: ([] ++ ' ' :: asciiFields (field :: fs)) by
          simp]
      · rw [occursIn_append_cons hne (hp _ (by simp [delimiters])), hpair,
          occursIn_append_cons hne (hp _ (by simp [delimiters])), ih, List.any_cons]
        simp [occursIn_nil hne]
      · simp

theorem occursIn_obj (hne : piece ≠ []) (hp : ∀ c ∈ delimiters, c ∉ piece) (fs : Fields) :
    occursIn piece (obj fs).ascii =
      fs.any fun field => occursIn piece (asciiText field.1) || occursIn piece field.2.ascii := by
  rw [ascii, show '\x7b' :: asciiFields fs ++ ['\x7d'] =
    [] ++ '\x7b' :: (asciiFields fs ++ '\x7d' :: []) from rfl,
    occursIn_append_cons hne (hp _ (by simp [delimiters])),
    occursIn_append_cons hne (hp _ (by simp [delimiters])), occursIn_fields hne hp]
  simp [occursIn_nil hne]

theorem occursIn_items (hne : piece ≠ []) (hp : ∀ c ∈ delimiters, c ∉ piece) (items : List Json) :
    occursIn piece (asciiItems items) = items.any fun item => occursIn piece item.ascii := by
  induction items with
  | nil => simp [asciiItems, occursIn_nil hne]
  | cons v items ih =>
    cases items with
    | nil => rw [asciiItems, List.any_cons, List.any_nil, Bool.or_false]
    | cons w items =>
      have hcomma : asciiItems (v :: w :: items) =
          v.ascii ++ ',' :: ([] ++ ' ' :: asciiItems (w :: items)) := by
        rw [asciiItems]
        · rfl
        · simp
      rw [hcomma, occursIn_append_cons hne (hp _ (by simp [delimiters])),
        occursIn_append_cons hne (hp _ (by simp [delimiters])), ih, occursIn_nil hne, Bool.false_or]
      rfl

theorem occursIn_arr (hne : piece ≠ []) (hp : ∀ c ∈ delimiters, c ∉ piece) (hopen : '[' ∉ piece)
    (hclose : ']' ∉ piece) (items : List Json) :
    occursIn piece (arr items).ascii = items.any fun item => occursIn piece item.ascii := by
  rw [ascii, show '[' :: asciiItems items ++ [']'] = [] ++ '[' :: (asciiItems items ++ ']' :: [])
    from rfl, occursIn_append_cons hne hopen, occursIn_append_cons hne hclose,
    occursIn_items hne hp]
  simp [occursIn_nil hne]

-- ---------------------------------------------------------------------------
-- Strings
-- ---------------------------------------------------------------------------

variable {c : Char}

def escapeLetters : List Char :=
  "\\\"nrtbfu0123456789abcdef".toList

theorem mem_hex {width n : Nat} (h : c ∈ hex width n) : c ∈ escapeLetters := by
  have hdigit (n : Nat) : hexDigit n ∈ escapeLetters := by
    have hall : ∀ k < 16, hexDigit k ∈ escapeLetters := by decide +kernel
    have heq : hexDigit n = hexDigit (n % 16) := by
      rw [hexDigit, hexDigit, Nat.mod_mod]
    exact heq ▸ hall _ (Nat.mod_lt _ (by decide))
  induction width generalizing n with
  | zero => cases h
  | succ width ih =>
    rcases List.mem_append.mp h with h | h
    · exact ih h
    · exact List.mem_singleton.mp h ▸ hdigit n

theorem mem_unitEscape {unit : Nat} (h : c ∈ unitEscape unit) : c ∈ escapeLetters := by
  rw [unitEscape, List.mem_cons, List.mem_cons] at h
  rcases h with rfl | rfl | h
  · decide
  · decide
  · exact mem_hex h

theorem asciiChar_cases (d : Char) : asciiChar d = [d] ∨
    ∃ cs, asciiChar d = '\\' :: cs ∧ ∀ c ∈ cs, c ∈ escapeLetters := by
  have hshort {e : Char} (he : e ∈ escapeLetters) :
      ∃ cs, ['\\', e] = '\\' :: cs ∧ ∀ c ∈ cs, c ∈ escapeLetters := ⟨[e], rfl, by simpa using he⟩
  unfold asciiChar
  split; · exact .inr (hshort (by decide))
  split; · exact .inr (hshort (by decide))
  split; · exact .inr (hshort (by decide))
  split; · exact .inr (hshort (by decide))
  split; · exact .inr (hshort (by decide))
  split; · exact .inr (hshort (by decide))
  split; · exact .inr (hshort (by decide))
  split; · exact .inl rfl
  split
  · exact .inr ⟨_, rfl, fun c hc => mem_unitEscape (List.mem_cons_of_mem _ hc)⟩
  · refine .inr ⟨_, rfl, fun c hc => ?_⟩
    rcases List.mem_append.mp hc with hc | hc
    · exact mem_unitEscape (List.mem_cons_of_mem _ hc)
    · exact mem_unitEscape hc

theorem mem_asciiChar {d : Char} (h : c ∈ asciiChar d) : c = d ∨ c ∈ escapeLetters := by
  rcases asciiChar_cases d with heq | ⟨cs, heq, hcs⟩
  · rw [heq] at h
    exact .inl (List.mem_singleton.mp h)
  · rw [heq] at h
    rcases List.mem_cons.mp h with rfl | h
    · exact .inr (by decide)
    · exact .inr (hcs c h)

theorem mem_asciiText {s : String} (h : c ∈ asciiText s) : c ∈ s.toList ∨ c ∈ escapeLetters := by
  rw [asciiText, List.cons_append, List.mem_cons, List.mem_append] at h
  rcases h with rfl | h | h
  · exact .inr (by decide)
  · obtain ⟨letter, hletter, h⟩ := List.mem_flatMap.mp h
    rcases Letter.mem_ofChars hletter with ⟨d, hd, rfl⟩ | ⟨place, rfl⟩
    · exact (mem_asciiChar h).imp_left fun heq : c = d => heq ▸ hd
    · exact .inr (mem_unitEscape h)
  · exact .inr (List.mem_singleton.mp h ▸ by decide)

-- ---------------------------------------------------------------------------
-- Numbers
-- ---------------------------------------------------------------------------

/-- Letters that no digit, sign or exponent has. -/
def isForeign (c : Char) : Bool :=
  !c.isDigit && c ∉ ['-', '+', '.', 'e']

variable {digits : List Char} {first : Int}

theorem not_mem_toDigits (hc : isForeign c = true) (n : Nat) : c ∉ Nat.toDigits 10 n := by
  intro h
  have hdigit := Nat.isDigit_of_mem_toDigits (by decide) (by decide) h
  simp [isForeign, hdigit] at hc

theorem not_mem_zeros (hc : isForeign c = true) (n : Nat) : c ∉ Decimal.zeros n := by
  intro h
  obtain rfl := (List.mem_replicate.mp h).2
  cases hc

theorem not_mem_positional (hc : isForeign c = true) (h : c ∉ digits) :
    c ∉ Decimal.positional digits first := by
  have hsign : c ≠ '.' ∧ c ≠ '0' := by
    refine ⟨?_, ?_⟩ <;> rintro rfl <;> cases hc
  have hzeros := not_mem_zeros hc
  have htake (n : Nat) : c ∉ digits.take n := fun hmem => h (List.mem_of_mem_take hmem)
  have hdrop (n : Nat) : c ∉ digits.drop n := fun hmem => h (List.mem_of_mem_drop hmem)
  unfold Decimal.positional
  split
  · simp [hsign, hzeros, h]
  · dsimp only
    split <;> simp [hsign, hzeros, htake, hdrop]

theorem not_mem_scientific {width : Nat} (hc : isForeign c = true) (h : c ∉ digits) :
    c ∉ Decimal.scientific width digits first := by
  have hsign : c ≠ '.' ∧ c ≠ 'e' ∧ c ≠ '-' ∧ c ≠ '+' := by
    refine ⟨?_, ?_, ?_, ?_⟩ <;> rintro rfl <;> cases hc
  have hzeros := not_mem_zeros hc
  have htake (n : Nat) : c ∉ digits.take n := fun hmem => h (List.mem_of_mem_take hmem)
  have htail : c ∉ digits.tail := fun hmem => h (List.mem_of_mem_tail hmem)
  have hexponent := not_mem_toDigits hc first.natAbs
  unfold Decimal.scientific
  dsimp only
  split <;> split <;> simp [hsign, hzeros, htake, htail, hexponent]

theorem not_mem_finite {style : Decimal.Style} (hc : isForeign c = true) (m : Nat) (q : Int) :
    c ∉ style.finite m q := by
  have hsign : c ≠ '.' ∧ c ≠ '0' := by
    refine ⟨?_, ?_⟩ <;> rintro rfl <;> cases hc
  unfold Decimal.Style.finite
  split
  · simp [hsign]
  · have hdigits (n : Nat) :
        c ∉ ((Nat.toDigits 10 n).reverse.dropWhile (· == '0')).reverse := by
      intro h
      rw [List.mem_reverse] at h
      exact not_mem_toDigits hc n (List.mem_reverse.mp ((List.dropWhile_sublist _).subset h))
    dsimp only
    split
    · exact not_mem_positional hc (hdigits _)
    · exact not_mem_scientific hc (hdigits _)

theorem not_mem_int (hc : isForeign c = true) (n : Int) : c ∉ (toString n).toList := by
  have hminus : c ≠ '-' := by
    rintro rfl
    cases hc
  rw [Int.toString_eq_repr, Int.repr_eq_if]
  split
  · rw [Nat.toList_repr]
    exact not_mem_toDigits hc _
  · rw [String.toList_append, Nat.toList_repr]
    simp [hminus, not_mem_toDigits hc]

theorem not_mem_float {style : Decimal.Style} (hc : isForeign c = true)
    (hnan : c ∉ style.nan.toList) (hinfinity : c ∉ style.infinity.toList) (x : Float) :
    c ∉ style.chars x := by
  have hsign : c ∉ (if Decimal.isNegative x then ['-'] else []) := by
    split
    · rintro (_ | ⟨_, ⟨⟩⟩)
      cases hc
    · simp
  rw [Decimal.Style.chars]
  split
  · exact hnan
  · exact fun h => (List.mem_append.mp h).elim hsign hinfinity
  · exact fun h => (List.mem_append.mp h).elim hsign (not_mem_finite hc _ _)

def valueWords : List String :=
  ["null", "true", "false", "NaN", "Infinity"]

theorem not_mem_ascii {v : Json} (hv : v = .null ∨ v.number?.isSome = true)
    (hc : isForeign c = true)
    (hwords : ∀ word ∈ valueWords, c ∉ word.toList) : c ∉ v.ascii := by
  simp only [valueWords, List.mem_cons, List.not_mem_nil, or_false, forall_eq_or_imp,
    forall_eq] at hwords
  obtain ⟨hnull, htrue, hfalse, hnan, hinfinity⟩ := hwords
  cases v with
  | null => exact hnull
  | bool flag =>
    cases flag
    · exact hfalse
    · exact htrue
  | int n => exact not_mem_int hc n
  | float x => exact not_mem_float hc hnan hinfinity x
  | _ => simp [number?] at hv

end Json

end VegaAxes
