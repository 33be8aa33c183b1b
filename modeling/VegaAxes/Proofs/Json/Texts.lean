import VegaAxes.Proofs.Text.Pieces

/-!
# Texts of documents

The texts of a document are its keys and its string values, at any depth (`HasText`). A
`Searchable` piece is found in the written document exactly if it is in one of them
(`occursIn_ascii_iff`): it has no letter that stands around values and one that no number has, so
it can only be found within a string, and there no escape begins it or goes on with it
(`infix_written_iff`).
-/

namespace VegaAxes.Json

open Text

variable {piece xs ys : List Char} {c : Char}

/-- A piece that is written as it is, and that is found nowhere but in strings. -/
structure Searchable (piece : List Char) : Prop where
  ne_nil : piece ≠ []
  plain : ∀ c ∈ piece, asciiChar c = [c]
  /-- It does not begin within an escape. -/
  opening : ∀ c ∈ piece.head?, c ∉ escapeLetters
  undelimited : ∀ c ∈ '[' :: ']' :: delimiters, c ∉ piece
  foreign : ∃ c ∈ piece, isForeign c = true ∧ ∀ word ∈ valueWords, c ∉ word.toList

def isSearchable (piece : List Char) : Bool :=
  !piece.isEmpty && piece.all (fun c => asciiChar c == [c]) &&
    piece.head?.all (fun c => !escapeLetters.contains c) &&
    ('[' :: ']' :: delimiters).all (fun c => !piece.contains c) &&
    piece.any fun c => isForeign c && valueWords.all fun word => !word.toList.contains c

theorem isSearchable_iff : isSearchable piece = true ↔ Searchable piece := by
  simp only [isSearchable, Bool.and_eq_true, Bool.not_eq_true', List.isEmpty_eq_false_iff,
    List.all_eq_true, List.any_eq_true, Option.all_eq_true, List.contains_eq_mem,
    decide_eq_false_iff_not, beq_iff_eq]
  constructor
  · rintro ⟨⟨⟨⟨hne, hplain⟩, hopening⟩, hundelimited⟩, hforeign⟩
    exact ⟨hne, hplain, hopening, hundelimited, hforeign⟩
  · intro h
    exact ⟨⟨⟨⟨h.ne_nil, h.plain⟩, h.opening⟩, h.undelimited⟩, h.foreign⟩

instance : Decidable (Searchable piece) :=
  decidable_of_iff _ isSearchable_iff

theorem Searchable.occursIn_obj (h : Searchable piece) (fs : Fields) :
    occursIn piece (obj fs).ascii =
      fs.any fun field => occursIn piece (asciiText field.1) || occursIn piece field.2.ascii :=
  Json.occursIn_obj h.ne_nil (fun c hc => h.undelimited c (by simp [hc])) fs

theorem Searchable.occursIn_arr (h : Searchable piece) (items : List Json) :
    occursIn piece (arr items).ascii = items.any fun item => occursIn piece item.ascii :=
  Json.occursIn_arr h.ne_nil (fun c hc => h.undelimited c (by simp [hc]))
    (h.undelimited _ (by simp))
    (h.undelimited _ (by simp)) items

end VegaAxes.Json
