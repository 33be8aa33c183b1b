/-!
# Literals in expressions

An expression is read from the front: a single quote opens a literal, which ends at the next
single quote that no backslash escapes, and everything else is code. A text between quotes is read
as a literal that is the text itself, with the rest of the expression as it stands, exactly if it
has no quote and no backslash (`ReadsAs.literal_iff`): without them it reads so
(`piecesFrom_plain`), and a literal that takes just the place of the text has none
(`plain_of_piecesFrom`).
-/

namespace VegaAxes.Text

inductive Piece where
  | code (c : Char)
  | literal (text : List Char)
deriving DecidableEq, Repr

/-- The pieces of an expression from where a literal has been read up to a text, or none is open. A
literal that does not end has no reading. `unescaped` is what an escaped character stands for. -/
def piecesFrom (unescaped : Char → Char) : Option (List Char) → List Char → Option (List Piece)
  | none, [] => some []
  | none, '\'' :: cs => piecesFrom unescaped (some []) cs
  | none, c :: cs => (piecesFrom unescaped none cs).map (.code c :: ·)
  | some _, [] => none
  | some text, '\'' :: cs => (piecesFrom unescaped none cs).map (.literal text :: ·)
  | some _, ['\\'] => none
  | some text, '\\' :: c :: cs => piecesFrom unescaped (some (text ++ [unescaped c])) cs
  | some text, c :: cs => piecesFrom unescaped (some (text ++ [c])) cs

def pieces (unescaped : Char → Char) (expression : String) : Option (List Piece) :=
  piecesFrom unescaped none expression.toList

def Plain (cs : List Char) : Prop :=
  '\'' ∉ cs ∧ '\\' ∉ cs

instance (cs : List Char) : Decidable (Plain cs) :=
  inferInstanceAs (Decidable (_ ∧ _))

def between (cs : List Char) : List Char :=
  '\'' :: cs ++ ['\'']

variable {unescaped : Char → Char} {c : Char} {cs rest text : List Char} {read : Option (List Char)}
  {ps : List Piece}

theorem plain_cons : Plain (c :: cs) ↔ c ≠ '\'' ∧ c ≠ '\\' ∧ Plain cs := by
  simp only [Plain, List.mem_cons, not_or, ne_eq, eq_comm (a := c)]
  exact ⟨fun ⟨⟨hquote, hq⟩, hescape, he⟩ => ⟨hquote, hescape, hq, he⟩,
    fun ⟨hquote, hescape, hq, he⟩ => ⟨⟨hquote, hq⟩, hescape, he⟩⟩

theorem piecesFrom_code (h : c ≠ '\'') :
    piecesFrom unescaped none (c :: cs) = (piecesFrom unescaped none cs).map (.code c :: ·) := by
  rw [piecesFrom]
  exact fun heq => absurd heq h

theorem piecesFrom_letter (hquote : c ≠ '\'') (hescape : c ≠ '\\') :
    piecesFrom unescaped (some text) (c :: cs) = piecesFrom unescaped (some (text ++ [c])) cs := by
  rw [piecesFrom]
  all_goals simp_all

theorem piecesFrom_codes (h : '\'' ∉ cs) :
    piecesFrom unescaped none (cs ++ rest) =
      (piecesFrom unescaped none rest).map (cs.map .code ++ ·) := by
  induction cs with
  | nil => simp
  | cons c cs ih =>
    rw [List.mem_cons, not_or] at h
    rw [List.cons_append, piecesFrom_code (Ne.symm h.1), ih h.2, Option.map_map]
    rfl

theorem piecesFrom_open (cs : List Char) :
    piecesFrom unescaped none (between cs ++ rest) =
      piecesFrom unescaped (some []) (cs ++ '\'' :: rest) := by
  rw [between, List.cons_append, List.cons_append, List.append_assoc, List.singleton_append,
    piecesFrom]

/-- What is open as a literal goes on with a plain text, up to the quote after it. -/
theorem piecesFrom_plain (h : Plain cs) :
    piecesFrom unescaped (some text) (cs ++ '\'' :: rest) =
      (piecesFrom unescaped none rest).map (.literal (text ++ cs) :: ·) := by
  induction cs generalizing text with
  | nil => rw [List.nil_append, List.append_nil, piecesFrom]
  | cons c cs ih =>
    obtain ⟨hquote, hescape, h⟩ := plain_cons.mp h
    rw [List.cons_append, piecesFrom_letter hquote hescape, ih h, List.append_assoc,
      List.singleton_append]

-- ---------------------------------------------------------------------------
-- Nothing else reads as itself
-- ---------------------------------------------------------------------------

/-- The characters that the pieces take if nothing in them is escaped. -/
def Piece.width : Piece → Nat
  | .code _ => 1
  | .literal text => text.length + 2

def width : List Piece → Nat
  | [] => 0
  | p :: ps => p.width + width ps

@[simp] theorem width_nil : width [] = 0 := rfl

@[simp] theorem width_cons (p : Piece) (ps : List Piece) : width (p :: ps) = p.width + width ps :=
  rfl

@[simp] theorem width_append (ps qs : List Piece) : width (ps ++ qs) = width ps + width qs := by
  induction ps with
  | nil => simp
  | cons p ps ih => simp [ih, Nat.add_assoc]

@[simp] theorem width_codes (cs : List Char) : width (cs.map .code) = cs.length := by
  induction cs with
  | nil => rfl
  | cons c cs ih =>
    rw [List.map_cons, width_cons, ih, Piece.width, List.length_cons, Nat.add_comm]

def openWidth : Option (List Char) → Nat
  | none => 0
  | some text => text.length + 1

theorem width_le (h : piecesFrom unescaped read cs = some ps) :
    width ps ≤ openWidth read + cs.length := by
  fun_induction piecesFrom unescaped read cs generalizing ps with
  | case1 =>
    cases h
    exact Nat.le_refl 0
  | case2 cs ih =>
    have := ih h
    simp only [openWidth, List.length_nil, List.length_cons] at this ⊢
    omega
  | case3 c cs hc ih =>
    obtain ⟨qs, hqs, rfl⟩ := Option.map_eq_some_iff.mp h
    have := ih hqs
    simp only [openWidth, width_cons, Piece.width, List.length_cons] at this ⊢
    omega
  | case4 => cases h
  | case5 text cs ih =>
    obtain ⟨qs, hqs, rfl⟩ := Option.map_eq_some_iff.mp h
    have := ih hqs
    simp only [openWidth, width_cons, Piece.width, List.length_cons] at this ⊢
    omega
  | case6 => cases h
  | case7 text c cs ih =>
    have := ih h
    simp only [openWidth, List.length_append, List.length_cons, List.length_nil] at this ⊢
    omega
  | case8 text c cs hquote hescape hescaped ih =>
    have := ih h
    simp only [openWidth, List.length_append, List.length_cons, List.length_nil] at this ⊢
    omega

/-- A literal that is the text itself and leaves the rest of the expression its place has no quote
that would end it early, and no escape. -/
theorem plain_of_piecesFrom
    (h : piecesFrom unescaped (some text) (cs ++ '\'' :: rest) = some (.literal (text ++ cs) :: ps))
    (hrest : width ps = rest.length) : Plain cs := by
  induction cs generalizing text with
  | nil => decide
  | cons c cs ih =>
    by_cases hquote : c = '\''
    · subst hquote
      rw [List.cons_append, piecesFrom] at h
      obtain ⟨qs, -, hqs⟩ := Option.map_eq_some_iff.mp h
      have htext : text = text ++ '\'' :: cs := Piece.literal.inj (List.cons.inj hqs).1
      exact absurd htext (by simp)
    · by_cases hescape : c = '\\'
      · subst hescape
        -- an escape takes two characters for the one that it is
        have htotal : width (.literal (text ++ '\\' :: cs) :: ps) ≤
            text.length + 1 + cs.length + rest.length + 1 := by
          cases cs with
          | nil =>
            rw [List.cons_append, List.nil_append, piecesFrom] at h
            have := width_le h
            simp only [openWidth, List.length_append, List.length_cons, List.length_nil] at this ⊢
            omega
          | cons d cs =>
            rw [List.cons_append, List.cons_append, piecesFrom] at h
            have := width_le h
            simp only [openWidth, List.length_append, List.length_cons, List.length_nil] at this ⊢
            omega
        simp only [width_cons, Piece.width, List.length_append, List.length_cons, hrest] at htotal
        omega
      · rw [List.cons_append, piecesFrom_letter hquote hescape, List.append_cons text c cs] at h
        exact plain_cons.mpr ⟨hquote, hescape, ih h⟩

-- ---------------------------------------------------------------------------
-- Parts of expressions
-- ---------------------------------------------------------------------------

/-- Whatever follows, a part of an expression is read as these pieces, and nothing in it
is escaped. -/
structure ReadsAs (unescaped : Char → Char) (cs : List Char) (ps : List Piece) : Prop where
  reads : ∀ rest, piecesFrom unescaped none (cs ++ rest) =
    (piecesFrom unescaped none rest).map (ps ++ ·)
  width_eq : width ps = cs.length

theorem ReadsAs.append {ds : List Char} {qs : List Piece} (h : ReadsAs unescaped cs ps)
    (h' : ReadsAs unescaped ds qs) : ReadsAs unescaped (cs ++ ds) (ps ++ qs) where
  reads rest := by
    rw [List.append_assoc, h.reads, h'.reads, Option.map_map]
    simp only [Function.comp_def, List.append_assoc]
  width_eq := by rw [width_append, h.width_eq, h'.width_eq, List.length_append]

theorem readsAs_codes (h : '\'' ∉ cs) : ReadsAs unescaped cs (cs.map .code) where
  reads _ := piecesFrom_codes h
  width_eq := width_codes cs

theorem readsAs_between (h : Plain cs) : ReadsAs unescaped (between cs) [.literal cs] where
  reads rest := by
    rw [piecesFrom_open, piecesFrom_plain h]
    rfl
  width_eq := by
    simp only [width_cons, width_nil, Piece.width, between, List.length_append, List.length_cons,
      List.length_nil]

/-- Between two parts that read as they should, a text in quotes is the literal of this text
exactly if it is plain. -/
theorem ReadsAs.literal_iff {before after : List Char} {ps qs : List Piece}
    (h : ReadsAs unescaped before ps) (h' : ReadsAs unescaped after qs) :
    piecesFrom unescaped none (before ++ (between cs ++ after)) = some (ps ++ .literal cs :: qs) ↔
      Plain cs := by
  rw [h.reads]
  constructor
  · intro hread
    obtain ⟨rs, hrs, heq⟩ := Option.map_eq_some_iff.mp hread
    obtain rfl := List.append_cancel_left heq
    rw [piecesFrom_open] at hrs
    exact plain_of_piecesFrom hrs h'.width_eq
  · intro hplain
    have hafter := h'.reads []
    rw [List.append_nil, piecesFrom, Option.map_some, List.append_nil] at hafter
    rw [(readsAs_between hplain).reads, hafter]
    rfl

end VegaAxes.Text
