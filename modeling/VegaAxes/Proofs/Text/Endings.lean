/-!
# Names that end in words

Where no word of a list is the end of another, a name that ends in one of them tells its stem and
its word apart (`NoneEnds.append_inj`). Numbers within names can be read back (`toString_inj`,
`numbered_inj`). Texts that open with different letters are different (`OpensWith.ne`).
-/

namespace VegaAxes.Text

variable {words : List String} {a b x y : String} {c d : Char} {m n : Nat}

/-- No word of the list is the end of another. -/
def NoneEnds (words : List String) : Prop :=
  ∀ x ∈ words, ∀ y ∈ words, x.toList <:+ y.toList → x = y

instance (words : List String) : Decidable (NoneEnds words) :=
  inferInstanceAs (Decidable (∀ x ∈ words, ∀ y ∈ words, x.toList <:+ y.toList → x = y))

/-- A name with a stem ends in no other word than its own. -/
theorem NoneEnds.suffix_iff (h : NoneEnds words) (hx : x ∈ words) (hy : y ∈ words) :
    x.toList <:+ (a ++ y).toList ↔ x = y := by
  rw [String.toList_append]
  constructor
  · intro hsuffix
    rcases List.suffix_or_suffix_of_suffix hsuffix (List.suffix_append _ _) with hxy | hyx
    · exact h x hx y hy hxy
    · exact (h y hy x hx hyx).symm
  · rintro rfl
    exact List.suffix_append _ _

theorem NoneEnds.append_inj (h : NoneEnds words) (hx : x ∈ words) (hy : y ∈ words)
    (heq : a ++ x = b ++ y) : a = b ∧ x = y := by
  have hword : x = y := by
    refine (h.suffix_iff (a := b) hx hy).mp ?_
    rw [← heq, String.toList_append]
    exact List.suffix_append _ _
  subst hword
  exact ⟨(String.append_left_inj x).mp heq, rfl⟩

def joined (part : String × String) : String :=
  part.1 ++ part.2

theorem joined_ne_empty {part : String × String} (h : part.2 ≠ "") : joined part ≠ "" := by
  intro hempty
  have hlist : part.1.toList ++ part.2.toList = [] := by
    rw [← String.toList_append]
    exact congrArg String.toList hempty
  exact h (String.toList_inj.mp (List.append_eq_nil_iff.mp hlist).2)

/-- Different stems or words make different names. -/
theorem nodup_joined {parts : List (String × String)} (h : NoneEnds words)
    (hwords : ∀ part ∈ parts, part.2 ∈ words) (hparts : parts.Nodup) :
    (parts.map joined).Nodup := by
  refine List.pairwise_map.mpr (List.Pairwise.imp_of_mem (fun hp hq hne heq => hne ?_) hparts)
  obtain ⟨hstem, hword⟩ := h.append_inj (hwords _ hp) (hwords _ hq) heq
  exact Prod.ext hstem hword

-- ---------------------------------------------------------------------------
-- First letters
-- ---------------------------------------------------------------------------

def OpensWith (c : Char) (x : String) : Prop :=
  x.toList.head? = some c

theorem OpensWith.append (h : OpensWith c x) : OpensWith c (x ++ y) := by
  rw [OpensWith, String.toList_append, List.head?_append, h]
  rfl

theorem OpensWith.ne (h : OpensWith c x) (h' : OpensWith d y) (hne : c ≠ d) : x ≠ y := by
  rintro rfl
  exact hne (Option.some.inj (h.symm.trans h'))

-- ---------------------------------------------------------------------------
-- Numbers
-- ---------------------------------------------------------------------------

theorem toDigits_inj (h : Nat.toDigits 10 m = Nat.toDigits 10 n) : m = n := by
  have hread := congrArg (fun digits => Nat.ofDigitChars 10 digits 0) h
  simpa only [Nat.ofDigitChars_ten_toDigits] using hread

theorem toString_inj (h : toString m = toString n) : m = n := by
  have hdigits := congrArg String.toList h
  rw [Nat.toString_eq_repr, Nat.toString_eq_repr, Nat.toList_repr, Nat.toList_repr] at hdigits
  exact toDigits_inj hdigits

/-- A number ends where the next letter is no digit. -/
theorem numbered_inj {xs ys : List Char} (hc : c.isDigit = false)
    (h : (toString m).toList ++ c :: xs = (toString n).toList ++ c :: ys) : m = n := by
  have hdigits (n : Nat) (zs : List Char) :
      ((toString n).toList ++ c :: zs).takeWhile Char.isDigit = (toString n).toList := by
    rw [Nat.toString_eq_repr, Nat.toList_repr, List.takeWhile_append_of_pos, List.takeWhile_cons]
    · simp [hc]
    · exact fun d hd => Nat.isDigit_of_mem_toDigits (by decide) (by decide) hd
  have hnumber := congrArg (List.takeWhile Char.isDigit) h
  rw [hdigits, hdigits] at hnumber
  exact toString_inj (String.toList_inj.mp hnumber)

end VegaAxes.Text
