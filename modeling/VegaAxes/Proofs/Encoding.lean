import VegaAxes.Encoding

/-!
# How lists of rules are read

Under a valuation of the tests the first rule wins that has none, or one that holds. Blanks that
are put before a list are what it says where one of their tests holds, and else it says what it
did (`reading_blanks_append`). A list that ends in its only rule without a test always says
something (`EndsInFallback.winner`), and each of its rules has its say, as long as rules with one
test are the same (`EndsInFallback.reached`) or every place has its own worth
(`EndsInFallback.reached_at`).
-/

namespace VegaAxes.Encoding

variable {holds : Json → Bool} {rule last : Json} {rules tested : List Json} {i : Nat}

def test? (rule : Json) : Option Json :=
  Fields.get? rule.ownFields "test"

/-- Whether the rule has no test, or one that holds. -/
def passes (holds : Json → Bool) (rule : Json) : Bool :=
  (test? rule).all holds

/-- The rule by which a list is read. -/
def winner (holds : Json → Bool) (rules : List Json) : Option Json :=
  rules.find? (passes holds)

/-- The place of the rule that wins where each place says what its test is worth. -/
def winningPlace (holds : Nat → Bool) (rules : List Json) : Option Nat :=
  rules.zipIdx.findIdx? fun rule => passes (fun _ => holds rule.2) rule.1

def outcome : Json → Json
  | .obj fs => .obj (Fields.erase fs "test")
  | rule => rule

def reading (holds : Json → Bool) (rules : List Json) : Option Json :=
  (winner holds rules).map outcome

theorem test?_testedValue (test : String) (v : Json) :
    test? (testedValue test v) = some (.str test) :=
  rfl

theorem test?_testedSignal (test expression : String) :
    test? (testedSignal test expression) = some (.str test) :=
  rfl

theorem test?_signal (expression : String) : test? (signal expression) = none :=
  rfl

-- ---------------------------------------------------------------------------
-- Blanks
-- ---------------------------------------------------------------------------

def blanks (tests : List String) : List Json :=
  tests.map (testedValue · (.str ""))

theorem reading_blanks_append (holds : Json → Bool) (tests : List String) (rules : List Json) :
    reading holds (blanks tests ++ rules) =
      if tests.any fun test => holds (.str test) then some (text "") else reading holds rules := by
  induction tests with
  | nil => rfl
  | cons test tests ih =>
    have hfirst : passes holds (testedValue test (.str "")) = holds (.str test) := by
      rw [passes, test?_testedValue, Option.all_some]
    unfold reading winner at ih ⊢
    rw [blanks, List.map_cons, List.cons_append, List.find?_cons, hfirst, List.any_cons]
    cases holds (.str test) with
    | true => rfl
    | false => exact ih

-- ---------------------------------------------------------------------------
-- Fall-backs
-- ---------------------------------------------------------------------------

/-- The last rule has no test, and it is the only one. -/
def EndsInFallback (rules : List Json) : Prop :=
  ∃ tested last, rules = tested ++ [last] ∧ test? last = none ∧
    ∀ rule ∈ tested, (test? rule).isSome = true

theorem winner_append_singleton (h : test? last = none) :
    winner holds (tested ++ [last]) = some ((winner holds tested).getD last) := by
  have hlast : passes holds last = true := by
    rw [passes, h]
    rfl
  rw [winner, winner, List.find?_append, List.find?_cons, hlast]
  cases tested.find? (passes holds) <;> rfl

theorem EndsInFallback.winner (h : EndsInFallback rules) (holds : Json → Bool) :
    ∃ rule ∈ rules, winner holds rules = some rule := by
  obtain ⟨tested, last, rfl, hlast, -⟩ := h
  refine ⟨_, ?_, winner_append_singleton hlast⟩
  cases hfirst : Encoding.winner holds tested with
  | none => simp
  | some rule => simp [List.mem_of_find?_eq_some hfirst]

/-- Where only equal rules have the same test, each of them wins when just its own test holds. -/
theorem EndsInFallback.reached (h : EndsInFallback rules)
    (hsame : ∀ r ∈ rules, ∀ r' ∈ rules, test? r = test? r' → r = r') (hrule : rule ∈ rules) :
    Encoding.winner (fun test => test? rule = some test) rules = some rule := by
  obtain ⟨tested, last, rfl, hlast, htested⟩ := h
  rw [winner_append_singleton hlast, Option.some.injEq]
  -- a tested rule passes exactly if it is this one
  have hpasses : ∀ r ∈ tested, passes (fun test => test? rule = some test) r = true ↔ r = rule := by
    intro r hr
    obtain ⟨test, htest⟩ := Option.isSome_iff_exists.mp (htested r hr)
    rw [passes, htest, Option.all_some, decide_eq_true_iff, ← htest]
    exact ⟨fun heq => hsame r (by simp [hr]) rule hrule heq.symm, fun heq => heq ▸ rfl⟩
  cases hfirst : Encoding.winner _ tested with
  | some r => exact (hpasses r (List.mem_of_find?_eq_some hfirst)).mp (List.find?_some hfirst)
  | none =>
    rcases List.mem_append.mp hrule with hrule | hrule
    · exact absurd ((hpasses rule hrule).mpr rfl) (List.find?_eq_none.mp hfirst rule hrule)
    · exact (List.mem_singleton.mp hrule).symm

/-- Each rule wins when its test holds and no other one does. -/
theorem EndsInFallback.reached_at (h : EndsInFallback rules) (hi : i < rules.length) :
    winningPlace (fun place => place = i) rules = some i := by
  obtain ⟨tested, last, rfl, -, htested⟩ := h
  rw [winningPlace, List.findIdx?_eq_some_iff_getElem]
  refine ⟨by simpa using hi, ?_, fun j hj => ?_⟩
  · rw [List.getElem_zipIdx, Nat.zero_add, passes]
    cases test? (tested ++ [last])[i] <;> simp
  · have hlt : j < tested.length := by
      rw [List.length_append, List.length_singleton] at hi
      omega
    obtain ⟨test, htest⟩ := Option.isSome_iff_exists.mp (htested _ (List.getElem_mem hlt))
    rw [List.getElem_zipIdx, Nat.zero_add, passes, List.getElem_append_left hlt, htest]
    simpa using Nat.ne_of_lt hj

end VegaAxes.Encoding
