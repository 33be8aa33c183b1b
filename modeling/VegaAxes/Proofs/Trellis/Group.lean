import VegaAxes.Trellis
import VegaAxes.Proofs.Attempt

/-!
# Where the trellis group is found

The search reads nothing but names (`findGroup?_congr`), finds an object
(`findGroup?_obj`), and in a list with more marks around it finds no other of the
marks within (`findGroup?_middle`).
-/

namespace VegaAxes.Trellis

variable {ms ns before after : List Json} {start place : Nat}

theorem findGroup?_congr (h : ns.map markName = ms.map markName) (start : Nat) :
    findGroup? start ns = findGroup? start ms := by
  induction ms generalizing ns start with
  | nil =>
    obtain rfl : ns = [] := by simpa using h
    rfl
  | cons m ms ih =>
    cases ns with
    | nil => simp at h
    | cons n ns =>
      obtain ⟨hname, hnames⟩ : markName n = markName m ∧ ns.map markName = ms.map markName := by
        simpa using h
      rw [findGroup?, findGroup?, hname, ih hnames]

theorem markName_object {m name : Json} (h : markName m = .ok name) : ∃ fs, m = .obj fs := by
  cases m with
  | obj fs => exact ⟨fs, rfl⟩
  | _ => cases h

theorem findGroup?_obj (h : findGroup? start ms = .ok (some place)) :
    start ≤ place ∧ ∃ g, ms[place - start]? = some (.obj g) := by
  induction ms generalizing start with
  | nil => simp [findGroup?] at h
  | cons m ms ih =>
    simp only [findGroup?, bind_ok] at h
    obtain ⟨name, hname, found, -, h⟩ := h
    cases found with
    | true =>
      obtain rfl : start = place := by simpa [pure_ok] using h
      obtain ⟨g, rfl⟩ := markName_object hname
      exact ⟨Nat.le_refl _, g, by simp⟩
    | false =>
      obtain ⟨hle, g, hg⟩ := ih h
      refine ⟨by omega, g, ?_⟩
      rwa [show place - start = place - (start + 1) + 1 by omega, List.getElem?_cons_succ]

theorem findGroup?_shift (start n : Nat) (ms : List Json) :
    findGroup? (start + n) ms = (findGroup? start ms).map (Option.map (· + n)) := by
  induction ms generalizing start with
  | nil => rfl
  | cons m ms ih =>
    rw [findGroup?, findGroup?]
    cases markName m with
    | error e => rfl
    | ok name =>
      cases hheld : name.holds "Trellis" with
      | error e => simp [bind, Except.bind, Except.map, hheld]
      | ok found =>
        cases found with
        | true => simp [bind, Except.bind, Except.map, pure, Except.pure, hheld]
        | false =>
          simp only [bind, Except.bind, hheld, Bool.false_eq_true, if_false]
          rw [Nat.add_right_comm, ih]

/-- A group found in two lists together is in the first, or is found in the second. -/
theorem findGroup?_append (h : findGroup? start (ms ++ ns) = .ok (some place)) :
    findGroup? start ms = .ok (some place) ∨
      findGroup? start ms = .ok none ∧ findGroup? (start + ms.length) ns = .ok (some place) := by
  induction ms generalizing start with
  | nil => exact .inr ⟨rfl, by simpa using h⟩
  | cons m ms ih =>
    rw [List.cons_append] at h
    simp only [findGroup?, bind_ok] at h ⊢
    obtain ⟨name, hname, found, hfound, h⟩ := h
    cases found with
    | true => exact .inl ⟨name, hname, true, hfound, h⟩
    | false =>
      rcases ih h with h | ⟨hnone, h⟩
      · exact .inl ⟨name, hname, false, hfound, h⟩
      · refine .inr ⟨⟨name, hname, false, hfound, hnone⟩, ?_⟩
        rw [List.length_cons, show start + (ms.length + 1) = start + 1 + ms.length by omega]
        exact h

theorem findGroup?_lt (h : findGroup? start ms = .ok (some place)) : place < start + ms.length := by
  obtain ⟨hle, g, hg⟩ := findGroup?_obj h
  have := (List.getElem?_eq_some_iff.mp hg).1
  omega

/-- Of the marks in the middle only their own group can be the group of the whole list. -/
theorem findGroup?_middle {i : Nat} (hi : i < ms.length)
    (h : findGroup? 0 (before ++ ms ++ after) = .ok (some (before.length + i))) :
    findGroup? 0 ms = .ok (some i) := by
  rw [List.append_assoc] at h
  rcases findGroup?_append h with h | ⟨-, h⟩
  · have := findGroup?_lt h
    omega
  rcases findGroup?_append h with h | ⟨-, h⟩
  · rw [findGroup?_shift] at h
    obtain ⟨found, hfound, heq⟩ := map_ok.mp h
    cases found with
    | none => cases heq
    | some j =>
      obtain rfl : j = i := by
        simp only [Option.map_some, Option.some.injEq] at heq
        omega
      exact hfound
  · have := (findGroup?_obj h).1
    omega

def Unmentioning (mark : Json) : Prop :=
  ∃ name, markName mark = .ok name ∧ name.holds "Trellis" = .ok false

theorem findGroup?_skip (h : ∀ m ∈ before, Unmentioning m) (start : Nat) :
    findGroup? start (before ++ ms) = findGroup? (start + before.length) ms := by
  induction before generalizing start with
  | nil => rfl
  | cons m before ih =>
    simp only [List.mem_cons, forall_eq_or_imp] at h
    obtain ⟨⟨name, hname, hheld⟩, hbefore⟩ := h
    rw [List.cons_append, findGroup?, hname, List.length_cons,
      show start + (before.length + 1) = start + 1 + before.length by omega, ← ih hbefore]
    simp only [bind, Except.bind, hheld, Bool.false_eq_true, if_false]

theorem findGroup?_none : findGroup? start ms = .ok none ↔ ∀ m ∈ ms, Unmentioning m := by
  constructor
  · intro h
    induction ms generalizing start with
    | nil => simp
    | cons m ms ih =>
      simp only [findGroup?, bind_ok] at h
      obtain ⟨name, hname, found, hheld, h⟩ := h
      cases found with
      | true => cases h
      | false =>
        simp only [List.mem_cons, forall_eq_or_imp]
        exact ⟨⟨name, hname, hheld⟩, ih h⟩
  · intro h
    have hskip : findGroup? start (ms ++ []) = .ok none := findGroup?_skip h start
    rwa [List.append_nil] at hskip

theorem findGroup?_append_plain {after : List Json} (h : ∀ m ∈ after, Unmentioning m) (start : Nat)
    (ms : List Json) : findGroup? start (ms ++ after) = findGroup? start ms := by
  induction ms generalizing start with
  | nil => exact findGroup?_none.mpr h
  | cons m ms ih => rw [List.cons_append, findGroup?, findGroup?, ih]

theorem findGroup?_append_left (h : findGroup? start ms = .ok (some place)) (ns : List Json) :
    findGroup? start (ms ++ ns) = .ok (some place) := by
  induction ms generalizing start with
  | nil => cases h
  | cons m ms ih =>
    simp only [List.cons_append, findGroup?, bind_ok] at h ⊢
    obtain ⟨name, hname, found, hfound, h⟩ := h
    refine ⟨name, hname, found, hfound, ?_⟩
    cases found with
    | true => exact h
    | false => exact ih h

/-- Among marks that say nothing of a trellis the search goes on as within the others. -/
theorem findGroup?_block (hbefore : ∀ m ∈ before, Unmentioning m)
    (hafter : ∀ m ∈ after, Unmentioning m) (ms : List Json) :
    findGroup? 0 (before ++ ms ++ after) =
      (findGroup? 0 ms).map (Option.map (before.length + ·)) := by
  rw [findGroup?_append_plain hafter, findGroup?_skip hbefore, findGroup?_shift]
  simp only [Nat.add_comm]

end VegaAxes.Trellis
