import VegaAxes.Attempt

/-!
# Laws of attempts

When a computation succeeds, with which answer and in which state: one law for
each way of putting attempts together.
-/

namespace VegaAxes

theorem bind_ok {x : Except ε α} {f : α → Except ε β} :
    x >>= f = .ok b ↔ ∃ a, x = .ok a ∧ f a = .ok b := by
  cases x <;> simp [bind, Except.bind]

theorem bind_error {x : Except ε α} {f : α → Except ε β} :
    x >>= f = .error e ↔ x = .error e ∨ ∃ a, x = .ok a ∧ f a = .error e := by
  cases x <;> simp [bind, Except.bind]

theorem pure_ok : (pure a : Except ε α) = .ok b ↔ a = b := by
  simp [pure, Except.pure]

theorem throw_ok : (throw e : Except ε α) = .ok a ↔ False :=
  ⟨fun h => (nomatch h), fun h => h.elim⟩

theorem map_ok {f : α → β} {x : Except ε α} : x.map f = .ok b ↔ ∃ a, x = .ok a ∧ f a = b := by
  cases x <;> simp [Except.map]

theorem toOption_eq_some {x : Except ε α} : x.toOption = some a ↔ x = .ok a := by
  cases x <;> simp [Except.toOption]

theorem mapM_succeeds {f : α → Except ε β} {P : α → Prop} {Q : β → Prop}
    (hf : ∀ a, P a → ∃ b, f a = .ok b ∧ Q b) {as : List α} (h : ∀ a ∈ as, P a) :
    ∃ bs, as.mapM f = .ok bs ∧ bs.length = as.length ∧ ∀ b ∈ bs, Q b := by
  induction as with
  | nil => exact ⟨[], by simp [pure_ok], rfl, by simp⟩
  | cons a as ih =>
    obtain ⟨b, hb, hq⟩ := hf a (h a (by simp))
    obtain ⟨bs, hbs, hlen, hqs⟩ := ih fun a ha => h a (List.mem_cons_of_mem _ ha)
    refine ⟨b :: bs, ?_, by simp [hlen], by simpa using ⟨hq, hqs⟩⟩
    rw [List.mapM_cons, bind_ok]
    exact ⟨b, hb, bind_ok.mpr ⟨bs, hbs, rfl⟩⟩

theorem mapM_length {f : α → Except ε β} {as : List α} {bs : List β} (h : as.mapM f = .ok bs) :
    bs.length = as.length := by
  induction as generalizing bs with
  | nil =>
    obtain rfl := pure_ok.mp h
    rfl
  | cons a as ih =>
    rw [List.mapM_cons, bind_ok] at h
    obtain ⟨b, -, h⟩ := h
    obtain ⟨bs, hbs, h⟩ := bind_ok.mp h
    obtain rfl := pure_ok.mp h
    rw [List.length_cons, List.length_cons, ih hbs]

theorem mapM_map_eq {f : α → Except ε β} {F : β → γ} {G : α → γ}
    (hf : ∀ {a b}, f a = .ok b → F b = G a) {as : List α} {bs : List β} (h : as.mapM f = .ok bs) :
    bs.map F = as.map G := by
  induction as generalizing bs with
  | nil =>
    obtain rfl := pure_ok.mp h
    rfl
  | cons a as ih =>
    rw [List.mapM_cons, bind_ok] at h
    obtain ⟨b, hb, h⟩ := h
    obtain ⟨bs, hbs, h⟩ := bind_ok.mp h
    obtain rfl := pure_ok.mp h
    rw [List.map_cons, List.map_cons, hf hb, ih hbs]

theorem mapM_mem {f : α → Except ε β} {as : List α} {bs : List β} (h : as.mapM f = .ok bs) :
    ∀ b ∈ bs, ∃ a ∈ as, f a = .ok b := by
  induction as generalizing bs with
  | nil =>
    obtain rfl := pure_ok.mp h
    simp
  | cons a as ih =>
    rw [List.mapM_cons, bind_ok] at h
    obtain ⟨b, hb, h⟩ := h
    obtain ⟨bs, hbs, h⟩ := bind_ok.mp h
    obtain rfl := pure_ok.mp h
    simp only [List.mem_cons, forall_eq_or_imp, exists_eq_or_imp]
    refine ⟨.inl hb, fun b hmem => .inr ?_⟩
    exact ih hbs b hmem

theorem foldlM_invariant {f : β → α → Except ε β} {I : β → Prop}
    (hstep : ∀ {b a b'}, I b → f b a = .ok b' → I b') {as : List α} {b b' : β} (hb : I b)
    (h : as.foldlM f b = .ok b') : I b' := by
  induction as generalizing b with
  | nil =>
    obtain rfl := pure_ok.mp h
    exact hb
  | cons a as ih =>
    rw [List.foldlM_cons, bind_ok] at h
    obtain ⟨b₁, h₁, h⟩ := h
    exact ih (hstep hb h₁) h

section
variable {σ τ α β : Type} {s s' : σ}

theorem run_bind_ok {x : Attempt σ α} {f : α → Attempt σ β} :
    (x >>= f).run s = .ok b s' ↔ ∃ a t, x.run s = .ok a t ∧ (f a).run t = .ok b s' := by
  rw [EStateM.run_bind]
  cases x.run s <;> simp [and_assoc]

theorem ok_inj {a b : α} : (EStateM.Result.ok a s : EStateM.Result Error σ α) = .ok b s' ↔
    a = b ∧ s = s' := by
  rw [EStateM.Result.ok.injEq]

theorem run_pure_ok {a b : α} : (pure a : Attempt σ α).run s = .ok b s' ↔ a = b ∧ s = s' :=
  ok_inj

theorem run_get_ok : (get : Attempt σ σ).run s = .ok a s' ↔ s = a ∧ s = s' :=
  ok_inj

theorem run_set_ok : (set t : Attempt σ PUnit).run s = .ok u s' ↔ t = s' :=
  ok_inj.trans (and_iff_right rfl)

theorem run_modify_ok {f : σ → σ} : (modify f : Attempt σ PUnit).run s = .ok u s' ↔ f s = s' :=
  ok_inj.trans (and_iff_right rfl)

theorem run_throw_ok : (throw e : Attempt σ α).run s = .ok a s' ↔ False :=
  ⟨fun h => (nomatch h), fun h => h.elim⟩

theorem run_lift_ok {x : Except Error α} :
    (liftM x : Attempt σ α).run s = .ok a s' ↔ x = .ok a ∧ s = s' := by
  cases x with
  | ok a => exact run_pure_ok.trans (by simp)
  | error e => exact run_throw_ok.trans (by simp)

theorem run_update_ok {f : σ → Except Error σ} :
    (Attempt.update f).run s = .ok u s' ↔ f s = .ok s' := by
  simp only [Attempt.update, run_bind_ok, run_get_ok, run_lift_ok, run_set_ok, and_assoc,
    exists_and_left, exists_eq_left', exists_eq_right]

theorem run_within_ok {part : σ → τ} {put : σ → τ → σ} {x : Attempt τ α} :
    (Attempt.within part put x).run s = .ok a s' ↔
      ∃ t, x.run (part s) = .ok a t ∧ put s t = s' := by
  simp only [EStateM.run, Attempt.within]
  cases x (part s) <;> simp [and_assoc]

theorem run_ite_ok {c : Prop} [Decidable c] {x y : Attempt σ α} :
    (if c then x else y).run s = .ok a s' ↔
      (c ∧ x.run s = .ok a s') ∨ (¬c ∧ y.run s = .ok a s') := by
  by_cases h : c <;> simp [h]

end

end VegaAxes
