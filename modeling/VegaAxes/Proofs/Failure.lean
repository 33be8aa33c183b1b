import VegaAxes.Proofs.Attempt

/-!
# Laws of failing attempts

Which cause a failing attempt has and what it leaves behind: one law for each way of putting
attempts together, beside those of success.
-/

namespace VegaAxes

section
variable {σ τ α β : Type} {s s' : σ} {e e' : Error}

/-- A sequence fails where its first part does, or goes on from what that leaves. -/
theorem run_bind_error {x : Attempt σ α} {f : α → Attempt σ β} :
    (x >>= f).run s = .error e s' ↔
      x.run s = .error e s' ∨ ∃ a t, x.run s = .ok a t ∧ (f a).run t = .error e s' := by
  rw [EStateM.run_bind]
  cases x.run s <;> simp [and_assoc]

theorem error_inj : (EStateM.Result.error e s : EStateM.Result Error σ α) = .error e' s' ↔
    e = e' ∧ s = s' := by
  rw [EStateM.Result.error.injEq]

theorem not_error {a : α} : (EStateM.Result.ok a s : EStateM.Result Error σ α) = .error e s' ↔
    False := by
  simp

theorem run_pure_error {a : α} : (pure a : Attempt σ α).run s = .error e s' ↔ False :=
  not_error

theorem run_get_error : (get : Attempt σ σ).run s = .error e s' ↔ False :=
  not_error

theorem run_set_error {t : σ} : (set t : Attempt σ PUnit).run s = .error e s' ↔ False :=
  not_error

theorem run_modify_error {f : σ → σ} : (modify f : Attempt σ PUnit).run s = .error e s' ↔ False :=
  not_error

theorem run_throw_error : (throw e : Attempt σ α).run s = .error e' s' ↔ e = e' ∧ s = s' :=
  error_inj

theorem run_lift_error {x : Except Error α} :
    (liftM x : Attempt σ α).run s = .error e s' ↔ x = .error e ∧ s = s' := by
  cases x with
  | ok a => exact run_pure_error.trans (by simp)
  | error e => exact run_throw_error.trans (by simp)

theorem run_update_error {f : σ → Except Error σ} :
    (Attempt.update f).run s = .error e s' ↔ f s = .error e ∧ s = s' := by
  simp only [Attempt.update, run_bind_error, run_get_error, run_get_ok, run_lift_error,
    run_lift_ok, run_set_error, and_assoc, exists_and_left, exists_eq_left', false_or, and_false,
    exists_false, or_false]

theorem run_within_error {part : σ → τ} {put : σ → τ → σ} {x : Attempt τ α} :
    (Attempt.within part put x).run s = .error e s' ↔
      ∃ t, x.run (part s) = .error e t ∧ put s t = s' := by
  simp only [EStateM.run, Attempt.within]
  cases x (part s) <;> simp [and_assoc]

theorem run_ite_error {c : Prop} [Decidable c] {x y : Attempt σ α} :
    (if c then x else y).run s = .error e s' ↔
      (c ∧ x.run s = .error e s') ∨ (¬c ∧ y.run s = .error e s') := by
  by_cases h : c <;> simp [h]

theorem outcome_ok {x : Attempt σ α} {a : α} :
    x.outcome s = (s', .ok a) ↔ x.run s = .ok a s' := by
  unfold Attempt.outcome
  cases x.run s <;> simp [and_comm]

theorem outcome_error {x : Attempt σ α} : x.outcome s = (s', .error e) ↔ x.run s = .error e s' := by
  unfold Attempt.outcome
  cases x.run s <;> simp [and_comm]

theorem outcome_map {x : Attempt σ α} {f : α → β} :
    Attempt.outcome (do return f (← x)) s = ((x.outcome s).1, (x.outcome s).2.map f) := by
  unfold Attempt.outcome
  rw [EStateM.run_bind]
  cases x.run s <;> rfl

end

end VegaAxes
