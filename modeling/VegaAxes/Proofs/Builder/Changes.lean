import VegaAxes.Proofs.Compile

/-!
# Builds of changed axes

The axes of a build are changed one by one, each as the builder stands when the axis is added. A
chart compiles to the same as before if no call notices the change (`compileAxes_changed`).
-/

namespace VegaAxes

namespace Builder

variable {b b' : Builder} {o : AxisOptions} {axes : List AxisOptions} {index : Nat}
  {change : Builder → AxisOptions → AxisOptions} {P : Builder → AxisOptions → Prop}

/-- The axes changed by what they are and what the builder is when they are added. From a call
that fails on they are not added, and stay. -/
def changeEach (change : Builder → AxisOptions → AxisOptions) :
    Builder → (index : Nat) → List AxisOptions → List AxisOptions
  | _, _, [] => []
  | b, index, o :: axes =>
    change b o :: match (add o (.int index)).run b with
      | .ok _ b' => changeEach change b' (index + 1) axes
      | .error _ _ => axes

theorem changeEach_cons (h : (add o (.int index)).run b = .ok () b') :
    changeEach change b index (o :: axes) = change b o ::
      changeEach change b' (index + 1) axes := by
  rw [changeEach, h]

def Throughout (P : Builder → AxisOptions → Prop) :
    Builder → (index : Nat) → List AxisOptions → Prop
  | _, _, [] => True
  | b, index, o :: axes =>
    P b o ∧ ∀ b', (add o (.int index)).run b = .ok () b' → Throughout P b' (index + 1) axes

theorem throughout_cons (hadd : (add o (.int index)).run b = .ok () b') :
    Throughout P b index (o :: axes) ↔ P b o ∧ Throughout P b' (index + 1) axes := by
  rw [Throughout, hadd]
  simp

/-- The call adds the changed axis exactly where it adds the axis, and leaves the same. -/
def Unnoticed (change : Builder → AxisOptions → AxisOptions) (b : Builder) (o : AxisOptions) :
    Prop :=
  ∀ index b', (add (change b o) index).run b = .ok () b' ↔ (add o index).run b = .ok () b'

theorem addEach_changed (hcall : ∀ b o, P b o → Unnoticed change b o)
    (h : Throughout P b index axes) :
    (addEach add index (changeEach change b index axes)).run b = .ok () b' ↔
      (addEach add index axes).run b = .ok () b' := by
  induction axes generalizing b index with
  | nil => rfl
  | cons o axes ih =>
    obtain ⟨ho, haxes⟩ := h
    rw [changeEach, addEach, addEach, run_bind_ok, run_bind_ok]
    refine exists_congr fun _ => exists_congr fun b₁ => ?_
    rw [hcall b o ho]
    refine and_congr_right fun hadd => ?_
    rw [hadd]
    exact ih (haxes b₁ hadd)

end Builder

/-- What a build with changed axes leaves, finished and checked, is what it leaves without. -/
theorem compileAxes_changed {settings : Settings} {document : Json} {axes : List AxisOptions}
    {context : Option Context} {validated : Option Bool} {b : Builder} {c : Compiled}
    {change : Builder → AxisOptions → AxisOptions} {P : Builder → AxisOptions → Prop}
    (hb : Builder.ofDocument settings document context = .ok b)
    (hcall : ∀ b o, P b o → Builder.Unnoticed change b o) (h : Builder.Throughout P b 0 axes) :
    compileAxes settings document (Builder.changeEach change b 0 axes) context validated = .ok c ↔
      compileAxes settings document axes context validated = .ok c := by
  rw [compileAxes, compileAxes, hb]
  refine compile_ok.trans (Iff.trans ?_ compile_ok.symm)
  refine exists_congr fun d => exists_congr fun b' => and_congr_left fun _ => ?_
  rw [run_bind_ok, run_bind_ok]
  refine exists_congr fun _ => exists_congr fun b₁ => and_congr_left fun _ => ?_
  exact Builder.addEach_changed hcall h

theorem documents_differ [DecidableEq α] {x y : Except Error Compiled} (part : Document → α)
    (h : (x.toOption.bind fun c => y.toOption.map fun c' =>
      decide (part c'.document ≠ part c.document)) = some true) :
    ∃ c c', x = .ok c ∧ y = .ok c' ∧ c'.document ≠ c.document := by
  obtain ⟨c, hc, hrest⟩ := Option.bind_eq_some_iff.mp h
  obtain ⟨c', hc', hdiffers⟩ := Option.map_eq_some_iff.mp hrest
  refine ⟨c, c', toOption_eq_some.mp hc, toOption_eq_some.mp hc', fun heq => ?_⟩
  exact of_decide_eq_true hdiffers (congrArg part heq)

end VegaAxes
