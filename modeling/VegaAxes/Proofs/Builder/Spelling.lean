import VegaAxes.Compile
import VegaAxes.Proofs.Attempt
import VegaAxes.Proofs.Options.Spelling

/-!
# Both spellings of a description compile to the same document

Two attempts agree if they leave the same state and answer the same, or fail alike: with the same
error or with problems of the same kinds. Reading respelled descriptions agrees, hence so does every
build that adds them, and `compileDescribed_respelled` says so of whole compilations.
-/

namespace VegaAxes

/-- The same failure, or problems of the same kinds in the same order. -/
inductive Error.Alike : Error → Error → Prop where
  | same (e : Error) : Alike e e
  | problems {described : Described} {ps qs : List Problem}
    (kinds : ps.map Problem.kind = qs.map Problem.kind) :
    Alike (.invalid described ps) (.invalid described qs)

inductive SameAnswer : Except Error α → Except Error α → Prop where
  | ok (a : α) : SameAnswer (.ok a) (.ok a)
  | error {e e' : Error} (alike : Error.Alike e e') : SameAnswer (.error e) (.error e')

theorem SameAnswer.refl : ∀ x : Except Error α, SameAnswer x x
  | .ok a => .ok a
  | .error e => .error (.same e)

theorem SameAnswer.ok_iff {x y : Except Error α} (h : SameAnswer x y) {a : α} :
    x = .ok a ↔ y = .ok a := by
  cases h with
  | ok b => exact Iff.rfl
  | error alike => simp

-- ---------------------------------------------------------------------------
-- Attempts that agree
-- ---------------------------------------------------------------------------

namespace Attempt

variable {σ α β : Type}

inductive SameEnd : EStateM.Result Error σ α → EStateM.Result Error σ α → Prop where
  | ok (a : α) (s : σ) : SameEnd (.ok a s) (.ok a s)
  | error {e e' : Error} (alike : Error.Alike e e') (s : σ) : SameEnd (.error e s) (.error e' s)

def Agree (x y : Attempt σ α) : Prop :=
  ∀ s, SameEnd (x.run s) (y.run s)

namespace Agree

variable {x y : Attempt σ α} {f g : α → Attempt σ β}

theorem refl (x : Attempt σ α) : Agree x x := by
  intro s
  cases x.run s with
  | ok a s => exact .ok a s
  | error e s => exact .error (.same e) s

theorem bind (h : Agree x y) (hf : ∀ a, Agree (f a) (g a)) : Agree (x >>= f) (y >>= g) := by
  intro s
  have hs := h s
  rw [EStateM.run_bind, EStateM.run_bind]
  generalize x.run s = left, y.run s = right at hs ⊢
  cases hs with
  | ok a s => exact hf a s
  | error alike s => exact .error alike s

theorem lift {x y : Except Error α} (h : SameAnswer x y) :
    Agree (liftM x : Attempt σ α) (liftM y : Attempt σ α) := by
  intro s
  cases h with
  | ok a => exact .ok a s
  | error alike => exact .error alike s

end Agree

end Attempt

-- ---------------------------------------------------------------------------
-- Builds of respelled descriptions
-- ---------------------------------------------------------------------------

variable {v w : Json} {vs ws : List Json}

theorem AxisOptions.ofJson_respelled (honce : Schema.axisForm.Once v)
    (h : Schema.axisForm.Respelled v w) : SameAnswer (ofJson v) (ofJson w) := by
  have hread := (read_follows .caller).agree honce h
  rw [ofJson, ofJson]
  generalize read .caller v = left, read .caller w = right at hread ⊢
  cases hread with
  | ok o => exact .ok o
  | bad kinds => exact .error (.problems kinds)

namespace Builder

theorem addDescribed_respelled (honce : Schema.axisForm.Once v)
    (h : Schema.axisForm.Respelled v w) (index : Json) :
    Attempt.Agree (addDescribed v index) (addDescribed w index) :=
  .bind (.refl ensureOpen) fun _ =>
    .bind (.lift (AxisOptions.ofJson_respelled honce h)) fun o => .refl (add o index)

theorem addEach_respelled (honce : ∀ v ∈ vs, Schema.axisForm.Once v)
    (h : List.Forall₂ Schema.axisForm.Respelled vs ws) (n : Nat) :
    Attempt.Agree (addEach addDescribed n vs) (addEach addDescribed n ws) := by
  induction h generalizing n with
  | nil => exact .refl _
  | cons hv _ ih =>
    obtain ⟨honce, honces⟩ := List.forall_mem_cons.mp honce
    exact .bind (addDescribed_respelled honce hv _) fun _ => ih honces (n + 1)

theorem compile_agree {build build' : Build Unit} (h : Attempt.Agree build build') (b : Builder)
    (validated : Bool) : SameAnswer (b.compile build validated) (b.compile build' validated) := by
  have hend := h.bind (fun _ => .refl finish) b
  unfold compile Attempt.outcome
  generalize EStateM.run (build >>= fun _ => finish) b = left,
    EStateM.run (build' >>= fun _ => finish) b = right at hend ⊢
  cases hend with
  | ok d b => exact .refl _
  | error alike b => exact .error alike

end Builder

/-- Whichever fields of the axes' option objects are given under the other name of their key, each
axis is read as the same options or has problems of the same kinds, and all of them compile to the
same document or fail alike. -/
theorem compileDescribed_respelled (honce : ∀ v ∈ vs, Schema.axisForm.Once v)
    (h : List.Forall₂ Schema.axisForm.Respelled vs ws) :
    List.Forall₂ (fun v w => ∀ intake,
      (AxisOptions.read intake v).Agree (AxisOptions.read intake w)) vs ws ∧
    ∀ settings document context validated,
      SameAnswer (compileDescribed settings document (.arr vs) context validated)
        (compileDescribed settings document (.arr ws) context validated) := by
  constructor
  · have hboth := (List.forall₂_and_left _ _).mpr ⟨honce, h⟩
    refine hboth.imp fun v w hvw intake => ?_
    exact (AxisOptions.read_follows intake).agree hvw.1 hvw.2
  · intro settings document context validated
    unfold compileDescribed
    cases Builder.ofDocument settings document context with
    | error e => exact .refl _
    | ok b => exact Builder.compile_agree (Builder.addEach_respelled honce h 0) b _

def snakeAxis : Json :=
  .obj [("position", .str "bottom"), ("label_align", .str "end"),
    ("labels", .arr [.int 3, .obj [("value", .int 1), ("font_weight", .str "bold")]]),
    ("axis_annotations", .arr [.obj [("data_key", .str "notes"), ("has_popover", .bool true)]])]

def mixedAxis : Json :=
  .obj [("position", .str "bottom"), ("labelAlign", .str "end"),
    ("labels", .arr [.int 3, .obj [("value", .int 1), ("fontWeight", .str "bold")]]),
    ("axis_annotations", .arr [.obj [("dataKey", .str "notes"), ("has_popover", .bool true)]])]

theorem snakeAxis_respelled : Schema.axisForm.Respelled snakeAxis mixedAxis := by
  let chosen : String → Bool := fun k => k ∈ ["label_align", "font_weight", "data_key"]
  refine ⟨chosen, .cons ?_ (.cons ?_ (.cons ?_ (.cons ?_ .nil)))⟩
  · exact ⟨by decide, rfl⟩
  · exact ⟨by decide, rfl⟩
  · refine ⟨by decide, .cons rfl (.cons ⟨chosen, .cons ?_ (.cons ?_ .nil)⟩ .nil)⟩
    · exact ⟨by decide, rfl⟩
    · exact ⟨by decide, rfl⟩
  · refine ⟨by decide, .cons ⟨chosen, .cons ?_ (.cons ?_ .nil)⟩ .nil⟩
    · exact ⟨by decide, rfl⟩
    · exact ⟨by decide, rfl⟩

theorem snakeAxis_compiles_alike :
    (∀ v ∈ [snakeAxis], Schema.axisForm.Once v) ∧
      List.Forall₂ Schema.axisForm.Respelled [snakeAxis] [mixedAxis] ∧
      snakeAxis ≠ mixedAxis ∧
      ∃ c, compileDescribed (.ofEnvironment {}) (.obj []) (.arr [snakeAxis])
          (some ⟨.vertical, .light, .null⟩) none = .ok c ∧
        compileDescribed (.ofEnvironment {}) (.obj []) (.arr [mixedAxis])
          (some ⟨.vertical, .light, .null⟩) none = .ok c := by
  have honce : ∀ v ∈ [snakeAxis], Schema.axisForm.Once v :=
    List.forall_mem_singleton.mpr (by decide +kernel)
  have hrespelled : List.Forall₂ Schema.axisForm.Respelled [snakeAxis] [mixedAxis] :=
    .cons snakeAxis_respelled .nil
  have hsome : (compileDescribed (.ofEnvironment {}) (.obj []) (.arr [snakeAxis])
      (some ⟨.vertical, .light, .null⟩) none).toOption.isSome = true := by decide +kernel
  obtain ⟨c, hc⟩ := Option.isSome_iff_exists.mp hsome
  have hok := toOption_eq_some.mp hc
  have hsame := (compileDescribed_respelled honce hrespelled).2 (.ofEnvironment {}) (.obj [])
    (some ⟨.vertical, .light, .null⟩) none
  exact ⟨honce, hrespelled, by decide +kernel, c, hok, hsame.ok_iff.mp hok⟩

end VegaAxes
