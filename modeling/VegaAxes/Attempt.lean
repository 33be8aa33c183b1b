import VegaAxes.Error

/-!
# Attempts

An attempt changes a state and may fail. What it changed before it failed stays
changed.
-/

namespace VegaAxes

abbrev Attempt (σ α : Type) := EStateM Error σ α

namespace Attempt

instance : MonadLift (Except Error) (EStateM Error σ) where
  monadLift
    | .ok a => pure a
    | .error e => throw e

/-- The state that an attempt leaves, and its answer or the cause of its failure. -/
def outcome (x : Attempt σ α) (s : σ) : σ × Except Error α :=
  match x.run s with
  | .ok a s => (s, .ok a)
  | .error e s => (s, .error e)

def within (part : σ → τ) (put : σ → τ → σ) (x : Attempt τ α) : Attempt σ α := fun s =>
  match x.run (part s) with
  | .ok a t => .ok a (put s t)
  | .error e t => .error e (put s t)

/-- Changes the state by a step that fails as a whole. -/
def update (f : σ → Except Error σ) : Attempt σ Unit := do
  set (← f (← get))

end Attempt

end VegaAxes
