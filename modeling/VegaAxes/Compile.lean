import VegaAxes.Builder.Adding
import VegaAxes.Document.Validity

/-!
# Compiling axes

One build from start to end: the axes are added in the order they are given, with
their places as indices, and the finished document is checked if that is asked for.
-/

namespace VegaAxes

structure Compiled where
  document : Document
  context : Context
  axisCount : Nat
  markCount : Nat

namespace Compiled

def ofDocument (document : Document) (context : Context) : Except Error Compiled := do
  return {
    document
    context
    axisCount := ← document.axes.length
    markCount := ← document.marks.length }

end Compiled

namespace Builder

def addEach (add : α → Json → Build Unit) : (index : Nat) → List α → Build Unit
  | _, [] => pure ()
  | index, item :: items => do
    add item (.int index)
    addEach add (index + 1) items

def compile (b : Builder) (build : Build Unit) (validated : Bool) : Except Error Compiled := do
  let (b, finished) := Attempt.outcome (do build; finish) b
  let document ← finished
  if validated then Document.validate document.toJson
  Compiled.ofDocument document b.context

end Builder

/-- Compiles axes that have been read already. -/
def compileAxes (settings : Settings) (document : Json) (axes : List AxisOptions)
    (context : Option Context) (validated : Option Bool) : Except Error Compiled := do
  let b ← Builder.ofDocument settings document context
  b.compile (Builder.addEach Builder.add 0 axes) (validated.getD settings.validateOutput)

/-- Asking for the check that the settings have is the same as asking for none. -/
theorem compileAxes_validateOutput (settings : Settings) (document : Json)
    (axes : List AxisOptions) (context : Option Context) :
    compileAxes settings document axes context (some settings.validateOutput) =
      compileAxes settings document axes context none :=
  rfl

/-- Compiles axes that are still to be read. -/
def compileDescribed (settings : Settings) (document axes : Json) (context : Option Context)
    (validated : Option Bool) : Except Error Compiled := do
  let b ← Builder.ofDocument settings document context
  let build := do Builder.addEach Builder.addDescribed 0 (← axes.elements)
  b.compile build (validated.getD settings.validateOutput)

end VegaAxes
