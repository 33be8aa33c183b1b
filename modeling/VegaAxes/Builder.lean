import VegaAxes.Attempt
import VegaAxes.Context
import VegaAxes.Document

/-!
# Builders

A builder owns a growing document and the context of its build. A finished
builder takes no more axes.
-/

namespace VegaAxes

structure Builder where
  scales : Json
  axes : Json
  marks : Json
  signals : Json
  data : Json
  usermeta : Json
  extra : Fields
  context : Context
  /-- The index of the next axis that is given none. -/
  nextIndex : Json := .int 0
  closed : Bool := false
deriving DecidableEq

abbrev Build (α : Type) := Attempt Builder α

namespace Builder

def ownKeys : List String :=
  ["scales", "axes", "marks", "signals", "data", "usermeta"]

def documentFields (document : Json) : Except Error Fields :=
  match document.orElse (.obj []) with
  | .obj fs => .ok fs
  | .arr _ => .error (.unfit .removal)
  | _ => .error (.unfit .field)

/-- Starts from an unfinished document, in its own context where no other is given. -/
def ofDocument (settings : Settings) (document : Json) (context : Option Context) :
    Except Error Builder := do
  let fs ← documentFields document
  let list := fun key => (fs.getD key).orElse (.arr [])
  let usermeta := fs.getD "usermeta"
  let context ← match context with
    | some context => pure context
    | none => Context.ofUsermeta settings usermeta
  return {
    scales := list "scales"
    axes := list "axes"
    marks := list "marks"
    signals := list "signals"
    data := list "data"
    usermeta
    extra := ownKeys.foldl Fields.erase fs
    context }

def toJson (b : Builder) : Json :=
  .obj (b.extra ++
    [("scales", b.scales), ("axes", b.axes), ("marks", b.marks), ("signals", b.signals),
      ("data", b.data), ("usermeta", b.usermeta.orElse (.obj []))])

def anyNamed (name : Json) : List Json → Except Error Bool
  | [] => .ok false
  | signal :: signals => do
    if (← signal.field "name").equal name then return true
    anyNamed name signals

def hasSignal (b : Builder) (name : Json) : Except Error Bool := do
  anyNamed name (← b.signals.elements)

/-- A list with more items; nothing is asked of it where there are none. -/
def grow (list : Json) (items : List Json) : Except Error Json :=
  if items.isEmpty then .ok list else list.append items

def ensureOpen : Build Unit := do
  if (← get).closed then throw .closed

/-- The index of an axis; the one after it is next. -/
def takeIndex (given : Json) : Build Json := do
  let b ← get
  let index := if given = .null then b.nextIndex else given
  let next ← index.successor
  modify fun b => { b with nextIndex := next }
  return index

/-- Closes the builder and freezes what it holds. The context is written into the usermeta. -/
def finish : Build Document := do
  ensureOpen
  modify fun b => { b with closed := true }
  let b ← get
  let given ← (b.usermeta.orElse (.obj [])).spread
  let usermeta := given.overlay b.context.toUsermeta
  return {
    scales := b.scales.freeze
    axes := b.axes.freeze
    marks := b.marks.freeze
    signals := b.signals.freeze
    data := b.data.freeze
    usermeta :=
      if b.usermeta = .null ∧ usermeta.isEmpty then none else some (freezeFields usermeta)
    extra := freezeFields b.extra }

end Builder

end VegaAxes
