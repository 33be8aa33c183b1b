import VegaAxes.Compile
import VegaAxes.Proofs.Builder.Addition

/-!
# Runs of a builder

A run is a sequence of calls that add an axis, all of which succeed. The axis of a
call may have been read already or not.
-/

namespace VegaAxes.Builder

variable {b b' b'' : Builder}

inductive Call where
  | read (options : AxisOptions) (index : Json)
  | described (options index : Json)

namespace Call

def run : Call → Build Unit
  | read options index => add options index
  | described options index => addDescribed options index

def index : Call → Json
  | read _ index => index
  | described _ index => index

def options : Call → Except Error AxisOptions
  | read options _ => .ok options
  | described options _ => AxisOptions.ofJson options

theorem run_ok {c : Call} {u : Unit} :
    c.run.run b = .ok u b' ↔ ∃ o, c.options = .ok o ∧ (add o c.index).run b = .ok () b' := by
  cases c with
  | read o i => simp [run, options, index]
  | described v i =>
    simp only [run, options, Call.index, addDescribed, run_bind_ok, run_lift_ok, ensureOpen_ok,
      and_assoc, exists_and_left, exists_eq_left', exists_const]
    constructor
    · rintro ⟨-, o, ho, h⟩
      exact ⟨o, ho, h⟩
    · rintro ⟨o, ho, h⟩
      obtain ⟨a, -⟩ := add_ok.mp h
      exact ⟨a.isOpen, o, ho, h⟩

end Call

/-- The calls succeed one after the other. -/
inductive Runs : Builder → List Call → Builder → Prop where
  | nil (b : Builder) : Runs b [] b
  | cons {b b' b'' : Builder} {c : Call} {cs : List Call} (head : c.run.run b = .ok () b')
    (tail : Runs b' cs b'') : Runs b (c :: cs) b''

theorem runs_single {c : Call} : Runs b [c] b' ↔ c.run.run b = .ok () b' := by
  constructor
  · rintro (_ | ⟨head, ⟨⟩⟩)
    exact head
  · exact fun head => .cons head (.nil b')

theorem Runs.split {cs ds : List Call} (h : Runs b (cs ++ ds) b'') :
    ∃ b', Runs b cs b' ∧ Runs b' ds b'' := by
  induction cs generalizing b with
  | nil => exact ⟨b, .nil b, h⟩
  | cons c cs ih =>
    obtain _ | ⟨head, tail⟩ := h
    obtain ⟨b', hcs, hds⟩ := ih tail
    exact ⟨b', .cons head hcs, hds⟩

def after (b : Builder) : List Call → Option Builder
  | [] => some b
  | c :: cs => match c.run.run b with
    | .ok _ b => after b cs
    | .error _ _ => none

theorem after_eq_some {cs : List Call} : after b cs = some b' ↔ Runs b cs b' := by
  induction cs generalizing b with
  | nil =>
    rw [after, Option.some_inj]
    constructor
    · rintro rfl
      exact .nil b
    · rintro ⟨⟩
      rfl
  | cons c cs ih =>
    rw [after]
    cases hc : c.run.run b with
    | error e b₁ =>
      refine ⟨fun h => (nomatch h), ?_⟩
      rintro (_ | ⟨head, -⟩)
      cases hc.symm.trans head
    | ok u b₁ =>
      rw [ih]
      refine ⟨.cons hc, ?_⟩
      rintro (_ | ⟨head, tail⟩)
      cases hc.symm.trans head
      exact tail

/-- Items that are added one by one, each with its place as index. -/
def callsFrom (call : α → Json → Call) (index : Nat) : List α → List Call
  | [] => []
  | item :: items => call item (.int index) :: callsFrom call (index + 1) items

theorem callsFrom_append {call : α → Json → Call} {index : Nat} (items more : List α) :
    callsFrom call index (items ++ more) =
      callsFrom call index items ++ callsFrom call (index + items.length) more := by
  induction items generalizing index with
  | nil => rfl
  | cons item items ih =>
    rw [List.cons_append, callsFrom, ih, List.length_cons, Nat.add_right_comm, Nat.add_assoc]
    rfl

theorem index_of_callsFrom {call : α → Json → Call} (hcall : ∀ item v, (call item v).index = v)
    {index : Nat} {items : List α} : ∀ c ∈ callsFrom call index items, c.index ≠ .null := by
  induction items generalizing index with
  | nil => simp [callsFrom]
  | cons item items ih =>
    simp only [callsFrom, List.mem_cons, forall_eq_or_imp]
    exact ⟨by simp [hcall], ih⟩

theorem addEach_runs {call : α → Json → Call} {index : Nat} {items : List α} :
    (addEach (fun item index => (call item index).run) index items).run b = .ok () b' ↔
      Runs b (callsFrom call index items) b' := by
  induction items generalizing b index with
  | nil =>
    simp only [addEach, callsFrom, run_pure_ok, true_and]
    constructor
    · rintro rfl
      exact .nil b
    · rintro ⟨⟩
      rfl
  | cons item items ih =>
    simp only [addEach, callsFrom, run_bind_ok, ih]
    constructor
    · rintro ⟨_, _, head, tail⟩
      exact .cons head tail
    · rintro (_ | ⟨head, tail⟩)
      exact ⟨(), _, head, tail⟩

def bars : Builder where
  scales := .arr [.obj [("name", .str "xScale"), ("type", .str "linear"), ("range", .str "width")]]
  axes := .arr []
  marks := .arr [.obj [("name", .str "bars"), ("type", .str "rect")]]
  signals := .arr []
  data := .arr []
  usermeta := .null
  extra := [("width", .int 400)]
  context := ⟨.vertical, .light, .null⟩

end VegaAxes.Builder
