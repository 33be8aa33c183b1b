import VegaAxes.Json
import VegaAxes.Text.Letter

/-!
# Problems of an option value

Reading option values collects every problem: `Checked.seq` keeps the problems
of both sides.
-/

namespace VegaAxes

inductive ProblemKind where
  | missing | extraForbidden
  | modelType | modelAttributesType | dictType | listType | tupleType | tooLong
  | stringType | stringUnicode | enumeration
  | boolType | boolParsing
  | intType | intParsing | intParsingSize | intFromFloat | finiteNumber
  | floatType | floatParsing
  | jsonInvalid
deriving DecidableEq, Repr

def ProblemKind.word : ProblemKind → String
  | .missing => "missing"
  | .extraForbidden => "extra_forbidden"
  | .modelType => "model_type"
  | .modelAttributesType => "model_attributes_type"
  | .dictType => "dict_type"
  | .listType => "list_type"
  | .tupleType => "tuple_type"
  | .tooLong => "too_long"
  | .stringType => "string_type"
  | .stringUnicode => "string_unicode"
  | .enumeration => "enum"
  | .boolType => "bool_type"
  | .boolParsing => "bool_parsing"
  | .intType => "int_type"
  | .intParsing => "int_parsing"
  | .intParsingSize => "int_parsing_size"
  | .intFromFloat => "int_from_float"
  | .finiteNumber => "finite_number"
  | .floatType => "float_type"
  | .floatParsing => "float_parsing"
  | .jsonInvalid => "json_invalid"

structure Problem where
  /-- Keys, indices and union members from the outside in. -/
  path : List String
  kind : ProblemKind
  /-- The value that has the problem; of a missing part, the value that lacks it. -/
  value : Json
deriving DecidableEq

def Problem.under (part : String) (p : Problem) : Problem :=
  { p with path := part :: p.path }

def Problem.location (p : Problem) : String :=
  ".".intercalate p.path

namespace Problem

/-- By location, then by kind, both in the order of code points. -/
def le (p q : Problem) : Bool :=
  Text.codesLt p.location q.location ||
    (p.location == q.location && p.kind.word ≤ q.kind.word)

def sorted (ps : List Problem) : List Problem :=
  ps.mergeSort le

end Problem

inductive Checked (α : Type) where
  | ok (a : α)
  | bad (problems : List Problem)
deriving DecidableEq

namespace Checked

def map (f : α → β) : Checked α → Checked β
  | ok a => ok (f a)
  | bad ps => bad ps

def seq : Checked (α → β) → Checked α → Checked β
  | ok f, ok a => ok (f a)
  | ok _, bad ps => bad ps
  | bad ps, ok _ => bad ps
  | bad ps, bad qs => bad (ps ++ qs)

def under (part : String) : Checked α → Checked α
  | ok a => ok a
  | bad ps => bad (ps.map (Problem.under part))

def problems : Checked α → List Problem
  | ok _ => []
  | bad ps => ps

def fail (kind : ProblemKind) (value : Json) : Checked α :=
  bad [⟨[], kind, value⟩]

/-- The list of all results, each item's problems under its index from `start` on. -/
def items (read : α → Checked β) (start : Nat) : List α → Checked (List β)
  | [] => ok []
  | a :: as => seq (map List.cons ((read a).under (toString start))) (items read (start + 1) as)

theorem map_eq_ok {f : α → β} {x : Checked α} {b : β} :
    x.map f = ok b ↔ ∃ a, x = ok a ∧ f a = b := by
  cases x <;> simp [map]

theorem seq_eq_ok {f : Checked (α → β)} {x : Checked α} {b : β} :
    f.seq x = ok b ↔ ∃ g a, f = ok g ∧ x = ok a ∧ g a = b := by
  cases f <;> cases x <;> simp [seq]

theorem under_eq_ok {part : String} {x : Checked α} {a : α} :
    x.under part = ok a ↔ x = ok a := by
  cases x <;> simp [under]

@[simp] theorem problems_seq (f : Checked (α → β)) (x : Checked α) :
    (f.seq x).problems = f.problems ++ x.problems := by
  cases f <;> cases x <;> simp [seq, problems]

end Checked

end VegaAxes
