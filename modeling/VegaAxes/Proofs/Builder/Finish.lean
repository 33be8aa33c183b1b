import VegaAxes.Compile
import VegaAxes.Proofs.Builder.Addition
import VegaAxes.Proofs.Json.Fields

/-!
# What finishing a build does

`finish_run_ok` takes the end of a build apart. `finish_ok`: an open builder whose usermeta is
unset or an object finishes with the document `finished`, whose usermeta has the metric axis count
if there is one.
-/

namespace VegaAxes.Builder

variable {b b' : Builder} {d : Document}

def finishedUsermeta (b : Builder) : Option Fields :=
  if b.context.metricAxisCount = .null then
    if b.usermeta = .null then none else some b.usermeta.ownFields
  else some (Fields.set b.usermeta.ownFields "metricAxisCount" b.context.metricAxisCount)

def finished (b : Builder) : Document where
  scales := b.scales.freeze
  axes := b.axes.freeze
  marks := b.marks.freeze
  signals := b.signals.freeze
  data := b.data.freeze
  usermeta := b.finishedUsermeta.map freezeFields
  extra := freezeFields b.extra

def usermetaWith (b : Builder) (given : Fields) : Option Fields :=
  let usermeta := given.overlay b.context.toUsermeta
  if b.usermeta = .null ∧ usermeta.isEmpty then none else some usermeta

theorem finish_run_ok :
    finish.run b = .ok d b' ↔ b.closed = false ∧
      ∃ given, (b.usermeta.orElse (.obj [])).spread = .ok given ∧
        { b.finished with usermeta := (usermetaWith b given).map freezeFields } = d ∧
        { b with closed := true } = b' := by
  simp only [finish, run_bind_ok, ensureOpen_ok, run_modify_ok, run_get_ok,
    run_lift_ok, run_pure_ok, and_assoc, exists_and_left, exists_eq_left', exists_const,
    usermetaWith, apply_ite, Option.map_none, Option.map_some]
  rfl

theorem finish_ok (hopen : b.closed = false)
    (husermeta : b.usermeta = .null ∨ ∃ fs, b.usermeta = .obj fs) :
    finish.run b = .ok b.finished { b with closed := true } := by
  have hspread : (b.usermeta.orElse (.obj [])).spread = .ok b.usermeta.ownFields := by
    rcases husermeta with h | ⟨fs, h⟩
    · rw [h]
      rfl
    · cases fs <;> rw [h] <;> rfl
  refine finish_run_ok.mpr ⟨hopen, _, hspread, ?_, rfl⟩
  refine congrArg
    (fun usermeta => { b.finished with usermeta := Option.map freezeFields usermeta : Document }) ?_
  rw [usermetaWith, finishedUsermeta, Context.toUsermeta]
  by_cases hcount : b.context.metricAxisCount = .null
  · rw [if_pos hcount, if_pos hcount]
    rcases husermeta with h | ⟨fs, h⟩ <;> simp [h, Json.ownFields, Fields.overlay]
  · rw [if_neg hcount, if_neg hcount]
    have hset : Fields.overlay b.usermeta.ownFields
        [("metricAxisCount", b.context.metricAxisCount)] =
        Fields.set b.usermeta.ownFields "metricAxisCount" b.context.metricAxisCount := rfl
    rw [hset, if_neg]
    rintro ⟨-, hempty⟩
    cases hfs : b.usermeta.ownFields with
    | nil => simp [hfs, Fields.set] at hempty
    | cons field fs =>
      rw [hfs, Fields.set] at hempty
      split at hempty <;> simp at hempty

theorem compile_of_run {build : Build Unit} {validated : Bool}
    (h : (do build; finish).run b = .ok d b') :
    b.compile build validated =
      (if validated then Document.validate d.toJson else .ok ()) >>= fun _ =>
        Compiled.ofDocument d b'.context := by
  simp only [compile, Attempt.outcome, h]
  cases validated <;> rfl

theorem compile_of_failure {build : Build Unit} {validated : Bool} {e : Error}
    (h : (do build; finish).run b = .error e b') : b.compile build validated = .error e := by
  simp only [compile, Attempt.outcome, h]
  rfl

-- ---------------------------------------------------------------------------
-- The finished document
-- ---------------------------------------------------------------------------

theorem documentFields_obj (fs : Fields) : documentFields (.obj fs) = .ok fs := by
  cases fs <;> rfl

def usermetaField (b : Builder) : Fields :=
  match b.finishedUsermeta with
  | some fs => [("usermeta", .obj fs)]
  | none => []

theorem finished_lists (b : Builder) :
    b.finished.lists = [("scales", b.scales), ("axes", b.axes), ("marks", b.marks),
      ("signals", b.signals), ("data", b.data)] := by
  simp [Document.lists, finished]

theorem thaw_finishedUsermeta (b : Builder) :
    b.finished.usermeta.map thawFields = b.finishedUsermeta := by
  cases husermeta : b.finishedUsermeta <;> simp [finished, husermeta]

theorem finished_toJson (b : Builder) :
    b.finished.toJson = .obj (b.extra ++ (b.finished.lists ++ b.usermetaField)) := by
  rw [Document.toJson, List.append_assoc, usermetaField]
  cases husermeta : b.finishedUsermeta <;> simp [finished, husermeta]

/-- The builder's own fields are found behind all others. -/
theorem getD_finished (hextra : ∀ field ∈ b.extra, field.1 ∉ ownKeys) {key : String}
    (hkey : key ∈ ownKeys) :
    Fields.getD (b.extra ++ (b.finished.lists ++ b.usermetaField)) key =
      Fields.getD (b.finished.lists ++ b.usermetaField) key := by
  have hnone : b.extra.get? key = none := by
    rw [Fields.get?_eq_none_iff]
    intro hmem
    obtain ⟨field, hfield, rfl⟩ := List.mem_map.mp hmem
    exact hextra field hfield hkey
  refine Fields.getD_eq_of_get? ?_ _
  rw [Fields.get?_append, hnone, Option.none_or]

end VegaAxes.Builder
