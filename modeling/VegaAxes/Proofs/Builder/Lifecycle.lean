import VegaAxes.Proofs.Builder.Interruption
import VegaAxes.Proofs.Builder.Outcomes

/-!
# The life of a builder

Whatever is asked of a builder, and whether it succeeds or fails, the builder is open until it is
finished, and from then on it stays as it is (`history_lifecycle`). What is finished is the document
as it stood, with the metric axis count laid over its usermeta.
-/

namespace VegaAxes.Builder

variable {b b' : Builder} {fs : Fields} {given : Json}

-- ---------------------------------------------------------------------------
-- Steps
-- ---------------------------------------------------------------------------

inductive Step where
  | add (call : Call)
  | hasSignal (name : Json)
  | finish
  | look

inductive Answer where
  | added
  | found (there : Bool)
  | document (d : Document)
  | state (document : Json)

def Step.run : Step → Build Answer
  | add call => do
    call.run
    return .added
  | hasSignal name => do return .found (← (← get).hasSignal name)
  | finish => do return .document (← Builder.finish)
  | look => do return .state (← get).toJson

structure Moment where
  before : Builder
  step : Step
  answer : Except Error Answer
  after : Builder

def moment (b : Builder) (step : Step) : Moment where
  before := b
  step
  answer := (Attempt.outcome step.run b).2
  after := (Attempt.outcome step.run b).1

/-- What becomes of a builder that takes the steps one after the other, each from where the last one
left it. -/
def history (b : Builder) : List Step → List Moment
  | [] => []
  | step :: steps => moment b step :: history (moment b step).after steps

def Moment.finishes (m : Moment) : Bool :=
  match m.answer with
  | .ok (.document _) => true
  | _ => false

/-- The builder is open throughout the moment, at which it is asked for something else than
to finish. -/
structure Moment.IsOpen (m : Moment) : Prop where
  step_ne : m.step ≠ .finish
  before : m.before.closed = false
  after : m.after.closed = false
  unfinished : m.finishes = false

/-- The document is finished at the moment: it is what stood in the builder, but for its usermeta,
which is the given one under the metric axis count. -/
structure Moment.Finishes (given : Json) (m : Moment) (d : Document) : Prop where
  step_eq : m.step = .finish
  answer_eq : m.answer = .ok (.document d)
  before : m.before.closed = false
  after_eq : m.after = { m.before with closed := true }
  fields_eq : Fields.erase d.toJson.ownFields "usermeta" =
    Fields.erase m.before.toJson.ownFields "usermeta"
  usermeta_eq : Fields.get? d.toJson.ownFields "usermeta" =
    if given = .null ∧ m.before.context.metricAxisCount = .null then none
    else some (.obj (Fields.overlay given.ownFields m.before.context.toUsermeta))

/-- The builder is as it was when it was finished, and takes nothing more. -/
structure Moment.IsOver (m : Moment) (finished : Builder) : Prop where
  before_eq : m.before = finished
  after_eq : m.after = finished
  refused : (m.step = .finish ∨ ∃ call, m.step = .add call) → m.answer = .error .closed
  unfinished : m.finishes = false

-- ---------------------------------------------------------------------------
-- Open builders
-- ---------------------------------------------------------------------------

structure Growing (given : Json) (b : Builder) : Prop where
  isOpen : b.closed = false
  usermeta : b.usermeta = given
  extra : ∀ field ∈ b.extra, field.1 ∉ ownKeys

theorem Growing.framed (h : Growing given b) (hframed : Framed b b') : Growing given b' where
  isOpen := hframed.closed.trans h.isOpen
  usermeta := hframed.usermeta.trans h.usermeta
  extra := hframed.extra ▸ h.extra

/-- Calls leave the frame alone, those that fail like those that succeed. -/
theorem Call.framed {call : Call} (hopen : b.closed = false) :
    Framed b (Attempt.outcome call.run b).1 := by
  cases hrun : call.run.run b with
  | ok u b' =>
    rw [outcome_ok.mpr hrun]
    obtain ⟨o, -, hadd⟩ := call.run_ok.mp hrun
    obtain ⟨a, hmarks⟩ := add_ok.mp hadd
    rw [← addMarks_frame hmarks]
    exact ⟨rfl, rfl, rfl, a.context_ok.2⟩
  | error e b' =>
    rw [outcome_error.mpr hrun]
    rcases Call.run_error hopen hrun with ⟨rfl, -⟩ | ⟨_, -, hstop⟩
    · exact .refl _
    · exact hstop.framed

theorem finished_fields (b : Builder) :
    Fields.erase b.finished.toJson.ownFields "usermeta" =
      Fields.erase b.toJson.ownFields "usermeta" := by
  rw [finished_toJson, toJson, usermetaField]
  cases b.finishedUsermeta <;>
    simp [Json.ownFields, Fields.erase, List.filter_append, Document.lists, finished]

theorem finished_usermeta (h : Growing given b)
    (husermeta : given = .null ∨ ∃ us, given = .obj us) :
    Fields.get? b.finished.toJson.ownFields "usermeta" =
      if given = .null ∧ b.context.metricAxisCount = .null then none
      else some (.obj (Fields.overlay given.ownFields b.context.toUsermeta)) := by
  have hextra : b.extra.get? "usermeta" = none := by
    rw [Fields.get?_eq_none_iff]
    intro hmem
    obtain ⟨field, hfield, heq⟩ := List.mem_map.mp hmem
    exact h.extra field hfield (heq ▸ by simp [ownKeys])
  have hlists : Fields.get? b.finished.lists "usermeta" = none := by
    simp [Document.lists, Fields.get?_cons]
  have hfield : b.usermetaField.get? "usermeta" = b.finishedUsermeta.map .obj := by
    unfold usermetaField
    cases b.finishedUsermeta <;> rfl
  rw [finished_toJson, Json.ownFields, Fields.get?_append, hextra, Option.none_or,
    Fields.get?_append, hlists, Option.none_or, hfield, finishedUsermeta, h.usermeta]
  unfold Context.toUsermeta
  by_cases hcount : b.context.metricAxisCount = .null
  · rcases husermeta with rfl | ⟨us, rfl⟩ <;> simp [hcount, Json.ownFields, Fields.overlay]
  · rw [if_neg hcount, if_neg (fun h => hcount h.2), if_neg hcount]
    rfl

theorem outcome_add (call : Call) : Attempt.outcome (Step.add call).run b =
    ((Attempt.outcome call.run b).1, (Attempt.outcome call.run b).2.map fun _ => .added) :=
  outcome_map

theorem outcome_hasSignal (name : Json) :
    Attempt.outcome (Step.hasSignal name).run b = (b, (b.hasSignal name).map .found) := by
  have hget : Attempt.outcome (Step.hasSignal name).run b =
      Attempt.outcome (do return .found (← b.hasSignal name)) b := rfl
  rw [hget, outcome_map]
  cases b.hasSignal name <;> rfl

theorem outcome_finish : Attempt.outcome Step.finish.run b =
    ((Attempt.outcome finish b).1, (Attempt.outcome finish b).2.map .document) :=
  outcome_map

theorem Growing.step (h : Growing given b) (husermeta : given = .null ∨ ∃ us, given = .obj us)
    (step : Step) :
    ((moment b step).IsOpen ∧ Growing given (moment b step).after) ∨
      ∃ d, (moment b step).Finishes given d := by
  cases step with
  | look => exact .inl ⟨⟨by simp [moment], h.isOpen, h.isOpen, rfl⟩, h⟩
  | hasSignal name =>
    have hafter : (moment b (.hasSignal name)).after = b :=
      congrArg Prod.fst (outcome_hasSignal name)
    have hgrowing : Growing given (moment b (.hasSignal name)).after := by
      rwa [hafter]
    refine .inl ⟨⟨by simp [moment], h.isOpen, hgrowing.isOpen, ?_⟩, hgrowing⟩
    rw [Moment.finishes, moment, outcome_hasSignal]
    cases b.hasSignal name <;> rfl
  | add call =>
    have hgrowing : Growing given (moment b (.add call)).after := by
      rw [moment, outcome_add]
      exact h.framed (Call.framed h.isOpen)
    refine .inl ⟨⟨by simp [moment], h.isOpen, hgrowing.isOpen, ?_⟩, hgrowing⟩
    rw [Moment.finishes, moment, outcome_add]
    cases (Attempt.outcome call.run b).2 <;> rfl
  | finish =>
    have hfinish := outcome_ok.mpr (finish_ok h.isOpen (h.usermeta ▸ husermeta))
    refine .inr ⟨b.finished, rfl, ?_, h.isOpen, ?_, finished_fields b,
      finished_usermeta h husermeta⟩
    · rw [moment, outcome_finish, hfinish]
      rfl
    · rw [moment, outcome_finish, hfinish]

/-- Nothing happens to a closed builder. -/
theorem moment_over (h : b.closed = true) (step : Step) : (moment b step).IsOver b := by
  have hopen : ensureOpen.run b = .error .closed b := ensureOpen_error.mpr ⟨h, rfl, rfl⟩
  -- what is added or finished fails at once
  have hrefused {step : Step} (hrun : Attempt.outcome step.run b = (b, .error .closed)) :
      (moment b step).IsOver b := by
    refine ⟨rfl, congrArg Prod.fst hrun, fun _ => congrArg Prod.snd hrun, ?_⟩
    rw [Moment.finishes, moment, hrun]
  cases step with
  | look => exact ⟨rfl, rfl, by simp [moment], rfl⟩
  | hasSignal name =>
    refine ⟨rfl, congrArg Prod.fst (outcome_hasSignal name), by simp [moment], ?_⟩
    rw [Moment.finishes, moment, outcome_hasSignal]
    cases b.hasSignal name <;> rfl
  | add call =>
    have hrun : call.run.run b = .error .closed b := by
      cases call <;> exact run_bind_error.mpr (.inl hopen)
    refine hrefused ?_
    rw [outcome_add, outcome_error.mpr hrun]
    rfl
  | finish =>
    have hrun : finish.run b = .error .closed b := run_bind_error.mpr (.inl hopen)
    refine hrefused ?_
    rw [outcome_finish, outcome_error.mpr hrun]
    rfl

-- ---------------------------------------------------------------------------
-- Histories
-- ---------------------------------------------------------------------------

theorem history_over (h : b.closed = true) (steps : List Step) :
    ∀ m ∈ history b steps, m.IsOver b := by
  induction steps with
  | nil => simp [history]
  | cons step steps ih =>
    have hover := moment_over h step
    rw [history, hover.after_eq]
    simp only [List.mem_cons, forall_eq_or_imp]
    exact ⟨hover, ih⟩

/-- A history is open to its end, or up to the moment at which a document is finished. -/
theorem Growing.history (h : Growing given b) (husermeta : given = .null ∨ ∃ us, given = .obj us)
    (steps : List Step) :
    (∀ m ∈ history b steps, m.IsOpen) ∨
      ∃ early m late d, history b steps = early ++ m :: late ∧ (∀ n ∈ early, n.IsOpen) ∧
        m.Finishes given d ∧ ∀ n ∈ late, n.IsOver m.after := by
  induction steps generalizing b with
  | nil => exact .inl (by simp [Builder.history])
  | cons step steps ih =>
    rw [Builder.history]
    rcases h.step husermeta step with ⟨hopen, hafter⟩ | ⟨d, hfinishes⟩
    · rcases ih hafter with hall | ⟨early, m, late, d, heq, hearly, hm, hlate⟩
      · exact .inl (by simpa using ⟨hopen, hall⟩)
      · refine .inr ⟨moment b step :: early, m, late, d, by rw [heq]; rfl, ?_, hm, hlate⟩
        simpa using ⟨hopen, hearly⟩
    · refine .inr ⟨[], moment b step, _, d, rfl, by simp, hfinishes, history_over ?_ steps⟩
      rw [hfinishes.after_eq]

theorem growing_of_start {settings : Settings} {context : Option Context}
    (hb : ofDocument settings (.obj fs) context = .ok b) : Growing (fs.getD "usermeta") b := by
  obtain ⟨_, context, hfs, rfl⟩ := ofDocument_start hb
  obtain rfl := Except.ok.inj ((documentFields_obj fs).symm.trans hfs)
  exact ⟨rfl, rfl, start_extra⟩

theorem countP_unfinished {moments : List Moment} (h : ∀ m ∈ moments, m.finishes = false) :
    moments.countP Moment.finishes = 0 := by
  rw [List.countP_eq_zero]
  simpa using h

/-- From a document whose usermeta is unset or an object, whatever is asked of its builder: the
first time that it is asked to finish, a document is finished, but no other one. Up to then the
builder is open, and from then on it is over. -/
theorem history_lifecycle {settings : Settings} {context : Option Context}
    (hb : ofDocument settings (.obj fs) context = .ok b)
    (husermeta : fs.getD "usermeta" = .null ∨ ∃ us, fs.getD "usermeta" = .obj us)
    (steps : List Step) :
    (history b steps).countP Moment.finishes ≤ 1 ∧
      ((∀ m ∈ history b steps, m.IsOpen) ∨
        ∃ early m late d, history b steps = early ++ m :: late ∧ (∀ n ∈ early, n.IsOpen) ∧
          m.Finishes (fs.getD "usermeta") d ∧ ∀ n ∈ late, n.IsOver m.after) := by
  have hcases := (growing_of_start hb).history husermeta steps
  refine ⟨?_, hcases⟩
  rcases hcases with hopen | ⟨early, m, late, d, heq, hearly, -, hlate⟩
  · rw [countP_unfinished fun m hm => (hopen m hm).unfinished]
    exact Nat.zero_le 1
  · rw [heq, List.countP_append, List.countP_cons,
      countP_unfinished fun n hn => (hearly n hn).unfinished,
      countP_unfinished fun n hn => (hlate n hn).unfinished]
    split <;> simp

def describedBars : Fields :=
  [("scales", .arr [.obj [("name", .str "xScale"), ("type", .str "linear"),
    ("range", .str "width")]]), ("usermeta", .obj [("title", .str "bars")])]

def wholeLife : List Step :=
  [.add (.described (.obj [("position", .str "middle")]) .null),
    .add (.described (.obj [("position", .str "left"), ("dualMetricAxis", .bool true)]) .null),
    .hasSignal (.str "axis0_labels"), .finish,
    .add (.described (.obj [("position", .str "bottom")]) .null), .finish, .look]

theorem describedBars_lifecycle :
    ∃ b, ofDocument (.ofEnvironment {}) (.obj describedBars) none = .ok b ∧
      describedBars.getD "usermeta" = .obj [("title", .str "bars")] ∧
      (history b wholeLife).countP Moment.finishes ≤ 1 ∧
      ∃ early m late d, history b wholeLife = early ++ m :: late ∧ (∀ n ∈ early, n.IsOpen) ∧
        m.Finishes (describedBars.getD "usermeta") d ∧ ∀ n ∈ late, n.IsOver m.after := by
  have hb : ofDocument (.ofEnvironment {}) (.obj describedBars) none =
      .ok (start describedBars ⟨.vertical, .light, .null⟩) :=
    toOption_eq_some.mp (by decide +kernel)
  have hfinishes : (history (start describedBars ⟨.vertical, .light, .null⟩) wholeLife).any
      Moment.finishes = true := by decide +kernel
  obtain ⟨hcount, hopen | hover⟩ := history_lifecycle hb (.inr ⟨_, rfl⟩) wholeLife
  · obtain ⟨m, hm, hfinished⟩ := List.any_eq_true.mp hfinishes
    cases (hopen m hm).unfinished.symm.trans hfinished
  · exact ⟨_, hb, rfl, hcount, hover⟩

end VegaAxes.Builder
