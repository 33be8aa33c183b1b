import VegaAxes.Service
import VegaAxes.Proofs.Builder.Outcomes

/-!
# Answers to requests to compile axes

Every answer has one of four statuses (`post_answered`). Problems of the request, unknown words
and defects of the finished document have a status of their own, and a document that can be read
has no other answer but one of those. What cannot be read is no defect, and is answered with a
failure.
-/

namespace VegaAxes.Service

open Builder Document

variable {settings : Settings} {body : Body} {v : Json} {r : CompileRequest}

-- ---------------------------------------------------------------------------
-- The context of a request
-- ---------------------------------------------------------------------------

section
variable {α : Type} [Vocabulary α] {a : α} {e : Error}

theorem toWord_ok : v.toWord α = .ok a ↔ v = .str (Vocabulary.word a) := by
  constructor
  · intro h
    unfold Json.toWord at h
    cases v with
    | str s =>
      dsimp only at h
      split at h
      · next hs =>
        cases h
        rw [Vocabulary.word_of_ofWord? hs]
      · cases h
    | _ => cases h
  · rintro rfl
    simp [Json.toWord, Vocabulary.ofWord?_word]

theorem toWord_error (h : v.toWord α = .error e) :
    (∀ a : α, v ≠ .str (Vocabulary.word a)) ∧ e = .unknownWord (Vocabulary.title α) v := by
  refine ⟨?_, ?_⟩
  · rintro a rfl
    cases (toWord_ok.mpr rfl).symm.trans h
  · unfold Json.toWord at h
    cases v with
    | str s =>
      dsimp only at h
      split at h <;> cases h
      rfl
    | _ =>
      cases h
      rfl

def chosenWord (requested : Option α) (given : Json) (setting : String) : Except Error α :=
  match requested with
  | some a => .ok a
  | none => (given.orElse (.str setting)).toWord α

/-- The request names no word, and neither the document's nor else the setting's is one. -/
def IsUnnamed (requested : Option α) (given : Json) (setting : String) : Prop :=
  requested = none ∧ ∀ a : α, given.orElse (.str setting) ≠ .str (Vocabulary.word a)

theorem chosenWord_error {requested : Option α} {given : Json} {setting : String} :
    chosenWord requested given setting = .error e ↔ IsUnnamed requested given setting ∧
      e = .unknownWord (Vocabulary.title α) (given.orElse (.str setting)) := by
  cases requested with
  | some a => simp [chosenWord, IsUnnamed]
  | none =>
    simp only [chosenWord, IsUnnamed, true_and]
    constructor
    · exact toWord_error
    · rintro ⟨hnone, rfl⟩
      cases hword : (given.orElse (.str setting)).toWord α with
      | ok a => exact absurd (toWord_ok.mp hword) (hnone a)
      | error e => rw [(toWord_error hword).2]

end

def CompileRequest.context (settings : Settings) (r : CompileRequest) : Except Error Context :=
  Context.forDocument settings (Fields.getD r.document "usermeta") r.orientation r.colorScheme

def CompileRequest.usermeta (r : CompileRequest) : Json :=
  (Fields.getD r.document "usermeta").orElse (.obj [])

def CompileRequest.HasUnnamed (settings : Settings) (r : CompileRequest) (usermeta : Fields) :
    Prop :=
  IsUnnamed r.orientation (usermeta.getD "chartOrientation") settings.chartOrientation ∨
    IsUnnamed r.colorScheme (usermeta.getD "colorScheme") settings.colorScheme

theorem context_eq (settings : Settings) (r : CompileRequest) :
    r.context settings = (do
      let fs ← r.usermeta.fields
      let orientation ← chosenWord r.orientation
          (fs.getD "chartOrientation") settings.chartOrientation
      let colorScheme ← chosenWord r.colorScheme (fs.getD "colorScheme") settings.colorScheme
      return ⟨orientation, colorScheme, fs.getD "metricAxisCount"⟩) := by
  simp only [CompileRequest.context, CompileRequest.usermeta, Context.forDocument, chosenWord]
  cases r.orientation <;> cases r.colorScheme <;> rfl

/-- The usermeta is no object, or a word is unknown, or there is a context. -/
theorem context_cases (settings : Settings) (r : CompileRequest) :
    ((∀ fs, r.usermeta ≠ .obj fs) ∧ r.context settings = .error (.unfit .field)) ∨
      (∃ fs vocabulary given, r.usermeta = .obj fs ∧ r.HasUnnamed settings fs ∧
        r.context settings = .error (.unknownWord vocabulary given)) ∨
      ∃ fs context, r.usermeta = .obj fs ∧ ¬r.HasUnnamed settings fs ∧
        r.context settings = .ok context := by
  rw [context_eq]
  cases husermeta : r.usermeta with
  | obj fs =>
    refine .inr ?_
    simp only [Json.fields, bind, Except.bind]
    cases ho : chosenWord r.orientation (Fields.getD fs "chartOrientation")
        settings.chartOrientation with
    | error e =>
      obtain ⟨hunnamed, rfl⟩ := chosenWord_error.mp ho
      exact .inl ⟨fs, _, _, rfl, .inl hunnamed, rfl⟩
    | ok orientation =>
      cases hs : chosenWord r.colorScheme (Fields.getD fs "colorScheme")
          settings.colorScheme with
      | error e =>
        obtain ⟨hunnamed, rfl⟩ := chosenWord_error.mp hs
        exact .inl ⟨fs, _, _, rfl, .inr hunnamed, rfl⟩
      | ok colorScheme =>
        refine .inr ⟨fs, ⟨orientation, colorScheme, Fields.getD fs "metricAxisCount"⟩, rfl, ?_, rfl⟩
        rintro (hunnamed | hunnamed)
        · cases ho.symm.trans (chosenWord_error.mpr ⟨hunnamed, rfl⟩)
        · cases hs.symm.trans (chosenWord_error.mpr ⟨hunnamed, rfl⟩)
  | _ => exact .inl ⟨by simp, rfl⟩

theorem usermeta_of_context {context : Context} (h : r.context settings = .ok context) :
    ∃ fs, r.usermeta = .obj fs := by
  rcases context_cases settings r with ⟨-, hnone⟩ | ⟨fs, _, _, hfs, -⟩ | ⟨fs, _, hfs, -⟩
  · cases h.symm.trans hnone
  · exact ⟨fs, hfs⟩
  · exact ⟨fs, hfs⟩

-- ---------------------------------------------------------------------------
-- Answers
-- ---------------------------------------------------------------------------

def CompileRequest.result (settings : Settings) (r : CompileRequest) (context : Context) :
    Except Error Compiled :=
  compileAxes settings (.obj r.document) r.axes (some context) (some settings.validateOutput)

/-- Whether a message can be sent, or the document that was compiled. -/
def canSend : Except Error Compiled → Bool
  | .ok c =>
    isSendable (finite c.document.toJson) && nesting (finite c.document.toJson) ≤ maxNesting + 1
  | .error e => Text.isWhole e.message

def canSendProblems (ps : List Problem) : Bool :=
  ps.all fun p => p.path.all Text.isWhole && isSendable p.value

theorem invalid_status (ps : List Problem) :
    (invalid ps).status = if canSendProblems ps then 422 else 500 :=
  apply_ite Response.status _ _ _

theorem detail_status (status : Nat) (message : String) :
    (detail status message).status = if Text.isWhole message then status else 500 :=
  apply_ite Response.status _ _ _

theorem compiled_status (c : Compiled) :
    (compiled c).status = if canSend (.ok c) then 200 else 500 :=
  apply_ite Response.status _ _ _

theorem compile_status {context : Context} (hcontext : r.context settings = .ok context) :
    (compile settings r).status = match r.result settings context with
      | .ok c => if canSend (.ok c) then 200 else 500
      | .error (.malformed defect) => if canSend (.error (.malformed defect)) then 422 else 500
      | .error _ => 500 := by
  unfold CompileRequest.context at hcontext
  simp only [compile, hcontext, CompileRequest.result]
  cases compileAxes settings (.obj r.document) r.axes (some context)
    (some settings.validateOutput) with
  | ok c => exact compiled_status c
  | error e =>
    cases e with
    | malformed defect => exact detail_status _ _
    | _ => rfl

theorem compile_unknownWord {vocabulary : String} {given : Json}
    (hcontext : r.context settings = .error (.unknownWord vocabulary given)) :
    (compile settings r).status =
      if Text.isWhole (Error.unknownWord vocabulary given).message then 400 else 500 := by
  unfold CompileRequest.context at hcontext
  simp only [compile, hcontext]
  exact detail_status _ _

theorem compile_unfit (hcontext : r.context settings = .error (.unfit .field)) :
    (compile settings r).status = 500 := by
  unfold CompileRequest.context at hcontext
  simp only [compile, hcontext]
  rfl

def posted (body : Body) : Request :=
  ⟨"POST", "/spec/axes", body⟩

theorem handle_posted (settings : Settings) (body : Body) :
    handle settings (posted body) = answerCompile settings body := by
  have hmethod : Text.upperCase "POST" = "POST" := by decide +kernel
  have hroute : Route.ofTarget? "/spec/axes" = some .compile := by decide +kernel
  have hanswer : answer settings "POST" "/spec/axes" body = answerCompile settings body := by
    delta answer
    rw [hroute]
    rfl
  rw [handle, posted, hmethod, hanswer]
  rfl

structure CompiledIn (settings : Settings) (r : CompileRequest) (context : Context) (status : Nat) :
    Prop where
  /-- Only what the axes leave when they have all been added has a defect. -/
  malformed : status = 422 ↔ settings.validateOutput = true ∧ ∃ d defect,
    Builds (start r.document context) r.axes d ∧ validate d.toJson = .error (.malformed defect) ∧
      canSend (.error (.malformed defect)) = true
  /-- Without axes only the check reads the lists. -/
  legible : (start r.document context).LegibleLists →
    Receptive (start r.document context) ∨ r.axes = [] ∧ settings.validateOutput = true →
    if canSend (r.result settings context) then status ∈ [200, 422] else status = 500
  /-- Axes read the lists that they are added to before these are checked. -/
  unlisted : r.axes ≠ [] → (∃ key ∈ ["scales", "axes", "marks"], ∀ items,
    (Fields.getD r.document key).orElse (.arr []) ≠ .arr items) → status = 500

structure Answered (settings : Settings) (r : CompileRequest) (status : Nat) : Prop where
  /-- The usermeta is read before all else. -/
  unread : (∀ usermeta, r.usermeta ≠ .obj usermeta) → status = 500
  unknownWord : ∀ usermeta, r.usermeta = .obj usermeta → r.HasUnnamed settings usermeta →
    ∃ vocabulary given, r.context settings = .error (.unknownWord vocabulary given) ∧
      status = if canSend (.error (.unknownWord vocabulary given)) then 400 else 500
  compiled : ∀ context, r.context settings = .ok context → CompiledIn settings r context status

theorem compile_known (settings : Settings) (r : CompileRequest) :
    (compile settings r).status ∈ [200, 400, 422, 500] := by
  rcases context_cases settings r with
    ⟨-, hcontext⟩ | ⟨_, _, _, -, -, hcontext⟩ | ⟨_, context, -, -, hcontext⟩
  · simp [compile_unfit hcontext]
  · rw [compile_unknownWord hcontext]
    split <;> simp
  · rw [compile_status hcontext]
    split
    · split <;> simp
    · split <;> simp
    · simp

/-- A request that has a context is refused exactly for a defect whose message can be sent. -/
theorem compile_refused {context : Context} (hcontext : r.context settings = .ok context) :
    (compile settings r).status = 422 ↔ ∃ defect,
      r.result settings context = .error (.malformed defect) ∧
        canSend (.error (.malformed defect)) = true := by
  rw [compile_status hcontext]
  cases r.result settings context with
  | ok c =>
    refine iff_of_false (fun h => ?_) (by simp)
    dsimp only at h
    split at h <;> cases h
  | error e =>
    cases e with
    | malformed defect =>
      simp only [Except.error.injEq, Error.malformed.injEq, exists_eq_left']
      split <;> simp [*]
    | _ => exact iff_of_false (by simp) (by simp)

theorem compile_decided {context : Context} (hcontext : r.context settings = .ok context)
    (h : Decides (r.result settings context)) :
    if canSend (r.result settings context) then (compile settings r).status ∈ [200, 422]
      else (compile settings r).status = 500 := by
  rw [compile_status hcontext]
  cases hresult : r.result settings context with
  | ok c => split <;> simp [*]
  | error e =>
    obtain ⟨defect, rfl⟩ := h e hresult
    split <;> simp [*]

theorem compile_unbuilt {context : Context} (hcontext : r.context settings = .ok context)
    (h : ∀ d, ¬Builds (start r.document context) r.axes d) : (compile settings r).status = 500 := by
  rw [compile_status hcontext]
  cases hresult : r.result settings context with
  | ok c =>
    obtain ⟨d, hd⟩ := compileAxes_builds hresult
    exact absurd hd (h d)
  | error e =>
    cases e with
    | malformed defect =>
      obtain ⟨-, d, hd, -⟩ := compileAxes_malformed.mp hresult
      exact absurd hd (h d)
    | _ => rfl

theorem compile_compiledIn {context : Context} (hcontext : r.context settings = .ok context) :
    CompiledIn settings r context (compile settings r).status where
  malformed := by
    rw [compile_refused hcontext]
    constructor
    · rintro ⟨defect, hresult, hsend⟩
      obtain ⟨hvalidated, d, hbuilds, hcheck⟩ := compileAxes_malformed.mp hresult
      exact ⟨hvalidated, d, defect, hbuilds, hcheck, hsend⟩
    · rintro ⟨hvalidated, d, defect, hbuilds, hcheck, hsend⟩
      exact ⟨defect, compileAxes_malformed.mpr ⟨hvalidated, d, hbuilds, hcheck⟩, hsend⟩
  legible hlegible hread := by
    refine compile_decided hcontext ?_
    rw [CompileRequest.result, compileAxes_validateOutput]
    exact compileAxes_decides hlegible (usermeta_of_context hcontext) hread
  unlisted haxes := by
    rintro ⟨key, hkey, hunlisted⟩
    refine compile_unbuilt hcontext fun d h => ?_
    obtain ⟨o, os, haxes⟩ := List.exists_cons_of_ne_nil haxes
    rw [haxes] at h
    obtain ⟨items, hitems⟩ := builds_listed h key hkey
    exact hunlisted items hitems

theorem compile_answered (settings : Settings) (r : CompileRequest) :
    Answered settings r (compile settings r).status where
  unread hnone := by
    rcases context_cases settings r with ⟨-, hcontext⟩ | ⟨fs, _, _, hfs, -⟩ | ⟨fs, _, hfs, -⟩
    · exact compile_unfit hcontext
    · exact absurd hfs (hnone fs)
    · exact absurd hfs (hnone fs)
  unknownWord fs hfs hunnamed := by
    rcases context_cases settings r with ⟨hnone, -⟩ | ⟨_, vocabulary, given, -, -, hcontext⟩ |
      ⟨fs', _, hfs', hnamed, -⟩
    · exact absurd hfs (hnone fs)
    · exact ⟨vocabulary, given, hcontext, compile_unknownWord hcontext⟩
    · cases hfs.symm.trans hfs'
      exact absurd hunnamed hnamed
  compiled _ hcontext := compile_compiledIn hcontext

/-- Every request to compile axes is answered with one of four statuses. -/
theorem post_answered (hbody : body.received = .value v) :
    (handle settings (posted body)).status ∈ [200, 400, 422, 500] ∧
      (∀ ps, CompileRequest.read v = .bad ps → (handle settings (posted body)).status =
        if canSendProblems ps then 422 else 500) ∧
      ∀ r, CompileRequest.read v = .ok r →
        Answered settings r (handle settings (posted body)).status := by
  rw [handle_posted, answerCompile, hbody]
  dsimp only
  cases CompileRequest.read v with
  | bad ps =>
    rw [invalid_status]
    refine ⟨by split <;> simp, ?_, nofun⟩
    rintro _ ⟨⟩
    rfl
  | ok r =>
    refine ⟨compile_known settings r, nofun, ?_⟩
    rintro _ ⟨⟩
    exact compile_answered settings r

def barsDocument : Fields :=
  [("scales", .arr [.obj [("name", .str "xBand"), ("type", .str "band"), ("range", .str "width")]]),
    ("marks", .arr [.obj [("name", .str "bars"), ("type", .str "rect")]])]

def barsRequest : Json :=
  .obj [("spec", .obj barsDocument), ("axes", .arr [.obj [("position", .str "bottom")]])]

theorem bars_receptive : Receptive (start barsDocument ⟨.vertical, .light, .null⟩) where
  isOpen := rfl
  count := .inl rfl
  scales := ⟨_, rfl, fun scale hscale => by
    obtain rfl := List.mem_singleton.mp hscale
    exact ⟨⟨"xBand", rfl, by simp⟩, .inr ⟨"band", rfl⟩⟩⟩
  axes := ⟨[], rfl⟩
  marks := by
    refine ⟨_, rfl, fun m hm => ?_, fun m hm => ?_, fun place g hplace hg => ?_⟩
    · obtain rfl := List.mem_singleton.mp hm
      rfl
    · obtain rfl := List.mem_singleton.mp hm
      exact .inr ⟨"bars", rfl⟩
    · cases hplace
  signals := ⟨[], rfl, by simp⟩
  data := ⟨[], rfl⟩

theorem bars_legible : (start barsDocument ⟨.vertical, .light, .null⟩).LegibleLists where
  axes := by
    rintro _ ⟨⟩ axis ⟨⟩
  marks := by
    rintro _ ⟨⟩ m hm
    obtain rfl := List.mem_singleton.mp hm
    refine .plain ?_
    rintro _ ⟨⟩
    simp [Fields.getD, Fields.get?_cons]
  signals := by
    rintro _ ⟨⟩ signal ⟨⟩
  data := by
    rintro _ ⟨⟩ table ⟨⟩

theorem barsRequest_read : ∃ r, CompileRequest.read barsRequest = .ok r ∧
    r.document = barsDocument ∧ r.axes ≠ [] ∧ r.orientation = none ∧ r.colorScheme = none := by
  have hread : (match CompileRequest.read barsRequest with
      | .ok r => decide (r.document = barsDocument) && !r.axes.isEmpty && r.orientation.isNone &&
          r.colorScheme.isNone
      | .bad _ => false) = true := by decide +kernel
  split at hread
  · next r hr => exact ⟨r, hr, by simpa [and_assoc] using hread⟩
  · cases hread

theorem barsRequest_answered :
    (Body.json barsRequest).received = .value barsRequest ∧
      (∃ r context, CompileRequest.read barsRequest = .ok r ∧ r.axes ≠ [] ∧
        r.context (.ofEnvironment {}) = .ok context ∧ (start r.document context).LegibleLists ∧
        Receptive (start r.document context)) ∧
      (handle (.ofEnvironment {}) (posted (.json barsRequest))).status = 200 ∧
      ((handle (.ofEnvironment {}) (posted (.json barsRequest))).status ∈ [200, 400, 422, 500] ∧
        (∀ ps, CompileRequest.read barsRequest = .bad ps →
          (handle (.ofEnvironment {}) (posted (.json barsRequest))).status =
            if canSendProblems ps then 422 else 500) ∧
        ∀ r, CompileRequest.read barsRequest = .ok r → Answered (.ofEnvironment {}) r
          (handle (.ofEnvironment {}) (posted (.json barsRequest))).status) := by
  obtain ⟨r, hread, hdocument, haxes, horientation, hscheme⟩ := barsRequest_read
  refine ⟨rfl, ⟨r, ⟨.vertical, .light, .null⟩, hread, haxes, ?_, ?_, ?_⟩, by decide +kernel,
    post_answered rfl⟩
  · rw [CompileRequest.context, hdocument, horientation, hscheme]
    rfl
  · exact hdocument ▸ bars_legible
  · exact hdocument ▸ bars_receptive

def oneField (key : String) (v : Json) (axes : List Json) : Json :=
  .obj [("spec", .obj [(key, v)]), ("axes", .arr axes)]

/-- Scales that are no list are a defect for a request without axes, and bring one with an axis
down; a scale that is no object is a defect, and such a signal brings the check down. -/
theorem unread_unanswered :
    (handle (.ofEnvironment {}) (posted (.json (oneField "scales" (.int 5) [])))).status = 422 ∧
    (handle (.ofEnvironment {}) (posted (.json (oneField "scales" (.int 5)
      [.obj [("position", .str "bottom")]])))).status = 500 ∧
    (handle (.ofEnvironment {}) (posted (.json (oneField "scales" (.arr [.int 1]) [])))).status =
      422 ∧
    (handle (.ofEnvironment {}) (posted (.json (oneField "signals" (.arr [.int 1]) [])))).status =
      500 := by
  decide +kernel

end VegaAxes.Service
