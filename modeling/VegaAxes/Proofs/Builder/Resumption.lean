import VegaAxes.Proofs.Builder.Counting
import VegaAxes.Proofs.Builder.Finish
import VegaAxes.Proofs.Builder.Reseating
import VegaAxes.Proofs.Json.Fields

/-!
# Resuming a build

A finished document has all that a build needs to go on: `ofDocument_finished` takes the builder
up again as it was, but for what no step looks at. `build_split`: a build that is finished
halfway and resumed from its document ends in the same document.
-/

namespace VegaAxes.Builder

variable {b b' : Builder} {settings : Settings} {document v w : Json} {o : AxisOptions}
  {index : Json} {calls : List Call} {context : Context}

-- ---------------------------------------------------------------------------
-- Lists that are set
-- ---------------------------------------------------------------------------

def Filled (v : Json) : Prop :=
  v.orElse (.arr []) = v

theorem filled_arr (items : List Json) : Filled (.arr items) := by
  cases items <;> rfl

theorem filled_orElse (v : Json) : Filled (v.orElse (.arr [])) := by
  by_cases h : v.truthy = true
  · simp [Filled, Json.orElse, h]
  · simp [Filled, Json.orElse, h]

theorem filled_append {items : List Json} (h : v.append items = .ok w) : Filled w := by
  obtain ⟨old, -, rfl⟩ := append_ok.mp h
  exact filled_arr _

theorem filled_grow {items : List Json} (hv : Filled v) (h : grow v items = .ok w) : Filled w := by
  unfold grow at h
  split at h
  · cases h
    exact hv
  · exact filled_append h

theorem filled_resolve {p : Position} {bound : Scale.Bound} (hv : Filled v)
    (h : Scale.resolve v p = .ok bound) : Filled bound.scales := by
  simp only [Scale.resolve, bind_ok] at h
  obtain ⟨items, -, found, -, h⟩ := h
  cases found with
  | some place =>
    cases h
    exact hv
  | none =>
    obtain ⟨scales, hscales, heq⟩ := bind_ok.mp h
    cases heq
    exact filled_append hscales

theorem filled_resolveOpposingType {p : Position} {scales type : Json} (hv : Filled v)
    (h : Scale.resolveOpposingType v p = .ok (scales, type)) : Filled scales := by
  simp only [Scale.resolveOpposingType, bind_ok] at h
  obtain ⟨items, -, found, -, h⟩ := h
  cases found with
  | some found =>
    cases h
    exact hv
  | none =>
    obtain ⟨_, hscales, heq⟩ := bind_ok.mp h
    cases heq
    exact filled_append hscales

theorem filled_boundScale {bound : BoundScale} {scales : Json} (hv : Filled v)
    (h : boundScale v o = .ok (bound, scales)) : Filled scales := by
  simp only [boundScale, bind_ok, pure_ok, Prod.mk.injEq] at h
  obtain ⟨r, hr, _, -, _, -, _, -, ⟨scales, type⟩, hopposing, -, rfl⟩ := h
  exact filled_resolveOpposingType (filled_resolve hv hr) hopposing

theorem filled_narrowedScales {range : Option (Float × Float)} {bound : BoundScale}
    (hv : Filled v) : Filled (narrowedScales range bound v) := by
  unfold narrowedScales
  split
  · split <;> exact filled_arr _
  · exact hv

theorem filled_addMarks {r : ResolvedAxis} {binding : Axis.Binding} {dataField : Option String}
    (hv : Filled b.marks) (h : (addMarks r binding dataField).run b = .ok () b') :
    Filled b'.marks := by
  cases hm : b.marks with
  | arr ms =>
    rcases (addMarks_ok hm).mp h with ⟨-, rfl⟩ | ⟨_, _, _, -, -, rfl⟩ <;> exact filled_arr _
  | _ =>
    obtain rfl := addMarks_unlisted (by simp [hm]) h
    exact hv

-- ---------------------------------------------------------------------------
-- Builders that can be stored
-- ---------------------------------------------------------------------------

def givenCount (b : Builder) : Json :=
  Fields.getD b.usermeta.ownFields "metricAxisCount"

/-- The finished document will say all of the builder. -/
structure Storable (settings : Settings) (b : Builder) : Prop where
  isOpen : b.closed = false
  scales : Filled b.scales
  axes : Filled b.axes
  marks : Filled b.marks
  signals : Filled b.signals
  data : Filled b.data
  extra : ∀ field ∈ b.extra, field.1 ∉ ownKeys
  usermeta : b.usermeta = .null ∨ ∃ fs, b.usermeta = .obj fs
  context : Context.ofUsermeta settings b.usermeta =
    .ok { b.context with metricAxisCount := b.givenCount }
  count : CountsOn b.givenCount b.context.metricAxisCount

theorem ofUsermeta_ok {fs : Fields} (h : (v.orElse (.obj [])).fields = .ok fs) :
    Context.ofUsermeta settings v = do
      let orientation ←
        ((fs.getD "chartOrientation").orElse (.str settings.chartOrientation)).toWord Orientation
      let colorScheme ←
        ((fs.getD "colorScheme").orElse (.str settings.colorScheme)).toWord ColorScheme
      return ⟨orientation, colorScheme, fs.getD "metricAxisCount"⟩ := by
  rw [Context.ofUsermeta, Context.forDocument, h]
  rfl

theorem fields_usermeta (h : v = .null ∨ ∃ fs, v = .obj fs) :
    (v.orElse (.obj [])).fields = .ok v.ownFields := by
  rcases h with rfl | ⟨fs, rfl⟩
  · rfl
  · cases fs <;> rfl

theorem ofDocument_storable (h : ofDocument settings document none = .ok b)
    (hu : b.usermeta = .null ∨ ∃ fs, b.usermeta = .obj fs) : Storable settings b := by
  simp only [ofDocument, bind_ok, pure_ok] at h
  obtain ⟨fs, -, context, hcontext, rfl⟩ := h
  have hgiven : context.metricAxisCount =
      Fields.getD (Json.ownFields (fs.getD "usermeta")) "metricAxisCount" := by
    rw [ofUsermeta_ok (fields_usermeta hu)] at hcontext
    simp only [bind_ok, pure_ok] at hcontext
    obtain ⟨_, -, _, -, rfl⟩ := hcontext
    rfl
  refine ⟨rfl, filled_orElse _, filled_orElse _, filled_orElse _, filled_orElse _, filled_orElse _,
    fun field hfield => ?_, hu, ?_, .inl hgiven⟩
  · rw [Fields.foldl_erase] at hfield
    simpa using (List.mem_filter.mp hfield).2
  · rw [hcontext, givenCount, ← hgiven]

theorem add_storable (hb : Storable settings b) (h : (add o index).run b = .ok () b') :
    Storable settings b' ∧ CountsOn b.context.metricAxisCount b'.context.metricAxisCount := by
  obtain ⟨a, h⟩ := add_ok.mp h
  obtain ⟨hcount, hcontext⟩ := a.context_ok
  have hmarks := filled_addMarks (b := a.unmarked) hb.marks h
  have hframe := addMarks_frame h
  rw [← hframe]
  refine ⟨⟨hb.isOpen, ?_, filled_arr _, hmarks, ?_, ?_, hb.extra, hb.usermeta, ?_, ?_⟩, hcount⟩
  · exact filled_narrowedScales (filled_boundScale hb.scales a.bound_eq)
  · exact filled_grow hb.signals a.signals_eq
  · exact filled_grow hb.data a.data_eq
  · refine hb.context.trans (congrArg Except.ok ?_)
    rw [← hcontext]
    rfl
  · exact hb.count.trans hcount

theorem runs_storable (h : Runs b calls b') (hb : Storable settings b) :
    Storable settings b' ∧ CountsOn b.context.metricAxisCount b'.context.metricAxisCount := by
  induction h with
  | nil => exact ⟨hb, .inl rfl⟩
  | cons head tail ih =>
    obtain ⟨o, -, hadd⟩ := Call.run_ok.mp head
    obtain ⟨hb₁, hcount⟩ := add_storable hb hadd
    obtain ⟨hb₂, hcount'⟩ := ih hb₁
    exact ⟨hb₂, hcount.trans hcount'⟩

-- ---------------------------------------------------------------------------
-- Taking up a finished document
-- ---------------------------------------------------------------------------

/-- The usermeta of the finished document, where a document with none has null. -/
def storedUsermeta (b : Builder) : Json :=
  match b.finishedUsermeta with
  | some fs => .obj fs
  | none => .null

theorem storedUsermeta_fields (hb : Storable settings b) :
    (b.context.metricAxisCount = .null ∧ b.storedUsermeta = b.usermeta) ∨
      b.context.metricAxisCount ≠ .null ∧ b.storedUsermeta =
        .obj (Fields.set b.usermeta.ownFields "metricAxisCount" b.context.metricAxisCount) := by
  unfold storedUsermeta finishedUsermeta
  by_cases hcount : b.context.metricAxisCount = .null
  · refine .inl ⟨hcount, ?_⟩
    rw [if_pos hcount]
    rcases hb.usermeta with h | ⟨fs, h⟩ <;> simp [h, Json.ownFields]
  · refine .inr ⟨hcount, ?_⟩
    rw [if_neg hcount]

theorem storedUsermeta_context (hb : Storable settings b) :
    Context.ofUsermeta settings b.storedUsermeta = .ok b.context := by
  have hgiven := hb.context
  rcases storedUsermeta_fields hb with ⟨hcount, hstored⟩ | ⟨-, hstored⟩
  · have hnull : b.givenCount = .null := by
      rcases hb.count with h | ⟨-, h⟩
      · rw [← h, hcount]
      · simp [hcount, Json.number?] at h
    rw [hstored, hgiven, hnull, ← hcount]
  · rw [ofUsermeta_ok (fields_usermeta hb.usermeta)] at hgiven
    rw [hstored, ofUsermeta_ok (fields_usermeta (.inr ⟨_, rfl⟩))]
    have hother {key : String} (hkey : key ≠ "metricAxisCount") (v : Json) :
        Fields.getD (Fields.set b.usermeta.ownFields "metricAxisCount" v) key =
          Fields.getD b.usermeta.ownFields key :=
      Fields.getD_eq_of_get? (Fields.get?_set_of_ne _ _ hkey) _
    have hobj (fs : Fields) : Json.ownFields (.obj fs) = fs := rfl
    simp only [hobj, hother (show "chartOrientation" ≠ "metricAxisCount" by simp),
      hother (show "colorScheme" ≠ "metricAxisCount" by simp), bind_ok, pure_ok] at hgiven ⊢
    obtain ⟨orientation, horientation, scheme, hscheme, heq⟩ := hgiven
    refine ⟨orientation, horientation, scheme, hscheme, ?_⟩
    simp only [Context.mk.injEq] at heq
    rw [heq.1, heq.2.1, Fields.getD, Fields.get?_set_self]
    rfl

theorem storedUsermeta_mention (hb : Storable settings b) :
    MentionAlike b.storedUsermeta b.usermeta := by
  have hkey : Trellis.isMentioned (.str "metricAxisCount") = false := by decide +kernel
  have hnumber {v : Json} (hv : IsCount v) : Trellis.isMentioned v = false :=
    Trellis.isMentioned_number hv
  have horElse {v : Json} (hv : v = .null ∨ ∃ fs, v = .obj fs) :
      v.orElse (.obj []) = .obj v.ownFields := by
    rcases hv with rfl | ⟨fs, rfl⟩
    · rfl
    · cases fs <;> rfl
  rcases storedUsermeta_fields hb with ⟨-, hstored⟩ | ⟨hset, hstored⟩
  · rw [hstored]
    rfl
  · rw [hstored, MentionAlike, horElse hb.usermeta, horElse (.inr ⟨_, rfl⟩)]
    rcases hb.count with hsame | ⟨hold, hnew⟩
    · have hget : Fields.get? b.usermeta.ownFields "metricAxisCount" =
          some b.context.metricAxisCount := by
        rw [hsame] at hset ⊢
        unfold givenCount Fields.getD at hset ⊢
        cases hg : Fields.get? b.usermeta.ownFields "metricAxisCount" with
        | none => exact absurd (by rw [hg]; rfl) hset
        | some v => rfl
      rw [Json.ownFields, Fields.set_of_get? hget]
    · refine Trellis.isMentioned_set hkey (hnumber (.inr hnew)) fun w hw => hnumber ?_
      have hgiven : b.givenCount = w := by rw [givenCount, Fields.getD, hw]; rfl
      exact hgiven ▸ hold

theorem ofDocument_finished (hb : Storable settings b) :
    ofDocument settings b.finished.toJson none = .ok (b.reseated b.storedUsermeta (.int 0)) := by
  have hrest {key : String} (hkey : key ∈ ownKeys) := getD_finished hb.extra hkey
  have husermeta : Fields.getD (b.extra ++ (b.finished.lists ++ b.usermetaField)) "usermeta" =
      b.storedUsermeta := by
    rw [hrest (by simp [ownKeys])]
    unfold usermetaField storedUsermeta
    cases b.finishedUsermeta <;> rfl
  have herase : ownKeys.foldl Fields.erase (b.extra ++ (b.finished.lists ++ b.usermetaField)) =
      b.extra := by
    have hnone : (b.finished.lists ++ b.usermetaField).filter (fun field => field.1 ∉ ownKeys) =
        [] := by
      unfold usermetaField
      cases b.finishedUsermeta <;> rfl
    rw [Fields.foldl_erase, List.filter_append, hnone, List.append_nil, List.filter_eq_self]
    intro field hfield
    simpa using hb.extra field hfield
  rw [finished_toJson]
  simp only [ofDocument, documentFields_obj, bind_ok, pure_ok, Except.ok.injEq, exists_eq_left',
    husermeta, storedUsermeta_context hb, herase]
  rw [hrest (by simp [ownKeys]), hrest (by simp [ownKeys]), hrest (by simp [ownKeys]),
    hrest (by simp [ownKeys]), hrest (by simp [ownKeys]), finished_lists]
  simp only [reseated, Builder.mk.injEq, true_and]
  exact ⟨hb.scales, hb.axes, hb.marks, hb.signals, hb.data, hb.isOpen.symm⟩

-- ---------------------------------------------------------------------------
-- Builds in two halves
-- ---------------------------------------------------------------------------

/-- Finishing comes to the same from a builder that was taken up again. -/
theorem finished_reseated {b₁ : Builder} (hb : Storable settings b)
    (husermeta : b₁.usermeta = b.usermeta)
    (hcount : CountsOn b.context.metricAxisCount b₁.context.metricAxisCount) (n : Json) :
    (b₁.reseated b.storedUsermeta n).finished = b₁.finished := by
  have husermeta₁ : (b₁.reseated b.storedUsermeta n).finishedUsermeta = b₁.finishedUsermeta := by
    unfold finishedUsermeta reseated
    dsimp only
    rcases storedUsermeta_fields hb with ⟨hnull, hstored⟩ | ⟨hset, hstored⟩
    · rw [hstored, husermeta]
    · have hset₁ : b₁.context.metricAxisCount ≠ .null := by
        rcases hcount with heq | ⟨-, hnumber⟩
        · rwa [heq]
        · intro hnull
          simp [hnull, Json.number?] at hnumber
      rw [if_neg hset₁, if_neg hset₁, hstored, husermeta]
      exact congrArg some (Fields.set_set ..)
  rw [finished, finished, husermeta₁]
  rfl

theorem runs_usermeta (h : Runs b calls b') : b'.usermeta = b.usermeta := by
  induction h with
  | nil => rfl
  | cons head tail ih =>
    obtain ⟨o, -, hadd⟩ := Call.run_ok.mp head
    obtain ⟨a, hframe⟩ := add_frame hadd
    rw [ih, ← hframe]
    rfl

theorem build_ok (call : α → Json → Call) {items : List α} {n : Nat} {d : Document}
    (h : (do addEach (fun item index => (call item index).run) n items; finish).run b = .ok d b') :
    ∃ b₁, Runs b (callsFrom call n items) b₁ ∧ finish.run b₁ = .ok d b' := by
  obtain ⟨_, b₁, hrun, hfinish⟩ := run_bind_ok.mp h
  exact ⟨b₁, addEach_runs.mp hrun, hfinish⟩

theorem build_runs {call : α → Json → Call} {items : List α} {n : Nat}
    (h : Runs b (callsFrom call n items) b') (hb' : Storable settings b') :
    (do addEach (fun item index => (call item index).run) n items; finish).run b =
      .ok b'.finished { b' with closed := true } :=
  run_bind_ok.mpr ⟨(), b', addEach_runs.mpr h, finish_ok hb'.isOpen hb'.usermeta⟩

/-- A build can be split: to finish after the first axes, and go on from the finished document
with the indices that the other axes have, comes to the same document. -/
theorem build_split {A B : List AxisOptions} {d : Document}
    (hstart : ofDocument settings document none = .ok b)
    (husermeta : b.usermeta = .null ∨ ∃ fs, b.usermeta = .obj fs)
    (h : (do addEach add 0 (A ++ B); finish).run b = .ok d b') :
    ∃ d₁ b₁ c c', (do addEach add 0 A; finish).run b = .ok d₁ b₁ ∧
      ofDocument settings d₁.toJson none = .ok c ∧ c.context = b₁.context ∧
      (do addEach add A.length B; finish).run c = .ok d c' := by
  obtain ⟨b₂, hrun, hfinish⟩ := build_ok .read h
  rw [callsFrom_append, Nat.zero_add] at hrun
  obtain ⟨b₁, hA, hB⟩ := hrun.split
  have hb := ofDocument_storable hstart husermeta
  obtain ⟨hb₁, -⟩ := runs_storable hA hb
  obtain ⟨hb₂, hcount⟩ := runs_storable hB hb₁
  cases (finish_ok hb₂.isOpen hb₂.usermeta).symm.trans hfinish
  obtain ⟨n, hB'⟩ :=
    runs_reseated hB (index_of_callsFrom fun _ _ => rfl) (storedUsermeta_mention hb₁)
    (.int 0)
  have hfinished := finished_reseated hb₁ (runs_usermeta hB) hcount n
  refine ⟨b₁.finished, _, _, { b₂.reseated b₁.storedUsermeta n with closed := true },
    build_runs hA hb₁, ofDocument_finished hb₁, rfl, ?_⟩
  rw [← hfinished]
  refine run_bind_ok.mpr ⟨(), _, addEach_runs.mpr hB', finish_ok hb₂.isOpen ?_⟩
  rcases storedUsermeta_fields hb₁ with ⟨-, hstored⟩ | ⟨-, hstored⟩
  · exact hstored ▸ hb₁.usermeta
  · exact .inr ⟨_, hstored⟩

def leftAxes : List AxisOptions :=
  [{ position := .left, dualMetricAxis := some true }]
def rightAxes : List AxisOptions :=
  [{ position := .right, dualMetricAxis := some true }]

theorem bars_split :
    ∃ b d d₁ b₁ c c', ofDocument (.ofEnvironment {}) bars.toJson none = .ok b ∧
      (do addEach add 0 leftAxes; finish).run b = .ok d₁ b₁ ∧
      ofDocument (.ofEnvironment {}) d₁.toJson none = .ok c ∧
      (do addEach add 1 rightAxes; finish).run c = .ok d c' ∧
      d.usermeta.map thawFields = some [("metricAxisCount", .int 2)] := by
  have hstart : ofDocument (.ofEnvironment {}) bars.toJson none =
      .ok { bars with usermeta := .obj [] } := rfl
  have hcount : (after { bars with usermeta := .obj [] }
      (callsFrom .read 0 (leftAxes ++ rightAxes))).map finishedUsermeta =
        some (some [("metricAxisCount", .int 2)]) := by decide +kernel
  obtain ⟨b, hb, hcount⟩ := Option.map_eq_some_iff.mp hcount
  have hrun := after_eq_some.mp hb
  have hstorable := (runs_storable hrun (ofDocument_storable hstart (.inr ⟨_, rfl⟩))).1
  obtain ⟨d₁, b₁, c, c', h₁, hc, -, h₂⟩ :=
    build_split hstart (.inr ⟨_, rfl⟩) (build_runs hrun hstorable)
  exact ⟨_, _, d₁, b₁, c, c', hstart, h₁, hc, h₂, (thaw_finishedUsermeta b).trans hcount⟩

end VegaAxes.Builder
