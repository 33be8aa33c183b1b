import VegaAxes.Proofs.Builder.MarkAddition
import VegaAxes.Proofs.Builder.Runs
import VegaAxes.Proofs.Trellis.Mention

/-!
# What a build does not look at

No step of a build reads the usermeta or the next index, but for the search of trellis groups in
the text of the document. `runs_reseated`: a run with indices of its own runs alike from a
builder with another usermeta, if that mentions trellis groups where the first one does.
-/

namespace VegaAxes.Builder

variable {b b' : Builder} {o : AxisOptions} {index u n : Json} {calls : List Call} {α β : Type}

def reseated (u n : Json) (b : Builder) : Builder :=
  { b with usermeta := u, nextIndex := n }

-- ---------------------------------------------------------------------------
-- Steps that look at neither
-- ---------------------------------------------------------------------------

/-- The step succeeds alike, with the same answer, whatever the usermeta and the next index. -/
structure Blind (x : Build α) : Prop where
  run : ∀ u n b a b', x.run b = .ok a b' → x.run (b.reseated u n) = .ok a (b'.reseated u n)

theorem blind_bind {x : Build α} {f : α → Build β} (hx : Blind x) (hf : ∀ a, Blind (f a)) :
    Blind (x >>= f) := by
  refine ⟨fun u n b c b' h => ?_⟩
  obtain ⟨a, b₁, ha, hc⟩ := run_bind_ok.mp h
  exact run_bind_ok.mpr ⟨a, _, hx.run u n b a b₁ ha, (hf a).run u n b₁ c b' hc⟩

theorem blind_pure (a : α) : Blind (pure a) := by
  refine ⟨fun u n b a' b' h => ?_⟩
  obtain ⟨rfl, rfl⟩ := run_pure_ok.mp h
  exact run_pure_ok.mpr ⟨rfl, rfl⟩

theorem blind_lift (x : Except Error α) : Blind (liftM x) := by
  refine ⟨fun u n b a b' h => ?_⟩
  obtain ⟨hx, rfl⟩ := run_lift_ok.mp h
  exact run_lift_ok.mpr ⟨hx, rfl⟩

theorem blind_ite {c : Prop} [Decidable c] {x y : Build α} (hx : Blind x) (hy : Blind y) :
    Blind (if c then x else y) := by
  by_cases hc : c
  · rwa [if_pos hc]
  · rwa [if_neg hc]

theorem blind_get {f : Builder → Build α} (hf : ∀ b, Blind (f b))
    (hread : ∀ u n b, f (b.reseated u n) = f b) : Blind (get >>= f) := by
  refine ⟨fun u n b a b' h => ?_⟩
  obtain ⟨_, _, hget, h⟩ := run_bind_ok.mp h
  obtain ⟨rfl, rfl⟩ := run_get_ok.mp hget
  refine run_bind_ok.mpr ⟨_, _, run_get_ok.mpr ⟨rfl, rfl⟩, ?_⟩
  rw [hread]
  exact (hf b).run u n b a b' h

theorem blind_update {f : Builder → Except Error Builder}
    (hf : ∀ u n b b', f b = .ok b' → f (b.reseated u n) = .ok (b'.reseated u n)) :
    Blind (Attempt.update f) :=
  ⟨fun u n b _ b' h => run_update_ok.mpr (hf u n b b' (run_update_ok.mp h))⟩

theorem blind_marks (f : Json → Except Error Json) :
    Blind (Attempt.update fun b => do return { b with marks := ← f b.marks }) := by
  refine blind_update fun u n b b' h => ?_
  obtain ⟨marks, hmarks, heq⟩ := bind_ok.mp h
  cases heq
  exact bind_ok.mpr ⟨marks, hmarks, rfl⟩

theorem setMark_reseated (place : Nat) (g : Fields) :
    (b.reseated u n).setMark place g = (b.setMark place g).reseated u n := by
  obtain ⟨_, _, marks⟩ := b
  cases marks <;> rfl

theorem blind_onMark (place : Nat) (x : Attempt Fields α) : Blind (onMark place x) := by
  refine ⟨fun u n b a b' h => ?_⟩
  obtain ⟨g, hg, rfl⟩ := run_within_ok.mp h
  exact run_within_ok.mpr ⟨g, hg, setMark_reseated place g⟩

theorem blind_bundle (r : ResolvedAxis) (binding : Axis.Binding) : Blind (bundle r binding) := by
  refine ⟨fun u n b a b' h => ?_⟩
  obtain ⟨context, hcontext, rfl⟩ := run_within_ok.mp h
  exact run_within_ok.mpr ⟨context, hcontext, rfl⟩

theorem blind_addReferenceLines (r : ResolvedAxis) (scaleName : ScaleName) :
    Blind (addReferenceLines r scaleName) :=
  blind_ite (blind_bind (blind_marks (·.insertBlock _)) fun _ => blind_marks (·.append _))
    (blind_pure _)

theorem blind_addBaseline (r : ResolvedAxis) (group : Option Nat) :
    Blind (addBaseline r group) := by
  cases group with
  | none => exact blind_marks (withBaseline r)
  | some place => exact blind_onMark place _

theorem blind_facetBundle (r : ResolvedAxis) (binding : Axis.Binding) (place : Nat) :
    Blind (facetBundle r binding place) := by
  refine blind_get (fun b => blind_bind (blind_lift _) fun direction => ?_) fun _ _ _ => rfl
  refine blind_ite ?_ (blind_bundle ..)
  refine blind_bind (blind_onMark ..) fun scale => blind_bind (blind_lift _) fun name => ?_
  exact blind_bind (blind_bundle ..) fun axes => blind_bind (blind_lift _) fun _ => blind_pure _

theorem blind_addFacetAxes (r : ResolvedAxis) (binding : Axis.Binding) (place : Nat) :
    Blind (addFacetAxes r binding place) :=
  blind_bind (blind_facetBundle ..) fun _ => blind_onMark ..

theorem blind_addThumbnailMarks (r : ResolvedAxis) (scaleName : ScaleName)
    (dataField : Option String) :
    Blind (addThumbnailMarks r scaleName dataField) := by
  unfold addThumbnailMarks
  cases given dataField with
  | none => exact blind_pure _
  | some field => exact blind_ite (blind_marks (·.append _)) (blind_pure _)

theorem blind_addMarks (r : ResolvedAxis) (binding : Axis.Binding) (dataField : Option String) :
    Blind (addMarks r binding dataField) := by
  have hend : Blind (do addNoteMarks r binding.scaleName
                        addThumbnailMarks r binding.scaleName dataField) :=
    blind_bind (blind_marks (grow · _)) fun _ => blind_addThumbnailMarks ..
  refine blind_bind (blind_addReferenceLines ..) fun _ => ?_
  refine blind_get (fun b => ?_) fun _ _ _ => rfl
  refine blind_bind (blind_lift _) fun items => blind_bind (blind_lift _) fun group => ?_
  cases group with
  | none => exact blind_ite (blind_bind (blind_addBaseline ..) fun _ => hend) hend
  | some place =>
    have hfacets : Blind (do addFacetAxes r binding place
                             addNoteMarks r binding.scaleName
                             addThumbnailMarks r binding.scaleName dataField) :=
      blind_bind (blind_addFacetAxes ..) fun _ => hend
    exact blind_ite (blind_bind (blind_addBaseline ..) fun _ => hfacets) hfacets

-- ---------------------------------------------------------------------------
-- Calls and runs
-- ---------------------------------------------------------------------------

def MentionAlike (u v : Json) : Prop :=
  Trellis.isMentioned (u.orElse (.obj [])) = Trellis.isMentioned (v.orElse (.obj []))

theorem isMentioned_reseated (h : MentionAlike u b.usermeta) :
    Trellis.isMentioned (b.reseated u n).toJson = Trellis.isMentioned b.toJson := by
  have h : Trellis.isMentioned (u.orElse (.obj [])) =
    Trellis.isMentioned (b.usermeta.orElse (.obj [])) := h
  rw [toJson, toJson, Trellis.isMentioned_obj, Trellis.isMentioned_obj]
  simp only [reseated, List.any_append, List.any_cons, h]

theorem chartLevel_reseated (h : MentionAlike u b.usermeta) (r : ResolvedAxis) :
    chartLevel (b.reseated u n) r = chartLevel b r := by
  rw [chartLevel, chartLevel, isMentioned_reseated h]

/-- What adding an axis leaves alone. -/
theorem add_frame (h : (add o index).run b = .ok () b') :
    ∃ a : Addition b o index, { a.unmarked with marks := b'.marks } = b' := by
  obtain ⟨a, h⟩ := add_ok.mp h
  exact ⟨a, addMarks_frame h⟩

theorem add_reseated (hindex : index ≠ .null) (hu : MentionAlike u b.usermeta)
    (h : (add o index).run b = .ok () b') :
    (add o index).run (b.reseated u n) = .ok () (b'.reseated u b'.nextIndex) := by
  obtain ⟨a, h⟩ := add_ok.mp h
  have hown (c : Builder) : c.indexFor index = index := if_neg hindex
  have hnext := a.next_eq
  have haxis := a.axis_eq
  have haxes := a.axes_eq
  rw [hown] at hnext haxis
  rw [← chartLevel_reseated (u := u) (n := a.next) (b := { b with
    nextIndex := a.next, scales := narrowedScales o.range a.bound a.scales, data := a.data
    signals := a.signals }) hu] at haxes
  refine add_ok.mpr ⟨{ a with
    next_eq := ?_, axis_eq := ?_, isOpen := a.isOpen, bound_eq := a.bound_eq
    dualMetric_eq := a.dualMetric_eq, data_eq := a.data_eq, signals_eq := a.signals_eq
    oldAxes_eq := a.oldAxes_eq, axes_eq := haxes }, ?_⟩
  · rw [hown]
    exact hnext
  · rw [hown]
    exact haxis
  · have hrun := (blind_addMarks ..).run u a.next _ _ _ h
    rw [← show a.next = b'.nextIndex by rw [← addMarks_frame h]; rfl]
    exact hrun

theorem runs_reseated (h : Runs b calls b') (hcalls : ∀ c ∈ calls, c.index ≠ .null)
    (hu : MentionAlike u b.usermeta) (n : Json) :
    ∃ n', Runs (b.reseated u n) calls (b'.reseated u n') := by
  induction h generalizing n with
  | nil => exact ⟨n, .nil _⟩
  | @cons b b₁ b₂ c cs head tail ih =>
    obtain ⟨o, ho, hadd⟩ := Call.run_ok.mp head
    obtain ⟨a, hframe⟩ := add_frame hadd
    have husermeta : b₁.usermeta = b.usermeta := by
      rw [← hframe]
      rfl
    obtain ⟨n', htail⟩ := ih (fun c hc => hcalls c (List.mem_cons_of_mem _ hc)) (husermeta ▸ hu)
      b₁.nextIndex
    exact ⟨n', .cons (Call.run_ok.mpr ⟨o, ho, add_reseated (hcalls c (by simp)) hu hadd⟩) htail⟩

end VegaAxes.Builder
