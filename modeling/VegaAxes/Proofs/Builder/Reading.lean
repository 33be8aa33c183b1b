import VegaAxes.Compile
import VegaAxes.Proofs.Attempt

/-!
# Adding axes finds no defects

Whatever goes wrong while axes are added or a build is finished (`reads_addEach`, `reads_finish`),
it is no defect of a document: those are found by the check of the finished document alone.
-/

namespace VegaAxes

-- ---------------------------------------------------------------------------
-- Computations that find no defects
-- ---------------------------------------------------------------------------

/-- No failure of the computation is a defect of a document. -/
def Reads (x : Except Error α) : Prop :=
  ∀ defect, x ≠ .error (.malformed defect)

section
variable {x : Except Error α} {e : Error}

@[simp] theorem reads_ok (a : α) : Reads (.ok a) :=
  fun _ h => nomatch h

@[simp] theorem reads_pure (a : α) : Reads (pure a : Except Error α) :=
  reads_ok a

@[simp] theorem reads_error :
    Reads (.error e : Except Error α) ↔ ∀ defect, e ≠ .malformed defect := by
  simp [Reads]

@[simp] theorem reads_throw : Reads (throw e : Except Error α) ↔ ∀ defect, e ≠ .malformed defect :=
  reads_error

@[simp] theorem reads_bind {f : α → Except Error β} :
    Reads (x >>= f) ↔ Reads x ∧ ∀ a, x = .ok a → Reads (f a) := by
  cases x <;> simp [bind, Except.bind]

theorem Reads.bind {f : α → Except Error β} (hx : Reads x) (hf : ∀ a, Reads (f a)) :
    Reads (x >>= f) :=
  reads_bind.mpr ⟨hx, fun a _ => hf a⟩

@[simp] theorem reads_map {f : α → β} : Reads (x.map f) ↔ Reads x := by
  cases x <;> simp [Except.map]

@[simp] theorem reads_functor {f : α → β} : Reads (f <$> x) ↔ Reads x :=
  reads_map

theorem reads_mapM {f : α → Except Error β} (hf : ∀ a, Reads (f a)) (as : List α) :
    Reads (as.mapM f) := by
  induction as with
  | nil => simp
  | cons a as ih => simp [List.mapM_cons, hf a, ih]

theorem reads_foldlM {f : β → α → Except Error β} (hf : ∀ b a, Reads (f b a)) (b : β)
    (as : List α) :
    Reads (as.foldlM f b) := by
  induction as generalizing b with
  | nil => simp
  | cons a as ih => simp [List.foldlM_cons, hf b a, ih]

end

namespace Attempt

def Reads (x : Attempt σ α) (s : σ) : Prop :=
  ∀ defect s', x.run s ≠ .error (.malformed defect) s'

variable {σ τ : Type} {s : σ} {x : Attempt σ α} {e : Error}

@[simp] theorem reads_pure (a : α) : Reads (pure a) s :=
  fun _ _ h => nomatch h

@[simp] theorem reads_get : Reads get s :=
  fun _ _ h => nomatch h

@[simp] theorem reads_set (t : σ) : Reads (set t) s :=
  fun _ _ h => nomatch h

@[simp] theorem reads_modify (f : σ → σ) : Reads (modify f) s :=
  fun _ _ h => nomatch h

@[simp] theorem reads_throw :
    Reads (throw e : Attempt σ α) s ↔ ∀ defect, e ≠ .malformed defect := by
  constructor
  · rintro h defect rfl
    exact h defect s rfl
  · rintro h defect _ ⟨⟩
    exact h defect rfl

@[simp] theorem reads_lift {x : Except Error α} :
    Reads (liftM x : Attempt σ α) s ↔ VegaAxes.Reads x := by
  cases x with
  | ok a => exact iff_of_true (reads_pure a) (reads_ok a)
  | error e => exact reads_throw.trans reads_error.symm

@[simp] theorem reads_bind {f : α → Attempt σ β} :
    Reads (x >>= f) s ↔ Reads x s ∧ ∀ a t, x.run s = .ok a t → Reads (f a) t := by
  unfold Reads
  rw [EStateM.run_bind]
  cases x.run s <;> simp

theorem Reads.bind {f : α → Attempt σ β} (hx : Reads x s) (hf : ∀ a t, Reads (f a) t) :
    Reads (x >>= f) s :=
  reads_bind.mpr ⟨hx, fun a t _ => hf a t⟩

@[simp] theorem reads_functor {f : α → β} : Reads (f <$> x) s ↔ Reads x s := by
  rw [← bind_pure_comp, reads_bind]
  simp

@[simp] theorem reads_update {f : σ → Except Error σ} :
    Reads (update f) s ↔ VegaAxes.Reads (f s) := by
  simp only [update, reads_bind, reads_get, true_and, run_get_ok, reads_lift, reads_set,
    implies_true, and_true]
  exact ⟨fun h => h s s ⟨rfl, rfl⟩, by rintro h _ _ ⟨rfl, -⟩; exact h⟩

@[simp] theorem reads_within {part : σ → τ} {put : σ → τ → σ} {x : Attempt τ α} :
    Reads (within part put x) s ↔ Reads x (part s) := by
  simp only [Reads, EStateM.run, within]
  cases x (part s) <;> simp

end Attempt

-- ---------------------------------------------------------------------------
-- Values
-- ---------------------------------------------------------------------------

namespace Json

variable (v : Json)

@[simp] theorem reads_fields : Reads v.fields := by cases v <;> simp [fields]
@[simp] theorem reads_spread : Reads v.spread := by cases v <;> simp [spread]
@[simp] theorem reads_record : Reads v.record := by cases v <;> simp [record]
@[simp] theorem reads_elements : Reads v.elements := by cases v <;> simp [elements]
@[simp] theorem reads_length : Reads v.length := by cases v <;> simp [length]
@[simp] theorem reads_checkWord : Reads v.checkWord := by cases v <;> simp [checkWord]

@[simp] theorem reads_field (key : String) : Reads (v.field key) := by simp [field]
@[simp] theorem reads_field? (key : String) : Reads (v.field? key) := by simp [field?]
@[simp] theorem reads_holds (word : String) : Reads (v.holds word) := by cases v <;> simp [holds]

@[simp] theorem reads_append (items : List Json) : Reads (v.append items) := by
  cases v <;> simp [append]

@[simp] theorem reads_prepend (item : Json) : Reads (v.prepend item) := by
  cases v <;> simp [prepend]

@[simp] theorem reads_insertBlock (items : List Json) : Reads (v.insertBlock items) := by
  cases v <;> simp [insertBlock]

@[simp] theorem reads_first : Reads v.first := by
  unfold first
  split
  · split <;> simp
  all_goals simp

@[simp] theorem reads_successor : Reads v.successor := by
  unfold successor
  split <;> simp

theorem reads_descend (keys : List String) : Reads (v.descend keys) := by
  induction keys generalizing v with
  | nil => simp [descend]
  | cons key keys ih =>
    refine Reads.bind (reads_field? v key) fun found => ?_
    cases found with
    | none => simp
    | some w => exact ih w

end Json

-- ---------------------------------------------------------------------------
-- Scales
-- ---------------------------------------------------------------------------

namespace Scale

variable {e : Extent}

@[simp] theorem reads_occupies (scale : Json) : Reads (occupies e scale) := by simp [occupies]

@[simp] theorem reads_occupants (start : Nat) (scales : List Json) :
    Reads (occupants e start scales) := by
  induction scales generalizing start with
  | nil => simp [occupants]
  | cons scale scales ih => simp [occupants, ih]

@[simp] theorem reads_firstTrellis? (start : Nat) (scales : List Json) :
    Reads (firstTrellis? start scales) := by
  induction scales generalizing start with
  | nil => simp [firstTrellis?]
  | cons scale scales ih =>
    refine Reads.bind (Json.reads_field? _ _) fun name =>
      Reads.bind (Json.reads_holds _ _) fun found => ?_
    cases found <;> simp [ih]

@[simp] theorem reads_find? (scales : List Json) : Reads (find? e scales) := by
  refine Reads.bind (reads_occupants 0 scales) fun places => ?_
  split <;> simp

@[simp] theorem reads_resolve (scales : Json) (p : Position) : Reads (resolve scales p) := by
  refine Reads.bind (Json.reads_elements _) fun items =>
    Reads.bind (reads_find? items) fun found => ?_
  cases found <;> simp

@[simp] theorem reads_firstType? (scales : List Json) : Reads (firstType? e scales) := by
  induction scales with
  | nil => simp [firstType?]
  | cons scale scales ih =>
    refine Reads.bind (reads_occupies scale) fun here => ?_
    cases here <;> simp [ih]

@[simp] theorem reads_resolveOpposingType (scales : Json) (p : Position) :
    Reads (resolveOpposingType scales p) := by
  refine Reads.bind (Json.reads_elements _) fun items =>
    Reads.bind (reads_firstType? items) fun found => ?_
  cases found <;> simp

@[simp] theorem reads_dataField? (scale : Json) : Reads (dataField? scale) := by
  refine Reads.bind (Json.reads_field _ _) fun domain => ?_
  split
  · split <;> simp
  · simp

end Scale

-- ---------------------------------------------------------------------------
-- Axes
-- ---------------------------------------------------------------------------

namespace Trellis

variable (m : Json)

@[simp] theorem reads_markName : Reads (markName m) := by simp [markName]

@[simp] theorem reads_findGroup? (start : Nat) (marks : List Json) :
    Reads (findGroup? start marks) := by
  induction marks generalizing start with
  | nil => simp [findGroup?]
  | cons mark marks ih =>
    refine Reads.bind (reads_markName mark) fun name =>
      Reads.bind (Json.reads_holds _ _) fun found => ?_
    cases found <;> simp [ih]

@[simp] theorem reads_orientation : Reads (orientation m) := by
  refine Reads.bind (reads_markName m) fun name => ?_
  split <;> simp

@[simp] theorem reads_withHeader (scaleName : ScaleName) (o : ResolvedAxis) :
    Reads (withHeader scaleName o) := by
  refine reads_map.mpr (Reads.bind ?_ fun _ => ?_)
  · unfold ScaleName.checkSearchable
    split <;> simp
  · split
    · simp
    · split <;> simp

@[simp] theorem reads_encodeTitles (axes : Json) : Reads (encodeTitles axes m) := by
  have hfacet : Reads (Facet.ofGroup m) := by simp [Facet.ofGroup]
  refine Reads.bind hfacet fun facet => Reads.bind (Json.reads_elements _) fun items => ?_
  refine reads_mapM (fun axis => Reads.bind (Json.reads_fields _) fun fields => ?_) items
  split <;> simp

end Trellis

namespace Axis

variable (o : ResolvedAxis) (b : Binding)

@[simp] theorem reads_mergeEncode (axis encodings : Fields) :
    Reads (mergeEncode axis encodings) := by
  unfold mergeEncode
  dsimp only
  split <;> simp

@[simp] theorem reads_hideCovered (axis : Fields) : Reads (hideCovered o b axis) := by
  unfold hideCovered
  split
  · refine Reads.bind (Json.reads_descend _ _) fun text => ?_
    split <;> simp
  · simp

@[simp] theorem reads_decorate (axes : List Fields) : Reads (decorate o b axes) := by
  refine Reads.bind ?_ fun axes => Reads.bind ?_ fun axes => reads_pure _
  · cases axes <;> simp [onFirst]
  · unfold clearThumbnails
    split
    · exact reads_foldlM (fun axes t => reads_mapM (fun axis => reads_mergeEncode axis _) axes) _ _
    · simp

@[simp] theorem reads_coordinate (dual : Bool) (scaleName : String) (p : Position) (counted : Bool)
    (slot : DualMetric.Slot) : (DualMetric.coordinate dual scaleName p counted).Reads slot := by
  refine .bind Attempt.reads_get fun slot t => ?_
  dsimp only
  split
  · refine .bind (Attempt.reads_modify _) fun _ _ => .bind ?_ fun _ _ => ?_
    · simp [DualMetric.assign, DualMetric.applyStyle]
    · split <;> simp
  · simp

variable (context : Context)

@[simp] theorem reads_coordinated (p : Position) (counted : Bool) (axis : Fields) :
    (coordinated b p counted axis).Reads context := by
  intro defect context' h
  simp only [EStateM.run, coordinated] at h
  split at h
  · cases h
  · next hrun =>
    cases h
    exact reads_coordinate _ _ _ _ _ _ _ hrun

@[simp] theorem reads_labelled : (labelled o b).Reads context := by
  have hplain : (plainBundle o b).Reads context := by
    unfold plainBundle
    split <;> simp
  unfold labelled
  split
  · simp
  · exact hplain

@[simp] theorem reads_bundle : (bundle o b).Reads context := by
  simp [bundle]

end Axis

-- ---------------------------------------------------------------------------
-- Additions
-- ---------------------------------------------------------------------------

namespace Builder

variable (o : ResolvedAxis) (binding : Axis.Binding) (b : Builder)

@[simp] theorem reads_grow (list : Json) (items : List Json) : Reads (grow list items) := by
  unfold grow
  split <;> simp

@[simp] theorem reads_nameOf (scale : Fields) : Reads (nameOf scale) := by
  unfold nameOf
  split <;> simp

@[simp] theorem reads_anyNamed (name : Json) (signals : List Json) :
    Reads (anyNamed name signals) := by
  induction signals with
  | nil => simp [anyNamed]
  | cons signal signals ih =>
    refine .bind (Json.reads_field _ _) fun found => ?_
    split <;> simp [ih]

@[simp] theorem reads_resolveFor (o : AxisOptions) (type : Json) (scheme : ColorScheme)
    (index : Json) :
    Reads (o.resolveFor type scheme index) := by
  unfold AxisOptions.resolveFor
  dsimp only
  split <;> simp

@[simp] theorem reads_withBaseline (marks : Json) : Reads (withBaseline o marks) := by
  unfold withBaseline
  dsimp only
  split <;> simp

@[simp] theorem reads_ensureOpen : ensureOpen.Reads b := by
  refine .bind Attempt.reads_get fun b _ => ?_
  split <;> simp

@[simp] theorem reads_takeIndex (given : Json) : (takeIndex given).Reads b := by
  simp [takeIndex]

@[simp] theorem reads_bindScale (o : AxisOptions) : (bindScale o).Reads b := by
  unfold bindScale
  cases given o.name <;> simp

@[simp] theorem reads_isDualMetric (o : AxisOptions) : (isDualMetric o).Reads b := by
  unfold isDualMetric hasSignal
  cases o.dualMetricAxis <;> simp

@[simp] theorem reads_narrowDomain (range : Option (Float × Float)) (scale : BoundScale) :
    (narrowDomain range scale).Reads b := by
  unfold narrowDomain
  split
  · split <;> simp
  · simp

@[simp] theorem reads_addAxes : (addAxes o binding).Reads b := by
  simp [addAxes, bundle]

@[simp] theorem reads_addReferenceLines (scaleName : ScaleName) :
    (addReferenceLines o scaleName).Reads b := by
  unfold addReferenceLines
  split <;> simp

@[simp] theorem reads_addBaseline (group : Option Nat) : (addBaseline o group).Reads b := by
  cases group <;> simp [addBaseline, onMark]

@[simp] theorem reads_bindGroupScale (p : Position) (g : Fields) : (bindGroupScale p).Reads g := by
  refine .bind Attempt.reads_get fun g _ => .bind (by simp) fun bound _ => ?_
  dsimp only
  split <;> simp

@[simp] theorem reads_facetBundle (place : Nat) : (facetBundle o binding place).Reads b := by
  refine .bind Attempt.reads_get fun b _ => .bind (by simp) fun direction _ => ?_
  split <;> simp [bundle, onMark]

@[simp] theorem reads_addFacetAxes (place : Nat) : (addFacetAxes o binding place).Reads b := by
  simp [addFacetAxes, onMark]

@[simp] theorem reads_addThumbnailMarks (scaleName : ScaleName) (dataField : Option String) :
    (addThumbnailMarks o scaleName dataField).Reads b := by
  unfold addThumbnailMarks
  split
  · split <;> simp
  · simp

@[simp] theorem reads_addMarks (dataField : Option String) :
    (addMarks o binding dataField).Reads b := by
  refine .bind (reads_addReferenceLines _ _ _) fun _ _ => ?_
  refine .bind Attempt.reads_get fun b _ => .bind (by simp) fun marks _ =>
    .bind (by simp) fun group _ => ?_
  cases group <;> cases o.baseline && binding.opposesLinear <;> simp [addNoteMarks]

@[simp] theorem reads_add (o : AxisOptions) (index : Json) : (add o index).Reads b := by
  simp [add, addData, addSignals]

theorem reads_addEach (n : Nat) (os : List AxisOptions) : (addEach add n os).Reads b := by
  induction os generalizing n b with
  | nil => simp [addEach]
  | cons o os ih => exact .bind (reads_add b o _) fun _ t => ih t (n + 1)

theorem reads_finish : finish.Reads b := by
  simp [finish]

end Builder

end VegaAxes
