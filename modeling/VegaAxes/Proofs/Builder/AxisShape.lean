import VegaAxes.Proofs.Axis.Sides
import VegaAxes.Proofs.Builder.BareFacets
import VegaAxes.Proofs.Builder.Counting
import VegaAxes.Proofs.Builder.GroupValidity
import VegaAxes.Proofs.Builder.MetricAxes

/-!
# The shape of one description

`bundle_shape`: the axes of a description are one or two that show labels, then the companion if
there are sub-labels, then an empty axis for each note. What later steps look for at the first
place stands there: the title, the grid, and the room between labels and title.
-/

namespace VegaAxes.Axis

variable {axis axis' : Fields} {axes axes' labels : List Fields} {o o' : ResolvedAxis} {b : Binding}
  {scaleName : ScaleName} {context context' : Context} {name : String}

-- ---------------------------------------------------------------------------
-- Parts of a bundle
-- ---------------------------------------------------------------------------

/-- The axes that show labels: one, or for times along the width a fine and a coarse one. -/
def baseAxes (o : ResolvedAxis) (scaleName : ScaleName) : List Fields :=
  if o.labelFormat = .time then titled o (secondaryTime scaleName o) :: (time scaleName o).tail
  else [titled o (base o scaleName)]

def companionAxes (o : ResolvedAxis) (scaleName : ScaleName) : List Fields :=
  if o.hasSubLabels then [subLabels o scaleName] else []

theorem labelAxes_eq : labelAxes o b = baseAxes o b.scaleName ++ companionAxes o b.scaleName := by
  unfold labelAxes baseAxes companionAxes
  cases o.labelFormat <;> rfl

theorem length_baseAxes : (baseAxes o scaleName).length =
    if o.labelFormat = .time ∧ (o.position = .top ∨ o.position = .bottom) then 2 else 1 := by
  unfold baseAxes time
  by_cases hformat : o.labelFormat = .time
  · cases hp : o.position <;> simp [hformat, Position.isVertical]
  · simp [hformat]

theorem length_companionAxes :
    (companionAxes o scaleName).length = if o.hasSubLabels then 1 else 0 := by
  unfold companionAxes
  split <;> rfl

theorem AllComeFrom.split (h : AllComeFrom labels (axes ++ axes')) :
    ∃ first second, labels = first ++ second ∧ AllComeFrom first axes ∧
      AllComeFrom second axes' := by
  refine ⟨labels.take axes.length, labels.drop axes.length, (List.take_append_drop ..).symm,
    fun key hkey => ?_, fun key hkey => ?_⟩
  · rw [List.map_take, h key hkey, List.map_append, List.take_left' (by simp)]
  · rw [List.map_drop, h key hkey, List.map_append, List.drop_left' (by simp)]

theorem AllComeFrom.uncons (h : AllComeFrom labels (axis :: axes)) :
    ∃ first rest, labels = first :: rest ∧ ComesFrom first axis ∧ AllComeFrom rest axes := by
  cases labels with
  | nil => cases h "orient" (by simp [decoratedKeys])
  | cons first rest =>
    refine ⟨first, rest, rfl, fun key hkey => ?_, fun key hkey => ?_⟩
    · exact (List.cons.inj (h key hkey)).1
    · exact (List.cons.inj (h key hkey)).2

-- ---------------------------------------------------------------------------
-- The first axis and the others
-- ---------------------------------------------------------------------------

/-- The axis has no title and does not draw the grid. -/
structure IsSecondary (axis : Fields) : Prop where
  untitled : axis.get? "title" = none
  gridless : axis.get? "grid" ≠ some (.bool true)

theorem ComesFrom.isSecondary (h : ComesFrom axis' axis) (hsecondary : IsSecondary axis) :
    IsSecondary axis' where
  untitled := by
    rw [h "title" (by simp [decoratedKeys])]
    exact hsecondary.untitled
  gridless := by
    rw [h "grid" (by simp [decoratedKeys])]
    exact hsecondary.gridless

theorem AllComeFrom.isSecondary (h : AllComeFrom axes' axes)
    (hall : ∀ axis ∈ axes, IsSecondary axis) :
    ∀ axis ∈ axes', IsSecondary axis := by
  intro axis' haxis'
  obtain ⟨axis, haxis, hcomes⟩ := h.origin haxis'
  exact hcomes.isSecondary (hall axis haxis)

theorem isSecondary_primaryTime (scaleName : ScaleName) :
    IsSecondary (primaryTime scaleName o) where
  untitled := Fields.get?_present_none rfl
  gridless := by
    have hnone : (primaryTime scaleName o).get? "grid" = none := Fields.get?_present_none rfl
    simp [hnone]

theorem isSecondary_companionAxes : ∀ axis ∈ companionAxes o scaleName, IsSecondary axis := by
  unfold companionAxes
  split
  · simp only [List.mem_singleton, forall_eq]
    refine ⟨?_, by simp [subLabels_grid]⟩
    rw [subLabels, Fields.get?_erase, Fields.get?_erase]
    rfl
  · simp

theorem isSecondary_layoutAxis (scaleName : ScaleName) (a : Note) :
    IsSecondary (Note.layoutAxis scaleName a) :=
  ⟨rfl, by simp [Note.layoutAxis, Fields.get?_cons]⟩

/-- The axis has its title further away if sub-labels stand between. -/
def IsPadded (o : ResolvedAxis) (axis : Fields) : Prop :=
  axis.get? "titlePadding" = if o.hasSubLabels then some (.int 24) else none

theorem isPadded_titled (h : axis.get? "titlePadding" = none) : IsPadded o (titled o axis) := by
  unfold IsPadded titled padTitle
  split
  · exact Fields.get?_set_self _ _ _
  · exact h

theorem baseAxes_eq_cons (o : ResolvedAxis) (scaleName : ScaleName) :
    ∃ first rest, baseAxes o scaleName = first :: rest ∧ IsPadded o first ∧
      ∀ axis ∈ rest, IsSecondary axis := by
  unfold baseAxes
  split
  · refine ⟨_, _, rfl, isPadded_titled (Fields.get?_present_none ?_), ?_⟩
    · unfold secondaryTimeFormat
      split <;> rfl
    · unfold time
      split
      · simp
      · simpa using isSecondary_primaryTime scaleName
  · refine ⟨_, [], rfl, isPadded_titled ?_, by simp⟩
    rw [base_get? o (by simp) (by simp)]
    exact Fields.get?_present_none rfl

-- ---------------------------------------------------------------------------
-- The whole bundle
-- ---------------------------------------------------------------------------

def noteAxis (name : String) (note : NoteOptions) : Fields :=
  [("scale", .str name), ("orient", .str "bottom"), ("values", .arr []),
    ("offset", (note.offset.getD Theme.noteOffset).toJson)]

/-- The parts that the axes of a description are made of, where it is drawn at the side. -/
structure Shape (o : ResolvedAxis) (name : String) (side : Position)
    (bases companions layouts : List Fields) : Prop where
  origin : ∃ drawn, Trellis.withHeader ⟨.str name⟩ o = .ok drawn ∧
    AllComeFrom bases (baseAxes drawn ⟨.str name⟩) ∧
    AllComeFrom companions (companionAxes drawn ⟨.str name⟩)
  bases_length : bases.length =
    if o.labelFormat = .time ∧ (side = .top ∨ side = .bottom) then 2 else 1
  companions_length : companions.length =
    if o.subLabels ≠ [] ∧ o.labelOrientation = .horizontal then 1 else 0
  layouts_eq : layouts = if side = .bottom then o.notes.map (noteAxis name) else []
  orients : ∀ axis ∈ bases ++ companions, StandsAt side axis
  scales : ∀ axis ∈ bases ++ companions ++ layouts,
    ∃ role, axis.get? "scale" = some (scaleIn ⟨.str name⟩ role)
  first : ∃ first rest, bases ++ companions ++ layouts = first :: rest ∧
    (first.get? "titlePadding" =
      if o.subLabels ≠ [] ∧ o.labelOrientation = .horizontal then some (.int 24) else none) ∧
    ∀ axis ∈ rest, IsSecondary axis

theorem layoutAxes_eq (h : Trellis.withHeader ⟨.str name⟩ o = .ok o') :
    (Note.all o').map (Note.layoutAxis ⟨.str name⟩) =
      if o'.position = .bottom then o.notes.map (noteAxis name) else [] := by
  have hnotes : o'.notes = o.notes := Trellis.withHeader_keeps (F := (·.notes)) (fun _ _ => rfl) h
  unfold Note.all Position.supportsNotes
  by_cases hp : o'.position = .bottom
  · rw [if_pos (by simpa using hp), if_pos hp, hnotes]
    refine List.ext_getElem (by simp) fun i _ _ => ?_
    rw [List.getElem_map, List.getElem_mapIdx, List.getElem_map]
    rfl
  · rw [if_neg (by simpa using hp), if_neg hp]
    rfl

theorem shape_of_bundle (hname : b.scaleName = ⟨.str name⟩)
    (h : (bundle o b).run context = .ok axes context') :
    ∃ bases companions layouts, axes = bases ++ companions ++ layouts ∧
      Shape o name (Trellis.drawnSide ⟨.str name⟩ o.position) bases companions layouts := by
  obtain ⟨o', labels, ho', heq, -, hformed, hlayouts⟩ := bundle_formed h
  obtain ⟨_, labels', ho'', heq', horigin⟩ := bundle_origin h
  cases ho'.symm.trans ho''
  obtain rfl := List.append_cancel_right (heq.symm.trans heq')
  have horients := bundle_orients h
  subst heq
  rw [hname] at ho' hlayouts horients
  have hside := Trellis.position_header ho'
  rw [labelAxes_eq, hname] at horigin
  obtain ⟨bases, companions, rfl, hbases, hcompanions⟩ := horigin.split
  obtain ⟨head, others, hhead, hpadded, hothers⟩ := baseAxes_eq_cons o' ⟨.str name⟩
  obtain ⟨first, rest, rfl, hfirst, hrest⟩ := (hhead ▸ hbases).uncons
  have hsub : o'.hasSubLabels = true ↔ o.subLabels ≠ [] ∧ o.labelOrientation = .horizontal := by
    rw [Builder.hasSubLabels_header ho', hasSubLabels_iff]
  have hformat : o'.labelFormat = o.labelFormat :=
    Trellis.withHeader_keeps (F := (·.labelFormat)) (fun _ _ => rfl) ho'
  refine ⟨first :: rest, companions, _, rfl, ⟨o', ho', hbases, hcompanions⟩, ?_, ?_, ?_, ?_, ?_,
    first, rest ++ companions ++ _, rfl, ?_, ?_⟩
  · rw [hbases.length_eq, length_baseAxes, hformat, hside]
  · rw [hcompanions.length_eq, length_companionAxes]
    simp only [hsub]
  · rw [hname, layoutAxes_eq ho', hside]
  · exact fun axis haxis => horients axis (List.mem_append_left _ haxis)
  · intro axis haxis
    rcases List.mem_append.mp haxis with haxis | haxis
    · exact ⟨_, hname ▸ (hformed axis haxis).scale⟩
    · exact ⟨none, (hlayouts axis (hname ▸ haxis)).scale⟩
  · rw [hfirst "titlePadding" (by simp [decoratedKeys]), hpadded]
    simp only [hsub]
  · simp only [List.mem_append]
    rintro axis ((haxis | haxis) | haxis)
    · exact hrest.isSecondary hothers axis haxis
    · exact hcompanions.isSecondary isSecondary_companionAxes axis haxis
    · obtain ⟨a, -, rfl⟩ := List.mem_map.mp haxis
      exact isSecondary_layoutAxis _ a

/-- Every description has its axes, in this shape, in any context that can be counted on in. -/
theorem bundle_shape (o : ResolvedAxis) (name : String) (opposingType : Json) (dualMetric : Bool)
    (context : Context) (hcount : Builder.IsCount context.metricAxisCount) :
    ∃ bases companions layouts context',
      (bundle o ⟨⟨.str name⟩, opposingType, dualMetric⟩).run context =
        .ok (bases ++ companions ++ layouts) context' ∧
      Shape o name (Trellis.drawnSide ⟨.str name⟩ o.position) bases companions layouts := by
  obtain ⟨o', hheader⟩ := Builder.withHeader_text name o
  obtain ⟨axes, context', hrun⟩ := bundle_succeeds (b := ⟨⟨.str name⟩, opposingType, dualMetric⟩)
    hheader (Builder.startedCount_succeeds hcount)
  obtain ⟨bases, companions, layouts, rfl, hshape⟩ := shape_of_bundle rfl hrun
  exact ⟨bases, companions, layouts, context', hrun, hshape⟩

def quarters : ResolvedAxis where
  position := .bottom
  name := "axis0"
  labelFormat := .time
  subLabels := [{ value := .text "Q1", subLabel := "first" }]
  notes := [{}]

theorem quarters_shape :
    Builder.IsCount (.int 2) ∧ ∃ bases companions layouts context',
      (bundle quarters ⟨⟨.str "xTimeScale"⟩, .str "linear", true⟩).run ⟨.vertical, .light, .int 2⟩ =
        .ok (bases ++ companions ++ layouts) context' ∧
      bases.length = 2 ∧ companions.length = 1 ∧ layouts.length = 1 ∧
      ∀ axis ∈ bases ++ companions, StandsAt .bottom axis := by
  refine ⟨.inr rfl, ?_⟩
  obtain ⟨bases, companions, layouts, context', hrun, hshape⟩ :=
    bundle_shape quarters "xTimeScale" (.str "linear") true ⟨.vertical, .light, .int 2⟩ (.inr rfl)
  have hside : Trellis.drawnSide ⟨.str "xTimeScale"⟩ quarters.position = .bottom := by
    decide +kernel
  rw [hside] at hshape
  refine ⟨bases, companions, layouts, context', hrun, hshape.bases_length, hshape.companions_length,
    ?_, hshape.orients⟩
  rw [hshape.layouts_eq]
  rfl

end VegaAxes.Axis
