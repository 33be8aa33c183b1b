import VegaAxes.Proofs.Axis.Bundle

/-!
# What holds of every axis

A property that roles and decorations keep holds of all axes of a description if it holds of them as
they are first made (`labelled_forall`, `decorate_forall`). What they leave alone in an axis is the
same all along the list (`labelled_map_eq`, `clearThumbnails_map_eq`). What they keep of the first
axis holds of it whatever the others are (`labelled_first`, `decorate_first`).
-/

namespace VegaAxes.Axis

open DualMetric

variable {P : Fields → Prop} {axis : Fields} {axes axes' labels rest : List Fields}
  {o : ResolvedAxis}
  {b : Binding} {context context' : Context}

/-- Axes with labels are as they are first made, or all in one role. -/
theorem labelled_roles (h : (labelled o b).run context = .ok labels context') :
    labels = labelAxes o b ∨ ∃ role,
      (labelAxes o b).mapM (inRole role b.scaleName.spliced context.colorScheme) = .ok labels := by
  cases htakes : takesRole o b context with
  | false =>
    rw [labelled_off htakes] at h
    cases h
    exact .inl rfl
  | true => exact .inr ⟨_, ((labelled_ok htakes).mp h).1⟩

-- ---------------------------------------------------------------------------
-- What is kept
-- ---------------------------------------------------------------------------

theorem labelled_forall
    (hrole : ∀ {role axis axis'}, P axis →
      inRole role b.scaleName.spliced context.colorScheme axis = .ok axis' → P axis')
    (hP : ∀ axis ∈ labelAxes o b, P axis) (h : (labelled o b).run context = .ok labels context') :
    ∀ axis ∈ labels, P axis := by
  rcases labelled_roles h with rfl | ⟨role, heq⟩
  · exact hP
  · intro axis' haxis'
    obtain ⟨axis, haxis, hin⟩ := mapM_mem heq axis' haxis'
    exact hrole (hP axis haxis) hin

theorem onFirst_forall {f : Fields → Except Error Fields}
    (hf : ∀ {axis axis'}, P axis → f axis = .ok axis' → P axis') (hP : ∀ axis ∈ labels, P axis)
    (h : onFirst f labels = .ok axes) : ∀ axis ∈ axes, P axis := by
  cases labels with
  | nil =>
    cases h
    exact hP
  | cons axis labels =>
    obtain ⟨axis', heq, rfl⟩ := map_ok.mp h
    rw [List.forall_mem_cons] at hP ⊢
    exact ⟨hf hP.1 heq, hP.2⟩

theorem clearThumbnails_forall
    (hoffset : ∀ {t : Thumbnail} {axis axis'}, P axis →
      mergeEncode axis (t.labelEncoding o.position) = .ok axis' → P axis')
    (hP : ∀ axis ∈ axes, P axis) (h : clearThumbnails o axes = .ok axes') :
    ∀ axis ∈ axes', P axis := by
  unfold clearThumbnails at h
  split at h
  · refine foldlM_invariant (I := fun axes => ∀ axis ∈ axes, P axis) ?_ hP h
    intro axes t axes' hP hmapped axis' haxis'
    obtain ⟨axis, haxis, hmerge⟩ := mapM_mem hmapped axis' haxis'
    exact hoffset (hP axis haxis) hmerge
  · cases h
    exact hP

theorem decorate_forall
    (hfirst : ∀ {axis axis'}, P axis → hideCovered o b (drawBaseline o b axis) = .ok axis' →
      P axis')
    (hoffset : ∀ {t : Thumbnail} {axis axis'}, P axis →
      mergeEncode axis (t.labelEncoding o.position) = .ok axis' → P axis')
    (hlayout : ∀ a, P (Note.layoutAxis b.scaleName a)) (hP : ∀ axis ∈ labels, P axis)
    (h : decorate o b labels = .ok axes) : ∀ axis ∈ axes, P axis := by
  obtain ⟨drawn, cleared, hdrawn, hcleared, rfl⟩ := decorate_ok.mp h
  rw [List.forall_mem_append]
  refine ⟨clearThumbnails_forall hoffset (onFirst_forall hfirst hP hdrawn) hcleared, ?_⟩
  intro axis haxis
  obtain ⟨a, -, rfl⟩ := List.mem_map.mp haxis
  exact hlayout a

-- ---------------------------------------------------------------------------
-- The first axis
-- ---------------------------------------------------------------------------

theorem labelled_first
    (hrole : ∀ {role axis axis'}, P axis →
      inRole role b.scaleName.spliced context.colorScheme axis = .ok axis' → P axis')
    (hmain : labelAxes o b = axis :: rest) (hP : P axis)
    (h : (labelled o b).run context = .ok labels context') :
    ∃ first others, labels = first :: others ∧ P first := by
  rcases labelled_roles h with rfl | ⟨role, heq⟩
  · exact ⟨axis, rest, hmain, hP⟩
  · rw [hmain, List.mapM_cons] at heq
    obtain ⟨first, hin, heq⟩ := bind_ok.mp heq
    obtain ⟨others, -, heq⟩ := bind_ok.mp heq
    exact ⟨first, others, (pure_ok.mp heq).symm, hrole hP hin⟩

theorem clearThumbnails_first
    (hoffset : ∀ {t : Thumbnail} {axis axis'}, P axis →
      mergeEncode axis (t.labelEncoding o.position) = .ok axis' → P axis')
    (hP : P axis) (h : clearThumbnails o (axis :: rest) = .ok axes) :
    ∃ first others, axes = first :: others ∧ P first := by
  unfold clearThumbnails at h
  split at h
  · refine foldlM_invariant (I := fun axes => ∃ first others, axes = first :: others ∧ P first) ?_
      ⟨axis, rest, rfl, hP⟩ h
    rintro _ t _ ⟨first, others, rfl, hfirst⟩ hmapped
    rw [List.mapM_cons] at hmapped
    obtain ⟨first', hmerge, hmapped⟩ := bind_ok.mp hmapped
    obtain ⟨others', -, hmapped⟩ := bind_ok.mp hmapped
    exact ⟨first', others', (pure_ok.mp hmapped).symm, hoffset hfirst hmerge⟩
  · cases h
    exact ⟨axis, rest, rfl, hP⟩

theorem decorate_first
    (hfirst : ∀ {axis axis'}, P axis → hideCovered o b (drawBaseline o b axis) = .ok axis' →
      P axis')
    (hoffset : ∀ {t : Thumbnail} {axis axis'}, P axis →
      mergeEncode axis (t.labelEncoding o.position) = .ok axis' → P axis')
    (hP : P axis) (h : decorate o b (axis :: rest) = .ok axes) :
    ∃ first others, axes = first :: others ∧ P first := by
  obtain ⟨_, cleared, hdrawn, hcleared, rfl⟩ := decorate_ok.mp h
  obtain ⟨drawn, hcovered, rfl⟩ := map_ok.mp hdrawn
  obtain ⟨first, others, rfl, hkept⟩ := clearThumbnails_first hoffset (hfirst hP hcovered) hcleared
  exact ⟨first, _, rfl, hkept⟩

-- ---------------------------------------------------------------------------
-- What is left alone
-- ---------------------------------------------------------------------------

variable {F : Fields → γ}

theorem labelled_map_eq
    (hrole : ∀ {role axis axis'},
      inRole role b.scaleName.spliced context.colorScheme axis = .ok axis' → F axis' = F axis)
    (h : (labelled o b).run context = .ok labels context') :
    labels.map F = (labelAxes o b).map F := by
  rcases labelled_roles h with rfl | ⟨role, heq⟩
  · rfl
  · exact mapM_map_eq hrole heq

theorem onFirst_map_eq {f : Fields → Except Error Fields}
    (hf : ∀ {axis axis'}, f axis = .ok axis' → F axis' = F axis)
    (h : onFirst f labels = .ok axes) : axes.map F = labels.map F := by
  cases labels with
  | nil =>
    cases h
    rfl
  | cons axis labels =>
    obtain ⟨axis', heq, rfl⟩ := map_ok.mp h
    rw [List.map_cons, List.map_cons, hf heq]

theorem clearThumbnails_map_eq
    (hoffset : ∀ {t : Thumbnail} {axis axis'},
      mergeEncode axis (t.labelEncoding o.position) = .ok axis' → F axis' = F axis)
    (h : clearThumbnails o labels = .ok axes) : axes.map F = labels.map F := by
  unfold clearThumbnails at h
  split at h
  · refine foldlM_invariant (I := fun axes => axes.map F = labels.map F) ?_ rfl h
    intro axes t axes' hsame hmapped
    rw [← hsame]
    exact mapM_map_eq hoffset hmapped
  · cases h
    rfl

end VegaAxes.Axis
