import VegaAxes.Proofs.Axis.Parts

/-!
# The form of bundles

Decorating axes keeps their form and their number (`decorate_formed`). `bundle_formed`: the
axes with labels are in their role, if they take one, and the empty axes of notes stay
without. `bundle_succeeds`: there is a bundle for every scale that has a name.
-/

namespace VegaAxes.Axis

open DualMetric

variable {axis axis' : Fields} {axes labels : List Fields} {scale style : Json}
  {o o' : ResolvedAxis} {b : Binding} {context context' : Context}

-- ---------------------------------------------------------------------------
-- Decorations
-- ---------------------------------------------------------------------------

theorem drawBaseline_formed (h : Formed scale style axis) :
    Formed scale style (drawBaseline o b axis) := by
  unfold drawBaseline withBaseline
  split
  · exact h
  · exact (h.set (by simp) _).set (by simp) _

theorem Formed.modifyText (h : Formed scale style axis) {rules rules' : List Json}
    (htext : (Json.obj axis).descend Encoding.labelTextPath = .ok (some (.arr rules))) :
    Formed scale style (axis.modifyPath (fun _ => .arr rules') Encoding.labelTextPath) := by
  have hother {key : String} (hkey : key ≠ "encode") :
      (axis.modifyPath (fun _ => .arr rules') Encoding.labelTextPath).get? key = axis.get? key :=
    Json.get?_modifyPath hkey _
  have hapart : ∀ part ∈ ["labels", "title"], ∀ time ∈ ["enter", "update"],
      ∀ key ∈ ["fill", "fillOpacity"],
        Json.apart ["encode", part, time, key] Encoding.labelTextPath = true := by decide
  refine ⟨?_, ?_, ⟨_, Json.descend_modifyPath_self htext, rfl⟩,
    fun part hpart time htime key hkey => ?_⟩
  · rw [hother (by simp)]
    exact h.scale
  · rw [hother (by simp)]
    exact h.orient
  · rw [Json.descend_modifyPath_of_apart (hapart part hpart time htime key hkey)]
    exact h.style part hpart time htime key hkey

theorem hideCovered_formed (h : Formed scale style axis) :
    ∃ axis', hideCovered o b axis = .ok axis' ∧ Formed scale style axis' := by
  unfold hideCovered
  split
  · obtain ⟨text, htext, -⟩ := h.text
    simp only [ReferenceLine.hideLabels, htext]
    rcases text with _ | _ | _ | _ | _ | _ | rules | _
    case some.arr => exact ⟨_, rfl, h.modifyText htext⟩
    all_goals exact ⟨_, rfl, h⟩
  · exact ⟨_, rfl, h⟩

theorem onFirst_formed {f : Fields → Except Error Fields}
    (hf : ∀ axis, Formed scale style axis → ∃ axis', f axis = .ok axis' ∧ Formed scale style axis')
    (h : ∀ axis ∈ axes, Formed scale style axis) :
    ∃ axes', onFirst f axes = .ok axes' ∧ axes'.length = axes.length ∧
      ∀ axis ∈ axes', Formed scale style axis := by
  cases axes with
  | nil => exact ⟨[], rfl, rfl, by simp⟩
  | cons axis axes =>
    obtain ⟨axis', heq, haxis'⟩ := hf axis (h axis (by simp))
    refine ⟨axis' :: axes, map_ok.mpr ⟨axis', heq, rfl⟩, rfl, ?_⟩
    simp only [List.mem_cons, forall_eq_or_imp] at h ⊢
    exact ⟨haxis', h.2⟩

theorem labelEncoding_unique (t : Thumbnail) (p : Position) (part time key : String) :
    Json.UniqueAlong [part, time, key] (.obj (t.labelEncoding p)) := by
  refine ⟨by simp [Fields.Unique, Fields.keys, Thumbnail.labelEncoding], fun v hv => ?_⟩
  obtain ⟨-, rfl⟩ : _ ∧ _ = v := by simpa [Fields.get?_cons, Thumbnail.labelEncoding] using hv
  refine ⟨by simp [Fields.Unique, Fields.keys], fun v hv => ?_⟩
  obtain ⟨-, rfl⟩ : _ ∧ _ = v := by simpa [Fields.get?_cons] using hv
  refine ⟨?_, fun _ _ => trivial⟩
  cases p <;> simp [Fields.Unique, Fields.keys, Thumbnail.labelOffset]

theorem labelOffset_text {t : Thumbnail} {p : Position} {text : Option Json}
    (h : mergeEncode axis (t.labelEncoding p) = .ok axis')
    (htext : (Json.obj axis).descend Encoding.labelTextPath = .ok text) :
    (Json.obj axis').descend Encoding.labelTextPath = .ok text :=
  mergeEncode_of_upper h (labelEncoding_unique ..) (by cases p <;> rfl) htext

theorem labelOffset_formed (h : Formed scale style axis) (t : Thumbnail) (p : Position) :
    ∃ axis', mergeEncode axis (t.labelEncoding p) = .ok axis' ∧ Formed scale style axis' := by
  obtain ⟨axis', heq⟩ := h.mergeEncode_succeeds (t.labelEncoding p)
  obtain ⟨text, htext, hrules⟩ := h.text
  refine ⟨axis', heq, ?_, ?_, ⟨text, ?_, hrules⟩, fun part hpart time htime key hkey => ?_⟩
  · rw [mergeEncode_get? heq (by simp)]
    exact h.scale
  · rw [mergeEncode_get? heq (by simp)]
    exact h.orient
  · exact labelOffset_text heq htext
  · obtain ⟨x, hx, haxis⟩ := h.style part hpart time htime key hkey
    refine ⟨x, hx, mergeEncode_of_upper heq (labelEncoding_unique ..) ?_ haxis⟩
    simp only [List.mem_cons, List.not_mem_nil, or_false] at hpart htime hkey
    rcases hpart with rfl | rfl <;> rcases htime with rfl | rfl <;> rcases hkey with rfl | rfl <;>
      cases p <;> rfl

theorem clearThumbnails_formed (h : ∀ axis ∈ axes, Formed scale style axis) :
    ∃ axes', clearThumbnails o axes = .ok axes' ∧ axes'.length = axes.length ∧
      ∀ axis ∈ axes', Formed scale style axis := by
  unfold clearThumbnails
  split
  · induction Thumbnail.all o generalizing axes with
    | nil => exact ⟨axes, rfl, rfl, h⟩
    | cons t ts ih =>
      obtain ⟨axes₁, heq, hlen, haxes₁⟩ :=
        mapM_succeeds (fun axis haxis => labelOffset_formed haxis t o.position) h
      obtain ⟨axes', heq', hlen', haxes'⟩ := ih haxes₁
      refine ⟨axes', ?_, hlen'.trans hlen, haxes'⟩
      rw [List.foldlM_cons, bind_ok]
      exact ⟨axes₁, heq, heq'⟩
  · exact ⟨axes, rfl, rfl, h⟩

/-- Axes keep their form when decorated, and the empty axes of notes come after them. -/
theorem decorate_formed (h : ∀ axis ∈ axes, Formed scale style axis) :
    ∃ axes', decorate o b axes = .ok (axes' ++ (Note.all o).map (Note.layoutAxis b.scaleName)) ∧
      axes'.length = axes.length ∧ ∀ axis ∈ axes', Formed scale style axis := by
  obtain ⟨axes₁, heq₁, hlen₁, haxes₁⟩ := onFirst_formed
    (f := fun axis => hideCovered o b (drawBaseline o b axis))
    (fun axis haxis => hideCovered_formed (drawBaseline_formed haxis)) h
  obtain ⟨axes', heq, hlen, haxes'⟩ := clearThumbnails_formed (o := o) haxes₁
  refine ⟨axes', ?_, hlen.trans hlen₁, haxes'⟩
  exact decorate_ok.mpr ⟨axes₁, axes', heq₁, heq, rfl⟩

-- ---------------------------------------------------------------------------
-- Bundles
-- ---------------------------------------------------------------------------

theorem labelAxes_formed (hname : b.scaleName.value ≠ .null) :
    ∀ axis ∈ labelAxes o b, Formed b.scaleName.value noStyle axis := by
  intro axis haxis
  rcases mem_labelAxes haxis with rfl | rfl | rfl | rfl
  · exact titled_formed o (base_formed o hname)
  · exact titled_formed o (secondaryTime_formed o hname)
  · exact primaryTime_formed o hname
  · exact subLabels_formed o hname

def roleOf (o : ResolvedAxis) (b : Binding) (context : Context) : Option MetricRole :=
  if takesRole o b context then some (nextRole (startedCount context)) else none

theorem inRole_formed (role : MetricRole) (scheme : ColorScheme) (scaleName : ScaleName)
    (h : Formed scale noStyle axis) :
    ∃ axis', inRole role scaleName.spliced scheme axis = .ok axis' ∧
      Formed (scaleIn scaleName (some role)) (styleIn scheme (some role)) axis' := by
  obtain ⟨axis', heq⟩ := inRole_succeeds h role scaleName.spliced scheme
  exact ⟨axis', heq, h.inRole heq⟩

theorem labelled_formed (hname : b.scaleName.value ≠ .null)
    (h : (labelled o b).run context = .ok labels context') :
    labels.length = (labelAxes o b).length ∧ ∀ axis ∈ labels,
      Formed (scaleIn b.scaleName (roleOf o b context))
        (styleIn context.colorScheme (roleOf o b context)) axis := by
  unfold roleOf
  cases hrole : takesRole o b context with
  | false =>
    rw [labelled_off hrole] at h
    cases h
    exact ⟨rfl, labelAxes_formed hname⟩
  | true =>
    obtain ⟨heq, -⟩ := (labelled_ok hrole).mp h
    obtain ⟨labels', heq', hlen, hlabels'⟩ := mapM_succeeds
      (fun axis haxis => inRole_formed (nextRole (startedCount context)) context.colorScheme
        b.scaleName haxis) (labelAxes_formed (o := o) hname)
    cases heq.symm.trans heq'
    exact ⟨hlen, hlabels'⟩

theorem labelled_succeeds (hname : b.scaleName.value ≠ .null)
    (hcount : ∃ next, (startedCount context).successor = .ok next) :
    ∃ labels context', (labelled o b).run context = .ok labels context' := by
  cases hrole : takesRole o b context with
  | false => exact ⟨_, _, labelled_off hrole⟩
  | true =>
    obtain ⟨next, hnext⟩ := hcount
    obtain ⟨labels, heq, -⟩ := mapM_succeeds
      (fun axis haxis => inRole_formed (nextRole (startedCount context)) context.colorScheme
        b.scaleName haxis) (labelAxes_formed (o := o) hname)
    exact ⟨labels, _, (labelled_ok hrole).mpr ⟨heq, next, hnext, rfl⟩⟩

theorem searchable_of_header (h : Trellis.withHeader b.scaleName o = .ok o') :
    b.scaleName.value ≠ .null := by
  intro hnull
  simp [Trellis.withHeader, Trellis.Header.ofScale?, ScaleName.checkSearchable,
    ScaleName.isSearchable, hnull, bind, Except.bind, Except.map] at h

theorem bundle_formed (h : (bundle o b).run context = .ok axes context') :
    ∃ o' labels, Trellis.withHeader b.scaleName o = .ok o' ∧
      axes = labels ++ (Note.all o').map (Note.layoutAxis b.scaleName) ∧
      labels.length = (labelAxes o' b).length ∧
      (∀ axis ∈ labels, Formed (scaleIn b.scaleName (roleOf o' b context))
        (styleIn context.colorScheme (roleOf o' b context)) axis) ∧
      ∀ axis ∈ (Note.all o').map (Note.layoutAxis b.scaleName),
        Formed b.scaleName.value noStyle axis := by
  obtain ⟨o', labels, ho', hlabels, hdecorate⟩ := bundle_run_ok.mp h
  obtain ⟨hlen, hformed⟩ := labelled_formed (searchable_of_header ho') hlabels
  obtain ⟨labels', hdecorate', hlen', hformed'⟩ := decorate_formed (o := o') (b := b) hformed
  cases hdecorate.symm.trans hdecorate'
  refine ⟨o', labels', ho', rfl, hlen'.trans hlen, hformed', fun axis haxis => ?_⟩
  obtain ⟨a, -, rfl⟩ := List.mem_map.mp haxis
  exact layoutAxis_formed b.scaleName a

theorem labelAxes_ne_nil : labelAxes o b ≠ [] := by
  unfold labelAxes
  split
  · exact List.cons_ne_nil _ _
  · exact List.cons_ne_nil _ _

theorem bundle_length_pos (h : (bundle o b).run context = .ok axes context') : 0 < axes.length := by
  obtain ⟨o', labels, -, rfl, hlength, -⟩ := bundle_formed h
  have := List.length_pos_iff.mpr (labelAxes_ne_nil (o := o') (b := b))
  rw [List.length_append]
  omega

theorem bundle_succeeds (hheader : Trellis.withHeader b.scaleName o = .ok o')
    (hcount : ∃ next, (startedCount context).successor = .ok next) :
    ∃ axes context', (bundle o b).run context = .ok axes context' := by
  have hname := searchable_of_header hheader
  obtain ⟨labels, context', hlabels⟩ := labelled_succeeds (o := o') hname hcount
  obtain ⟨-, hformed⟩ := labelled_formed hname hlabels
  obtain ⟨axes, hdecorate, -⟩ := decorate_formed (o := o') (b := b) hformed
  exact ⟨_, context', bundle_run_ok.mpr ⟨o', labels, hheader, hlabels, hdecorate⟩⟩

end VegaAxes.Axis
