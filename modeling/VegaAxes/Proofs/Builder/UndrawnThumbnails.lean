import VegaAxes.Proofs.Axis.MovedLabels
import VegaAxes.Proofs.Builder.Untrellised

/-!
# Thumbnails that are not drawn

Thumbnails are drawn on a band scale that draws on a data field, but every one leaves the signal
of its size, and on any band scale it moves labels. `compileAxes_unthumbed`: these are all the
traces of thumbnails that are not drawn, so that a chart without a trellis group is the same
without them exactly if there are none.
-/

namespace VegaAxes

def AxisOptions.unthumbed (o : AxisOptions) : AxisOptions :=
  { o with thumbnails := [] }

namespace Builder

open Scale Trellis

variable {b b' c : Builder} {o : AxisOptions} {r : ResolvedAxis} {axes : List AxisOptions}
  {sizes xs ys : List Json} {moved : Prop} {n : Nat} {name : Json}

-- ---------------------------------------------------------------------------
-- Traces of thumbnails
-- ---------------------------------------------------------------------------

def drawsThumbnails (b : Builder) (o : AxisOptions) : Bool :=
  supportsThumbnails (chartType b o) && (chartField b o).isSome

/-- The axis without thumbnails, unless they are drawn. -/
def withoutUndrawnThumbnails (b : Builder) (o : AxisOptions) : AxisOptions :=
  if drawsThumbnails b o then o else o.unthumbed

/-- Whether labels are moved past thumbnails that are not drawn. -/
def movesUndrawn (b : Builder) (o : AxisOptions) : Bool :=
  !drawsThumbnails b o && supportsThumbnails (chartType b o) && !o.thumbnails.isEmpty

def undrawnSizesOf (b : Builder) (n : Nat) (o : AxisOptions) : List Json :=
  if drawsThumbnails b o then []
  else o.thumbnails.mapIdx fun i _ =>
    Thumbnail.sizeSignal ("axis" ++ toString n ++ "AxisThumbnail" ++ toString i) (chartName b o)

def undrawnSizes : Builder → (index : Nat) → List AxisOptions → List Json
  | _, _, [] => []
  | b, index, o :: axes =>
    undrawnSizesOf b index o ++ match (add o (.int index)).run b with
      | .ok _ b' => undrawnSizes b' (index + 1) axes
      | .error _ _ => []

/-- What is left of an axis that is resolved, when thumbnails that are not drawn are left out. -/
def Addition.spared {index : Json} (a : Addition b o index) : ResolvedAxis :=
  if drawsThumbnails b o then a.axis else a.axis.unthumbed

theorem resolveFor_unthumbed (o : AxisOptions) (type index : Json) (scheme : ColorScheme) :
    o.unthumbed.resolveFor type scheme index =
      (o.resolveFor type scheme index).map ResolvedAxis.unthumbed := by
  unfold AxisOptions.resolveFor
  cases Reader.integer index <;> cases Reader.text (type.orElse (.str "linear")) <;> rfl

theorem axisSignals_unthumbed (r : ResolvedAxis) (scaleName : String) :
    axisSignals r scaleName = axisSignals r.unthumbed scaleName ++
      (Thumbnail.all r).map fun t => Thumbnail.sizeSignal t.name scaleName := by
  rw [axisSignals, axisSignals, List.append_left_inj]
  exact (List.append_nil _).symm

-- The scale that an axis is bound to, and whether it is one of two metrics, are the same without
-- its thumbnails.

theorem boundScale_spared (b : Builder) (scales : Json) (o : AxisOptions) :
    boundScale scales (withoutUndrawnThumbnails b o) = boundScale scales o := by
  unfold withoutUndrawnThumbnails
  split <;> rfl

theorem range_spared (b : Builder) (o : AxisOptions) :
    (withoutUndrawnThumbnails b o).range = o.range := by
  unfold withoutUndrawnThumbnails
  split <;> rfl

theorem dualMetricIn_spared (b : Builder)
    (h : anyNamed (.str Theme.firstSeries) ys = anyNamed (.str Theme.firstSeries) xs) :
    dualMetricIn (.arr ys) (withoutUndrawnThumbnails b o) = dualMetricIn (.arr xs) o := by
  have haxis : (withoutUndrawnThumbnails b o).dualMetricAxis = o.dualMetricAxis := by
    unfold withoutUndrawnThumbnails
    split <;> rfl
  rw [dualMetricIn, dualMetricIn, haxis]
  cases o.dualMetricAxis with
  | some dual => rfl
  | none => exact h

namespace Addition

variable {index : Json}

theorem notes_spared (a : Addition b o index) : Note.all a.spared = Note.all a.axis := by
  unfold spared
  split <;> rfl

theorem spared_eq (a : Addition b o index) :
    (withoutUndrawnThumbnails b o).resolveFor a.bound.type b.context.colorScheme
      (b.indexFor index) =
      .ok a.spared := by
  unfold withoutUndrawnThumbnails spared
  split
  · exact a.axis_eq
  · rw [resolveFor_unthumbed, a.axis_eq]
    rfl

theorem thumbnails_eq (a : Addition b o index) : a.axis.thumbnails = o.thumbnails :=
  congrArg AxisFeatures.thumbnails (AxisOptions.resolveFor_features a.axis_eq)

theorem signals_spared (a : Addition b o (.int n)) :
    axisSignals a.axis a.bound.name.spliced =
      axisSignals a.spared a.bound.name.spliced ++ undrawnSizesOf b n o := by
  unfold spared undrawnSizesOf
  split
  · exact (List.append_nil _).symm
  · rw [axisSignals_unthumbed, List.append_right_inj, Thumbnail.all, a.thumbnails_eq,
      a.chartName_eq]
    refine List.ext_getElem (by simp) fun i _ _ => ?_
    rw [List.getElem_map, List.getElem_mapIdx, List.getElem_mapIdx, Thumbnail.ofOptions, a.name_eq]
    rfl

theorem movesLabels_eq (a : Addition b o index) :
    a.axis.movesLabels = (supportsThumbnails (chartType b o) && !o.thumbnails.isEmpty) := by
  rw [ResolvedAxis.movesLabels, a.axis_resolved.1, a.thumbnails_eq]

def prepared (a : Addition b o index) : Builder :=
  { b with
    nextIndex := a.next
    scales := narrowedScales o.range a.bound a.scales
    data := a.data
    signals := a.signals }

theorem bundle_spared (a : Addition b o index) {d : Builder}
    (hmentioned : isMentioned d.toJson = isMentioned a.prepared.toJson) :
    ∃ axes, (Axis.bundle (chartLevel d a.spared) a.binding).run b.context = .ok axes a.context ∧
      List.Forall₂ (fun axis axis' => MovedPast (Thumbnail.all a.axis) (.obj axis) (.obj axis'))
        axes a.axes ∧ (axes = a.axes ↔ movesUndrawn b o = false) := by
  have hlevel (r : ResolvedAxis) : chartLevel d r = chartLevel a.prepared r := by
    rw [chartLevel, chartLevel, hmentioned]
  rw [hlevel]
  unfold spared movesUndrawn
  cases hdraws : drawsThumbnails b o with
  | true => exact ⟨a.axes, a.axes_eq, List.forall₂_same.mpr fun _ _ => .inl rfl, by simp⟩
  | false =>
    obtain ⟨axes, hrun, hmoved, hsame⟩ := Axis.bundle_unthumbed a.axes_eq
    refine ⟨axes, hrun, hmoved, ?_⟩
    rw [Bool.not_false, Bool.true_and, ← a.movesLabels_eq]
    exact hsame

theorem decorations_spared (a : Addition b o index) (scaleName : ScaleName) :
    decorations a.spared scaleName a.bound.dataField =
      decorations a.axis scaleName a.bound.dataField := by
  unfold spared
  cases hdraws : drawsThumbnails b o with
  | true => rfl
  | false =>
    rw [drawsThumbnails, Bool.and_eq_false_iff, a.chartField_eq, ← a.axis_resolved.1] at hdraws
    have hplain (r : ResolvedAxis)
        (hr : supportsThumbnails r.scaleType = false ∨ a.bound.dataField = none) :
        decorations r scaleName a.bound.dataField = (Note.all r).map (Note.mark scaleName) := by
      unfold decorations
      rcases hr with htype | hfield
      · cases given a.bound.dataField <;> simp [htype]
      · rw [hfield]
        exact List.append_nil _
    have hdraws : supportsThumbnails a.axis.scaleType = false ∨ a.bound.dataField = none :=
      hdraws.imp_right fun h => Option.not_isSome_iff_eq_none.mp (by simp [h])
    exact (hplain a.axis.unthumbed hdraws).trans (hplain a.axis hdraws).symm

end Addition

-- ---------------------------------------------------------------------------
-- Signals of sizes
-- ---------------------------------------------------------------------------

theorem anyNamed_append (name : Json) (xs ys : List Json) :
    anyNamed name (xs ++ ys) =
      anyNamed name xs >>= fun found => if found then .ok true else anyNamed name ys := by
  induction xs with
  | nil => rfl
  | cons x xs ih =>
    rw [List.cons_append, anyNamed, anyNamed, ih]
    cases x.field "name" with
    | error e => rfl
    | ok own =>
      simp only [bind, Except.bind]
      split <;> rfl

theorem anyNamed_none (h : ∀ x ∈ xs, ∃ own, x.field "name" = .ok own ∧ own.equal name = false) :
    anyNamed name xs = .ok false := by
  induction xs with
  | nil => rfl
  | cons x xs ih =>
    simp only [List.mem_cons, forall_eq_or_imp] at h
    obtain ⟨⟨own, hown, hother⟩, hrest⟩ := h
    simp only [anyNamed, bind_ok]
    refine ⟨own, hown, ?_⟩
    rw [hother]
    exact ih hrest

theorem anyNamed_more (hxs : anyNamed name xs = anyNamed name ys)
    (hsizes : anyNamed name sizes = .ok false) (more : List Json) :
    anyNamed name (xs ++ (more ++ sizes)) = anyNamed name (ys ++ more) := by
  have hlast (zs : List Json) : anyNamed name (zs ++ sizes) = anyNamed name zs := by
    rw [anyNamed_append, hsizes]
    cases anyNamed name zs with
    | error e => rfl
    | ok found => cases found <;> rfl
  rw [← List.append_assoc, hlast, anyNamed_append, anyNamed_append, hxs]

theorem mem_undrawnSizesOf {signal : Json} (h : signal ∈ undrawnSizesOf b n o) :
    ∃ i : Nat, signal = Thumbnail.sizeSignal
      ("axis" ++ toString n ++ "AxisThumbnail" ++ toString i) (chartName b o) := by
  unfold undrawnSizesOf at h
  split at h
  · cases h
  · obtain ⟨i, -, rfl⟩ := List.mem_mapIdx.mp h
    exact ⟨i, rfl⟩

theorem anyNamed_undrawnSizesOf (b : Builder) (n : Nat) (o : AxisOptions) :
    anyNamed (.str Theme.firstSeries) (undrawnSizesOf b n o) = .ok false := by
  refine anyNamed_none fun signal hsignal => ?_
  obtain ⟨i, rfl⟩ := mem_undrawnSizesOf hsignal
  generalize "axis" ++ toString n ++ "AxisThumbnail" ++ toString i = name
  refine ⟨.str (Thumbnail.sizeName name), rfl, ?_⟩
  rw [Json.equal, beq_eq_false_iff_ne]
  intro heq
  have hz : 'z' ∈ (name ++ "ThumbnailSize").toList := by simp
  rw [show name ++ "ThumbnailSize" = Theme.firstSeries from heq] at hz
  revert hz
  decide

theorem thumbnailName_plain (n i : Nat) :
    'G' ∉ ("axis" ++ toString n ++ "AxisThumbnail" ++ toString i).toList :=
  have hindex := not_mem_numbered (c := 'G') (by decide) n
  have hplace := not_mem_numbered (c := 'G') (by decide) i
  Text.not_mem_append
    (Text.not_mem_append (Text.not_mem_append (by decide) hindex) (y := "AxisThumbnail")
      (by decide))
    hplace

theorem isMentioned_sizeSignal {name : String} (hname : 'G' ∉ name.toList) (scaleName : String) :
    isMentioned (Thumbnail.sizeSignal name scaleName) = sizeMentions scaleName := by
  have hsize (name : String) (hname : 'G' ∉ name.toList) :
      isMentioned (.str (Thumbnail.sizeName name)) = false :=
    isMentioned_str (Thumbnail.sizeName_plain hname)
  rw [sizeMentions, Thumbnail.sizeSignal, Thumbnail.sizeSignal, isMentioned_obj, isMentioned_obj]
  simp only [List.any_cons, hsize name hname, hsize "" (by decide)]

theorem isMentioned_undrawnSizesOf (h : Untrellised b o) (n : Nat) :
    isMentioned (.arr (undrawnSizesOf b n o)) = false := by
  rw [isMentioned_arr, List.any_eq_false]
  intro signal hsignal
  obtain ⟨i, rfl⟩ := mem_undrawnSizesOf hsignal
  rw [isMentioned_sizeSignal (thumbnailName_plain n i), h.sizes]
  simp

theorem Addition.thumbnails_plain (a : Addition b o (.int n)) :
    ∀ t ∈ Thumbnail.all a.axis, 'G' ∉ t.name.toList := by
  intro t ht
  obtain ⟨i, -, rfl⟩ := List.mem_mapIdx.mp ht
  rw [Thumbnail.ofOptions, a.name_eq]
  exact thumbnailName_plain n i

-- ---------------------------------------------------------------------------
-- Builds without the thumbnails
-- ---------------------------------------------------------------------------

/-- The other builder is left where thumbnails that are not drawn are left out: it is without their
sizes, and labels are not moved past them. -/
structure Spared (sizes : List Json) (moved : Prop) (b c : Builder) : Prop where
  same : { b with signals := c.signals, axes := c.axes } = c
  signals : ∃ xs ys, b.signals = .arr xs ∧ c.signals = .arr ys ∧ ys.Sublist xs ∧
    xs.Perm (ys ++ sizes) ∧
    anyNamed (.str Theme.firstSeries) xs = anyNamed (.str Theme.firstSeries) ys
  axes : ∃ xs ys, b.axes = .arr xs ∧ c.axes = .arr ys ∧
    List.Forall₂ (fun axis axis' => ∃ ts, MovedPast ts axis axis') ys xs ∧ (ys = xs ↔ ¬moved)
  mentioned : isMentioned c.signals = isMentioned b.signals ∧
    isMentioned c.axes = isMentioned b.axes

theorem isMentioned_toJson (h : { b with signals := c.signals, axes := c.axes } = c)
    (hsignals : isMentioned c.signals = isMentioned b.signals)
    (haxes : isMentioned c.axes = isMentioned b.axes) :
    isMentioned c.toJson = isMentioned b.toJson := by
  rw [← h, toJson, toJson, isMentioned_obj, isMentioned_obj]
  simp only [List.any_append, List.any_cons, hsignals, haxes]

theorem Addition.addMarks_spared (a : Addition b o (.int n)) {d d' e : Builder} {ms : List Json}
    (hgroup : findGroup? 0 ms = .ok none) (hd : d.marks = .arr ms) (he : e.marks = .arr ms)
    (hrun : (addMarks a.axis a.binding a.bound.dataField).run d = .ok () d') :
    (addMarks a.spared a.binding a.bound.dataField).run e =
      .ok () { e with marks := d'.marks } := by
  have hnone := lined_groupless a.binding.scaleName a.name_plain hgroup
  have hlined (ms : List Json) :
      lined a.spared a.binding.scaleName ms = lined a.axis a.binding.scaleName ms := by
    unfold spared
    split <;> rfl
  have hbased (ms : List Json) : based a.spared a.binding ms = based a.axis a.binding ms := by
    unfold spared
    split <;> rfl
  rcases (addMarks_ok hd).mp hrun with ⟨-, rfl⟩ | ⟨_, _, _, hsome, -⟩
  · refine (addMarks_ok he).mpr (.inl ⟨?_, ?_⟩)
    · rw [hlined]
      exact hnone
    · rw [hlined, hbased, a.decorations_spared]
  · cases hnone.symm.trans hsome

/-- The same addition to a builder that was spared some thumbnails, without those of the axis if
they are not drawn. -/
theorem Addition.spare (a : Addition b o (.int n)) (hplain : Untrellised b o)
    (hxs : b.signals = .arr xs)
    (hseries : anyNamed (.str Theme.firstSeries) xs = anyNamed (.str Theme.firstSeries) ys)
    {old : List Json} (hsignals : isMentioned (.arr ys) = isMentioned (.arr xs))
    (haxes : isMentioned (.arr old) = isMentioned b.axes) :
    ∃ (more : List Json) (new : List Fields) (a' : Addition
        { b with signals := .arr ys, axes := .arr old } (withoutUndrawnThumbnails b o) (.int n)),
      a.signals = .arr (xs ++ (more ++ undrawnSizesOf b n o)) ∧
      isMentioned (.arr (ys ++ more)) = isMentioned a.signals ∧
      List.Forall₂ (fun axis axis' => MovedPast (Thumbnail.all a.axis) (.obj axis) (.obj axis'))
        new a.axes ∧ (new = a.axes ↔ movesUndrawn b o = false) ∧
      a'.axis = a.spared ∧ a'.bound = a.bound ∧ a'.binding = a.binding ∧
      a'.unmarked = { a.unmarked with
        signals := .arr (ys ++ more), axes := .arr (old ++ new.map .obj) } := by
  let more := axisSignals a.spared a.bound.name.spliced
  have hmore : a.signals = .arr (xs ++ (more ++ undrawnSizesOf b n o)) := by
    have heq := a.signals_eq
    rw [hxs, grow_arr, a.signals_spared] at heq
    exact (Except.ok.inj heq).symm
  have hmentioned : isMentioned (.arr (ys ++ more)) = isMentioned a.signals := by
    rw [hmore, isMentioned_append, isMentioned_append, isMentioned_append,
      isMentioned_undrawnSizesOf hplain, Bool.or_false, hsignals]
  obtain ⟨new, hbundle, hmoved, hsame⟩ :=
    a.bundle_spared (d := { a.prepared with signals := .arr (ys ++ more), axes := .arr old })
      (isMentioned_toJson rfl hmentioned haxes)
  have hdual := (dualMetricIn_spared b hseries.symm).trans (hxs ▸ a.dualMetric_eq)
  let a' : Addition { b with signals := .arr ys, axes := .arr old }
      (withoutUndrawnThumbnails b o) (.int n) :=
    { next := a.next
      bound := a.bound
      scales := a.scales
      axis := a.spared
      dualMetric := a.dualMetric
      data := a.data
      signals := .arr (ys ++ more)
      oldAxes := old
      axes := new
      context := a.context
      isOpen := a.isOpen
      next_eq := a.next_eq
      bound_eq := (boundScale_spared b b.scales o).trans a.bound_eq
      axis_eq := a.spared_eq
      dualMetric_eq := hdual
      data_eq := a.notes_spared ▸ a.data_eq
      signals_eq := grow_arr
      oldAxes_eq := rfl
      axes_eq := by
        rw [range_spared]
        exact hbundle }
  refine ⟨more, new, a', hmore, hmentioned, hmoved, hsame, rfl, rfl, rfl, ?_⟩
  simp only [unmarked, a', range_spared]

theorem isMentioned_moved {ts : List Thumbnail} (hts : ∀ t ∈ ts, 'G' ∉ t.name.toList)
    (h : List.Forall₂ (MovedPast ts) ys xs) : isMentioned (.arr ys) = isMentioned (.arr xs) := by
  rw [isMentioned_arr, isMentioned_arr]
  induction h with
  | nil => rfl
  | cons hhead _ ih => rw [List.any_cons, List.any_cons, hhead.isMentioned hts, ih]

/-- One call, beside a builder that was spared some thumbnails. -/
theorem add_spared (h : Spared sizes moved b c) (hplain : Untrellised b o)
    (hrun : (add o (.int n)).run b = .ok () b') :
    ∃ c', (add (withoutUndrawnThumbnails b o) (.int n)).run c = .ok () c' ∧
      Spared (sizes ++ undrawnSizesOf b n o) (moved ∨ movesUndrawn b o = true) b' c' := by
  obtain ⟨a, hmarks⟩ := add_ok.mp hrun
  obtain ⟨xs, ys, hxs, hys, hsub, hperm, hseries⟩ := h.signals
  obtain ⟨us, vs, hus, hvs, hmoved, hsame⟩ := h.axes
  obtain ⟨ms, hms, hgroup⟩ := hplain.marks
  have hsignals : isMentioned (.arr ys) = isMentioned (.arr xs) := hxs ▸ hys ▸ h.mentioned.1
  have haxes : isMentioned (.arr vs) = isMentioned (.arr us) := hus ▸ hvs ▸ h.mentioned.2
  obtain rfl : { b with signals := .arr ys, axes := .arr vs } = c := by
    rw [← hys, ← hvs]
    exact h.same
  -- the axis reads of both builders the same, up to the marks and in them
  obtain ⟨more, new, a', hmore, hmentioned, hmovedNew, hsameNew, haxis, hbound,
      hbinding, hunmarked⟩ :=
    a.spare hplain hxs hseries hsignals (hus ▸ haxes)
  have hms' : a'.unmarked.marks = .arr ms := by
    rw [hunmarked]
    exact hms
  have hmarks' := a.addMarks_spared (d := a.unmarked) hgroup hms hms' hmarks
  rw [← haxis, ← hbinding, ← hbound] at hmarks'
  refine ⟨_, add_ok.mpr ⟨a', hmarks'⟩, ?_⟩
  rw [← addMarks_frame hmarks, hunmarked]
  have hold : a.unmarked.axes = .arr (us ++ a.axes.map .obj) := by
    have heq := a.oldAxes_eq
    rw [hus] at heq
    rw [Addition.unmarked, Json.arr.inj heq]
  have hmovedNew :
      List.Forall₂ (MovedPast (Thumbnail.all a.axis)) (new.map .obj) (a.axes.map .obj) :=
    List.forall₂_map_left_iff.mpr (List.forall₂_map_right_iff.mpr hmovedNew)
  refine ⟨rfl, ⟨_, _, hmore, rfl, ?_, ?_, ?_⟩, ⟨_, _, hold, rfl, ?_, ?_⟩, ?_, ?_⟩
  · exact hsub.append (List.sublist_append_left ..)
  · rw [List.append_assoc]
    refine (hperm.append_right _).trans ?_
    rw [List.append_assoc]
    exact (List.perm_append_comm_assoc ..).append_left ys
  · exact anyNamed_more hseries (anyNamed_undrawnSizesOf b n o) more
  · exact List.rel_append hmoved (hmovedNew.imp fun _ _ h => ⟨_, h⟩)
  · have hinj : (new.map Json.obj = a.axes.map Json.obj) ↔ new = a.axes :=
      (List.map_injective_iff.mpr fun _ _ h => Json.obj.inj h).eq_iff
    rw [not_or, Bool.not_eq_true, ← hsame, ← hsameNew, ← hinj]
    exact ⟨fun heq => List.append_inj heq hmoved.length_eq, fun heq => by rw [heq.1, heq.2]⟩
  · exact hmentioned
  · rw [hold, isMentioned_append, isMentioned_append, haxes,
      isMentioned_moved a.thumbnails_plain hmovedNew]

theorem undrawnSizes_cons (hadd : (add o (.int n)).run b = .ok () b') :
    undrawnSizes b n (o :: axes) = undrawnSizesOf b n o ++ undrawnSizes b' (n + 1) axes := by
  rw [undrawnSizes, hadd]

/-- A build, beside one that is spared the thumbnails that are not drawn. -/
theorem addEach_spared (h : Spared sizes moved b c) (hplain : Throughout Untrellised b n axes)
    (hrun : (addEach add n axes).run b = .ok () b') :
    ∃ c', (addEach add n (changeEach withoutUndrawnThumbnails b n axes)).run c = .ok () c' ∧
      Spared (sizes ++ undrawnSizes b n axes)
        (moved ∨ ¬Throughout (fun b o => movesUndrawn b o = false) b n axes) b' c' := by
  induction axes generalizing b c n sizes moved with
  | nil =>
    obtain ⟨-, rfl⟩ := run_pure_ok.mp hrun
    refine ⟨c, rfl, ?_⟩
    have hnone : (moved ∨ ¬Throughout (fun b o => movesUndrawn b o = false) b n []) = moved :=
      propext (or_iff_left (not_not.mpr trivial))
    rw [undrawnSizes, List.append_nil, hnone]
    exact h
  | cons o axes ih =>
    obtain ⟨_, b₁, hadd, hrun⟩ := run_bind_ok.mp hrun
    obtain ⟨hplain, hrest⟩ := hplain
    obtain ⟨c₁, hadd', h₁⟩ := add_spared h hplain hadd
    obtain ⟨c', hrun', h'⟩ := ih h₁ (hrest b₁ hadd) hrun
    refine ⟨c', ?_, ?_⟩
    · rw [changeEach_cons hadd]
      exact run_bind_ok.mpr ⟨_, c₁, hadd', hrun'⟩
    · rw [throughout_cons hadd, undrawnSizes_cons hadd, ← List.append_assoc, not_and_or,
        Bool.not_eq_false, ← or_assoc]
      exact h'

theorem changeEach_unthumbed (h : undrawnSizes b n axes = []) :
    changeEach withoutUndrawnThumbnails b n axes = axes := by
  induction axes generalizing b n with
  | nil => rfl
  | cons o axes ih =>
    rw [undrawnSizes, List.append_eq_nil_iff] at h
    obtain ⟨hsizes, hrest⟩ := h
    have hkept : withoutUndrawnThumbnails b o = o := by
      unfold undrawnSizesOf at hsizes
      unfold withoutUndrawnThumbnails
      split at hsizes
      · next hdraws => rw [if_pos hdraws]
      · next hdraws =>
        rw [if_neg hdraws, AxisOptions.unthumbed, ← List.mapIdx_eq_nil_iff.mp hsizes]
    rw [changeEach, hkept]
    cases hadd : (add o (.int n)).run b with
    | ok _ b' =>
      rw [hadd] at hrest
      exact congrArg (o :: ·) (ih hrest)
    | error => rfl

theorem valid_of_moved (h : List.Forall₂ (fun axis axis' => ∃ ts, MovedPast ts axis axis') ys xs)
    (hvalid : ∀ axis ∈ xs, Document.ValidAxis axis) : ∀ axis ∈ ys, Document.ValidAxis axis := by
  induction h with
  | nil => simp
  | cons hhead _ ih =>
    simp only [List.mem_cons, forall_eq_or_imp] at hvalid ⊢
    obtain ⟨ts, hmoved⟩ := hhead
    exact ⟨hmoved.valid hvalid.1, ih hvalid.2⟩

theorem list_spared {extra : Fields} {key : String} {items : List Json} {P : List Json → Prop}
    (hitems : extra.getD key (.arr xs) = .arr items) (h : P items) (hP : P xs → P ys) :
    ∃ items', extra.getD key (.arr ys) = .arr items' ∧ P items' := by
  unfold Fields.getD at hitems ⊢
  cases hextra : extra.get? key with
  | some v =>
    rw [hextra] at hitems
    exact ⟨items, hitems, h⟩
  | none =>
    rw [hextra] at hitems
    obtain rfl := Json.arr.inj hitems
    exact ⟨ys, rfl, hP h⟩

/-- A document is as valid with fewer signals and with labels that are not moved. -/
theorem validate_spared {d : Document} {signals axes : Frozen} {us vs : List Json}
    (hxs : d.signals.thaw = .arr xs) (hys : signals.thaw = .arr ys) (hus : d.axes.thaw = .arr us)
    (hvs : axes.thaw = .arr vs) (hsub : ys.Sublist xs)
    (hmoved : List.Forall₂ (fun axis axis' => ∃ ts, MovedPast ts axis axis') vs us)
    (h : Document.validate d.toJson = .ok ()) :
    Document.validate { d with signals, axes : Document }.toJson = .ok () := by
  rw [Document.validate_toJson, hxs, hus] at h
  obtain ⟨scales, _, marks, _, data, hscales, haxes, hmarks, hsignals, hdata, hlists⟩ := h
  obtain ⟨signals', hsignals', hnamed⟩ := list_spared hsignals hlists.signals (·.sublist hsub)
  obtain ⟨axes', haxes', hvalid⟩ :=
    list_spared (P := (∀ axis ∈ ·, Document.ValidAxis axis)) haxes hlists.axes
      (valid_of_moved hmoved)
  rw [← hys] at hsignals'
  rw [← hvs] at haxes'
  exact (Document.validate_toJson _).mpr ⟨scales, axes', marks, signals', data, hscales,
    haxes', hmarks, hsignals', hdata, { hlists with signals := hnamed, axes := hvalid }⟩

theorem finish_spared {d : Document} (h : finish.run b = .ok d b')
    (hsame : { b with signals := c.signals, axes := c.axes } = c) :
    d.signals = b.signals.freeze ∧ d.axes = b.axes.freeze ∧
      finish.run c = .ok { d with signals := c.signals.freeze, axes := c.axes.freeze }
        { b' with signals := c.signals, axes := c.axes } := by
  obtain ⟨hopen, given, hgiven, rfl, rfl⟩ := finish_run_ok.mp h
  refine ⟨rfl, rfl, ?_⟩
  rw [← hsame]
  exact finish_run_ok.mpr ⟨hopen, given, hgiven, rfl, rfl⟩

end Builder

open Builder

/-- Where a chart without a trellis group (`untrellised_throughout`) compiles, it does so
without the thumbnails that are not drawn, to a document that is another in nothing but signals
and axes. It is without the sizes of those thumbnails, and its axes are the same exactly if none
of these stands on a band scale; else labels are moved past them. So it is the same exactly if
there are none. -/
theorem compileAxes_unthumbed {settings : Settings} {document : Json} {axes : List AxisOptions}
    {context : Option Context} {validated : Option Bool} {b : Builder} {c : Compiled}
    (hb : ofDocument settings document context = .ok b) (hlisted : b.Listed)
    (hplain : Throughout Untrellised b 0 axes)
    (hc : compileAxes settings document axes context validated = .ok c) :
    ∃ c', compileAxes settings document (changeEach withoutUndrawnThumbnails b 0 axes) context
        validated = .ok c' ∧
      c'.context = c.context ∧
      { c.document with signals := c'.document.signals, axes := c'.document.axes } = c'.document ∧
      (∃ xs ys, c.document.signals.thaw = .arr xs ∧ c'.document.signals.thaw = .arr ys ∧
        ys.Sublist xs ∧ xs.Perm (ys ++ undrawnSizes b 0 axes)) ∧
      (∃ xs ys, c.document.axes.thaw = .arr xs ∧ c'.document.axes.thaw = .arr ys ∧
        List.Forall₂ (fun axis axis' => ∃ ts, MovedPast ts axis axis') ys xs ∧
        (ys = xs ↔ Throughout (fun b o => movesUndrawn b o = false) b 0 axes)) ∧
      (c'.document = c.document ↔ changeEach withoutUndrawnThumbnails b 0 axes = axes) := by
  obtain ⟨signals, hsignals⟩ := hlisted.signals
  obtain ⟨old, hold⟩ := hlisted.axes
  have hstart : Spared [] False b b :=
    ⟨rfl, ⟨signals, signals, hsignals, hsignals, .refl _, by simp, rfl⟩,
      ⟨old, old, hold, hold, List.forall₂_same.mpr fun _ _ => ⟨[], .inl rfl⟩, by simp⟩, rfl, rfl⟩
  rw [compileAxes, hb] at hc
  obtain ⟨d, b₂, hrun, hvalid, hd⟩ := compile_ok.mp hc
  obtain ⟨_, b₁, hadd, hfinish⟩ := run_bind_ok.mp hrun
  obtain ⟨c₁, hadd', hspared⟩ := addEach_spared hstart hplain hadd
  obtain ⟨hds, hda, hfinish'⟩ := finish_spared hfinish hspared.same
  obtain ⟨xs, ys, hxs, hys, hsub, hperm, -⟩ := hspared.signals
  obtain ⟨us, vs, hus, hvs, hmoved, hsame⟩ := hspared.axes
  simp only [Compiled.ofDocument, bind_ok, pure_ok] at hd
  obtain ⟨_, -, markCount, hmarkCount, rfl⟩ := hd
  rw [false_or, not_not] at hsame
  rw [List.nil_append] at hperm
  rw [← thaw_freeze b₁.signals, ← hds] at hxs
  rw [← thaw_freeze b₁.axes, ← hda] at hus
  rw [← thaw_freeze c₁.signals] at hys
  rw [← thaw_freeze c₁.axes] at hvs
  refine ⟨⟨{ d with signals := c₁.signals.freeze, axes := c₁.axes.freeze }, b₂.context, vs.length,
    markCount⟩, ?_, rfl, rfl, ⟨xs, ys, hxs, hys, hsub, hperm⟩, ⟨us, vs, hus, hvs, hmoved, hsame⟩,
    ?_, ?_⟩
  · rw [compileAxes, hb]
    refine compile_ok.mpr ⟨_, _, run_bind_ok.mpr ⟨_, c₁, hadd', hfinish'⟩, fun hchecked => ?_, ?_⟩
    · exact validate_spared hxs hys hus hvs hsub hmoved (hvalid hchecked)
    · simp only [Compiled.ofDocument, bind_ok, pure_ok]
      exact ⟨_, (length_thaw _).symm.trans (congrArg Json.length hvs), markCount, hmarkCount, rfl⟩
  · intro hdocument
    have hsigs : ys = xs := by
      have heq := congrArg (fun d => d.signals.thaw) hdocument
      exact Json.arr.inj (hys.symm.trans (heq.trans hxs))
    subst hsigs
    exact changeEach_unthumbed (List.length_eq_zero_iff.mp (by simpa using hperm.length_eq))
  · intro haxes
    -- if no axis is changed, both are the same build
    rw [haxes] at hadd'
    obtain ⟨-, rfl⟩ := EStateM.Result.ok.inj (hadd.symm.trans hadd')
    rw [← hds, ← hda]

def plainChart (type : String) : Json :=
  .obj [("scales", .arr [
      .obj [("name", .str "xScale"), ("type", .str type), ("range", .str "width")]]),
    ("marks", .arr [.obj [("name", .str "bars"), ("type", .str "rect")]])]

def plainBars (type : String) : Builder :=
  { bars with
    scales := .arr [.obj [("name", .str "xScale"), ("type", .str type), ("range", .str "width")]]
    extra := [] }

def pictured : AxisOptions where
  position := .bottom
  thumbnails := [{}]

theorem bandChart_traced :
    ∃ c c', compileAxes (.ofEnvironment {}) (plainChart "band") [pictured]
        (some ⟨.vertical, .light, .null⟩) none = .ok c ∧
      compileAxes (.ofEnvironment {}) (plainChart "band") [pictured.unthumbed]
        (some ⟨.vertical, .light, .null⟩) none = .ok c' ∧
      c'.document.marks = c.document.marks ∧ c'.document.signals ≠ c.document.signals ∧
      c'.document.axes ≠ c.document.axes := by
  have hb : ofDocument (.ofEnvironment {}) (plainChart "band") (some ⟨.vertical, .light, .null⟩) =
      .ok (plainBars "band") := rfl
  have hlisted : (plainBars "band").Listed :=
    ⟨⟨_, rfl⟩, ⟨_, rfl⟩, ⟨_, rfl, fun place g hplace => by cases hplace⟩, ⟨_, rfl⟩, ⟨_, rfl⟩⟩
  have hapart : NamedApart (plainBars "band") [pictured] := by
    refine ⟨⟨_, rfl, rfl⟩, fun items hitems scale hscale name hname => ?_, ?_, ?_⟩
    · cases hitems
      obtain rfl := List.mem_singleton.mp hscale
      cases hname
      decide +kernel
    · simp [pictured, given]
    · simp [pictured, NotesApart]
  have hplain : Throughout Untrellised (plainBars "band") 0 [pictured] :=
    untrellised_throughout hapart
  have hmoves : movesUndrawn (plainBars "band") pictured = true := by decide +kernel
  have hsizes : (undrawnSizes (plainBars "band") 0 [pictured]).length = 1 := by decide +kernel
  have hchanged : changeEach withoutUndrawnThumbnails (plainBars "band") 0 [pictured] =
      [pictured.unthumbed] := by
    have hwithout : withoutUndrawnThumbnails (plainBars "band") pictured = pictured.unthumbed := by
      decide +kernel
    rw [changeEach, hwithout]
    split <;> rfl
  have hsome : (compileAxes (.ofEnvironment {}) (plainChart "band") [pictured]
      (some ⟨.vertical, .light, .null⟩) none).toOption.isSome = true := by decide +kernel
  obtain ⟨c, hc⟩ := Option.isSome_iff_exists.mp hsome
  have hc := toOption_eq_some.mp hc
  obtain ⟨c', hc', -, hsame, ⟨xs, ys, hxs, hys, -, hperm⟩, ⟨us, vs, hus, hvs, -, haxes⟩, -⟩ :=
    compileAxes_unthumbed hb hlisted hplain hc
  rw [hchanged] at hc'
  refine ⟨c, c', hc, hc', by rw [← hsame], fun heq => ?_, fun heq => ?_⟩
  · rw [← Frozen.thaw_inj, hxs, hys, Json.arr.injEq] at heq
    have hlength := hperm.length_eq
    rw [heq, List.length_append, hsizes] at hlength
    omega
  · rw [← Frozen.thaw_inj, hus, hvs, Json.arr.injEq] at heq
    cases hmoves.symm.trans (haxes.mp heq).1

theorem linearChart_traced :
    ∃ c c', compileAxes (.ofEnvironment {}) (plainChart "linear") [pictured]
        (some ⟨.vertical, .light, .null⟩) none = .ok c ∧
      compileAxes (.ofEnvironment {}) (plainChart "linear") [pictured.unthumbed]
        (some ⟨.vertical, .light, .null⟩) none = .ok c' ∧ c'.document ≠ c.document :=
  documents_differ (fun d => (itemsOf d.signals.thaw).length) (by decide +kernel)

end VegaAxes
