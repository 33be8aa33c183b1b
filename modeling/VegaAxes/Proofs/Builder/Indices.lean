import VegaAxes.Proofs.Builder.MarkNames

/-!
# Indices of axes

An axis takes the index that is written for it, or else the one after that of the axis before it,
whichever other axes there are. So the indices of a run lie in `Stretch`es, each of which starts
where an index is written. `run_indices`: if all written indices are new, the others are new exactly
if no stretch runs into another one, and then no two axes, signals, data tables or marks have one
name. `revisiting_repeats`: a stretch can run into an earlier one.
-/

namespace VegaAxes

open Document

namespace Builder

-- ---------------------------------------------------------------------------
-- Indices
-- ---------------------------------------------------------------------------

/-- The index of a call as it is written for it, if it is. -/
def written : Option Nat → Json
  | some n => .int n
  | none => .null

/-- The indices that axes take, the first of them `next` where none is written for it. -/
def taken (next : Nat) : List (Option Nat) → List Nat
  | [] => []
  | w :: ws => w.getD next :: taken (w.getD next + 1) ws

/-- No axis before the one at place `i` has its index. -/
def FreshAt (indices : List Nat) (i : Nat) : Prop :=
  ∀ j < i, indices[j]? ≠ indices[i]?

instance (indices : List Nat) (i : Nat) : Decidable (FreshAt indices i) :=
  inferInstanceAs (Decidable (∀ j < i, indices[j]? ≠ indices[i]?))

def WrittenFresh (ws : List (Option Nat)) : Prop :=
  ∀ i < ws.length, ws[i]? ≠ some none → FreshAt (taken 0 ws) i

def UnwrittenFresh (ws : List (Option Nat)) : Prop :=
  ∀ i < ws.length, ws[i]? = some none → FreshAt (taken 0 ws) i

instance (ws : List (Option Nat)) : Decidable (WrittenFresh ws) :=
  inferInstanceAs (Decidable (∀ i < ws.length, ws[i]? ≠ some none → FreshAt (taken 0 ws) i))
instance (ws : List (Option Nat)) : Decidable (UnwrittenFresh ws) :=
  inferInstanceAs (Decidable (∀ i < ws.length, ws[i]? = some none → FreshAt (taken 0 ws) i))

variable {ws : List (Option Nat)} {w : Option Nat}

theorem length_taken (next : Nat) (ws : List (Option Nat)) :
    (taken next ws).length = ws.length := by
  induction ws generalizing next with
  | nil => rfl
  | cons w ws ih => rw [taken, List.length_cons, List.length_cons, ih]

theorem taken_nodup_iff : (taken 0 ws).Nodup ↔ ∀ i < ws.length, FreshAt (taken 0 ws) i := by
  rw [List.nodup_iff_getElem?_ne_getElem?, length_taken]
  exact ⟨fun h i hi j hj => h j i hj hi, fun h j i hj hi => h i hi j hj⟩

theorem unwrittenFresh_iff (h : WrittenFresh ws) : UnwrittenFresh ws ↔ (taken 0 ws).Nodup := by
  rw [taken_nodup_iff]
  refine ⟨fun h' i hi => ?_, fun h' i hi _ => h' i hi⟩
  by_cases hwritten : ws[i]? = some none
  · exact h' i hi hwritten
  · exact h i hi hwritten

-- ---------------------------------------------------------------------------
-- Stretches
-- ---------------------------------------------------------------------------

/-- Axes one after the other, of which at most the first has an index written for it. -/
structure Stretch where
  start : Nat
  length : Nat
deriving DecidableEq

namespace Stretch

variable {s t : Stretch}

def indices (s : Stretch) : List Nat :=
  List.range' s.start s.length

def Apart (s t : Stretch) : Prop :=
  s.start + s.length ≤ t.start ∨ t.start + t.length ≤ s.start

instance (s t : Stretch) : Decidable (s.Apart t) :=
  inferInstanceAs (Decidable (_ ∨ _))

/-- Only the stretch before all written indices can be empty. -/
def IsProper (s : Stretch) : Prop :=
  s.length = 0 → s.start = 0

theorem isProper_of_pos (h : 0 < s.length) : s.IsProper :=
  fun hempty => absurd hempty (Nat.ne_of_gt h)

theorem apart_iff (hs : s.IsProper) (ht : t.IsProper) :
    (∀ i ∈ s.indices, ∀ j ∈ t.indices, i ≠ j) ↔ s.Apart t := by
  simp only [indices, List.mem_range'_1, Apart]
  constructor
  · intro h
    -- Two that overlap have the start of the later one in common.
    by_contra hoverlap
    unfold IsProper at hs ht
    exact h (max s.start t.start) (by omega) (max s.start t.start) (by omega) rfl
  · rintro h i hi _ hj rfl
    omega

end Stretch

/-- The stretches of a run, in the first of which there are already the axes of `s`. -/
def stretches (s : Stretch) : List (Option Nat) → List Stretch
  | [] => [s]
  | none :: ws => stretches { s with length := s.length + 1 } ws
  | some n :: ws => s :: stretches ⟨n, 1⟩ ws

theorem stretches_indices (s : Stretch) (ws : List (Option Nat)) :
    (stretches s ws).flatMap Stretch.indices = s.indices ++ taken (s.start + s.length) ws := by
  induction ws generalizing s with
  | nil => simp [stretches, taken]
  | cons w ws ih =>
    cases w with
    | none =>
      rw [stretches, ih, taken, Stretch.indices, Stretch.indices, List.range'_concat,
        List.append_assoc, Nat.one_mul]
      rfl
    | some n =>
      rw [stretches, List.flatMap_cons, ih, taken]
      rfl

theorem stretches_proper {s t : Stretch} (hs : s.IsProper) (h : t ∈ stretches s ws) :
    t.IsProper := by
  induction ws generalizing s with
  | nil =>
    obtain rfl := List.mem_singleton.mp h
    exact hs
  | cons w ws ih =>
    cases w with
    | none => exact ih (Stretch.isProper_of_pos (Nat.succ_pos _)) h
    | some n =>
      rcases List.mem_cons.mp h with rfl | h
      · exact hs
      · exact ih (Stretch.isProper_of_pos Nat.one_pos) h

theorem taken_nodup_iff_apart :
    (taken 0 ws).Nodup ↔ (stretches ⟨0, 0⟩ ws).Pairwise Stretch.Apart := by
  have hproper {s : Stretch} (h : s ∈ stretches ⟨0, 0⟩ ws) : s.IsProper :=
    stretches_proper (fun _ => rfl) h
  have hindices : (stretches ⟨0, 0⟩ ws).flatMap Stretch.indices = taken 0 ws :=
    stretches_indices ⟨0, 0⟩ ws
  rw [← hindices, List.Nodup, List.pairwise_flatMap]
  constructor
  · rintro ⟨-, h⟩
    exact h.imp_of_mem fun hs ht => (Stretch.apart_iff (hproper hs) (hproper ht)).mp
  · intro h
    refine ⟨fun s _ => List.nodup_range', ?_⟩
    exact h.imp_of_mem fun hs ht => (Stretch.apart_iff (hproper hs) (hproper ht)).mpr

-- ---------------------------------------------------------------------------
-- Names of notes
-- ---------------------------------------------------------------------------

end Builder

def AxisFeatures.calledNotes (o : AxisFeatures) : List String :=
  if o.position.supportsNotes then o.notes.filterMap fun note => given note.name else []

namespace ResolvedAxis

/-- The names of the notes that are given none, which go by their places within the axis. -/
def numberedNotes (r : ResolvedAxis) : List String :=
  if r.position.supportsNotes then
    (r.notes.zipIdx.filter fun note => (given note.1.name).isNone).map
      fun note => r.name ++ "Annotation" ++ toString note.2
  else []

theorem noteNames_perm (r : ResolvedAxis) :
    r.noteNames.Perm (r.calledNotes ++ r.numberedNotes) := by
  have hnotes (notes : List NoteOptions) (n : Nat) :
      ((notes.zipIdx n).map fun note =>
        (given note.1.name).getD (r.name ++ "Annotation" ++ toString note.2)).Perm
        ((notes.filterMap fun note => given note.name) ++
          ((notes.zipIdx n).filter fun note => (given note.1.name).isNone).map
            fun note => r.name ++ "Annotation" ++ toString note.2) := by
    induction notes generalizing n with
    | nil => exact .refl _
    | cons note notes ih =>
      rw [List.zipIdx_cons, List.map_cons, List.filterMap_cons, List.filter_cons]
      cases given note.name with
      | some name => exact (ih (n + 1)).cons name
      | none => exact ((ih (n + 1)).cons _).trans List.perm_middle.symm
  rw [noteNames, AxisFeatures.calledNotes, numberedNotes, Note.all]
  cases r.position.supportsNotes with
  | false => exact .refl _
  | true =>
    rw [if_pos rfl, if_pos rfl, if_pos rfl, List.mapIdx_eq_zipIdx_map, List.map_map]
    exact hnotes r.notes 0

theorem mem_numberedNotes {r : ResolvedAxis} {name : String} (h : name ∈ r.numberedNotes) :
    ∃ i : Nat, name = r.name ++ "Annotation" ++ toString i := by
  unfold numberedNotes at h
  split at h
  · obtain ⟨note, -, rfl⟩ := List.mem_map.mp h
    exact ⟨note.2, rfl⟩
  · cases h

end ResolvedAxis

namespace Builder

variable {b b' : Builder} {o : AxisOptions} {index : Json} {calls : List Call} {d : Drawing}
  {ds : List Drawing} {placed : List (Drawing × Nat)} {ms : List Json} {next : Nat}

/-- The names that notes are given are no two the same, and none is that of a note without one. -/
structure CalledApart (ds : List Drawing) : Prop where
  nodup : (ds.flatMap (·.axis.calledNotes)).Nodup
  free : ∀ name ∈ ds.flatMap (·.axis.calledNotes), name ∉ ds.flatMap (·.axis.numberedNotes)

theorem numberedNotes_nodup (hplaces : placed.Pairwise (·.2 ≠ ·.2))
    (hnames : ∀ d ∈ placed, d.1.axis.name = "axis" ++ toString d.2) :
    ((placed.map Prod.fst).flatMap (·.axis.numberedNotes)).Nodup := by
  rw [List.flatMap_map]
  refine List.pairwise_flatMap.mpr ⟨fun d _ => ?_, ?_⟩
  · unfold ResolvedAxis.numberedNotes
    split
    · refine List.pairwise_map.mpr (((pairwise_zipIdx _ 0).filter _).imp fun hne heq => hne ?_)
      exact Text.toString_inj ((String.append_right_inj _).mp heq)
    · exact .nil
  · refine hplaces.imp_of_mem fun {d d'} hd hd' hne name hname name' hname' heq => hne ?_
    obtain ⟨i, rfl⟩ := ResolvedAxis.mem_numberedNotes hname
    obtain ⟨j, rfl⟩ := ResolvedAxis.mem_numberedNotes hname'
    rw [hnames d hd, hnames d' hd'] at heq
    exact (MarkName.numbered_ext (c := 'A') rfl (by decide) heq).1

theorem noteNames_nodup (hcalled : CalledApart ds)
    (hnumbered : (ds.flatMap (·.axis.numberedNotes)).Nodup) :
    (ds.flatMap (·.axis.noteNames)).Nodup := by
  have hperm : (ds.flatMap (·.axis.noteNames)).Perm
      (ds.flatMap (·.axis.calledNotes) ++ ds.flatMap (·.axis.numberedNotes)) :=
    (List.Perm.flatMap_left ds fun d _ => d.axis.noteNames_perm).trans
      (List.flatMap_append_perm ds _ _).symm
  refine hperm.nodup_iff.mpr (List.nodup_append.mpr ⟨hcalled.nodup, hnumbered, ?_⟩)
  rintro name hname _ hname' rfl
  exact hcalled.free name hname hname'

theorem exists_placed {indices : List Nat}
    (hnames : ds.map (·.axis.name) = indices.map ("axis" ++ toString ·)) (hnodup : indices.Nodup) :
    ∃ placed : List (Drawing × Nat), placed.map Prod.fst = ds ∧ placed.Pairwise (·.2 ≠ ·.2) ∧
      ∀ d ∈ placed, d.1.axis.name = "axis" ++ toString d.2 := by
  have hlength : ds.length = indices.length := by
    simpa using congrArg List.length hnames
  refine ⟨ds.zip indices, List.map_fst_zip (Nat.le_of_eq hlength), ?_, fun d hd => ?_⟩
  · refine List.pairwise_map.mp ?_
    rwa [List.map_snd_zip (Nat.le_of_eq hlength.symm)]
  · obtain ⟨i, hi, rfl⟩ := List.getElem_of_mem hd
    have hname := congrArg (·[i]?) hnames
    rw [List.length_zip] at hi
    simpa [show i < ds.length by omega, show i < indices.length by omega] using hname

theorem placed_apart (hplaces : placed.Pairwise (·.2 ≠ ·.2))
    (hnames : ∀ d ∈ placed, d.1.axis.name = "axis" ++ toString d.2) :
    ((placed.map Prod.fst).map (·.axis)).Pairwise Apart := by
  rw [List.map_map]
  refine List.pairwise_map.mpr (hplaces.imp_of_mem fun hd hd' hne => ?_)
  exact apart_of_names hne (hnames _ hd) (hnames _ hd')

-- ---------------------------------------------------------------------------
-- Runs
-- ---------------------------------------------------------------------------

theorem drawnRun_features {os : List AxisOptions} (h : DrawnRun b calls ds b')
    (hos : calls.map Call.options = os.map .ok) :
    ds.map (·.axis.toAxisFeatures) = os.map (·.toAxisFeatures) := by
  induction h generalizing os with
  | nil b =>
    obtain rfl := List.map_eq_nil_iff.mp hos.symm
    rfl
  | cons options a marks tail ih =>
    obtain ⟨o, os, rfl, ho, hos⟩ := List.map_eq_cons_iff.mp hos.symm
    obtain rfl := Except.ok.inj (ho.trans options)
    rw [List.map_cons, List.map_cons, ih hos.symm]
    exact congrArg (· :: _) (AxisOptions.resolveFor_features a.axis_eq)

theorem indexFor_written (hnext : b.nextIndex = .int next) (w : Option Nat) :
    b.indexFor (written w) = .int (w.getD next) := by
  cases w with
  | none => exact hnext
  | some n => rfl

/-- The axis takes the index that is written, and leaves the one after it to the axis behind it. -/
theorem Addition.taken (a : Addition b o (written w)) (hnext : b.nextIndex = .int next) :
    a.axis.name = "axis" ++ toString (w.getD next) ∧ a.next = .int (w.getD next + 1 : Nat) := by
  have hindex := indexFor_written hnext w
  refine ⟨by rw [a.name_spliced, hindex]; rfl, ?_⟩
  have hsuccessor := a.next_eq
  rw [hindex] at hsuccessor
  exact (Except.ok.inj hsuccessor).symm

theorem drawnRun_taken (h : DrawnRun b calls ds b') (hnext : b.nextIndex = .int next)
    (hwritten : calls.map Call.index = ws.map written) :
    ds.map (·.axis.name) = (taken next ws).map ("axis" ++ toString ·) := by
  induction h generalizing ws next with
  | nil b =>
    obtain rfl := List.map_eq_nil_iff.mp hwritten.symm
    rfl
  | @cons b b₁ b' c o calls ds options a marks tail ih =>
    obtain ⟨w, ws, rfl, hindex, hwritten⟩ := List.map_eq_cons_iff.mp hwritten.symm
    generalize c.index = index at a marks hindex
    subst hindex
    obtain ⟨hname, hafter⟩ := a.taken hnext
    have hnext' : b₁.nextIndex = a.next := (congrArg Builder.nextIndex (addMarks_frame marks)).symm
    rw [List.map_cons, Builder.taken, List.map_cons, ih (hnext'.trans hafter) hwritten.symm]
    exact congrArg (· :: _) hname

theorem grow_trans {u v w : Json} {items more : List Json} (h : grow u items = .ok v)
    (h' : grow v more = .ok w) : grow u (items ++ more) = .ok w := by
  cases items with
  | nil =>
    cases h
    exact h'
  | cons item items =>
    obtain ⟨old, rfl, rfl⟩ := append_ok.mp h
    rw [grow_arr] at h' ⊢
    rw [← h', List.append_assoc]

/-- The signals and the data tables of all axes are added, and nothing else is. -/
theorem drawnRun_lists (h : DrawnRun b calls ds b') :
    grow b.signals (ds.flatMap fun d => axisSignals d.axis d.scaleName.spliced) = .ok b'.signals ∧
      grow b.data (ds.flatMap fun d => (Note.all d.axis).flatMap Note.tables) = .ok b'.data := by
  induction h with
  | nil b => exact ⟨rfl, rfl⟩
  | cons options a marks tail ih =>
    rw [← addMarks_frame marks] at ih
    exact ⟨grow_trans a.signals_eq ih.1, grow_trans a.data_eq ih.2⟩

theorem drawnRun_unlisted (h : DrawnRun b calls ds b') (hm : ∀ ms, b.marks ≠ .arr ms) :
    b'.marks = b.marks := by
  induction h with
  | nil b => rfl
  | cons options a marks tail ih =>
    obtain rfl := addMarks_unlisted (b := a.unmarked) hm marks
    exact ih hm

def AddsNamed (v w : Json) : Prop :=
  ∃ (added : List Json) (names : List String),
    grow v added = .ok w ∧ added.map entryName? = names.map some ∧ names.Nodup

/-- All that the axes add to the builder has names of its own, but for baselines across
one direction. -/
structure Unrepeated (b b' : Builder) (ds : List Drawing) : Prop where
  signals : AddsNamed b.signals b'.signals
  data : AddsNamed b.data b'.data
  marks : ∀ ms, b.marks = .arr ms → ∃ before kept after,
    b'.marks = .arr (before ++ kept ++ after) ∧
      ChangedAt (IsGroupAt (ms ++ ds.flatMap Drawing.above)) (Fields.SameExcept Trellis.listKeys)
        ms kept ∧
      NamesApart ds (before ++ after)
  unmarked : (∀ ms, b.marks ≠ .arr ms) → b'.marks = b.marks

theorem drawnRun_unrepeated (h : DrawnRun b calls ds b') (hds : placed.map Prod.fst = ds)
    (hplaces : placed.Pairwise (·.2 ≠ ·.2))
    (hnames : ∀ d ∈ placed, d.1.axis.name = "axis" ++ toString d.2)
    (hnotes : (ds.flatMap (·.axis.noteNames)).Nodup) : Unrepeated b b' ds where
  signals := by
    refine ⟨_, ds.flatMap (·.axis.generatedSignals), (drawnRun_lists h).1, ?_, ?_⟩
    · simp only [List.map_flatMap, axisSignals_names]
    · subst hds
      have hapart := generatedSignals_nodup (placed_apart hplaces hnames)
      simp only [List.flatMap_map] at hapart hnotes ⊢
      exact hapart hnotes
  data := by
    refine ⟨_, ds.flatMap (·.axis.generatedTables), (drawnRun_lists h).2, ?_, ?_⟩
    · rw [List.map_flatMap, List.map_flatMap]
      exact congrArg (List.flatMap · ds) (funext fun d => tables_names d.axis)
    · have hapart := @generatedTables_nodup (ds.map (·.axis))
      simp only [List.flatMap_map] at hapart
      exact hapart hnotes
  marks := fun _ hm => drawnRun_markNames h hm hds hplaces hnames hnotes
  unmarked := drawnRun_unlisted h

end Builder

open Builder

variable {settings : Settings} {document : Json} {context : Option Context} {b b' : Builder}
  {calls : List Call} {ws : List (Option Nat)}

/-- Where all written indices are new, the others are new exactly if no stretch of axes runs
into another one; in any case that is when no two axes have one name. Then the notes without a
name of their own, the signals, the data tables and the marks of all axes are no two called the
same either. -/
theorem run_indices (hb : ofDocument settings document context = .ok b) (h : Runs b calls b')
    (hwritten : calls.map Call.index = ws.map written) :
    ∃ ds, DrawnRun b calls ds b' ∧
      ds.map (·.axis.name) = (taken 0 ws).map ("axis" ++ toString ·) ∧
      (WrittenFresh ws → (UnwrittenFresh ws ↔ (stretches ⟨0, 0⟩ ws).Pairwise Stretch.Apart)) ∧
      ((ds.map (·.axis.name)).Nodup ↔ (stretches ⟨0, 0⟩ ws).Pairwise Stretch.Apart) ∧
      ((stretches ⟨0, 0⟩ ws).Pairwise Stretch.Apart →
        (ds.flatMap (·.axis.numberedNotes)).Nodup ∧ (CalledApart ds → Unrepeated b b' ds)) := by
  obtain ⟨ds, hds⟩ := h.drawn
  obtain ⟨fs, context, -, rfl⟩ := ofDocument_start hb
  have hnames := drawnRun_taken hds rfl hwritten
  have hinj : Function.Injective fun n : Nat => "axis" ++ toString n :=
    fun _ _ heq => Text.toString_inj ((String.append_right_inj _).mp heq)
  refine ⟨ds, hds, hnames, fun hfresh => ?_, ?_, fun hapart => ?_⟩
  · rw [unwrittenFresh_iff hfresh, taken_nodup_iff_apart]
  · rw [hnames, List.nodup_map_iff hinj, taken_nodup_iff_apart]
  · obtain ⟨placed, rfl, hplaces, hplaced⟩ :=
      exists_placed hnames (taken_nodup_iff_apart.mpr hapart)
    have hnumbered := numberedNotes_nodup hplaces hplaced
    exact ⟨hnumbered, fun hcalled =>
      drawnRun_unrepeated hds rfl hplaces hplaced (noteNames_nodup hcalled hnumbered)⟩

def jumpingAxes : List AxisOptions :=
  [{ position := .bottom, labels := [.plain (.int 1)], notes := [{}] },
    { position := .bottom, labels := [.plain (.int 1)], notes := [{}, { name := some "release" }] },
    { position := .top, referenceLines := [{ value := .int 1 }] },
    { position := .left, referenceLines := [{ value := .int 1 }] }]

def jumping : List Call :=
  List.zipWith Call.read jumpingAxes ([some 3, none, some 0, none].map written)

theorem jumping_unrepeated :
    jumping.map Call.index = [some 3, none, some 0, none].map written ∧
      ∃ b b' ds, ofDocument (.ofEnvironment {}) linearBars
        (some ⟨.vertical, .light, .null⟩) = .ok b ∧
        Runs b jumping b' ∧ DrawnRun b jumping ds b' ∧
        ds.map (·.axis.name) = ["axis3", "axis4", "axis0", "axis1"] ∧
        UnwrittenFresh [some 3, none, some 0, none] ∧
        (ds.flatMap (·.axis.numberedNotes)).Nodup ∧ Unrepeated b b' ds := by
  have hb : ofDocument (.ofEnvironment {}) linearBars (some ⟨.vertical, .light, .null⟩) =
      .ok (start linearBars.ownFields ⟨.vertical, .light, .null⟩) := ofDocument_obj _ _ _
  have hsome : (after (start linearBars.ownFields ⟨.vertical, .light, .null⟩) jumping).isSome =
      true := by decide +kernel
  obtain ⟨b', hb'⟩ := Option.isSome_iff_exists.mp hsome
  have hwritten : jumping.map Call.index = [some 3, none, some 0, none].map written := rfl
  have hruns := after_eq_some.mp hb'
  obtain ⟨ds, hds, hnames, hfresh, -, hall⟩ := run_indices hb hruns hwritten
  have hapart : (stretches ⟨0, 0⟩ [some 3, none, some 0, none]).Pairwise Stretch.Apart := by decide
  obtain ⟨hnumbered, hunrepeated⟩ := hall hapart
  have hcalled : ds.flatMap (·.axis.calledNotes) = ["release"] := by
    have hos : jumping.map Call.options = jumpingAxes.map .ok := rfl
    have hlists := congrArg (List.flatMap AxisFeatures.calledNotes) (drawnRun_features hds hos)
    rw [List.flatMap_map, List.flatMap_map] at hlists
    exact hlists.trans (by decide)
  have hfree : "release" ∉ ds.flatMap (·.axis.numberedNotes) := by
    intro h
    obtain ⟨d, hd, h⟩ := List.mem_flatMap.mp h
    obtain ⟨i, heq⟩ := ResolvedAxis.mem_numberedNotes h
    have hname : d.axis.name ∈ ds.map (·.axis.name) := List.mem_map_of_mem hd
    obtain ⟨n, -, hn⟩ := List.mem_map.mp (hnames ▸ hname)
    rw [← hn, String.append_assoc, String.append_assoc] at heq
    exact absurd (congrArg (·.toList.head?) heq) (by simp)
  exact ⟨hwritten, _, b', ds, hb, hruns, hds, hnames.trans (by decide +kernel),
    (hfresh (by decide)).mpr hapart, hnumbered,
    hunrepeated ⟨hcalled ▸ List.nodup_singleton _, by simpa [hcalled] using hfree⟩⟩

def revisiting : List Call :=
  [.read { position := .bottom, labels := [.plain (.int 1)] } (.int 1),
    .read { position := .bottom } (.int 0),
    .read { position := .bottom, labels := [.plain (.int 1)] } .null]

/-- The third axis takes the index again that is written for the first, and the labels of both have
the name of one signal. -/
theorem revisiting_repeats :
    revisiting.map Call.index = [some 1, some 0, none].map written ∧
      WrittenFresh [some 1, some 0, none] ∧ ¬UnwrittenFresh [some 1, some 0, none] ∧
      ∃ b b' ds, ofDocument (.ofEnvironment {}) linearBars
        (some ⟨.vertical, .light, .null⟩) = .ok b ∧
        DrawnRun b revisiting ds b' ∧ ds.map (·.axis.name) = ["axis1", "axis0", "axis1"] ∧
        namesOf (itemsOf b'.signals) = ["axis1_labels", "axis1_labels"] ∧
        validate b'.finished.toJson =
          .error (.malformed (.duplicateName .signal "axis1_labels")) := by
  have hb : ofDocument (.ofEnvironment {}) linearBars (some ⟨.vertical, .light, .null⟩) =
      .ok (start linearBars.ownFields ⟨.vertical, .light, .null⟩) := ofDocument_obj _ _ _
  have hafter : (after (start linearBars.ownFields ⟨.vertical, .light, .null⟩) revisiting).map
      (fun b => (namesOf (itemsOf b.signals), validate b.finished.toJson)) =
        some (["axis1_labels", "axis1_labels"],
          .error (.malformed (.duplicateName .signal "axis1_labels"))) := by decide +kernel
  obtain ⟨b', hb', heq⟩ := Option.map_eq_some_iff.mp hafter
  obtain ⟨hsignals, hinvalid⟩ := Prod.mk.inj heq
  have hwritten : revisiting.map Call.index = [some 1, some 0, none].map written := rfl
  obtain ⟨ds, hds⟩ := (after_eq_some.mp hb').drawn
  have hnames := drawnRun_taken hds rfl hwritten
  exact ⟨hwritten, by decide, by decide, _, b', ds, hb, hds,
    hnames.trans (by decide +kernel), hsignals, hinvalid⟩

end VegaAxes
