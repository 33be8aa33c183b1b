import VegaAxes.Proofs.Builder.Finish
import VegaAxes.Proofs.Builder.Reading
import VegaAxes.Proofs.Builder.Receptive

/-!
# What comes of compiling axes

A compilation fails by a defect exactly if the axes can all be added, and the document that they
leave has the defect (`compileAxes_malformed`). Axes leave a legible document legible
(`addEach_legible`), so that from a receptive builder nothing else can go wrong
(`compileAxes_decides`). No axis can be added to what is no list (`builds_listed`).
-/

namespace VegaAxes

open Document Scale

namespace Builder

variable {b : Builder} {n : Nat}

def LegibleLists (b : Builder) : Prop :=
  Legible b.axes b.marks b.signals b.data

theorem each_append {P : Json → Prop} {v w : Json} {old new : List Json} (h : Each P v)
    (hv : v = .arr old) (hw : w = .arr (old ++ new)) (hnew : ∀ entry ∈ new, P entry) :
    Each P w := by
  rintro _ rfl entry hentry
  cases hw
  exact (List.mem_append.mp hentry).elim (h old hv entry) (hnew entry)

theorem add_legible (hb : Receptive b) (h : b.LegibleLists) (o : AxisOptions) (n : Nat) :
    ∃ b', (add o (.int n)).run b = .ok () b' ∧ Receptive b' ∧ b'.LegibleLists ∧
      b'.usermeta = b.usermeta ∧ b'.extra = b.extra := by
  obtain ⟨a, ms, ms', hms, hrun, hb', hadded⟩ := add_receptive hb o n
  obtain ⟨signals, hsignals, -⟩ := hb.signals
  obtain ⟨tables, hdata⟩ := hb.data
  refine ⟨_, hrun, hb', ⟨?_, ?_, ?_, ?_⟩, rfl, rfl⟩
  · refine each_append h.axes a.oldAxes_eq rfl fun axis haxis => ?_
    obtain ⟨fs, hfs, rfl⟩ := List.mem_map.mp haxis
    exact (a.axes_valid hb fs hfs).legible
  · rintro _ ⟨⟩
    exact hadded.legible (h.marks ms hms)
  · exact each_append h.signals hsignals (a.signals_arr hsignals)
      (objects_of_names (axisSignals_names _ _))
  · exact each_append h.data hdata (a.data_arr hdata) (objects_of_names (tables_names _))

theorem addEach_legible (hb : Receptive b) (h : b.LegibleLists) (n : Nat) (os : List AxisOptions) :
    ∃ b', (addEach add n os).run b = .ok () b' ∧ Receptive b' ∧ b'.LegibleLists ∧
      b'.usermeta = b.usermeta ∧ b'.extra = b.extra := by
  induction os generalizing n b with
  | nil => exact ⟨b, rfl, hb, h, rfl, rfl⟩
  | cons o os ih =>
    obtain ⟨b₁, hadd, hb₁, h₁, husermeta, hextra⟩ := add_legible hb h o n
    obtain ⟨b₂, hrun, hb₂, h₂, husermeta', hextra'⟩ := ih hb₁ h₁ (n + 1)
    exact ⟨b₂, run_bind_ok.mpr ⟨(), b₁, hadd, hrun⟩, hb₂, h₂, husermeta'.trans husermeta,
      hextra'.trans hextra⟩

-- ---------------------------------------------------------------------------
-- Whole builds
-- ---------------------------------------------------------------------------

variable {fs : Fields} {context : Context} {os : List AxisOptions} {d : Document}

/-- The builder that starts from the fields of a document, with an empty list for each one that is
unset. -/
def start (fs : Fields) (context : Context) : Builder where
  scales := (fs.getD "scales").orElse (.arr [])
  axes := (fs.getD "axes").orElse (.arr [])
  marks := (fs.getD "marks").orElse (.arr [])
  signals := (fs.getD "signals").orElse (.arr [])
  data := (fs.getD "data").orElse (.arr [])
  usermeta := fs.getD "usermeta"
  extra := ownKeys.foldl Fields.erase fs
  context

theorem ofDocument_obj (settings : Settings) (fs : Fields) (context : Context) :
    ofDocument settings (.obj fs) (some context) = .ok (start fs context) := by
  simp only [ofDocument, documentFields_obj, bind_ok, pure_ok, Except.ok.injEq, exists_eq_left']
  rfl

theorem ofDocument_start {settings : Settings} {document : Json}
    {given : Option Context} {b : Builder}
    (hb : ofDocument settings document given = .ok b) :
    ∃ fs context, documentFields document = .ok fs ∧ b = start fs context := by
  cases given <;>
  · simp only [ofDocument, bind_ok, pure_ok] at hb
    obtain ⟨fs, hfs, context, -, rfl⟩ := hb
    exact ⟨fs, context, hfs, rfl⟩

theorem start_extra : ∀ field ∈ (start fs context).extra, field.1 ∉ ownKeys := by
  intro field hfield
  simp only [start, Fields.foldl_erase] at hfield
  simpa using (List.mem_filter.mp hfield).2

def Builds (b : Builder) (os : List AxisOptions) (d : Document) : Prop :=
  ∃ b', (do addEach add 0 os; finish).run b = .ok d b'

theorem getD_extra {extra : Fields} (hextra : ∀ field ∈ extra, field.1 ∉ ownKeys) {key : String}
    (hkey : key ∈ ownKeys) (v : Json) : extra.getD key v = v := by
  rw [Fields.getD, Fields.get?_eq_none_iff.mpr]
  · rfl
  · intro hmem
    obtain ⟨field, hfield, rfl⟩ := List.mem_map.mp hmem
    exact hextra field hfield hkey

theorem legibleFields_of_lists (hextra : ∀ field ∈ thawFields d.extra, field.1 ∉ ownKeys)
    (h : Legible d.axes.thaw d.marks.thaw d.signals.thaw d.data.thaw) :
    ∃ fields, d.toJson = .obj fields ∧ LegibleFields fields := by
  refine ⟨_, rfl, ?_⟩
  have hown {key : String} (hkey : key ∈ ownKeys) (v : Json) := getD_extra hextra hkey v
  rw [LegibleFields, getD_toJson d rfl, getD_toJson d rfl, getD_toJson d rfl, getD_toJson d rfl,
    hown (by simp [ownKeys]), hown (by simp [ownKeys]), hown (by simp [ownKeys]),
    hown (by simp [ownKeys])]
  exact h

theorem listed_of_valid (hextra : ∀ field ∈ thawFields d.extra, field.1 ∉ ownKeys)
    (h : validate d.toJson = .ok ()) :
    (∃ axes, d.axes.thaw = .arr axes) ∧ ∃ marks, d.marks.thaw = .arr marks := by
  obtain ⟨_, axes, marks, _, _, -, haxes, hmarks, -⟩ := (validate_toJson d).mp h
  rw [getD_extra hextra (by simp [ownKeys])] at haxes hmarks
  exact ⟨⟨axes, haxes⟩, marks, hmarks⟩

/-- The check and the counts of a legible document come to a verdict. -/
theorem checked_decides {validated : Bool}
    (hextra : ∀ field ∈ thawFields d.extra, field.1 ∉ ownKeys)
    (hlegible : Legible d.axes.thaw d.marks.thaw d.signals.thaw d.data.thaw)
    (hlisted : validated = true ∨
      (∃ axes, d.axes.thaw = .arr axes) ∧ ∃ marks, d.marks.thaw = .arr marks) :
    Decides ((if validated then validate d.toJson else .ok ()) >>= fun _ =>
      Compiled.ofDocument d context) := by
  obtain ⟨fields, hfields, hlegible⟩ := legibleFields_of_lists hextra hlegible
  refine .bind ?_ fun _ hvalid => ?_
  · split
    · exact hfields ▸ validate_decides hlegible
    · exact .ok ()
  · obtain ⟨⟨axes, haxes⟩, marks, hmarks⟩ :
        (∃ axes, d.axes.thaw = .arr axes) ∧ ∃ marks, d.marks.thaw = .arr marks := by
      rcases hlisted with rfl | hlisted
      · exact listed_of_valid hextra (by simpa using hvalid)
      · exact hlisted
    simp only [Compiled.ofDocument, ← length_thaw, haxes, hmarks, Json.length]
    exact .ok _

theorem compileAxes_of_run {settings : Settings} {validated : Option Bool} {b' : Builder}
    (h : (do addEach add 0 os; finish).run (start fs context) = .ok d b') :
    compileAxes settings (.obj fs) os (some context) validated =
      (if validated.getD settings.validateOutput then validate d.toJson else .ok ()) >>= fun _ =>
        Compiled.ofDocument d b'.context := by
  rw [compileAxes, ofDocument_obj]
  exact compile_of_run h

theorem reads_ofDocument (d : Document) (context : Context) :
    Reads (Compiled.ofDocument d context) := by
  simp [Compiled.ofDocument, ← length_thaw]

end Builder

open Builder

variable {settings : Settings} {fs : Fields} {context : Context} {axes : List AxisOptions}
  {validated : Option Bool}

/-- A compilation that succeeds adds all axes. -/
theorem compileAxes_builds {c : Compiled}
    (h : compileAxes settings (.obj fs) axes (some context) validated = .ok c) :
    ∃ d, Builds (start fs context) axes d := by
  rw [compileAxes, ofDocument_obj] at h
  cases hrun : (do addEach add 0 axes; finish).run (start fs context) with
  | ok d b' => exact ⟨d, b', hrun⟩
  | error e b' => exact nomatch (compile_of_failure hrun).symm.trans h

/-- Only the check of the document that the axes leave finds a defect. -/
theorem compileAxes_malformed {defect : Defect} :
    compileAxes settings (.obj fs) axes (some context) validated = .error (.malformed defect) ↔
      validated.getD settings.validateOutput = true ∧
        ∃ d, Builds (start fs context) axes d ∧ validate d.toJson = .error (.malformed defect) := by
  cases hrun : (do addEach add 0 axes; finish).run (start fs context) with
  | ok d b' =>
    have hbuilds {d' : Document} : Builds (start fs context) axes d' ↔ d' = d := by
      constructor
      · rintro ⟨_, hrun'⟩
        cases hrun.symm.trans hrun'
        rfl
      · rintro rfl
        exact ⟨b', hrun⟩
    simp only [hbuilds, exists_eq_left]
    rw [compileAxes_of_run hrun]
    cases validated.getD settings.validateOutput with
    | false =>
      simp only [Bool.false_eq_true, if_false, false_and, iff_false]
      exact reads_ofDocument d b'.context defect
    | true =>
      simp only [if_true, true_and]
      cases validate d.toJson with
      | ok => exact iff_of_false (reads_ofDocument d b'.context defect) (by simp)
      | error e => simp [bind, Except.bind]
  | error e b' =>
    have hreads : Attempt.Reads (do addEach add 0 axes; finish) (start fs context) :=
      .bind (reads_addEach _ 0 axes) fun _ b => reads_finish b
    refine iff_of_false (fun h => ?_) ?_
    · rw [compileAxes, ofDocument_obj] at h
      cases (compile_of_failure hrun).symm.trans h
      exact hreads defect b' hrun
    · rintro ⟨-, d, ⟨_, hrun'⟩, -⟩
      cases hrun.symm.trans hrun'

/-- Axes that can be added leave a document whose check comes to a verdict. Where there are none,
only the check reads the lists. -/
theorem compileAxes_decides (hlegible : (start fs context).LegibleLists)
    (husermeta : ∃ given, (fs.getD "usermeta").orElse (.obj []) = .obj given)
    (hread : Receptive (start fs context) ∨ axes = [] ∧ settings.validateOutput = true) :
    Decides (compileAxes settings (.obj fs) axes (some context) none) := by
  obtain ⟨given, hgiven⟩ := husermeta
  obtain ⟨b', hrun, hopen, hlegible', husermeta', hextra', hlisted⟩ :
      ∃ b', (addEach add 0 axes).run (start fs context) = .ok () b' ∧ b'.closed = false ∧
        b'.LegibleLists ∧ b'.usermeta = fs.getD "usermeta" ∧ b'.extra = (start fs context).extra ∧
        (settings.validateOutput = true ∨
          (∃ axes, b'.axes = .arr axes) ∧ ∃ marks, b'.marks = .arr marks) := by
    rcases hread with hb | ⟨rfl, hvalidated⟩
    · obtain ⟨b', hrun, hb', hlegible', husermeta', hextra'⟩ := addEach_legible hb hlegible 0 axes
      obtain ⟨marks, hmarks, -⟩ := hb'.marks
      exact ⟨b', hrun, hb'.isOpen, hlegible', husermeta', hextra', .inr ⟨hb'.axes, marks, hmarks⟩⟩
    · exact ⟨_, rfl, rfl, hlegible, rfl, rfl, .inl hvalidated⟩
  have hspread : (b'.usermeta.orElse (.obj [])).spread = .ok given := by
    rw [husermeta', hgiven]
    rfl
  have hfinish := finish_run_ok.mpr ⟨hopen, given, hspread, rfl, rfl⟩
  rw [compileAxes_of_run (run_bind_ok.mpr ⟨(), b', hrun, hfinish⟩)]
  have hextra : ∀ field ∈ b'.extra, field.1 ∉ ownKeys := hextra' ▸ start_extra
  refine checked_decides ?_ ?_ ?_
  · simpa [finished] using hextra
  · simpa [finished] using show Legible _ _ _ _ from hlegible'
  · simpa [finished] using hlisted

theorem orElse_empty {v : Json} (h : (v.orElse (.arr [])).elements = .ok []) :
    v.orElse (.arr []) = .arr [] := by
  unfold Json.orElse at h ⊢
  split
  · next hset =>
    rw [if_pos hset] at h
    cases v with
    | arr items =>
      cases h
      rfl
    | obj fs =>
      obtain rfl := List.map_eq_nil_iff.mp (Except.ok.inj h)
      cases hset
    | str s =>
      have hne : s ≠ "" := by simpa [Json.truthy] using hset
      exact absurd (List.map_eq_nil_iff.mp (Except.ok.inj h)) (Trellis.letters_ne_nil hne)
    | _ => cases h
  · rfl

theorem builds_listed {o : AxisOptions} {d : Document}
    (h : Builds (start fs context) (o :: axes) d) :
    ∀ key ∈ ["scales", "axes", "marks"], ∃ items, (fs.getD key).orElse (.arr []) = .arr items := by
  obtain ⟨b', hrun⟩ := h
  simp only [addEach, run_bind_ok] at hrun
  obtain ⟨_, _, ⟨_, b₁, hadd, -⟩, -⟩ := hrun
  obtain ⟨a, hmarks⟩ := add_ok.mp hadd
  intro key hkey
  simp only [List.mem_cons, List.not_mem_nil, or_false] at hkey
  rcases hkey with rfl | rfl | rfl
  · have hbound := a.bound_eq
    simp only [boundScale, bind_ok] at hbound
    obtain ⟨bound, hresolve, -⟩ := hbound
    exact resolve_list hresolve
  · exact ⟨_, a.oldAxes_eq⟩
  · by_cases hlisted : ∃ items, (fs.getD "marks").orElse (.arr []) = .arr items
    · exact hlisted
    · have hempty := addMarks_elements (b := a.unmarked) (fun ms hms => hlisted ⟨ms, hms⟩) hmarks
      exact ⟨[], orElse_empty hempty⟩

end VegaAxes
