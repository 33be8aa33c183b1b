import VegaAxes.Proofs.Builder.WellFormed

/-!
# Compiled documents are valid

`compileAxes_valid`: any axes can be added to a valid document, as long as their notes have
names of their own and the document has none of the names that are generated for them. The
document that is compiled is valid again.
-/

namespace VegaAxes

open Builder Document Scale

variable {settings : Settings} {fs : Fields} {axes : List AxisOptions} {context : Context}
  {key : String}

def documentLists : List String :=
  ["scales", "axes", "marks", "signals", "data"]

def filled (fs : Fields) : Fields :=
  documentLists.foldl (fun fs key => fs.set key ((fs.getD key).orElse (.arr []))) fs

def listOf (fs : Fields) (key : String) : List Json :=
  itemsOf (fs.getD key)

def compiledAxes (fs : Fields) (axes : List AxisOptions) (context : Context) : List ResolvedAxis :=
  resolvedAxes (boundType (listOf fs "scales")) context.colorScheme 0 axes

/-- A valid document that the axes can be added to. Its scales and marks can be searched, and so
can its trellis group, if it has one; its scales have the default names only where no default
is needed. No name is generated for the axes that is taken. -/
structure Compilable (fs : Fields) (axes : List AxisOptions) (context : Context) : Prop where
  valid : validate (.obj (filled fs)) = .ok ()
  usermeta : fs.getD "usermeta" = .null ∨ ∃ own, fs.getD "usermeta" = .obj own
  scaleTypes : ∀ scale ∈ listOf fs "scales", IsWord (Fields.getD scale.ownFields "type")
  defaultScales : ∀ e : Extent, e.defaultScaleName ∈ namesOf (listOf fs "scales") →
    isOccupied e (listOf fs "scales") = true
  markNames : ∀ mark ∈ listOf fs "marks", IsWord (Fields.getD mark.ownFields "name")
  group : ∀ place g, IsGroupAt (listOf fs "marks") place →
    (listOf fs "marks")[place]? = some (.obj g) → Trellis.Ready g
  count : IsCount context.metricAxisCount
  notes : ((compiledAxes fs axes context).flatMap ResolvedAxis.noteNames).Nodup
  signals : ∀ name ∈ namesOf (listOf fs "signals"),
    name ∉ (compiledAxes fs axes context).flatMap ResolvedAxis.generatedSignals
  data : ∀ name ∈ namesOf (listOf fs "data"),
    name ∉ (compiledAxes fs axes context).flatMap ResolvedAxis.generatedTables

theorem getD_filled (fs : Fields) (hkey : key ∈ documentLists) :
    (filled fs).getD key = (fs.getD key).orElse (.arr []) := by
  simp only [documentLists, List.mem_cons, List.not_mem_nil, or_false] at hkey
  rcases hkey with rfl | rfl | rfl | rfl | rfl <;>
    simp [filled, documentLists, Fields.getD, Fields.get?_set]

theorem itemsOf_orElse {v : Json} {items : List Json} (h : v.orElse (.arr []) = .arr items) :
    itemsOf v = items := by
  unfold Json.orElse at h
  split at h
  · rw [h]
    rfl
  · next hunset =>
    cases h
    cases v with
    | arr items =>
      cases items with
      | nil => rfl
      | cons item items => exact absurd rfl hunset
    | _ => rfl

theorem ofDocument_wellFormed (settings : Settings) (h : Compilable fs axes context) :
    ∃ b, ofDocument settings (.obj fs) (some context) = .ok b ∧ WellFormed 0 axes b := by
  obtain ⟨scales, items, marks, signals, data, hscales, haxes, hmarks, hsignals, hdata, hlists⟩ :=
    validate_ok.mp h.valid
  rw [getD_filled fs (by simp [documentLists])] at hscales haxes hmarks hsignals hdata
  have hscalesOf : listOf fs "scales" = scales := itemsOf_orElse hscales
  have hmarksOf : listOf fs "marks" = marks := itemsOf_orElse hmarks
  have hsignalsOf : listOf fs "signals" = signals := itemsOf_orElse hsignals
  have hdataOf : listOf fs "data" = data := itemsOf_orElse hdata
  obtain ⟨-, husermeta, hscaleTypes, hdefaults, hmarkNames, hgroup, hcount, hnotes, hfreeSignals,
    hfreeData⟩ := h
  rw [compiledAxes] at hnotes hfreeSignals hfreeData
  rw [hscalesOf] at hscaleTypes hdefaults hnotes hfreeSignals hfreeData
  rw [hmarksOf] at hmarkNames hgroup
  rw [hsignalsOf] at hfreeSignals
  rw [hdataOf] at hfreeData
  have hstart : ∃ b, ofDocument settings (.obj fs) (some context) = .ok b ∧
      b = { scales := .arr scales, axes := .arr items, marks := .arr marks, signals := .arr signals,
            data := .arr data, usermeta := fs.getD "usermeta",
            extra := ownKeys.foldl Fields.erase fs, context } := by
    simp only [ofDocument, documentFields_obj, hscales, haxes, hmarks, hsignals, hdata, bind_ok,
      pure_ok, Except.ok.injEq, exists_eq_left']
  obtain ⟨b, hb, rfl⟩ := hstart
  refine ⟨_, hb, rfl, husermeta, fun field hfield => ?_, hcount,
    ⟨scales, rfl, hlists.scales, hscaleTypes, hdefaults⟩, ⟨items, rfl, hlists.axes⟩,
    ⟨marks, rfl, hlists.marks, hmarkNames, hgroup⟩, ⟨signals, rfl, hlists.signals.named, ?_⟩,
    ⟨data, rfl, hlists.data.named, ?_⟩⟩
  · rw [Fields.foldl_erase] at hfield
    simpa using (List.mem_filter.mp hfield).2
  · have hapart := resolvedAxes_apart (boundType scales) context.colorScheme 0 axes
    refine List.nodup_append.mpr ⟨hlists.signals.distinct, generatedSignals_nodup hapart hnotes, ?_⟩
    rintro name hname _ hgenerated rfl
    exact hfreeSignals name hname hgenerated
  · refine List.nodup_append.mpr ⟨hlists.data.distinct, generatedTables_nodup hnotes, ?_⟩
    rintro name hname _ hgenerated rfl
    exact hfreeData name hname hgenerated

theorem compile_ok {b : Builder} {build : Build Unit} {validated : Bool} {c : Compiled} :
    b.compile build validated = .ok c ↔ ∃ d b', (do build; finish).run b = .ok d b' ∧
      (validated = true → validate d.toJson = .ok ()) ∧
        Compiled.ofDocument d b'.context = .ok c := by
  unfold compile Attempt.outcome
  cases hrun : (do build; finish).run b with
  | ok d b' =>
    simp only [bind_ok, Except.ok.injEq, exists_eq_left', EStateM.Result.ok.injEq, and_assoc,
      exists_and_left]
    cases validated with
    | false => simp
    | true =>
      simp only [if_true, bind_ok, forall_const]
      constructor
      · rintro ⟨_, hvalid, hc⟩
        exact ⟨hvalid, hc⟩
      · rintro ⟨hvalid, hc⟩
        exact ⟨(), hvalid, hc⟩
  | error e b' => simp [bind_ok]

/-- What is compiled is the document of the builder that the build leaves. -/
theorem compile_run {b : Builder} {build : Build Unit} {validated : Bool} {c : Compiled}
    (hc : b.compile build validated = .ok c) :
    ∃ b', build.run b = .ok () b' ∧ c.document.scales.thaw = b'.scales ∧
      c.document.marks.thaw = b'.marks := by
  obtain ⟨d, b₁, hrun, -, hc⟩ := compile_ok.mp hc
  obtain ⟨_, b', hbuild, hfinish⟩ := run_bind_ok.mp hrun
  obtain ⟨-, given, -, rfl, -⟩ := finish_run_ok.mp hfinish
  simp only [Compiled.ofDocument, bind_ok, pure_ok] at hc
  obtain ⟨_, -, _, -, rfl⟩ := hc
  exact ⟨b', hbuild, thaw_freeze b'.scales, thaw_freeze b'.marks⟩

/-- A document that the axes can be added to compiles, and to a valid one. -/
theorem compileAxes_valid (h : Compilable fs axes context) :
    ∃ c, compileAxes settings (.obj fs) axes (some context) (some true) = .ok c ∧
      validate c.document.toJson = .ok () := by
  obtain ⟨b, hstart, hb⟩ := ofDocument_wellFormed settings h
  obtain ⟨b', hrun, hb'⟩ := addEach_wellFormed hb
  obtain ⟨items, haxes, -⟩ := hb'.axes
  obtain ⟨marks, hmarks, -⟩ := hb'.marks
  have hvalid := finished_valid hb'
  have hbuild : (do addEach add 0 axes; finish).run b =
      .ok b'.finished { b' with closed := true } :=
    run_bind_ok.mpr ⟨(), b', hrun, finish_ok hb'.isOpen hb'.usermeta⟩
  have hcompiled : Compiled.ofDocument b'.finished b'.context =
      .ok ⟨b'.finished, b'.context, items.length, marks.length⟩ := by
    simp only [Compiled.ofDocument, finished, haxes, hmarks, length_freeze, Json.length, bind_ok,
      pure_ok, Except.ok.injEq, exists_eq_left']
  refine ⟨⟨b'.finished, b'.context, items.length, marks.length⟩, ?_, hvalid⟩
  rw [compileAxes, hstart]
  exact compile_ok.mpr ⟨_, _, hbuild, fun _ => hvalid, hcompiled⟩

def trellisBars : Fields :=
  [("scales", .arr [.obj [("name", .str "xScale"), ("type", .str "band"),
      ("range", .str "width")]]),
    ("marks", .arr [.obj [("name", .str "xTrellisGroup"), ("type", .str "group"),
      ("marks", .arr [.obj [("name", .str "bars"), ("type", .str "rect")]])]]),
    ("signals", .arr [.obj [("name", .str "hovered"), ("value", .null)]]),
    ("data", .arr [.obj [("name", .str "table")]]),
    ("width", .int 400)]

def barAxes : List AxisOptions :=
  [{ position := .bottom, notes := [{ name := some "release" }, {}],
     labels := [.plain (.text "first")], subLabels := [⟨.text "first", "below", none, none⟩],
     thumbnails := [{}] },
    { position := .left, dualMetricAxis := some true, baseline := true }]

theorem trellisBars_compilable : Compilable trellisBars barAxes ⟨.vertical, .light, .null⟩ where
  valid := rfl
  usermeta := .inl rfl
  scaleTypes scale hscale := by
    obtain rfl := List.mem_singleton.mp hscale
    exact .inr ⟨"band", rfl⟩
  defaultScales e := by cases e <;> decide +kernel
  markNames mark hmark := by
    obtain rfl := List.mem_singleton.mp hmark
    exact .inr ⟨"xTrellisGroup", rfl⟩
  group place g hplace hg := by
    have hfirst : IsGroupAt (listOf trellisBars "marks") 0 := rfl
    cases hfirst.symm.trans hplace
    cases hg
    exact ⟨⟨[], rfl, by simp⟩, ⟨[], rfl⟩, ⟨_, rfl⟩, ⟨[], [], rfl, rfl⟩⟩
  count := .inl rfl
  notes := by decide +kernel
  signals := by decide +kernel
  data := by decide +kernel

theorem trellisBars_compiled :
    Compilable trellisBars barAxes ⟨.vertical, .light, .null⟩ ∧
      ∃ c, compileAxes (.ofEnvironment {}) (.obj trellisBars) barAxes
          (some ⟨.vertical, .light, .null⟩) (some true) = .ok c ∧
        validate c.document.toJson = .ok () :=
  ⟨trellisBars_compilable, compileAxes_valid trellisBars_compilable⟩

end VegaAxes
