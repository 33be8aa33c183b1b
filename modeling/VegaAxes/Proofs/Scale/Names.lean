import VegaAxes.Proofs.Scale.Bindable
import VegaAxes.Proofs.Scale.Requests

/-!
# Names of scales

A scale that is added has the default name of its range, whether or not another scale has it
already. `distinct_names_iff`: names stay distinct, and a valid document valid, exactly where
every default name that is needed is free.
-/

namespace VegaAxes

namespace Document

variable {entries : List Json} {fs : Fields}

theorem checkNames_named (list : NamedList) (index : Nat) (seen : List String)
    (h : ∀ entry ∈ entries, ∃ name, entryName? entry = some name ∧ name ≠ "") :
    checkNames list index seen entries = .ok () ∨
      ∃ name, 1 < (seen ++ namesOf entries).count name ∧
        checkNames list index seen entries = .error (.malformed (.duplicateName list name)) := by
  induction entries generalizing index seen with
  | nil => exact .inl rfl
  | cons entry entries ih =>
    simp only [List.mem_cons, forall_eq_or_imp] at h
    obtain ⟨⟨name, hname, hne⟩, hrest⟩ := h
    have hnames : namesOf (entry :: entries) = name :: namesOf entries :=
      List.filterMap_cons_some hname
    obtain ⟨fs, rfl, hget⟩ := entryName?_eq_some.mp hname
    have hfield : (Json.obj fs).field "name" = .ok (.str name) := field_ok.mpr ⟨fs, rfl, hget⟩
    rw [hnames]
    by_cases hseen : name ∈ seen
    · refine .inr ⟨name, ?_, ?_⟩
      · have hpos := List.count_pos_iff.mpr hseen
        rw [List.count_append, List.count_cons_self]
        omega
      · simp [checkNames, hfield, ensure, hne, hseen, bind, Except.bind]
    · have hstep : checkNames list index seen (.obj fs :: entries) =
          checkNames list (index + 1) (name :: seen) entries := by
        simp [checkNames, hfield, ensure, hne, hseen, bind, Except.bind]
      rw [hstep]
      refine (ih (index + 1) (name :: seen) hrest).imp_right ?_
      rintro ⟨twice, hcount, herror⟩
      refine ⟨twice, ?_, herror⟩
      simp only [List.cons_append, List.count_cons, List.count_append] at hcount ⊢
      omega

theorem validate_scales (h : validate (.obj fs) = .ok ()) {scales : List Json}
    (hscales : ∀ scale ∈ scales, isObject scale = true) :
    validate (.obj (fs.set "scales" (.arr scales))) = checkNames .scale 0 [] scales := by
  obtain ⟨_, axes, marks, signals, data, -, haxes, hmarks, hsignals, hdata, hvalid⟩ :=
    validate_ok.mp h
  have hother {key : String} {entries : List Json} (hkey : key ≠ "scales")
      (hentries : fs.getD key = .arr entries) :
      checkList (fs.set "scales" (.arr scales)) key = .ok entries := by
    rw [checkList_ok, Fields.getD, Fields.get?_set_of_ne fs _ hkey]
    exact hentries
  have hown : checkList (fs.set "scales" (.arr scales)) "scales" = .ok scales :=
    checkList_ok.mpr (by rw [Fields.getD, Fields.get?_set_self, Option.getD_some])
  have hobjects : checkEntries (fun index => checkObject [("scales", index)]) 0 scales = .ok () :=
    (checkEntries_ok (P := (isObject · = true)) fun _ _ _ => checkObject_ok).mpr hscales
  have hsignals' : checkNames .signal 0 [] signals = .ok () :=
    checkNames_start_ok.mpr hvalid.signals
  have hdata' : checkNames .data 0 [] data = .ok () := checkNames_start_ok.mpr hvalid.data
  have haxes' : checkAxes [] (.arr axes) = .ok () := checkAxes_ok.mpr ⟨axes, rfl, hvalid.axes⟩
  have hmarks' : checkMarks [] 0 marks = .ok () := (checkMarks_ok _ _ _).mpr hvalid.marks
  simp only [validate, hown, hother (by simp) haxes, hother (by simp) hmarks,
    hother (by simp) hsignals, hother (by simp) hdata, hobjects, hsignals', hdata', haxes', hmarks',
    bind, Except.bind]
  cases checkNames .scale 0 [] scales <;> rfl

end Document

namespace Scale

open Document

variable {e : Extent} {items : List Json} {es : List Extent} {requests : List Request}

/-- Where a scale is to be added, no other one has its name. -/
def NamesFree (items : List Json) (requests : List Request) : Prop :=
  ∀ r ∈ requests, isOccupied r.extent items = false → r.extent.defaultScaleName ∉ namesOf items

theorem namesOf_defaults (es : List Extent) :
    namesOf (es.map Extent.defaultScale) = es.map Extent.defaultScaleName := by
  induction es with
  | nil => rfl
  | cons e es ih =>
    rw [List.map_cons, List.map_cons, ← ih]
    rfl

theorem Added.nodup_names (h : Added items requests es) : (es.map Extent.defaultScaleName).Nodup :=
  List.pairwise_map.mpr (h.1.imp fun hne heq => hne (defaultScaleName_inj heq))

theorem Added.distinct_iff (h : Added items requests es) (hitems : (namesOf items).Nodup) :
    (namesOf (items ++ es.map Extent.defaultScale)).Nodup ↔ NamesFree items requests := by
  rw [namesOf_append, namesOf_defaults, List.nodup_append]
  constructor
  · rintro ⟨-, -, hdisjoint⟩ r hr hvacant hmem
    have hadded : r.extent ∈ es := (h.2 _).mpr ⟨hvacant, r, hr, rfl⟩
    exact hdisjoint _ hmem _ (List.mem_map_of_mem hadded) rfl
  · intro hfree
    refine ⟨hitems, h.nodup_names, ?_⟩
    rintro name hname _ hdefault rfl
    obtain ⟨e, he, rfl⟩ := List.mem_map.mp hdefault
    obtain ⟨hvacant, r, hr, rfl⟩ := (h.2 e).mp he
    exact hfree r hr hvacant hname

/-- Requests keep the names of scales distinct exactly where the default names they need are
free. Where one is not, a valid document becomes one with a duplicate. -/
theorem distinct_names_iff (h : Named items) (requests : List Request) :
    ∃ (given : List Answer) (new : List Json),
      answers (.arr items) requests = .ok (given, .arr new) ∧
      ((namesOf new).Nodup ↔ NamesFree items requests) ∧
      ∀ fs : Fields, validate (.obj (fs.set "scales" (.arr items))) = .ok () →
        (NamesFree items requests → validate (.obj (fs.set "scales" (.arr new))) = .ok ()) ∧
        (¬ NamesFree items requests → ∃ e : Extent, e.defaultScaleName ∈ namesOf items ∧
          validate (.obj (fs.set "scales" (.arr new))) =
            .error (.malformed (.duplicateName .scale e.defaultScaleName))) := by
  have hreadable : ∀ scale ∈ items, isReadable scale = true := by
    intro scale hscale
    obtain ⟨name, hname, -⟩ := h.named scale hscale
    exact isReadable_of_name hname
  obtain ⟨es, hadded, hanswers⟩ := answers_eq hreadable requests
  have hdistinct := hadded.distinct_iff h.distinct
  have hnamed : ∀ entry ∈ items ++ es.map Extent.defaultScale,
      ∃ name, entryName? entry = some name ∧ name ≠ "" := by
    intro entry hentry
    rcases List.mem_append.mp hentry with hentry | hentry
    · exact h.named entry hentry
    · obtain ⟨e, -, rfl⟩ := List.mem_map.mp hentry
      exact ⟨e.defaultScaleName, rfl, by cases e <;> decide⟩
  refine ⟨_, _, hanswers, hdistinct, fun fs hvalid => ?_⟩
  have hobjects : ∀ scale ∈ items ++ es.map Extent.defaultScale, isObject scale = true := by
    intro scale hscale
    obtain ⟨name, hname, -⟩ := hnamed scale hscale
    exact isObject_of_name hname
  have hverdict := validate_scales hvalid hobjects
  rw [Fields.set_set] at hverdict
  rw [hverdict]
  refine ⟨fun hfree => checkNames_start_ok.mpr ⟨hnamed, hdistinct.mpr hfree⟩, fun htaken => ?_⟩
  rcases checkNames_named .scale 0 [] hnamed with hok | ⟨name, hcount, herror⟩
  · exact absurd (hdistinct.mp (checkNames_start_ok.mp hok).distinct) htaken
  · -- a name that occurs twice is one of the older names and one of the added ones
    rw [List.nil_append, namesOf_append, List.count_append, namesOf_defaults] at hcount
    have hold := List.nodup_iff_count.mp h.distinct name
    have hnew := List.nodup_iff_count.mp hadded.nodup_names name
    have hadd : 0 < (es.map Extent.defaultScaleName).count name := by omega
    obtain ⟨e, -, rfl⟩ := List.mem_map.mp (List.count_pos_iff.mp hadd)
    exact ⟨e, List.count_pos_iff.mp (by omega), herror⟩

def blank : Fields :=
  [("scales", .arr []), ("axes", .arr []), ("marks", .arr []), ("signals", .arr []),
    ("data", .arr [])]

def pixelScale : Json :=
  .obj [("name", .str "xLinear"), ("type", .str "linear"), ("range", .arr [.int 0, .int 100])]

theorem pixelScale_named : Named [pixelScale] := by
  have hchecked : checkNames .scale 0 [] [pixelScale] = .ok () := rfl
  exact checkNames_start_ok.mp hchecked

theorem pixelScale_twice :
    Named [pixelScale] ∧ validate (.obj (blank.set "scales" (.arr [pixelScale]))) = .ok () ∧
      ∃ given new, answers (.arr [pixelScale]) [.own .bottom] = .ok (given, .arr new) ∧
        ¬ (namesOf new).Nodup ∧
        validate (.obj (blank.set "scales" (.arr new))) =
          .error (.malformed (.duplicateName .scale "xLinear")) :=
  ⟨pixelScale_named, rfl, _, _, rfl, by decide, rfl⟩

theorem pixelScale_left :
    Named [pixelScale] ∧ ∃ given new,
      answers (.arr [pixelScale]) [.own .left, .typeAcross .top, .own .right] =
        .ok (given, .arr new) ∧
      (namesOf new).Nodup ∧ validate (.obj (blank.set "scales" (.arr new))) = .ok () := by
  have hfree : NamesFree [pixelScale] [.own .left, .typeAcross .top, .own .right] := by
    intro r hr _
    simp only [List.mem_cons, List.not_mem_nil, or_false] at hr
    rcases hr with rfl | rfl | rfl <;> decide
  obtain ⟨given, new, hanswers, hdistinct, hvalid⟩ :=
    distinct_names_iff pixelScale_named [.own .left, .typeAcross .top, .own .right]
  exact ⟨pixelScale_named, given, new, hanswers, hdistinct.mpr hfree, (hvalid blank rfl).1 hfree⟩

end Scale

end VegaAxes
