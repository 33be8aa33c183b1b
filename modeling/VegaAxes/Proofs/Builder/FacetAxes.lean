import VegaAxes.Proofs.Builder.MarkGrowth
import VegaAxes.Proofs.Builder.Runs
import VegaAxes.Proofs.Options.Resolving
import VegaAxes.Proofs.Text.Pieces

/-!
# The axes of the trellis group

`addEach_groupAxes`: the trellis group stays the same mark throughout a build, since no mark that
goes before it is named like one, and its axes only become more.
-/

namespace VegaAxes

open Trellis

variable {r : ResolvedAxis} {scaleName : ScaleName} {m : Json}

-- ---------------------------------------------------------------------------
-- Names of reference lines
-- ---------------------------------------------------------------------------

theorem unmentioning_of_name {fs : Fields} {name : String}
    (hname : fs.get? "name" = some (.str name))
    (h : Text.contains name "Trellis" = false) : Unmentioning (.obj fs) := by
  have hset : (Json.str name).orElse (.str "") = .str name := by
    unfold Json.orElse
    split
    · rfl
    · next hempty => simpa [Json.truthy] using hempty
  refine ⟨.str name, ?_, ?_⟩
  · rw [markName, Json.field, Json.fields, Except.map, Except.map, Fields.getD, hname]
    exact congrArg Except.ok hset
  · rw [Json.holds, h]

theorem unmentioning_of_letter {fs : Fields} {name : String} {c : Char}
    (hname : fs.get? "name" = some (.str name)) (hc : c ∈ "Trellis".toList) (h : c ∉ name.toList) :
    Unmentioning (.obj fs) :=
  unmentioning_of_name hname (Text.occursIn_of_not_mem hc h)

theorem not_mem_numbered {c : Char} (hc : Json.isForeign c = true) (n : Nat) :
    c ∉ (toString n).toList := by
  rw [Nat.toString_eq_repr, Nat.toList_repr]
  exact Json.not_mem_toDigits hc n

/-- No text without a `T` that comes after the name makes it the name of a trellis group. -/
def PlainName (name : String) : Prop :=
  ∀ suffix : String, 'T' ∉ suffix.toList → Text.contains (name ++ suffix) "Trellis" = false

theorem plainName_of_not_mem {name : String} (h : 'T' ∉ name.toList) : PlainName name :=
  fun _ hsuffix => Text.occursIn_of_not_mem (c := 'T') (by decide) (Text.not_mem_append h hsuffix)

/-- The one flag that is written with a `T` goes on with other letters. -/
theorem plainName_true : PlainName "axisTrue" := by
  intro suffix hsuffix
  have hrest : Text.occursIn "Trellis".toList suffix.toList = false :=
    Text.occursIn_of_not_mem (c := 'T') (by decide) hsuffix
  rw [Text.contains, String.toList_append]
  exact hrest

namespace ReferenceLine

theorem layerMarks_named {layer : Layer} (h : m ∈ layerMarks r scaleName layer) :
    ∃ (fs : Fields) (suffix : String), m = .obj fs ∧
      fs.get? "name" = some (.str (r.name ++ suffix)) ∧ fs.get? "marks" = none ∧
      'T' ∉ suffix.toList := by
  obtain ⟨l, hl, h⟩ := List.mem_flatMap.mp h
  obtain ⟨suffix, hl, hsuffix⟩ : ∃ suffix, l.name = r.name ++ suffix ∧ 'T' ∉ suffix.toList := by
    obtain ⟨i, hi, rfl⟩ := List.mem_mapIdx.mp (List.mem_filter.mp hl).1
    refine ⟨"ReferenceLine" ++ toString i, String.append_assoc .., ?_⟩
    exact Text.not_mem_append (by decide) (not_mem_numbered (by decide) i)
  have hpart (part : String) : r.name ++ (suffix ++ part) = l.name ++ part := by
    rw [hl, String.append_assoc]
  rcases List.mem_cons.mp h with rfl | h
  · exact ⟨_, suffix, rfl, hl ▸ rfl, rfl, hsuffix⟩
  rcases List.mem_append.mp h with h | h
  · obtain ⟨icon, -, rfl⟩ := List.mem_map.mp h
    refine ⟨_, suffix ++ "_symbol", rfl, ?_, rfl, Text.not_mem_append hsuffix (by decide)⟩
    rw [hpart]
    rfl
  · obtain ⟨label, -, rfl⟩ := List.mem_map.mp h
    refine ⟨_, suffix ++ "_label", rfl, ?_, rfl, Text.not_mem_append hsuffix (by decide)⟩
    rw [hpart]
    rfl

theorem layerMarks_unmentioning {layer : Layer} (hname : PlainName r.name)
    (h : m ∈ layerMarks r scaleName layer) : Unmentioning m := by
  obtain ⟨fs, suffix, rfl, hnamed, -, hsuffix⟩ := layerMarks_named h
  exact unmentioning_of_name hnamed (hname suffix hsuffix)

end ReferenceLine

namespace Builder

variable {b b' : Builder} {o : AxisOptions} {index : Json} {n : Nat} {items : List Json}
  {ms : List Json}

theorem Addition.name_spliced (a : Addition b o index) :
    a.axis.name = "axis" ++ (b.indexFor index).spliced := by
  obtain ⟨_, _, -, -, h⟩ := AxisOptions.resolveFor_ok.mp a.axis_eq
  rw [← h]
  rfl

theorem Addition.name_eq (a : Addition b o (.int n)) : a.axis.name = "axis" ++ toString n :=
  a.name_spliced

theorem Addition.name_plain (a : Addition b o index) : PlainName a.axis.name := by
  have hnext := a.next_eq
  rw [a.name_spliced]
  cases hindex : b.indexFor index with
  | bool flag =>
    cases flag with
    | true => exact plainName_true
    | false => exact plainName_of_not_mem (by decide +kernel)
  | int n =>
    exact plainName_of_not_mem (Text.not_mem_append (by decide) (Json.not_mem_int (by decide) n))
  | float x =>
    refine plainName_of_not_mem (Text.not_mem_append (by decide) ?_)
    rw [Json.spliced, Json.shown, Decimal.Style.text, String.toList_ofList]
    · exact Json.not_mem_float (by decide) (by decide) (by decide) x
    · simp
  | _ =>
    rw [hindex] at hnext
    cases hnext

-- ---------------------------------------------------------------------------
-- The trellis group
-- ---------------------------------------------------------------------------

/-- The axes of the trellis group, where it is there and has a list of them. -/
def GroupAxes (b : Builder) (items : List Json) : Prop :=
  ∃ ms place g, b.marks = .arr ms ∧ IsGroupAt ms place ∧ ms[place]? = some (.obj g) ∧
    Fields.get? g "axes" = some (.arr items)

theorem GroupAxes.unique {items' : List Json} (h : GroupAxes b items) (h' : GroupAxes b items') :
    items' = items := by
  obtain ⟨ms, place, g, hm, hgroup, hg, haxes⟩ := h
  obtain ⟨_, _, _, hm', hgroup', hg', haxes'⟩ := h'
  cases hm.symm.trans hm'
  cases hgroup.symm.trans hgroup'
  cases hg.symm.trans hg'
  cases haxes.symm.trans haxes'
  rfl

theorem lined_block (scaleName : ScaleName) (hname : PlainName r.name) (ms : List Json) :
    ∃ before after, lined r scaleName ms = before ++ ms ++ after ∧
      findGroup? 0 (lined r scaleName ms) =
        (findGroup? 0 ms).map (Option.map (before.length + ·)) := by
  unfold lined
  split
  · exact ⟨_, _, rfl, findGroup?_block
      (fun _ hm => ReferenceLine.layerMarks_unmentioning hname hm)
      (fun _ hm => ReferenceLine.layerMarks_unmentioning hname hm) ms⟩
  · exact ⟨[], [], by simp, by simp⟩

theorem lined_groupless (scaleName : ScaleName) (hname : PlainName r.name)
    (h : findGroup? 0 ms = .ok none) :
    findGroup? 0 (lined r scaleName ms) = .ok none := by
  obtain ⟨before, after, -, hgroup⟩ := lined_block scaleName hname ms
  rw [hgroup, h]
  rfl

/-- The group that an axis was repeated in is still the group of the marks. -/
theorem group_result {binding : Axis.Binding} {context : Context} {g : Fields} {place : Nat}
    (f : FacetAddition r binding context g) (hgroup : IsGroupAt ms place)
    (hg : ms[place]? = some (.obj g)) (ns : List Json) :
    IsGroupAt (ms.set place (.obj f.result) ++ ns) place ∧
      (ms.set place (.obj f.result) ++ ns)[place]? = some (.obj f.result) := by
  have hlt := (List.getElem?_eq_some_iff.mp hg).1
  have hset : ChangedAt (IsGroupAt ms) (fun g g' => Fields.get? g' "name" = Fields.get? g "name") ms
      (ms.set place (.obj f.result)) := .set hgroup hg f.result_name
  refine ⟨findGroup?_append_left ?_ _, ?_⟩
  · rw [← IsGroupAt, isGroupAt_of_names hset id]
    exact hgroup
  · rw [List.getElem?_append_left (by simpa using hlt), List.getElem?_set_self hlt]

theorem groupAxes_result {binding : Axis.Binding} {context : Context} {g : Fields} {place : Nat}
    (f : FacetAddition r binding context g) {ns : List Json} (hgroup : IsGroupAt ms place)
    (hg : ms[place]? = some (.obj g))
    (hm : b'.marks = .arr (ms.set place (.obj f.result) ++ ns))
    (haxes : f.result.get? "axes" = some (.arr items)) : GroupAxes b' items :=
  have ⟨hgroup', hresult⟩ := group_result f hgroup hg ns
  ⟨_, place, f.result, hm, hgroup', hresult, haxes⟩

/-- The group is found again behind the reference lines of the axis, which is repeated in it. -/
theorem add_group {g : Fields} {place : Nat} (hm : b.marks = .arr ms) (hgroup : IsGroupAt ms place)
    (hg : ms[place]? = some (.obj g)) (hrun : (add o index).run b = .ok () b') :
    ∃ (a : Addition b o index) (f : FacetAddition a.axis a.binding a.context g) (ms' : List Json)
      (place' : Nat), { a.unmarked with marks := .arr ms' } = b' ∧ IsGroupAt ms' place' ∧
        ms'[place']? = some (.obj f.result) := by
  obtain ⟨a, hmarks⟩ := add_ok.mp hrun
  obtain ⟨before, after, hlined, hplace⟩ := lined_block a.binding.scaleName a.name_plain ms
  rw [hgroup] at hplace
  have hg' : (lined a.axis a.binding.scaleName ms)[before.length + place]? = some (.obj g) := by
    have hlt := (List.getElem?_eq_some_iff.mp hg).1
    rw [hlined, List.append_assoc, List.getElem?_append_right (by omega), Nat.add_sub_cancel_left,
      List.getElem?_append_left hlt]
    exact hg
  rcases (addMarks_ok (b := a.unmarked) hm).mp hmarks with
    ⟨hnone, -⟩ | ⟨place', g', f, hplace', hg'', rfl⟩
  · cases hplace.symm.trans hnone
  · cases hplace.symm.trans hplace'
    cases hg'.symm.trans hg''
    obtain ⟨hgroup', hresult⟩ := group_result f hplace hg' _
    exact ⟨a, f, _, _, rfl, hgroup', hresult⟩

/-- A call that finds no group leaves the marks among its own. -/
theorem add_groupless (hm : b.marks = .arr ms) (hgroup : findGroup? 0 ms = .ok none)
    (hrun : (add o index).run b = .ok () b') :
    ∃ a : Addition b o index, { a.unmarked with
      marks := .arr (based a.axis a.binding (lined a.axis a.binding.scaleName ms) ++
        decorations a.axis a.binding.scaleName a.bound.dataField) } = b' := by
  obtain ⟨a, hmarks⟩ := add_ok.mp hrun
  have hlined := lined_groupless a.binding.scaleName a.name_plain hgroup
  rcases (addMarks_ok (b := a.unmarked) hm).mp hmarks with ⟨-, heq⟩ | ⟨_, _, _, hsome, -⟩
  · exact ⟨a, heq⟩
  · cases hlined.symm.trans hsome

theorem add_searches (hm : b.marks = .arr ms) (hrun : (add o index).run b = .ok () b') :
    ∃ found, findGroup? 0 ms = .ok found := by
  obtain ⟨a, hmarks⟩ := add_ok.mp hrun
  obtain ⟨before, after, -, hgroup⟩ := lined_block a.binding.scaleName a.name_plain ms
  rcases (addMarks_ok (b := a.unmarked) hm).mp hmarks with ⟨hfound, -⟩ | ⟨_, _, _, hfound, -⟩
  all_goals
    rw [hgroup] at hfound
    obtain ⟨found, hfound, -⟩ := map_ok.mp hfound
    exact ⟨found, hfound⟩

theorem add_groupAxes (h : GroupAxes b items) (hrun : (add o index).run b = .ok () b') :
    ∃ more, GroupAxes b' (items ++ more) := by
  obtain ⟨ms, place, g, hm, hgroup, hg, haxes⟩ := h
  obtain ⟨a, f, ms', place', rfl, hgroup', hg'⟩ := add_group hm hgroup hg hrun
  obtain ⟨old, new, hold, hresult, -⟩ := f.result_ok
  rw [haxes] at hold
  cases hold
  exact ⟨new, ms', place', f.result, rfl, hgroup', hg', hresult⟩

theorem addEach_groupAxes {axes : List AxisOptions} (h : GroupAxes b items)
    (hrun : (addEach add n axes).run b = .ok () b') : ∃ more, GroupAxes b' (items ++ more) := by
  induction axes generalizing b items n with
  | nil =>
    obtain ⟨-, rfl⟩ := run_pure_ok.mp hrun
    exact ⟨[], by rwa [List.append_nil]⟩
  | cons o axes ih =>
    obtain ⟨_, b₁, hadd, hrun⟩ := run_bind_ok.mp hrun
    obtain ⟨more, h₁⟩ := add_groupAxes h hadd
    obtain ⟨rest, h'⟩ := ih h₁ hrun
    exact ⟨more ++ rest, by rwa [← List.append_assoc]⟩

end Builder

end VegaAxes
