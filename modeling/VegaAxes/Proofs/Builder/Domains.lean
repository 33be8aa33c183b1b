import Mathlib.Data.List.Induction
import VegaAxes.Proofs.Builder.Layers
import VegaAxes.Proofs.Builder.ScaleRanges

/-!
# Domains that axes set

An axis on a linear or a time scale sets the scale's domain to its own range. `rangesAt` lists the
ranges that the calls of a run set for one scale. `runs_domains`: the domain is the last of them,
and zero is given up if any of them does not start there, even where the last one does
(`earlier_range_shows`).
-/

namespace VegaAxes

namespace Scale

variable {scale : Json} {ranges more : List (Float × Float)}

-- ---------------------------------------------------------------------------
-- Domains set one after the other
-- ---------------------------------------------------------------------------

def setDomains (ranges : List (Float × Float)) (scale : Json) : Json :=
  ranges.foldl (fun scale range => .obj (setDomain range.1 range.2 scale.ownFields)) scale

theorem setDomains_append :
    setDomains (ranges ++ more) scale = setDomains more (setDomains ranges scale) :=
  List.foldl_append

theorem setDomain_domain (low high : Float) (fs : Fields) :
    (setDomain low high fs).get? "domain" = some (.arr [.float low, .float high]) := by
  unfold setDomain
  split
  · rw [Fields.get?_set_of_ne _ _ (by decide), Fields.get?_set_self]
  · rw [Fields.get?_set_self]

theorem setDomain_zero (low high : Float) (fs : Fields) :
    (setDomain low high fs).get? "zero" =
      if (low != 0) = true then some (.bool false) else fs.get? "zero" := by
  unfold setDomain
  split
  · rw [Fields.get?_set_self]
  · rw [Fields.get?_set_of_ne _ _ (by decide)]

/-- The scale has the last of the ranges as its domain. It gives zero up if one of the ranges does
not start there, and is otherwise as it was. -/
structure SetBy (ranges : List (Float × Float)) (original scale : Json) : Prop where
  untouched : ranges = [] → scale = original
  domain : ∀ low high, ranges.getLast? = some (low, high) →
    Fields.get? scale.ownFields "domain" = some (.arr [.float low, .float high])
  zero : Fields.get? scale.ownFields "zero" =
    if ranges.any (·.1 != 0) then some (.bool false) else Fields.get? original.ownFields "zero"
  others : Fields.SameExcept ["domain", "zero"] original.ownFields scale.ownFields

theorem SetBy.refl (scale : Json) : SetBy [] scale scale where
  untouched _ := rfl
  domain low high h := by simp at h
  zero := by simp
  others := .refl _ _

theorem SetBy.snoc {original : Json} (h : SetBy ranges original scale) (low high : Float) :
    SetBy (ranges ++ [(low, high)]) original (.obj (setDomain low high scale.ownFields)) where
  untouched h := by simp at h
  domain low' high' hlast := by
    obtain ⟨rfl, rfl⟩ : low = low' ∧ high = high' := by simpa using hlast
    exact setDomain_domain _ _ _
  zero := by
    rw [Json.ownFields, setDomain_zero, h.zero]
    rw [List.any_append, List.any_cons, List.any_nil, Bool.or_false]
    cases low != 0 <;> cases ranges.any (·.1 != 0) <;> rfl
  others := h.others.trans (sameExcept_setDomain _ _ _)

theorem setBy_setDomains (ranges : List (Float × Float)) (scale : Json) :
    SetBy ranges scale (setDomains ranges scale) := by
  induction ranges using List.reverseRecOn with
  | nil => exact .refl scale
  | append_singleton ranges range ih =>
    rw [setDomains_append]
    exact ih.snoc _ _

theorem completed_eq (p : Position) (items : List Json) :
    ∃ added, completed p items = items ++ added ∧
      ∀ scale ∈ added, ∃ e : Extent, scale = e.defaultScale := by
  have hmissing (e : Extent) (items : List Json) :
      ∀ scale ∈ missing e items, ∃ e : Extent, scale = e.defaultScale := by
    unfold missing
    split
    · simp
    · exact fun scale hscale => ⟨e, List.mem_singleton.mp hscale⟩
  refine ⟨_, List.append_assoc .., fun scale hscale => ?_⟩
  rcases List.mem_append.mp hscale with hscale | hscale
  · exact hmissing _ _ scale hscale
  · exact hmissing _ _ scale hscale

end Scale

namespace Builder

open Scale

variable {b b' : Builder} {o : AxisOptions} {index : Json} {items : List Json} {calls : List Call}

-- ---------------------------------------------------------------------------
-- One call
-- ---------------------------------------------------------------------------

def rangeAt? (b : Builder) (o : AxisOptions) (place : Nat) : Option (Float × Float) :=
  match Scale.resolve b.scales o.position with
  | .ok bound =>
    if bound.place = place ∧ (Fields.getD bound.scale.ownFields "type").orElse (.str "linear") ∈
        [.str "linear", .str "time"] then o.range
    else none
  | .error _ => none

def takenRange (o : AxisOptions) (bound : BoundScale) : Option (Float × Float) :=
  if bound.type = .str "linear" ∨ bound.type = .str "time" then o.range else none

theorem narrowedScales_eq (bound : BoundScale) (items : List Json) :
    narrowedScales o.range bound (.arr items) = .arr (match takenRange o bound with
      | some (low, high) => items.set bound.place (.obj (setDomain low high bound.fields))
      | none => items) := by
  unfold narrowedScales takenRange
  cases o.range with
  | none => rw [ite_self]
  | some ends =>
    by_cases htype : bound.type = .str "linear" ∨ bound.type = .str "time" <;> simp [htype]

theorem rangeAt?_eq (hitems : b.scales = .arr items) {bound : BoundScale} {scales : Json}
    (h : boundScale (.arr items) o = .ok (bound, scales)) (place : Nat) :
    b.rangeAt? o place = if bound.place = place then takenRange o bound else none := by
  obtain ⟨⟨r, hr, hplace, hscale⟩, htype, -, -⟩ := boundScale_arr h
  rw [rangeAt?, hitems, hr, takenRange, htype]
  simp only [hplace, hscale, Json.ownFields, ite_and, List.mem_cons, List.not_mem_nil, or_false]

theorem add_domains (hitems : b.scales = .arr items) (h : (add o index).run b = .ok () b') :
    ∃ new, b'.scales = .arr new ∧ new.length = (completed o.position items).length ∧
      ∀ place, new[place]? =
        (completed o.position items)[place]?.map (setDomains (b.rangeAt? o place).toList) := by
  obtain ⟨a, h⟩ := add_ok.mp h
  have hbound := a.bound_eq
  rw [hitems] at hbound
  have hrange := rangeAt?_eq hitems hbound
  obtain ⟨-, -, hscales, hfields⟩ := boundScale_arr hbound
  have hleft : b'.scales = narrowedScales o.range a.bound a.scales := by
    rw [← addMarks_frame h]
    rfl
  rw [hleft, hscales, narrowedScales_eq]
  refine ⟨_, rfl, ?_, fun place => ?_⟩
  · cases takenRange o a.bound with
    | none => rfl
    | some ends => exact List.length_set
  rw [hrange]
  cases takenRange o a.bound with
  | none =>
    rw [ite_self]
    exact (congrFun Option.map_id _).symm
  | some ends =>
    by_cases hplace : a.bound.place = place
    · subst hplace
      rw [if_pos rfl, List.getElem?_set_self (List.getElem?_eq_some_iff.mp hfields).1, hfields]
      rfl
    · rw [if_neg hplace, List.getElem?_set_ne hplace]
      exact (congrFun Option.map_id _).symm

theorem rangeAt?_none (hitems : b.scales = .arr items) (h : (add o index).run b = .ok () b')
    {place : Nat} (hplace : (completed o.position items).length ≤ place) :
    b.rangeAt? o place = none := by
  obtain ⟨a, -⟩ := add_ok.mp h
  have hbound := a.bound_eq
  rw [hitems] at hbound
  obtain ⟨-, -, -, hfields⟩ := boundScale_arr hbound
  have := (List.getElem?_eq_some_iff.mp hfields).1
  rw [rangeAt?_eq hitems hbound, if_neg (by omega)]

-- ---------------------------------------------------------------------------
-- Runs
-- ---------------------------------------------------------------------------

def rangesAt (place : Nat) : Builder → List Call → List (Float × Float)
  | _, [] => []
  | b, c :: cs => match c.options, c.run.run b with
    | .ok o, .ok _ b' => (b.rangeAt? o place).toList ++ rangesAt place b' cs
    | _, _ => []

theorem rangesAt_cons {c : Call} (ho : c.options = .ok o) (h : c.run.run b = .ok () b')
    (place : Nat) :
    rangesAt place b (c :: calls) = (b.rangeAt? o place).toList ++ rangesAt place b' calls := by
  rw [rangesAt, ho, h]

/-- Every scale that was there, or is added, has its domain set by the calls that are bound
to it. -/
theorem runs_domains (h : Runs b calls b') :
    ∃ added, (∀ scale ∈ added, ∃ e : Extent, scale = e.defaultScale) ∧
      ∀ place, (itemsOf b'.scales)[place]? =
        (itemsOf b.scales ++ added)[place]?.map (setDomains (rangesAt place b calls)) := by
  induction h with
  | nil b =>
    refine ⟨[], by simp, fun place => ?_⟩
    rw [List.append_nil]
    exact (congrFun Option.map_id _).symm
  | @cons b b₁ b' c calls head tail ih =>
    obtain ⟨more, hmore, ih⟩ := ih
    obtain ⟨o, ho, hadd⟩ := Call.run_ok.mp head
    obtain ⟨a, -⟩ := add_ok.mp hadd
    obtain ⟨items, hitems⟩ := a.scales_list
    obtain ⟨new, hnew, hlength, hstep⟩ := add_domains hitems hadd
    obtain ⟨added, hcompleted, hadded⟩ := completed_eq o.position items
    refine ⟨added ++ more, fun scale hscale => ?_, fun place => ?_⟩
    · exact (List.mem_append.mp hscale).elim (hadded scale) (hmore scale)
    · rw [ih, hnew, hitems, rangesAt_cons ho head, itemsOf, itemsOf, ← List.append_assoc,
        ← hcompleted]
      by_cases hplace : place < new.length
      · rw [List.getElem?_append_left hplace, List.getElem?_append_left (hlength ▸ hplace), hstep,
          Option.map_map]
        exact congrArg (Option.map · _) (funext fun scale => setDomains_append.symm)
      · have hge := Nat.not_lt.mp hplace
        rw [List.getElem?_append_right hge, List.getElem?_append_right (hlength ▸ hge), hlength,
          rangeAt?_none hitems hadd (hlength ▸ hge)]
        rfl

/-- Every scale is the one of the document at its place, or a default one behind these, with its
domain set by the calls that are bound to it. -/
def DomainsSet (b : Builder) (calls : List Call) (scales : Json) : Prop :=
  ∃ added, (∀ scale ∈ added, ∃ e : Extent, scale = e.defaultScale) ∧
    (itemsOf scales).length = (itemsOf b.scales ++ added).length ∧
    ∀ place original, (itemsOf b.scales ++ added)[place]? = some original →
      ∃ scale, (itemsOf scales)[place]? = some scale ∧
        SetBy (rangesAt place b calls) original scale

theorem Runs.domainsSet (h : Runs b calls b') : DomainsSet b calls b'.scales := by
  obtain ⟨added, hadded, hplaces⟩ := runs_domains h
  refine ⟨added, hadded, ?_, fun place original horiginal => ?_⟩
  · refine Nat.le_antisymm ?_ ?_
    · rw [← List.getElem?_eq_none_iff, hplaces, List.getElem?_eq_none (Nat.le_refl _)]
      rfl
    · have hnone := hplaces (itemsOf b'.scales).length
      rw [List.getElem?_eq_none (Nat.le_refl _)] at hnone
      exact List.getElem?_eq_none_iff.mp (Option.map_eq_none_iff.mp hnone.symm)
  · exact ⟨_, by rw [hplaces, horiginal]; rfl, setBy_setDomains _ _⟩

end Builder

open Builder Scale

variable {settings : Settings} {document : Json} {context : Option Context}
  {validated : Option Bool}
  {c : Compiled}

/-- The domain of a compiled scale is the last range of the axes that are bound to it, and zero is
given up if any of these ranges does not start there. A scale that no axis has a range for stays
as it is. -/
theorem compile_domains :
    (∀ axes, compileAxes settings document axes context validated = .ok c →
      ∃ b, ofDocument settings document context = .ok b ∧
        DomainsSet b (callsFrom .read 0 axes) c.document.scales.thaw) ∧
    ∀ axes, compileDescribed settings document axes context validated = .ok c →
      ∃ b items, ofDocument settings document context = .ok b ∧ axes.elements = .ok items ∧
        DomainsSet b (callsFrom .described 0 items) c.document.scales.thaw := by
  refine ⟨fun axes hc => ?_, fun axes hc => ?_⟩
  · obtain ⟨b, hb, hc⟩ := bind_ok.mp hc
    obtain ⟨b', hrun, hscales, -⟩ := compile_run hc
    have hruns : Runs b (callsFrom .read 0 axes) b' := addEach_runs.mp hrun
    exact ⟨b, hb, hscales ▸ hruns.domainsSet⟩
  · obtain ⟨b, hb, hc⟩ := bind_ok.mp hc
    obtain ⟨b', hrun, hscales, -⟩ := compile_run hc
    simp only [run_bind_ok, run_lift_ok] at hrun
    obtain ⟨items, _, ⟨hitems, rfl⟩, hrun⟩ := hrun
    have hruns : Runs b (callsFrom .described 0 items) b' := addEach_runs.mp hrun
    exact ⟨b, items, hb, hitems, hscales ▸ hruns.domainsSet⟩

def steppedAxes : List AxisOptions :=
  [{ position := .bottom, range := some (5, 10) }, { position := .top, range := some (0, 10) }]

def steppedBars : Except Error (Builder × Compiled) := do
  let b ← ofDocument (.ofEnvironment {}) linearBars (some ⟨.vertical, .light, .null⟩)
  let c ← compileAxes (.ofEnvironment {}) linearBars steppedAxes
      (some ⟨.vertical, .light, .null⟩) none
  return (b, c)

theorem steppedBars_compiles :
    ∃ b c, ofDocument (.ofEnvironment {}) linearBars (some ⟨.vertical, .light, .null⟩) = .ok b ∧
      compileAxes (.ofEnvironment {}) linearBars steppedAxes
        (some ⟨.vertical, .light, .null⟩) none =
        .ok c ∧
      (itemsOf b.scales)[0]? = some (.obj [("name", .str "xLinear"), ("type", .str "linear"),
        ("range", .str "width")]) ∧
      rangesAt 0 b (callsFrom .read 0 steppedAxes) = [(5, 10), (0, 10)] ∧
      (itemsOf c.document.scales.thaw)[0]? =
        some (.obj [("name", .str "xLinear"), ("type", .str "linear"), ("range", .str "width"),
          ("domain", .arr [.float 0, .float 10]), ("zero", .bool false)]) := by
  have hscales : steppedBars.toOption.map (fun (b, c) => ((itemsOf b.scales)[0]?,
      rangesAt 0 b (callsFrom .read 0 steppedAxes), (itemsOf c.document.scales.thaw)[0]?)) =
      some (some (.obj [("name", .str "xLinear"), ("type", .str "linear"),
        ("range", .str "width")]), [(5, 10), (0, 10)],
          some (.obj [("name", .str "xLinear"), ("type", .str "linear"), ("range", .str "width"),
            ("domain", .arr [.float 0, .float 10]), ("zero", .bool false)])) := by
    decide +kernel
  obtain ⟨⟨b, c⟩, hbars, heq⟩ := Option.map_eq_some_iff.mp hscales
  obtain ⟨b, hb, c, hc, ⟨⟩⟩ := by
    simpa only [steppedBars, bind_ok, pure_ok] using toOption_eq_some.mp hbars
  simp only [Prod.mk.injEq] at heq
  exact ⟨b, c, hb, hc, heq.1, heq.2.1, heq.2.2⟩

theorem steppedBars_domains :
    ∃ b c, ofDocument (.ofEnvironment {}) linearBars (some ⟨.vertical, .light, .null⟩) = .ok b ∧
      compileAxes (.ofEnvironment {}) linearBars steppedAxes
        (some ⟨.vertical, .light, .null⟩) none =
        .ok c ∧
      rangesAt 0 b (callsFrom .read 0 steppedAxes) = [(5, 10), (0, 10)] ∧
      DomainsSet b (callsFrom .read 0 steppedAxes) c.document.scales.thaw := by
  obtain ⟨b, c, hb, hc, -, hranges, -⟩ := steppedBars_compiles
  obtain ⟨b', hb', hset⟩ := compile_domains.1 steppedAxes hc
  obtain rfl : b = b' := Except.ok.inj (hb.symm.trans hb')
  exact ⟨b, c, hb, hc, hranges, hset⟩

/-- The last range alone does not tell what becomes of a scale: an earlier one may have given
zero up. -/
theorem earlier_range_shows :
    ¬∀ (axes : List AxisOptions) (b : Builder) (c : Compiled) (place : Nat) (original scale : Json),
      ofDocument (.ofEnvironment {}) linearBars (some ⟨.vertical, .light, .null⟩) = .ok b →
      compileAxes (.ofEnvironment {}) linearBars axes
        (some ⟨.vertical, .light, .null⟩) none = .ok c →
      (itemsOf b.scales)[place]? = some original →
        (itemsOf c.document.scales.thaw)[place]? = some scale →
      SetBy (rangesAt place b (callsFrom .read 0 axes)).getLast?.toList original scale := by
  intro h
  obtain ⟨b, c, hb, hc, horiginal, hranges, hscale⟩ := steppedBars_compiles
  have hzero := (h _ b c 0 _ _ hb hc horiginal hscale).zero
  rw [hranges] at hzero
  exact absurd hzero (by decide +kernel)

end VegaAxes
