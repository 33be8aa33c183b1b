import VegaAxes.Proofs.Builder.ScaleRanges

/-!
# Types across the plot area

Whether an axis draws a baseline depends on the type that it is told of the scale across from it.
That type is the one of the first scale of the range, as it stands there; a build never changes it
(`runs_sameTypes`). `opposing_types`: it is the type of the scale that an axis across is bound
to exactly where the first scale is `FirstTyped`.
-/

namespace VegaAxes.Builder

open Scale

variable {b b' : Builder} {o : AxisOptions} {index : Json} {calls : List Call} {items : List Json}

-- ---------------------------------------------------------------------------
-- One call
-- ---------------------------------------------------------------------------

/-- The axis is told the type of the first scale across, before any is added for it. -/
theorem Addition.opposingType_eq (a : Addition b o index) (hitems : b.scales = .arr items) :
    a.binding.opposingType = toldType o.position.opposingExtent items := by
  have hbound := a.bound_eq
  rw [hitems] at hbound
  simp only [boundScale, bind_ok, pure_ok, Prod.mk.injEq] at hbound
  obtain ⟨r, hr, _, -, _, -, _, -, ⟨scales, type⟩, hopposing, hbound, -⟩ := hbound
  rw [(resolve_ok hr).1] at hopposing
  rw [binding, ← hbound, ← toldType_missing _ o.position.extent items]
  exact resolveOpposingType_told hopposing

theorem Addition.types_eq (a : Addition b o index) (hitems : b.scales = .arr items)
    (h : ∀ scale ∈ items, isReadable scale = true) :
    a.bound.type = typeOf (chosenScale o.position.extent items) ∧
      a.binding.opposingType = toldType o.position.opposingExtent items := by
  refine ⟨?_, a.opposingType_eq hitems⟩
  have hbound := a.bound_eq
  rw [hitems] at hbound
  obtain ⟨⟨r, hr, -, hscale⟩, htype, -⟩ := boundScale_arr hbound
  obtain rfl := Except.ok.inj ((resolve_eq h o.position).symm.trans hr)
  have hchosen : chosenScale o.position.extent items = .obj a.bound.fields := hscale
  rw [htype, typeOf, hchosen]
  rfl

theorem add_sameTypes (hitems : b.scales = .arr items)
    (hreadable : ∀ scale ∈ items, isReadable scale = true)
    (h : (add o index).run b = .ok () b') :
    ∃ new, b'.scales = .arr new ∧ SameTypes items new := by
  obtain ⟨a, h⟩ := add_ok.mp h
  have hbound := a.bound_eq
  rw [hitems] at hbound
  obtain ⟨new, hnew, hchanged⟩ := narrowedScales_ok hbound
  refine ⟨new, ?_, ((SameTypes.refl hreadable).completed _).narrowed hchanged⟩
  rw [← addMarks_frame h]
  exact hnew

-- ---------------------------------------------------------------------------
-- Runs
-- ---------------------------------------------------------------------------

theorem runs_sameTypes (h : Runs b calls b') (hitems : b.scales = .arr items)
    (hreadable : ∀ scale ∈ items, isReadable scale = true) :
    ∃ new, b'.scales = .arr new ∧ SameTypes items new := by
  induction h generalizing items with
  | nil => exact ⟨items, hitems, .refl hreadable⟩
  | cons head _ ih =>
    obtain ⟨o, -, hadd⟩ := Call.run_ok.mp head
    obtain ⟨new, hnew, hstep⟩ := add_sameTypes hitems hreadable hadd
    obtain ⟨newer, hnewer, hrest⟩ := ih hnew hstep.readable
    exact ⟨newer, hnewer, hstep.trans hrest⟩

/-- The type that an axis is told is that of the preferred scale across from it exactly where the
first scale there is typed like it; the scales are left as an axis there leaves them. In a build it
is then the type of the scale that any axis there is bound to, whichever of the two comes first, and
the one has its baseline for the scale of the other. -/
theorem opposing_types (h : ∀ scale ∈ items, isReadable scale = true) {p q : Position}
    (hq : q.extent = p.opposingExtent) :
    (∃ type bound among, resolveOpposingType (.arr items) p = .ok (bound.scales, type) ∧
      resolve (.arr items) q = .ok bound ∧
      resolve (.arr (items.filter (hasRange q.extent))) q = .ok among ∧
      type = ((items.find? (hasRange q.extent)).map givenType).getD (.str "linear") ∧
      (type = typeOf among.scale ↔ FirstTyped q.extent items)) ∧
    ∀ (b b₁ b₂ : Builder) (calls₁ calls₂ : List Call) (o₁ o₂ : AxisOptions) (i₁ i₂ : Json)
      (a₁ : Addition b₁ o₁ i₁) (a₂ : Addition b₂ o₂ i₂), b.scales = .arr items →
      Unmixed q.extent items → Runs b calls₁ b₁ → Runs b calls₂ b₂ →
      o₁.position.extent = p.extent → o₂.position.extent = q.extent →
      (a₁.binding.opposingType = a₂.bound.type ↔ FirstTyped q.extent items) ∧
        (FirstTyped q.extent items →
          a₁.binding.opposesLinear = decide (a₂.bound.type = .str "linear")) := by
  constructor
  · have hamong : ∀ scale ∈ items.filter (hasRange q.extent), isReadable scale = true :=
      fun scale hscale => h scale (List.mem_filter.mp hscale).1
    refine ⟨_, _, _, ?_, resolve_eq h q, resolve_eq hamong q, rfl, ?_⟩
    · rw [resolveOpposingType_eq h, ← hq]
      rfl
    · rw [chosenScale_filter]
      exact toldType_eq_iff
  · intro b b₁ b₂ calls₁ calls₂ o₁ o₂ i₁ i₂ a₁ a₂ hitems hunmixed hruns₁ hruns₂ hp hq₂
    -- neither run has changed the types that axes are told of and bound to
    obtain ⟨new₁, hnew₁, hsame₁⟩ := runs_sameTypes hruns₁ hitems h
    obtain ⟨new₂, hnew₂, hsame₂⟩ := runs_sameTypes hruns₂ hitems h
    have hextent : o₁.position.opposingExtent = q.extent := by
      rw [hq, Position.opposingExtent, Position.opposingExtent, hp]
    have htold : a₁.binding.opposingType = toldType q.extent items := by
      rw [(a₁.types_eq hnew₁ hsame₁.readable).2, hsame₁.told, hextent]
    have hbound : a₂.bound.type = typeOf (preferredScale q.extent items) := by
      rw [(a₂.types_eq hnew₂ hsame₂.readable).1, hsame₂.bound, hq₂,
        chosenScale_eq_preferredScale hunmixed]
    have hiff : a₁.binding.opposingType = a₂.bound.type ↔ FirstTyped q.extent items := by
      rw [htold, hbound]
      exact toldType_eq_iff
    refine ⟨hiff, fun hfirst => ?_⟩
    rw [Axis.Binding.opposesLinear, hiff.mpr hfirst]

theorem facetBars_opposing :
    (∀ scale ∈ facetScales, isReadable scale = true) ∧
      Position.left.extent = Position.bottom.opposingExtent ∧
      (∃ type bound, resolveOpposingType (.arr facetScales) .bottom = .ok (bound.scales, type) ∧
        resolve (.arr facetScales) .left = .ok bound) ∧
      ∃ (b : Builder) (a₁ : Addition facetBars { position := .bottom } .null)
        (a₂ : Addition b { position := .left } .null),
        Runs facetBars [.read { position := .bottom } .null] b ∧
          a₁.binding.opposingType = a₂.bound.type := by
  have hreadable : ∀ scale ∈ facetScales, isReadable scale = true := by decide
  have hextent : Position.left.extent = Position.bottom.opposingExtent := rfl
  have hfirst : FirstTyped .height facetScales := by
    rintro _ ⟨⟩
    exact ⟨rfl, rfl⟩
  have hsome : (after facetBars [.read { position := .bottom } .null,
      .read { position := .left } .null]).isSome = true := by decide +kernel
  obtain ⟨b', hb'⟩ := Option.isSome_iff_exists.mp hsome
  obtain _ | ⟨hbottom, hlast⟩ := after_eq_some.mp hb'
  have hruns := runs_single.mpr hbottom
  obtain ⟨a₁, -⟩ := add_ok.mp hbottom
  obtain ⟨a₂, -⟩ := add_ok.mp (runs_single.mp hlast)
  obtain ⟨⟨type, bound, _, htype, hbound, -⟩, hbuild⟩ := opposing_types hreadable hextent
  obtain ⟨hiff, -⟩ :=
    hbuild facetBars _ _ [] _ _ _ _ _ a₁ a₂ rfl (by decide) (.nil _) hruns rfl rfl
  exact ⟨hreadable, hextent, ⟨type, bound, htype, hbound⟩, _, a₁, a₂, hruns, hiff.mpr hfirst⟩

def facetHeights : List Json :=
  [.obj [("name", .str "yLinear"), ("type", .str "linear"), ("range", .str "height")],
    .obj [("name", .str "yTrellisBand"), ("type", .str "band"), ("range", .str "height")]]

def untypedHeight : Json :=
  .obj [("name", .str "yPoint"), ("type", .null), ("range", .str "height")]

/-- At the bottom the first type there is told, unset or not; an axis at the left is bound to the
preferred scale, with a type that is never unset. -/
theorem facetHeights_told :
    (∀ scale ∈ untypedHeight :: facetHeights, isReadable scale = true) ∧
      facetHeights.filter (hasRange .height) = facetHeights ∧
      (∃ bound,
        resolveOpposingType (.arr facetHeights) .bottom = .ok (bound.scales, .str "linear") ∧
        resolve (.arr facetHeights) .left = .ok bound ∧ typeOf bound.scale = .str "band") ∧
      ∃ bound, resolveOpposingType (.arr [untypedHeight]) .bottom = .ok (bound.scales, .null) ∧
        resolve (.arr [untypedHeight]) .left = .ok bound ∧ typeOf bound.scale = .str "linear" :=
  ⟨by decide, by decide, ⟨_, rfl, rfl, rfl⟩, _, rfl, rfl, rfl⟩

end VegaAxes.Builder
