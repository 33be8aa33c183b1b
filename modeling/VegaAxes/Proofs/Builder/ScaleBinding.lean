import VegaAxes.Proofs.Builder.Addition
import VegaAxes.Proofs.Scale.Bindable

/-!
# The scales of an addition

`boundScale_arr`: an axis is bound to one of the scales that are there when both ranges are
occupied. Among the scales of a valid document there always is one (`boundScale_succeeds`),
and the scales stay valid (`Sound.completed`, `narrowedScales_sound`).
-/

namespace VegaAxes

namespace Scale

open Document

variable {items : List Json}

/-- The scales of a valid document that axes can be bound among. A default name is taken only
where its range is. -/
structure Sound (items : List Json) : Prop where
  named : Named items
  types : ∀ scale ∈ items, IsWord (Fields.getD scale.ownFields "type")
  defaults : ∀ e : Extent, e.defaultScaleName ∈ namesOf items → isOccupied e items = true

theorem Sound.bindable (h : Sound items) : ∀ scale ∈ items, Bindable scale :=
  fun scale hscale => ⟨h.named.named scale hscale, h.types scale hscale⟩

theorem Sound.append_missing (h : Sound items) (e : Extent) : Sound (items ++ missing e items) := by
  cases hocc : isOccupied e items with
  | true =>
    rw [missing, hocc, if_pos rfl, List.append_nil]
    exact h
  | false =>
    have hbindable := bindable_append_missing h.bindable e
    have hoccupied := isOccupied_missing e items
    rw [missing, hocc, if_neg (by simp)] at hbindable hoccupied ⊢
    have hfresh : e.defaultScaleName ∉ namesOf items := fun hmem => by
      simp [h.defaults e hmem] at hocc
    refine ⟨.append h.named.named (fun scale hscale => ?_) ?_, fun scale hscale => ?_,
      fun e' he' => ?_⟩
    · exact (hbindable scale (List.mem_append_right _ hscale)).1
    · refine List.nodup_append.mpr ⟨h.named.distinct, List.pairwise_singleton _ _, ?_⟩
      rintro name hname _ hown rfl
      obtain rfl := List.mem_singleton.mp hown
      exact hfresh hname
    · exact (hbindable scale hscale).2
    · rw [namesOf_append] at he'
      rcases List.mem_append.mp he' with he' | he'
      · rw [isOccupied_append, h.defaults e' he', Bool.true_or]
      · obtain rfl : e' = e := by
          exact defaultScaleName_inj (List.mem_singleton.mp he')
        exact hoccupied

theorem Sound.completed (h : Sound items) (p : Position) : Sound (completed p items) :=
  (h.append_missing _).append_missing _

theorem Sound.narrowed {new : List Json} {narrowed : Nat → Prop} (h : Sound items)
    (hchanged : ChangedAt narrowed (Fields.SameExcept ["domain", "zero"]) items new) :
    Sound new := by
  have hnames : new.map entryName? = items.map entryName? :=
    hchanged.map_eq fun h => by rw [entryName?, entryName?, h.getD (by simp)]
  have htypes := hchanged.map_eq (F := fun scale => Fields.getD scale.ownFields "type")
    fun h => h.getD (by simp) .null
  have hranges := hchanged.map_eq (F := fun scale => Fields.getD scale.ownFields "range")
    fun h => h.getD (by simp) .null
  refine ⟨h.named.congr hnames, fun scale hscale => ?_, fun e he => ?_⟩
  · obtain ⟨old, hold, heq⟩ := exists_of_map_eq htypes hscale
    exact heq ▸ h.types old hold
  · rw [isOccupied_congr hranges]
    exact h.defaults e (namesOf_congr hnames ▸ he)

end Scale

namespace Builder

open Scale

variable {o : AxisOptions} {items : List Json} {bound : BoundScale} {scales : Json}

theorem boundScale_arr {items : List Json} {bound : BoundScale} {scales : Json}
    (h : boundScale (.arr items) o = .ok (bound, scales)) :
    (∃ r, Scale.resolve (.arr items) o.position = .ok r ∧ r.place = bound.place ∧
      r.scale = .obj bound.fields) ∧
    bound.type = (bound.fields.getD "type").orElse (.str "linear") ∧
    scales = .arr (Scale.completed o.position items) ∧
    (Scale.completed o.position items)[bound.place]? = some (.obj bound.fields) := by
  simp only [boundScale, bind_ok, pure_ok, Prod.mk.injEq] at h
  obtain ⟨r, hr, fields, hfields, name, -, dataField, -, ⟨scales, type⟩, hopposing, rfl, rfl⟩ := h
  obtain ⟨hscales, hplace⟩ := Scale.resolve_ok hr
  rw [hscales] at hopposing
  have hscale : r.scale = .obj fields := fields_ok.mp hfields
  refine ⟨⟨r, hr, rfl, hscale⟩, rfl, Scale.resolveOpposingType_ok hopposing, ?_⟩
  rw [Scale.completed, List.getElem?_append_left (List.getElem?_eq_some_iff.mp hplace).1, hplace,
    hscale]

/-- An axis leaves the scales that it is bound among. If it has a range, and the scale it is bound
to is linear or a time scale, the domain of that one is narrowed. -/
theorem narrowedScales_ok (h : boundScale (.arr items) o = .ok (bound, scales)) :
    ∃ new, narrowedScales o.range bound scales = .arr new ∧
      ChangedAt (fun place => place = bound.place ∧ o.range.isSome ∧
          bound.type ∈ [.str "linear", .str "time"])
        (Fields.SameExcept ["domain", "zero"]) (completed o.position items) new := by
  obtain ⟨-, -, rfl, hfields⟩ := boundScale_arr h
  unfold narrowedScales
  cases o.range with
  | none => exact ⟨_, rfl, .refl _ _ _⟩
  | some ends =>
    dsimp only
    split
    · next hnarrow =>
      exact ⟨_, rfl, changedAt_narrowed ⟨rfl, rfl, by simpa using hnarrow⟩ hfields ends.1 ends.2⟩
    · exact ⟨_, rfl, .refl _ _ _⟩

theorem dataField?_succeeds (fs : Fields) : ∃ field, dataField? (.obj fs) = .ok field := by
  simp only [dataField?, Json.field, Json.fields, Except.map, bind_ok, Except.ok.injEq,
    exists_eq_left']
  split
  · split <;> exact ⟨_, rfl⟩
  · exact ⟨_, rfl⟩

theorem given_ne_empty {x : Option String} {s : String} (h : given x = some s) : s ≠ "" := by
  rintro rfl
  unfold given at h
  split at h
  · cases h
  · next hne => exact hne h

theorem boundName_succeeds {fs : Fields} {own : String} (hname : fs.get? "name" = some (.str own))
    (hown : own ≠ "") (o : AxisOptions) :
    ∃ name, boundName o fs = .ok (.str name) ∧ name ≠ "" := by
  unfold boundName
  cases hgiven : given o.name with
  | some name => exact ⟨name, rfl, given_ne_empty hgiven⟩
  | none => exact ⟨own, by rw [nameOf, hname], hown⟩

theorem boundScale_succeeds (h : ∀ scale ∈ items, Bindable scale) (o : AxisOptions) :
    ∃ bound name, boundScale (.arr items) o = .ok (bound, .arr (completed o.position items)) ∧
      bound.name = .str name ∧ name ≠ "" ∧ bound.type = .str (boundType items o.position) := by
  obtain ⟨r, hr, hbindable⟩ := resolve_succeeds h o.position
  obtain ⟨fs, own, hfs, hown, hne, -⟩ := hbindable.fields
  obtain ⟨name, hname, hne'⟩ := boundName_succeeds hown hne o
  obtain ⟨field, hfield⟩ := dataField?_succeeds fs
  obtain ⟨scales, type, hopposing⟩ :=
    resolveOpposingType_succeeds (bindable_append_missing h o.position.extent) o.position
  have hbound : boundScale (.arr items) o = .ok
      ({ place := r.place, fields := fs, name := .str name,
         type := (fs.getD "type").orElse (.str "linear"), dataField := field,
         opposingType := type },
        scales) := by
    simp only [boundScale, hr, hfs, hname, hfield, (resolve_ok hr).1, hopposing, Json.fields,
      bind_ok, pure_ok, Except.ok.injEq, exists_eq_left', Prod.mk.injEq, and_self]
  obtain ⟨-, -, rfl, -⟩ := boundScale_arr hbound
  refine ⟨_, name, hbound, rfl, hne', ?_⟩
  obtain ⟨s, hs, -⟩ := hbindable.typeOf_text
  rw [boundType_eq hr, hs]
  rw [typeOf, hfs] at hs
  exact hs

/-- The scales that an axis leaves are sound, and every axis still finds one of the same type. -/
theorem narrowedScales_sound (h : Sound items)
    (hbound : boundScale (.arr items) o = .ok (bound, scales)) :
    ∃ new, narrowedScales o.range bound scales = .arr new ∧ Sound new ∧
      boundType new = boundType items := by
  obtain ⟨new, hnew, hchanged⟩ := narrowedScales_ok hbound
  have hcompleted := h.completed o.position
  have hreadable : ∀ scale ∈ items, isReadable scale = true :=
    fun scale hscale => (h.bindable scale hscale).isReadable
  refine ⟨new, hnew, hcompleted.narrowed hchanged, ?_⟩
  exact (((SameTypes.refl hreadable).completed _).narrowed hchanged).boundType hreadable

end Builder

end VegaAxes
