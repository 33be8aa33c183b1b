import VegaAxes.Proofs.Scale.Binding

/-!
# Which scale is chosen

Where the names of all scales can be read, the searches among them never fail. `find?_eq` and
`firstType?_eq` say where they end, `resolve_eq` and `resolveOpposingType_eq` what is answered.
-/

namespace VegaAxes.Scale

variable {e other : Extent} {p : Position} {items : List Json} {scale : Json} {es : List Extent}

/-- An object whose name is a text, if it has one. -/
def isReadable : Json → Bool
  | .obj fs => match Fields.get? fs "name" with
    | none | some (.str _) => true
    | _ => false
  | _ => false

def hasRange (e : Extent) (scale : Json) : Bool :=
  decide (Fields.getD scale.ownFields "range" = .str e.word)

def namesTrellis (scale : Json) : Bool :=
  match Fields.get? scale.ownFields "name" with
  | some (.str name) => Text.contains name "Trellis"
  | _ => false

/-- The type as it stands; a scale without one is linear. -/
def givenType (scale : Json) : Json :=
  (Fields.get? scale.ownFields "type").getD (.str "linear")

theorem isReadable_iff :
    isReadable scale = true ↔
      ∃ fs : Fields, scale = .obj fs ∧
        (fs.get? "name" = none ∨ ∃ name, fs.get? "name" = some (.str name)) := by
  cases scale with
  | obj fs =>
    rw [isReadable]
    cases hname : Fields.get? fs "name" with
    | none => simp [hname]
    | some name => cases name <;> simp [hname]
  | _ => simp [isReadable]

theorem isOccupied_eq (e : Extent) (items : List Json) :
    isOccupied e items = items.any (hasRange e) :=
  rfl

theorem hasRange_default : hasRange e other.defaultScale = decide (other = e) := by
  cases e <;> cases other <;> decide

theorem namesTrellis_default (e : Extent) : namesTrellis e.defaultScale = false := by
  cases e <;> decide

theorem isReadable_default (e : Extent) : isReadable e.defaultScale = true := by
  cases e <;> rfl

theorem defaultScaleName_inj (h : e.defaultScaleName = other.defaultScaleName) : e = other := by
  cases e <;> cases other <;> simp [Extent.defaultScaleName] at h ⊢

-- ---------------------------------------------------------------------------
-- The searches
-- ---------------------------------------------------------------------------

theorem occupies_eq (h : isReadable scale = true) : occupies e scale = .ok (hasRange e scale) := by
  obtain ⟨fs, rfl, -⟩ := isReadable_iff.mp h
  rfl

theorem occupants_eq (h : ∀ scale ∈ items, isReadable scale = true) (start : Nat) :
    ∃ places, occupants e start items = .ok places ∧
      places.head? = (items.findIdx? (hasRange e)).map (· + start) ∧
      places.length = items.countP (hasRange e) := by
  induction items generalizing start with
  | nil => exact ⟨[], rfl, rfl, rfl⟩
  | cons scale items ih =>
    obtain ⟨rest, hrest, hhead, hlen⟩ :=
      ih (fun scale hscale => h scale (List.mem_cons_of_mem _ hscale)) (start + 1)
    refine ⟨if hasRange e scale then start :: rest else rest, ?_, ?_, ?_⟩
    · simp only [occupants, occupies_eq (h scale (by simp)), hrest, bind_ok, pure_ok,
        Except.ok.injEq, exists_eq_left']
    · rw [List.findIdx?_cons]
      cases hasRange e scale
      · simp [hhead, Function.comp_def, Nat.add_right_comm, Nat.add_assoc]
      · simp
    · rw [List.countP_cons]
      cases hasRange e scale <;> simp [hlen]

theorem firstTrellis?_eq (h : ∀ scale ∈ items, isReadable scale = true) (start : Nat) :
    firstTrellis? start items = .ok ((items.findIdx? namesTrellis).map (· + start)) := by
  induction items generalizing start with
  | nil => rfl
  | cons scale items ih =>
    have hrest := ih (fun scale hscale => h scale (List.mem_cons_of_mem _ hscale)) (start + 1)
    obtain ⟨fs, rfl, hname⟩ := isReadable_iff.mp (h scale (by simp))
    have hheld :
        ((fs.get? "name").getD (.str "")).holds "Trellis" = .ok (namesTrellis (.obj fs)) := by
      rcases hname with hname | ⟨name, hname⟩
      · rw [namesTrellis, Json.ownFields, hname]
        rfl
      · rw [namesTrellis, Json.ownFields, hname]
        rfl
    rw [firstTrellis?, hrest, List.findIdx?_cons]
    simp only [Json.field?, Json.fields, Except.map, bind, Except.bind, hheld]
    cases namesTrellis (.obj fs)
    · simp [Function.comp_def, Nat.add_right_comm, Nat.add_assoc]
    · simp [pure, Except.pure]

/-- The place of the scale that an axis of the range binds to. Among several scales of the range
the first facet scale of the whole list goes before the first of them. -/
def chosen? (e : Extent) (items : List Json) : Option Nat :=
  if 1 < items.countP (hasRange e) then
    (items.findIdx? namesTrellis).or (items.findIdx? (hasRange e))
  else items.findIdx? (hasRange e)

theorem find?_eq (h : ∀ scale ∈ items, isReadable scale = true) (e : Extent) :
    find? e items = .ok (chosen? e items) := by
  obtain ⟨places, hplaces, hhead, hlen⟩ := occupants_eq (e := e) h 0
  have htrellis := firstTrellis?_eq h 0
  simp only [Nat.add_zero, Option.map_id_fun', id_eq] at hhead htrellis
  simp only [find?, hplaces, htrellis, chosen?, ← hhead, ← hlen, bind, Except.bind]
  rcases places with _ | ⟨place, _ | ⟨second, places⟩⟩
  · rfl
  · rfl
  · -- several occupants: the facet scale is looked for in the whole list
    simp only [List.head?_cons, List.length_cons]
    rw [if_pos (by omega)]
    cases items.findIdx? namesTrellis <;> rfl

theorem chosen?_congr {xs ys : List Json} (hrange : ys.map (hasRange e) = xs.map (hasRange e))
    (hfacets : ys.map namesTrellis = xs.map namesTrellis) : chosen? e ys = chosen? e xs := by
  -- of every scale the choice reads no more than these two
  have hmaps (zs : List Json) : chosen? e zs =
      if 1 < (zs.map (hasRange e)).countP id then
        ((zs.map namesTrellis).findIdx? id).or ((zs.map (hasRange e)).findIdx? id)
      else (zs.map (hasRange e)).findIdx? id := by
    rw [chosen?, List.countP_map, List.findIdx?_map, List.findIdx?_map]
    rfl
  rw [hmaps, hmaps, hrange, hfacets]

theorem isSome_chosen? (e : Extent) (items : List Json) :
    (chosen? e items).isSome = isOccupied e items := by
  rw [isOccupied_eq, chosen?]
  split
  · next hseveral =>
    have hany : items.any (hasRange e) = true := by
      rw [List.any_eq_true]
      exact List.countP_pos_iff.mp (by omega)
    rw [Option.isSome_or, List.findIdx?_isSome, List.findIdx?_isSome, hany, Bool.or_true]
  · exact List.findIdx?_isSome

theorem chosen?_eq_none (h : isOccupied e items = false) : chosen? e items = none := by
  rw [← Option.not_isSome_iff_eq_none, isSome_chosen?, h]
  exact Bool.false_ne_true

theorem firstType?_eq (h : ∀ scale ∈ items, isReadable scale = true) (e : Extent) :
    firstType? e items = .ok ((items.find? (hasRange e)).map givenType) := by
  induction items with
  | nil => rfl
  | cons scale items ih =>
    have hrest := ih fun scale hscale => h scale (List.mem_cons_of_mem _ hscale)
    obtain ⟨fs, rfl, -⟩ := isReadable_iff.mp (h scale (by simp))
    rw [firstType?, occupies_eq (h _ (by simp)), hrest, List.find?_cons]
    cases hasRange e (.obj fs) <;> rfl

/-- Whatever is told is the type of the first scale of the range, whether or not all can be read. -/
theorem firstType?_ok {found : Option Json} (h : firstType? e items = .ok found) :
    found = (items.find? (hasRange e)).map givenType := by
  induction items with
  | nil =>
    cases h
    rfl
  | cons scale items ih =>
    simp only [firstType?, bind_ok] at h
    obtain ⟨here, hhere, h⟩ := h
    obtain rfl : here = hasRange e scale := occupies_ok hhere
    rw [List.find?_cons]
    cases hrange : hasRange e scale with
    | true =>
      simp only [hrange, if_true, bind_ok, pure_ok] at h
      obtain ⟨type, htype, rfl⟩ := h
      cases scale with
      | obj fs =>
        cases htype
        rfl
      | _ => cases htype
    | false =>
      simp only [hrange, Bool.false_eq_true, if_false] at h
      exact ih h

-- ---------------------------------------------------------------------------
-- The answers
-- ---------------------------------------------------------------------------

/-- The place of the scale that an axis of the range gets; one that is added stands at the end. -/
def chosenPlace (e : Extent) (items : List Json) : Nat :=
  (chosen? e items).getD items.length

def chosenScale (e : Extent) (items : List Json) : Json :=
  ((chosen? e items).bind (items[·]?)).getD e.defaultScale

def toldType (e : Extent) (items : List Json) : Json :=
  ((items.find? (hasRange e)).map givenType).getD (.str "linear")

theorem chosen?_lt {place : Nat} (h : chosen? e items = some place) : place < items.length := by
  have hlt {q : Json → Bool} (hq : items.findIdx? q = some place) : place < items.length :=
    (List.findIdx?_eq_some_iff_getElem.mp hq).1
  rw [chosen?] at h
  split at h
  · rcases Option.or_eq_some_iff.mp h with h | ⟨-, h⟩
    · exact hlt h
    · exact hlt h
  · exact hlt h

theorem getElem?_chosenPlace (h : isOccupied e items = true) :
    items[chosenPlace e items]? = some (chosenScale e items) := by
  obtain ⟨place, hplace⟩ := Option.isSome_iff_exists.mp ((isSome_chosen? e items).trans h)
  rw [chosenPlace, chosenScale, hplace, Option.getD_some, Option.bind_some,
    List.getElem?_eq_getElem (chosen?_lt hplace), Option.getD_some]

theorem resolve_eq (h : ∀ scale ∈ items, isReadable scale = true) (p : Position) :
    resolve (.arr items) p = .ok
      ⟨.arr (items ++ missing p.extent items), chosenPlace p.extent items,
        chosenScale p.extent items⟩ := by
  have hfound := find?_eq h p.extent
  have hoccupied := isSome_chosen? p.extent items
  rw [chosenPlace, chosenScale, missing, ← hoccupied]
  simp only [resolve, Json.elements, bind, Except.bind, hfound]
  cases hchosen : chosen? p.extent items with
  | none => rfl
  | some place =>
    have hlt := chosen?_lt hchosen
    simp [pure, Except.pure, List.getD, hlt]

theorem resolveOpposingType_eq (h : ∀ scale ∈ items, isReadable scale = true) (p : Position) :
    resolveOpposingType (.arr items) p =
      .ok (.arr (items ++ missing p.opposingExtent items), toldType p.opposingExtent items) := by
  have hfound := firstType?_eq h p.opposingExtent
  have hoccupied : (items.find? (hasRange p.opposingExtent)).isSome =
      isOccupied p.opposingExtent items :=
    Bool.eq_iff_iff.mpr (by simp [isOccupied_eq])
  rw [toldType, missing, ← hoccupied]
  simp only [resolveOpposingType, Json.elements, bind, Except.bind, hfound]
  cases items.find? (hasRange p.opposingExtent) with
  | none => rfl
  | some scale => simp [pure, Except.pure]

theorem resolveOpposingType_told {scales type : Json}
    (h : resolveOpposingType (.arr items) p = .ok (scales, type)) :
    type = toldType p.opposingExtent items := by
  simp only [resolveOpposingType, Json.elements, bind_ok, Except.ok.injEq, exists_eq_left'] at h
  obtain ⟨found, hfound, h⟩ := h
  rw [toldType, ← firstType?_ok hfound]
  cases found with
  | none =>
    obtain ⟨_, -, h⟩ := bind_ok.mp h
    cases h
    rfl
  | some type =>
    cases h
    rfl

-- ---------------------------------------------------------------------------
-- Added scales
-- ---------------------------------------------------------------------------

theorem isReadable_append_missing (h : ∀ scale ∈ items, isReadable scale = true) (e : Extent) :
    ∀ scale ∈ items ++ missing e items, isReadable scale = true := by
  intro scale hscale
  rcases List.mem_append.mp hscale with hscale | hscale
  · exact h scale hscale
  · unfold missing at hscale
    split at hscale
    · cases hscale
    · obtain rfl := List.mem_singleton.mp hscale
      exact isReadable_default e

theorem hasRange_of_mem_defaults (h : e ∉ es) (hscale : scale ∈ es.map Extent.defaultScale) :
    hasRange e scale = false := by
  obtain ⟨other, hother, rfl⟩ := List.mem_map.mp hscale
  rw [hasRange_default, decide_eq_false_iff_not]
  rintro rfl
  exact h hother

theorem chosen?_append (h : e ∉ es) (items : List Json) :
    chosen? e (items ++ es.map Extent.defaultScale) = chosen? e items := by
  have hcount : (es.map Extent.defaultScale).countP (hasRange e) = 0 := by
    rw [List.countP_eq_zero]
    intro scale hscale
    simp [hasRange_of_mem_defaults h hscale]
  have hrange : (es.map Extent.defaultScale).findIdx? (hasRange e) = none := by
    rw [List.findIdx?_eq_none_iff]
    intro scale hscale
    exact hasRange_of_mem_defaults h hscale
  have hfacets : (es.map Extent.defaultScale).findIdx? namesTrellis = none := by
    rw [List.findIdx?_eq_none_iff]
    intro scale hscale
    obtain ⟨other, -, rfl⟩ := List.mem_map.mp hscale
    exact namesTrellis_default other
  simp only [chosen?, List.countP_append, List.findIdx?_append, hcount, hrange, hfacets,
    Option.map_none, Option.or_none, Nat.add_zero]

theorem chosen?_append_own (h : isOccupied e items = false) :
    chosen? e (items ++ [e.defaultScale]) = some items.length := by
  have hnone : ∀ scale ∈ items, hasRange e scale = false := by simpa [isOccupied_eq] using h
  have hcount : items.countP (hasRange e) = 0 := by simpa [List.countP_eq_zero] using hnone
  have hfound : items.findIdx? (hasRange e) = none := by simpa using hnone
  simp [chosen?, List.countP_append, List.findIdx?_append, hasRange_default, hcount, hfound]

theorem chosenPlace_append (hoccupied : isOccupied e items = true) (h : e ∉ es) :
    chosenPlace e (items ++ es.map Extent.defaultScale) = chosenPlace e items := by
  obtain ⟨place, hplace⟩ := Option.isSome_iff_exists.mp ((isSome_chosen? e items).trans hoccupied)
  rw [chosenPlace, chosenPlace, chosen?_append h, hplace, Option.getD_some, Option.getD_some]

theorem chosenScale_append (h : e ∉ es) (items : List Json) :
    chosenScale e (items ++ es.map Extent.defaultScale) = chosenScale e items := by
  rw [chosenScale, chosenScale, chosen?_append h]
  cases hchosen : chosen? e items with
  | none => rfl
  | some place => simp only [Option.bind_some, List.getElem?_append_left (chosen?_lt hchosen)]

theorem toldType_append (h : e ∉ es) (items : List Json) :
    toldType e (items ++ es.map Extent.defaultScale) = toldType e items := by
  have hnone : (es.map Extent.defaultScale).find? (hasRange e) = none := by
    rw [List.find?_eq_none]
    intro scale hscale
    simp [hasRange_of_mem_defaults h hscale]
  rw [toldType, List.find?_append, hnone, Option.or_none, toldType]

theorem chosenPlace_missing (e : Extent) (items : List Json) :
    chosenPlace e (items ++ missing e items) = chosenPlace e items := by
  cases hoccupied : isOccupied e items with
  | true => rw [missing, hoccupied, if_pos rfl, List.append_nil]
  | false =>
    rw [missing, hoccupied, if_neg Bool.false_ne_true, chosenPlace, chosenPlace,
      chosen?_append_own hoccupied, chosen?_eq_none hoccupied]
    rfl

theorem chosenScale_missing (e other : Extent) (items : List Json) :
    chosenScale e (items ++ missing other items) = chosenScale e items := by
  cases hoccupied : isOccupied other items with
  | true => rw [missing, hoccupied, if_pos rfl, List.append_nil]
  | false =>
    rw [missing, hoccupied, if_neg Bool.false_ne_true]
    by_cases h : e = other
    · subst h
      rw [chosenScale, chosenScale, chosen?_append_own hoccupied, chosen?_eq_none hoccupied]
      simp
    · exact chosenScale_append (show e ∉ [other] by simpa using h) items

theorem toldType_missing (e other : Extent) (items : List Json) :
    toldType e (items ++ missing other items) = toldType e items := by
  cases hoccupied : isOccupied other items with
  | true => rw [missing, hoccupied, if_pos rfl, List.append_nil]
  | false =>
    rw [missing, hoccupied, if_neg Bool.false_ne_true]
    by_cases h : e = other
    · subst h
      have hnone : items.find? (hasRange e) = none := by
        simpa [isOccupied_eq, List.find?_eq_none] using hoccupied
      rw [toldType, List.find?_append, hnone, toldType, hnone]
      cases e <;> rfl
    · exact toldType_append (show e ∉ [other] by simpa using h) items

end VegaAxes.Scale
