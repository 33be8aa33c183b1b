import VegaAxes.Proofs.Attempt
import VegaAxes.Trellis

/-!
# Headers of facets

`withHeader_ok`: an axis is made a header exactly where its scale lays out facets by its name.
`position_header`: it is drawn at the side that it is described for, or at that of headers, which is
never the bottom.
-/

namespace VegaAxes.Trellis

variable {scaleName : ScaleName} {header : Option Header} {o o' : ResolvedAxis}

def laysOutFacets (scaleName : ScaleName) : Bool :=
  scaleName.mentions "TrellisBand"

def headerSide (scaleName : ScaleName) : Position :=
  if Text.startsWith scaleName.spliced 'x' then .top else .left

/-- The side that an axis is drawn at where it is described for this one. -/
def drawnSide (scaleName : ScaleName) (p : Position) : Position :=
  if laysOutFacets scaleName then headerSide scaleName else p

theorem headerSide_ne_bottom : headerSide scaleName ≠ .bottom := by
  unfold headerSide
  split <;> simp

theorem ofScale?_ok (h : Header.ofScale? scaleName = .ok header) :
    header.isSome = laysOutFacets scaleName ∧
      ∀ h ∈ header, h.position = headerSide scaleName := by
  unfold Header.ofScale? at h
  obtain ⟨_, -, h⟩ := bind_ok.mp h
  split at h
  · next hname =>
    cases h
    exact ⟨by simpa [laysOutFacets] using hname, by simp⟩
  · next hname =>
    simp only at h
    split at h
    · next name hvalue =>
      cases h
      refine ⟨by simpa [laysOutFacets] using hname, fun header hheader => ?_⟩
      cases hheader
      rw [headerSide, show scaleName.spliced = name from congrArg Json.spliced hvalue]
      split <;> rfl
    · cases h

/-- A header stands elsewhere and is styled otherwise; any other axis is left as it is. -/
theorem withHeader_ok (h : withHeader scaleName o = .ok o') :
    (laysOutFacets scaleName = false ∧ o' = o) ∨
      (laysOutFacets scaleName = true ∧ ∃ header : Header, header.position = headerSide scaleName ∧
        o' = header.apply o) := by
  obtain ⟨header, hheader, rfl⟩ := map_ok.mp h
  obtain ⟨hsome, hposition⟩ := ofScale?_ok hheader
  cases header with
  | none => exact .inl ⟨hsome.symm, rfl⟩
  | some header => exact .inr ⟨hsome.symm, header, hposition header rfl, rfl⟩

theorem withHeader_keeps {F : ResolvedAxis → α}
    (hF : ∀ (header : Header) o, F (header.apply o) = F o)
    (h : withHeader scaleName o = .ok o') : F o' = F o := by
  obtain ⟨header, -, rfl⟩ := map_ok.mp h
  cases header with
  | none => rfl
  | some header => exact hF header o

theorem position_header (h : withHeader scaleName o = .ok o') :
    o'.position = drawnSide scaleName o.position := by
  rcases withHeader_ok h with ⟨hplain, rfl⟩ | ⟨hheader, header, hposition, rfl⟩
  · rw [drawnSide, hplain]
    rfl
  · rw [drawnSide, if_pos hheader]
    exact hposition

end VegaAxes.Trellis
