import VegaAxes.Proofs.Axis.BlankedLabels
import VegaAxes.Proofs.Text.Literals
import Mathlib.Data.List.Forall2

/-!
# Texts of reference lines in tests

A line whose value is a text puts it between quotes into the test that blanks labels. The test
compares labels with just this text exactly if it is plain (`pieces_clearanceTest`): a quote in it
ends the literal early, and a backslash is lost. `hideLabels_quoting`: so it is for all the tests
of an axis.
-/

namespace VegaAxes.ReferenceLine

open Encoding Text

variable {axis : Fields} {scaleName : ScaleName} {rules : List Json}

def beforeValue (name : List Char) : List Char :=
  "abs(scale(".toList ++ (between name ++ ", ".toList)

def afterValue (name : List Char) : List Char :=
  ") - scale(".toList ++ (between name ++ ", datum.value)) < 30".toList)

/-- The test `abs(scale('S', L) - scale('S', datum.value)) < 30` where `S` is the name of the
scale and the literal `L` is the value. -/
def comparison (name value : List Char) : List Piece :=
  ("abs(scale(".toList.map .code ++ .literal name :: ", ".toList.map .code) ++ .literal value ::
    (") - scale(".toList.map .code ++ .literal name :: ", datum.value)) < 30".toList.map .code)

theorem toList_clearanceTest (scaleName : ScaleName) (s : String) :
    (clearanceTest scaleName (.text s)).toList =
      beforeValue scaleName.spliced.toList ++
        (between s.toList ++ afterValue scaleName.spliced.toList) := by
  have htext : clearanceTest scaleName (.text s) = "abs(scale('" ++ scaleName.spliced ++ "', " ++
      ("'" ++ s ++ "'") ++ ") - scale('" ++ scaleName.spliced ++ "', datum.value)) < " ++ "30" :=
    rfl
  have hstart : "abs(scale('".toList = "abs(scale(".toList ++ ['\''] := rfl
  have hcomma : "', ".toList = '\'' :: ", ".toList := rfl
  have hquote : "'".toList = ['\''] := rfl
  have hminus : ") - scale('".toList = ") - scale(".toList ++ ['\''] := rfl
  have hend : "', datum.value)) < ".toList ++ "30".toList = '\'' :: ", datum.value)) < 30".toList :=
    rfl
  rw [htext]
  unfold beforeValue afterValue between
  simp only [String.toList_append, hstart, hcomma, hquote, hminus, List.append_assoc]
  simp only [hend, List.cons_append, List.nil_append]

theorem pieces_clearanceTest (hname : Plain scaleName.spliced.toList) (unescaped : Char → Char)
    (s : String) :
    pieces unescaped (clearanceTest scaleName (.text s)) =
      some (comparison scaleName.spliced.toList s.toList) ↔ Plain s.toList := by
  have hquoted : ReadsAs unescaped (between scaleName.spliced.toList) _ := readsAs_between hname
  have hopening : ReadsAs unescaped "abs(scale(".toList _ := readsAs_codes (by decide)
  have hcomma : ReadsAs unescaped ", ".toList _ := readsAs_codes (by decide)
  have hminus : ReadsAs unescaped ") - scale(".toList _ := readsAs_codes (by decide)
  have hend : ReadsAs unescaped ", datum.value)) < 30".toList _ := readsAs_codes (by decide)
  rw [pieces, toList_clearanceTest]
  exact (hopening.append (hquoted.append hcomma)).literal_iff (hminus.append (hquoted.append hend))

/-- Hiding labels puts a blank before the rules for each covering line. As long as the name of
the scale is plain, the test of a line at a text compares labels with that text exactly if it
is plain. -/
theorem hideLabels_quoting (o : ResolvedAxis) (scaleName : ScaleName)
    (hname : Plain scaleName.spliced.toList)
    (hrules : (Json.obj axis).descend labelTextPath = .ok (some (.arr rules))) :
    ∃ axis' tests, hideLabels axis o scaleName = .ok axis' ∧
      (Json.obj axis').descend labelTextPath = .ok (some (.arr (blanks tests ++ rules))) ∧
      List.Forall₂ (fun line test => ∀ s, line.value = .text s → ∀ unescaped,
        (pieces unescaped test = some (comparison scaleName.spliced.toList s.toList) ↔
          Plain s.toList)) (o.referenceLines.filter ReferenceLineOptions.isCovering) tests := by
  obtain ⟨axis', haxis', hput⟩ := hideLabels_rules o scaleName hrules
  refine ⟨axis', clearanceTests o scaleName, haxis', ?_, ?_⟩
  · rw [hput, Json.descend_put_self]
  · rw [clearanceTests, List.forall₂_map_right_iff, List.forall₂_same]
    intro line hline s hs unescaped
    rw [hs]
    exact pieces_clearanceTest hname unescaped s

def leader (name : String) : ResolvedAxis where
  position := .bottom
  name := "axis0"
  referenceLines := [{ value := .text name, label := some "lead" }]

theorem leader_quoted :
    Plain "xScale".toList ∧ (Json.obj years).descend labelTextPath = .ok (some (.arr [rawValue])) ∧
      ∃ axis' test, hideLabels years (leader "Ada") ⟨.str "xScale"⟩ = .ok axis' ∧
        (Json.obj axis').descend labelTextPath =
          .ok (some (.arr [testedValue test (.str ""), rawValue])) ∧
        pieces id test = some (comparison "xScale".toList "Ada".toList) := by
  have hname : Plain "xScale".toList := by decide
  have hrules : (Json.obj years).descend labelTextPath = .ok (some (.arr [rawValue])) := rfl
  obtain ⟨axis', tests, haxis', hread, htests⟩ :=
    hideLabels_quoting (leader "Ada") ⟨.str "xScale"⟩ hname hrules
  have hlines : (leader "Ada").referenceLines.filter ReferenceLineOptions.isCovering =
      (leader "Ada").referenceLines := rfl
  rw [hlines] at htests
  cases htests with
  | cons hline hnone =>
    cases hnone
    exact ⟨hname, hrules, axis', _, haxis', hread, (hline "Ada" rfl id).mpr (by decide)⟩

/-- An apostrophe ends the literal early, and the expression has no reading at all. -/
theorem leader_misquoted :
    Plain "xScale".toList ∧
      ∃ axis' test, hideLabels years (leader "O'Brien") ⟨.str "xScale"⟩ = .ok axis' ∧
        (Json.obj axis').descend labelTextPath =
          .ok (some (.arr [testedValue test (.str ""), rawValue])) ∧
        ∀ unescaped, pieces unescaped test = none := by
  have hrules : (Json.obj years).descend labelTextPath = .ok (some (.arr [rawValue])) := rfl
  obtain ⟨axis', haxis', hput⟩ := hideLabels_rules (leader "O'Brien") ⟨.str "xScale"⟩ hrules
  refine ⟨by decide, axis', clearanceTest ⟨.str "xScale"⟩ (.text "O'Brien"), haxis', ?_,
    fun unescaped => rfl⟩
  rw [hput, Json.descend_put_self]
  rfl

/-- A backslash is lost. -/
example : pieces id (clearanceTest ⟨.str "xScale"⟩ (.text "a\\b")) =
    some (comparison "xScale".toList "ab".toList) := by decide +kernel

end VegaAxes.ReferenceLine
