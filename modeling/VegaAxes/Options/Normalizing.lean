import VegaAxes.Json.Display
import VegaAxes.Options.Schema
import VegaAxes.Options.Written

/-!
# Resolved axes as option objects

A resolved axis is itself an option object, of the fields of a description and three more:
`normalize` writes a checked description out and checks it once more as such an object.
-/

namespace VegaAxes

namespace Schema

open RecordReader

/-- Unlike a description's own, the name has to be there, and the alignment may be null. -/
def resolvedFields : RecordReader ResolvedAxis :=
  (pure ResolvedAxis.mk).seq (axisFeatures .caller)
    |>.required "name" "name" .text
    |>.field "index" "index" 0 .integer
    |>.field "colorScheme" "color_scheme" .light .word
    |>.field "scaleType" "scale_type" "linear" .text
    |>.field "labelAlign" "label_align" (some .center) (.optional .word)
    |>.field "labelFormat" "label_format" .linear .word

end Schema

def ResolvedAxis.read : Reader ResolvedAxis :=
  Schema.resolvedFields.strict .modelType

namespace AxisOptions

/-- The offset as it stands in a checked description. One that is left out is the default, an
integer that no reader has seen. -/
def keptOffset (source : Fields) (o : AxisOptions) : Json :=
  match FieldKey.find? ⟨"baselineOffset", "baseline_offset"⟩ source with
  | some _ => .float o.baselineOffset
  | none => .int 0

/-- The checked description of `source`, written out without its name and its format. -/
def dump (source : Fields) (o : AxisOptions) : Fields :=
  o.toFields.set "baseline_offset" (o.keptOffset source) ++
    [("label_align", Vocabulary.toJson o.labelAlign)]

def wholeDump (source : Fields) (o : AxisOptions) : Json :=
  .obj (o.dump source ++
    [("name", textJson o.name), ("label_format", .ofOption Vocabulary.toJson o.labelFormat)])

def formatFor (o : AxisOptions) (scaleType : Json) : LabelFormat :=
  match o.labelFormat, scaleType with
  | some format, _ => format
  | none, .str type => defaultLabelFormat type
  | none, _ => .linear

def normalize (source : Fields) (o : AxisOptions) (scaleType : Json) (colorScheme : ColorScheme)
    (index : Json) : Checked ResolvedAxis :=
  let type := scaleType.orElse (.str "linear")
  ResolvedAxis.read (.obj (o.dump source ++
    [("name", .str s!"axis{index.spliced}"), ("index", index),
      ("color_scheme", Vocabulary.toJson colorScheme), ("scale_type", type),
      ("label_format", Vocabulary.toJson (o.formatFor type))]))

end AxisOptions

end VegaAxes
