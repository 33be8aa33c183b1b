import VegaAxes.Error
import VegaAxes.Options
import VegaAxes.Options.Reader

/-!
# Schema of axis descriptions

One record reader per kind of option object. A value of the wrong kind where an
object is needed is reported under the name that the way in gives it. Reading a
description and resolving it both report what is wrong as problems of the description.
-/

namespace VegaAxes

inductive Intake where
  | caller | request
deriving DecidableEq, Repr

def Intake.notObject : Intake → ProblemKind
  | .caller => .modelType
  | .request => .modelAttributesType

namespace Schema

open RecordReader

def axisValue : Reader AxisValue :=
  .union
    (fun | .str s => some (.text s) | .float x => some (.float x) | .int n => some (.int n)
         | _ => none)
    [("str", Reader.text.map .text), ("float", Reader.float.map .float),
      ("int", Reader.integer.map .int)]

def labelFields : RecordReader Label :=
  (pure Label.mk)
    |>.required "value" "value" axisValue
    |>.field "label" "label" none (.optional .text)
    |>.field "align" "align" none (.optional .word)
    |>.field "fontWeight" "font_weight" none (.optional .text)

def label (intake : Intake) : Reader Label :=
  labelFields.strict intake.notObject

def axisLabel (intake : Intake) : Reader AxisLabel :=
  .union
    (fun | .str s => some (.plain (.text s)) | .float x => some (.plain (.float x))
         | .int n => some (.plain (.int n)) | _ => none)
    [("Label", (label intake).map .styled), ("str", Reader.text.map (.plain ∘ .text)),
      ("float", Reader.float.map (.plain ∘ .float)), ("int", Reader.integer.map (.plain ∘ .int))]

def subLabelFields : RecordReader SubLabel :=
  (pure SubLabel.mk)
    |>.required "value" "value" axisValue
    |>.required "subLabel" "sub_label" .text
    |>.field "align" "align" none (.optional .word)
    |>.field "fontWeight" "font_weight" none (.optional .text)

def subLabel (intake : Intake) : Reader SubLabel :=
  subLabelFields.strict intake.notObject

def lineStyle : Reader LineStyle :=
  .union (fun _ => none)
    [("str-enum[LineType]", Reader.word.map .named),
      ("list[union[int,float]]", (Reader.list .number).map .dashes)]

def referenceLineFields : RecordReader ReferenceLineOptions :=
  (pure ReferenceLineOptions.mk)
    |>.required "value" "value" axisValue
    |>.field "icon" "icon" none (.optional .text)
    |>.field "label" "label" none (.optional .text)
    |>.field "color" "color" none (.optional .text)
    |>.field "iconColor" "icon_color" none (.optional .text)
    |>.field "labelColor" "label_color" none (.optional .text)
    |>.field "labelFontWeight" "label_font_weight" none (.optional .text)
    |>.field "layer" "layer" .front .word
    |>.field "position" "position" .center .word
    |>.field "lineType" "line_type" (.named .solid) lineStyle

def referenceLine (intake : Intake) : Reader ReferenceLineOptions :=
  referenceLineFields.strict intake.notObject

def noteDetailFields : RecordReader NoteDetail :=
  (pure NoteDetail.mk)
    |>.required "id" "id" .text
    |>.field "color" "color" none (.optional .text)

def noteDetail (intake : Intake) : Reader NoteDetail :=
  noteDetailFields.strict intake.notObject

def noteFields (intake : Intake) : RecordReader NoteOptions :=
  (pure NoteOptions.mk)
    |>.field "name" "name" none (.optional .text)
    |>.field "format" "format" none (.optional .word)
    |>.field "offset" "offset" none (.optional .number)
    |>.field "color" "color" none (.optional .text)
    |>.field "dataKey" "data_key" none (.optional .text)
    |>.field "options" "options" [] (.list (noteDetail intake))
    |>.field "hasPopover" "has_popover" false .flag

def note (intake : Intake) : Reader NoteOptions :=
  (noteFields intake).strict intake.notObject

def thumbnailFields : RecordReader ThumbnailOptions :=
  (pure ThumbnailOptions.mk)
    |>.field "urlKey" "url_key" none (.optional .text)

def thumbnail (intake : Intake) : Reader ThumbnailOptions :=
  thumbnailFields.strict intake.notObject

def title : Reader Title :=
  .union (fun _ => none)
    [("str", Reader.text.map .line), ("list[str]", (Reader.list .text).map .lines)]

def labelOffset : Reader LabelOffset :=
  .union (fun _ => none)
    [("float", Reader.float.map .pixels), ("dict[str,any]", Reader.object.map .encoding)]

def axisFeatures (intake : Intake) : RecordReader AxisFeatures :=
  (pure AxisFeatures.mk)
    |>.required "position" "position" .word
    |>.field "baseline" "baseline" false .flag
    |>.field "baselineOffset" "baseline_offset" 0 .float
    |>.field "granularity" "granularity" .day .word
    |>.field "grid" "grid" false .flag
    |>.field "hideDefaultLabels" "hide_default_labels" false .flag
    |>.field "labelFontWeight" "label_font_weight" "normal" .text
    |>.field "labelOrientation" "label_orientation" .horizontal .word
    |>.field "labels" "labels" [] (.list (axisLabel intake))
    |>.field "numberFormat" "number_format" "shortNumber" .text
    |>.field "range" "range" none (.optional (.pair .float))
    |>.field "subLabels" "sub_labels" [] (.list (subLabel intake))
    |>.field "ticks" "ticks" false .flag
    |>.field "tickCountLimit" "tick_count_limit" none (.optional .integer)
    |>.field "tickMinStep" "tick_min_step" none (.optional .float)
    |>.field "title" "title" none (.optional title)
    |>.field "truncateLabels" "truncate_labels" false .flag
    |>.field "hasTooltip" "has_tooltip" false .flag
    |>.field "dualMetricAxis" "dual_metric_axis" none (.optional .flag)
    |>.field "referenceLines" "reference_lines" [] (.list (referenceLine intake))
    |>.field "axisAnnotations" "axis_annotations" [] (.list (note intake))
    |>.field "axisThumbnails" "axis_thumbnails" [] (.list (thumbnail intake))
    |>.field "vegaLabelAlign" "vega_label_align" none (.optional .text)
    |>.field "vegaLabelBaseline" "vega_label_baseline" none (.optional .text)
    |>.field "vegaLabelOffset" "vega_label_offset" none (.optional labelOffset)
    |>.field "vegaLabelPadding" "vega_label_padding" none (.optional (Reader.float.map .float))

def axisFields (intake : Intake) : RecordReader AxisOptions :=
  (pure AxisOptions.mk).seq (axisFeatures intake)
    |>.field "name" "name" none (.optional .text)
    |>.field "labelAlign" "label_align" .center .word
    |>.field "labelFormat" "label_format" none (.optional .word)

end Schema

namespace AxisOptions

def read (intake : Intake) : Reader AxisOptions :=
  (Schema.axisFields intake).strict intake.notObject

def ofJson (v : Json) : Except Error AxisOptions :=
  match read .caller v with
  | .ok o => .ok o
  | .bad problems => .error (.invalid .options problems)

/-- Resolves an axis for a scale and a place that have not been checked. An unset type is
linear; the axis is named for its index as it is given. -/
def resolveFor (o : AxisOptions) (scaleType : Json) (colorScheme : ColorScheme) (index : Json) :
    Except Error ResolvedAxis :=
  let resolved (index' : Int) (type : String) :=
    { o.resolve (some type) colorScheme index' with name := s!"axis{index.spliced}" }
  match (((Reader.integer index).under "index").map resolved).seq
      ((Reader.text (scaleType.orElse (.str "linear"))).under "scale_type") with
  | .ok axis => .ok axis
  | .bad problems => .error (.invalid .resolved problems)

end AxisOptions

end VegaAxes
