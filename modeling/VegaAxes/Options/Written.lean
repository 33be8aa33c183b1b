import VegaAxes.Options

/-!
# Written form of axis descriptions

`toJson` names every field in full. Label entries of a signal instead use the
keys that label expressions read, and have no null fields.
-/

namespace VegaAxes

def Vocabulary.toJson [Vocabulary α] (a : α) : Json :=
  .str (word a)

def textJson : Option String → Json :=
  .ofOption .str

def AxisValue.toJson : AxisValue → Json
  | text s => .str s
  | float x => .float x
  | int n => .int n

def Label.toJson (l : Label) : Json :=
  .obj [("value", l.value.toJson), ("label", textJson l.label),
    ("align", .ofOption Vocabulary.toJson l.align), ("font_weight", textJson l.fontWeight)]

def AxisLabel.toJson : AxisLabel → Json
  | plain v => v.toJson
  | styled l => l.toJson

def SubLabel.toJson (l : SubLabel) : Json :=
  .obj [("value", l.value.toJson), ("sub_label", .str l.subLabel),
    ("align", .ofOption Vocabulary.toJson l.align), ("font_weight", textJson l.fontWeight)]

def LineStyle.toJson : LineStyle → Json
  | named t => Vocabulary.toJson t
  | dashes lengths => .arr (lengths.map Number.toJson)

def ReferenceLineOptions.toJson (o : ReferenceLineOptions) : Json :=
  .obj [("value", o.value.toJson), ("icon", textJson o.icon), ("label", textJson o.label),
    ("color", textJson o.color), ("icon_color", textJson o.iconColor),
    ("label_color", textJson o.labelColor), ("label_font_weight", textJson o.labelFontWeight),
    ("layer", Vocabulary.toJson o.layer), ("position", Vocabulary.toJson o.position),
    ("line_type", o.lineStyle.toJson)]

def NoteDetail.toJson (d : NoteDetail) : Json :=
  .obj [("id", .str d.id), ("color", textJson d.color)]

def NoteOptions.toJson (o : NoteOptions) : Json :=
  .obj [("name", textJson o.name), ("format", .ofOption Vocabulary.toJson o.format),
    ("offset", .ofOption Number.toJson o.offset), ("color", textJson o.color),
    ("data_key", textJson o.dataKey), ("options", .arr (o.details.map NoteDetail.toJson)),
    ("has_popover", .bool o.hasPopover)]

def ThumbnailOptions.toJson (o : ThumbnailOptions) : Json :=
  .obj [("url_key", textJson o.urlKey)]

def Title.toJson : Title → Json
  | line s => .str s
  | lines ss => .arr (ss.map .str)

def LabelOffset.toJson : LabelOffset → Json
  | pixels x => .float x
  | encoding fields => .obj fields

def AxisFeatures.toFields (o : AxisFeatures) : Fields :=
  [("position", Vocabulary.toJson o.position), ("baseline", .bool o.baseline),
    ("baseline_offset", .float o.baselineOffset),
    ("granularity", Vocabulary.toJson o.granularity), ("grid", .bool o.grid),
    ("hide_default_labels", .bool o.hideDefaultLabels),
    ("label_font_weight", .str o.labelFontWeight),
    ("label_orientation", Vocabulary.toJson o.labelOrientation),
    ("labels", .arr (o.labels.map AxisLabel.toJson)), ("number_format", .str o.numberFormat),
    ("range", .ofOption (fun (low, high) => .arr [.float low, .float high]) o.range),
    ("sub_labels", .arr (o.subLabels.map SubLabel.toJson)), ("ticks", .bool o.ticks),
    ("tick_count_limit", .ofOption .int o.tickCountLimit),
    ("tick_min_step", .ofOption .float o.tickMinStep),
    ("title", .ofOption Title.toJson o.title), ("truncate_labels", .bool o.truncateLabels),
    ("has_tooltip", .bool o.hasTooltip), ("dual_metric_axis", .ofOption .bool o.dualMetricAxis),
    ("reference_lines", .arr (o.referenceLines.map ReferenceLineOptions.toJson)),
    ("axis_annotations", .arr (o.notes.map NoteOptions.toJson)),
    ("axis_thumbnails", .arr (o.thumbnails.map ThumbnailOptions.toJson)),
    ("vega_label_align", textJson o.vegaLabelAlign),
    ("vega_label_baseline", textJson o.vegaLabelBaseline),
    ("vega_label_offset", .ofOption LabelOffset.toJson o.vegaLabelOffset),
    ("vega_label_padding", .ofOption Number.toJson o.vegaLabelPadding)]

def AxisOptions.toJson (o : AxisOptions) : Json :=
  .obj (o.toFields ++ [("name", textJson o.name), ("label_align", Vocabulary.toJson o.labelAlign),
    ("label_format", .ofOption Vocabulary.toJson o.labelFormat)])

def ResolvedAxis.toJson (o : ResolvedAxis) : Json :=
  .obj (o.toFields ++ [("name", .str o.name), ("index", .int o.index),
    ("color_scheme", Vocabulary.toJson o.colorScheme), ("scale_type", .str o.scaleType),
    ("label_align", .ofOption Vocabulary.toJson o.labelAlign),
    ("label_format", Vocabulary.toJson o.labelFormat)])

def Label.entry (l : Label) : Fields :=
  Fields.present [("value", l.value.toJson), ("label", textJson l.label),
    ("align", .ofOption Vocabulary.toJson l.align), ("fontWeight", textJson l.fontWeight)]

def SubLabel.entry (l : SubLabel) : Fields :=
  Fields.present [("value", l.value.toJson), ("subLabel", .str l.subLabel),
    ("align", .ofOption Vocabulary.toJson l.align), ("fontWeight", textJson l.fontWeight)]

end VegaAxes
