import VegaAxes.Label

/-!
# Axis objects

The objects that one axis description becomes: the plain axis, the two halves of
a time axis, and the companion that carries sub-labels. Properties that are not
set are left out.
-/

namespace VegaAxes.Axis

def anchorFields (o : ResolvedAxis) : Fields :=
  Label.anchorFields (Label.controlledAnchor o.position o.labelOrientation o.labelAlign)
    (textJson o.vegaLabelAlign) (textJson o.vegaLabelBaseline)

def encodeLabels (labels : Fields) : Json :=
  .obj [("labels", .obj labels)]

def plain (o : ResolvedAxis) (scaleName : ScaleName) : Fields :=
  Fields.present <|
    [("scale", scaleName.value),
      ("orient", Vocabulary.toJson o.position),
      ("grid", .bool o.grid),
      ("ticks", .bool o.ticks),
      ("tickCount", Label.tickCount o.position (.ofOption .int o.tickCountLimit) o.grid),
      -- only linear scales honor a minimum step
      ("tickMinStep", if o.scaleType = "linear" then .ofOption .float o.tickMinStep else .null),
      ("title", .ofOption Title.toJson o.title),
      ("labelAngle", .int (Label.angle o.labelOrientation)),
      ("labelFontWeight", .str o.labelFontWeight),
      ("labelOffset",
        Label.offset o.labelAlign scaleName.spliced
          (.ofOption LabelOffset.toJson o.vegaLabelOffset)),
      ("labelPadding", .ofOption Number.toJson o.vegaLabelPadding),
      ("labels", .bool !o.hideDefaultLabels)] ++
    anchorFields o ++
    [("encode", encodeLabels [("interactive", .bool o.hasTooltip),
      ("update", .obj [("text", Label.format o scaleName)])])]

/-- Only scales that are named for time take an interval as their tick count. -/
def timeTickCount (scaleName : ScaleName) (tickCount : Json) : Json :=
  if scaleName.mentions "Time" then tickCount else .null

/-- One label of a vertical axis carries both granularities. -/
def secondaryTimeFormat (o : ResolvedAxis) : Fields :=
  let formats := Label.timeFormats o.granularity
  if o.position.isVertical then
    [("format", .str s!"{formats.primary}\u2000{formats.secondary}"),
      ("encode", encodeLabels [("update", .obj [("text",
        Encoding.signal "formatVerticalAxisTimeLabels(datum)")])])]
  else [("format", .str formats.secondary)]

def secondaryTime (scaleName : ScaleName) (o : ResolvedAxis) : Fields :=
  Fields.present <|
    [("scale", scaleName.value),
      ("orient", Vocabulary.toJson o.position),
      ("grid", .bool o.grid),
      ("ticks", .bool o.ticks),
      ("tickCount", timeTickCount scaleName (Label.timeFormats o.granularity).tickCount),
      ("title", .ofOption Title.toJson o.title),
      ("formatType", .str "time"),
      ("labelAngle", .int (Label.angle o.labelOrientation)),
      ("labelSeparation", .int 12)] ++
    secondaryTimeFormat o ++ anchorFields o

/-- How far the coarse labels stand below the fine ones, clearing the tick marks when drawn. -/
def primaryTimeShift (o : ResolvedAxis) : Int :=
  (if o.ticks then 28 else 20) * (if o.position = .top then -1 else 1)

def primaryTime (scaleName : ScaleName) (o : ResolvedAxis) : Fields :=
  let formats := Label.timeFormats o.granularity
  Fields.present <|
    [("scale", scaleName.value),
      ("orient", Vocabulary.toJson o.position),
      ("format", .str formats.primary),
      ("tickCount", timeTickCount scaleName formats.tickCount),
      ("formatType", .str "time"),
      ("labelOverlap", .str "greedy"),
      ("labelFontWeight", .str o.labelFontWeight),
      ("labelAngle", .int (Label.angle o.labelOrientation))] ++
    anchorFields o ++
    [("encode", encodeLabels
      [("enter", .obj [("dy", Encoding.number (primaryTimeShift o))]),
        ("update", .obj [("text", Encoding.signal "formatHorizontalTimeAxisLabels(datum)")])])]

/-- A fine-grained axis and, where it runs horizontally, a coarse one. -/
def time (scaleName : ScaleName) (o : ResolvedAxis) : List Fields :=
  secondaryTime scaleName o :: if o.position.isVertical then [] else [primaryTime scaleName o]

def subLabelSignal (o : ResolvedAxis) : String :=
  s!"{o.name}_subLabels"

def labelSignal (o : ResolvedAxis) : String :=
  s!"{o.name}_labels"

def valuesField (values : List AxisValue) : Fields :=
  if values.isEmpty then [] else [("values", .arr (values.map AxisValue.toJson))]

/-- The companion axis: sub-labels and nothing else, further away than the labels. -/
def subLabels (o : ResolvedAxis) (scaleName : ScaleName) : Fields :=
  let update := Label.controlledUpdate o.labelAlign (.str o.labelFontWeight) "subLabel"
    o.labelOrientation o.position (subLabelSignal o)
  (((plain o scaleName).overlay
    ([("domain", .bool false),
      ("grid", .bool false),
      ("labelPadding", .int (if o.ticks then 32 else 24)),
      ("ticks", .bool false),
      ("encode", encodeLabels [("interactive", .bool o.hasTooltip), ("update", .obj update)])] ++
      valuesField (o.subLabels.map SubLabel.value))).erase "title").erase "domainWidth"

def padTitle (axis : Fields) : Fields :=
  axis.set "titlePadding" (.int 24)

def base (o : ResolvedAxis) (scaleName : ScaleName) : Fields :=
  let axis := plain o scaleName
  if o.labels.isEmpty then axis
  else
    let update := Label.controlledUpdate o.labelAlign (.str o.labelFontWeight) "label"
      o.labelOrientation o.position (labelSignal o)
    let tooltip := if o.hasTooltip then [("tooltip", Encoding.rawValue)] else []
    (axis.overlay (valuesField (o.labels.map AxisLabel.value))).set "encode"
      (encodeLabels [("interactive", .bool o.hasTooltip), ("update", .obj (update ++ tooltip))])

/-- The line along the axis; the grammar calls it the axis's domain. -/
def withBaseline (axis : Fields) (baseline : Json) : Fields :=
  (axis.set "domain" baseline).set "domainWidth" (.int 2)

/-- Merges encodings into those of the axis, or takes them as they are where it has none. -/
def mergeEncode (axis encodings : Fields) : Except Error Fields := do
  let encode := axis.getD "encode"
  if encode.truthy then
    return axis.set "encode" (.obj (Fields.merge (← encode.fields) encodings))
  else return axis.set "encode" (.obj encodings)

end VegaAxes.Axis
