import VegaAxes.Encoding
import VegaAxes.Options.Written
import VegaAxes.Scale
import VegaAxes.Scale.Name

/-!
# Axis labels

Where labels are anchored, how they are turned, and the ordered rules for their
text. Lists of text rules end in their only rule without a test.
-/

namespace VegaAxes

structure Anchor where
  align : Option String
  baseline : Option String
deriving DecidableEq, Repr

namespace Anchor

def toFields (a : Anchor) : Fields :=
  [("align", textJson a.align), ("baseline", textJson a.baseline)]

def toJson (a : Anchor) : Json :=
  .obj a.toFields

end Anchor

namespace Label

structure TimeFormats where
  secondary : String
  primary : String
  tickCount : Json

def TimeFormats.toJson (f : TimeFormats) : Json :=
  .obj [("secondary_label_format", .str f.secondary), ("primary_label_format", .str f.primary),
    ("tick_count", f.tickCount)]

def timeFormats : Granularity → TimeFormats
  | .minute => ⟨"%-I:%M %p", "%b %-d", .str "minute"⟩
  | .hour => ⟨"%-I %p", "%b %-d", .str "hour"⟩
  | .day => ⟨"%-d", "%b", .str "day"⟩
  | .week => ⟨"%-d", "%b", .str "week"⟩
  | .month => ⟨"%b", "%Y", .str "month"⟩
  | .quarter => ⟨"Q%q", "%Y", .obj [("interval", .str "month"), ("step", .int 3)]⟩
  | .year => ⟨"%Y", "%Y", .str "year"⟩

/-- One tick per hundred pixels, within limits. Any limit but null is one, zero too. -/
def tickCount (p : Position) (limit : Json) (grid : Bool) : Json :=
  let dimension := p.extent.word
  if limit ≠ .null then Encoding.signal s!"clamp(ceil({dimension}/100), 2, {limit.spliced})"
  else if grid then Encoding.signal s!"clamp(ceil({dimension}/100), 2, 10)"
  else .null

def isParallel (p : Position) (o : Orientation) : Bool :=
  p.orientation = o

/-- Vertical labels read from the bottom to the top. -/
def angle : Orientation → Int
  | .horizontal => 0
  | .vertical => 270

def anchor (p : Position) (o : Orientation) (align : LabelAlign) : Anchor :=
  if isParallel p o then
    { align := some (match align with
        | .start => "left" | .center => "center" | .finish => "right")
      baseline := some (match p with
        | .top | .left => "bottom"
        | .bottom | .right => "top") }
  else
    { align := some (match p with
        | .bottom | .left => "right"
        | .top | .right => "left")
      baseline := some (match align with
        | .start => "top" | .center => "middle" | .finish => "bottom") }

/-- Labels without an alignment have no anchor of their own. -/
def controlledAnchor (p : Position) (o : Orientation) : Option LabelAlign → Anchor
  | none => ⟨none, none⟩
  | some align => anchor p o align

/-- The anchor as axis properties; raw values that are set go before it. -/
def anchorFields (anchor : Anchor) (rawAlign rawBaseline : Json) : Fields :=
  [("labelAlign", rawAlign.orElse (textJson anchor.align)),
    ("labelBaseline", rawBaseline.orElse (textJson anchor.baseline))]

/-- Half a band towards the start or the end, unless an offset is given. -/
def offset (align : Option LabelAlign) (scaleName : String) (raw : Json) : Json :=
  if raw ≠ .null then raw
  else match align with
    | some .start => Encoding.signal s!"bandwidth('{scaleName}') / -2"
    | some .finish => Encoding.signal s!"bandwidth('{scaleName}') / 2"
    | _ => .null

def numberRule (format : String) : Json :=
  match format with
  | "shortNumber" =>
    Encoding.testedSignal "isNumber(datum['value'])" "formatShortNumber(datum['value'])"
  | "shortCurrency" =>
    Encoding.testedSignal "isNumber(datum['value'])" "formatShortCurrency(datum['value'])"
  | format =>
    let specifier := match format with
      | "currency" => "$,.2f"
      | "standardNumber" => ","
      | format => format
    Encoding.testedSignal "isNumber(datum.value)" s!"format(datum.value, '{specifier}')"

/-- Cuts labels to the width of their band, where they run along the axis of a band scale. -/
def fallback (o : ResolvedAxis) (scaleName : ScaleName) : Json :=
  if o.truncateLabels && scaleName.mentions "Band" && isParallel o.position o.labelOrientation
  then Encoding.signal
    s!"truncateText(datum.value, bandwidth('{scaleName.spliced}')/(1- paddingInner), 'normal', 14)"
  else Encoding.rawValue

def checkFormat (o : ResolvedAxis) (scaleName : ScaleName) : Except Error Unit :=
  match o.labelFormat with
  | .percentage | .duration => .ok ()
  | .linear | .time => if o.truncateLabels then scaleName.checkSearchable else .ok ()

def format (o : ResolvedAxis) (scaleName : ScaleName) : Json :=
  match o.labelFormat with
  | .percentage =>
    .arr [Encoding.testedSignal "isNumber(datum.value)" "format(datum.value, '~%')",
      Encoding.rawValue]
  | .duration => Encoding.signal "formatTimeDurationLabels(datum)"
  | .linear | .time => .arr [numberRule o.numberFormat, fallback o scaleName]

def lookup (signalName : String) : String :=
  s!"indexof(pluck({signalName}, 'value'), datum.value)"

def entryOf (signalName : String) : String :=
  s!"{signalName}[{lookup signalName}]"

/-- A property of the entry, wherever the value has an entry with that property. -/
def entryRule (signalName property : String) : Json :=
  Encoding.testedSignal s!"{lookup signalName} !== -1 && {entryOf signalName}.{property}"
    s!"{entryOf signalName}.{property}"

def encodedAnchor (p : Position) (signalName : String) (o : Orientation) (align : LabelAlign) :
    Fields :=
  let anchor := anchor p o align
  [("align", .arr [entryRule signalName "align", Encoding.value (textJson anchor.align)]),
    ("baseline", .arr [entryRule signalName "baseline",
      Encoding.value (textJson anchor.baseline)])]

/-- Label properties read from the entries of a signal, with the axis's own as defaults. -/
def controlledUpdate (align : Option LabelAlign) (fontWeight : Json) (key : String)
    (o : Orientation) (p : Position) (signalName : String) : Fields :=
  [("text", .arr [entryRule signalName key, Encoding.rawValue]),
    ("fontWeight", .arr [entryRule signalName "fontWeight", Encoding.value fontWeight])] ++
  encodedAnchor p signalName o (align.getD .center)

/-- The entries of a signal for the labels that have a style; plain values need none. -/
def signalEntries (labels : List AxisLabel) (p : Position) (o : Orientation) : List Json :=
  (labels.filterMap AxisLabel.style?).map fun l =>
    .obj (l.entry.overlay (controlledAnchor p o l.align).toFields.present)

end Label

def ResolvedAxis.hasSubLabels (o : ResolvedAxis) : Bool :=
  !o.subLabels.isEmpty && o.labelOrientation = .horizontal

def SubLabel.signalEntries (o : ResolvedAxis) : List Json :=
  o.subLabels.map fun l =>
    .obj (l.entry.overlay
      (Label.controlledAnchor o.position o.labelOrientation l.align).toFields.present)

end VegaAxes
