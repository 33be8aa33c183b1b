import VegaAxes.Encoding
import VegaAxes.Options.Written
import VegaAxes.Theme

/-!
# Thumbnails

Images just outside the plot area, one per band of a band scale and as large as
the band allows. Thumbnails that would be too small are hidden, and then the
labels stay where they are.
-/

namespace VegaAxes

structure Thumbnail where
  name : String
  urlKey : String
deriving DecidableEq, Repr

namespace Thumbnail

def ofOptions (o : ResolvedAxis) (index : Nat) (thumbnail : ThumbnailOptions) : Thumbnail where
  name := s!"{o.name}AxisThumbnail{index}"
  urlKey := (given thumbnail.urlKey).getD Theme.thumbnailUrlKey

def all (o : ResolvedAxis) : List Thumbnail :=
  o.thumbnails.mapIdx (ofOptions o)

def toJson (t : Thumbnail) : Json :=
  .obj [("name", .str t.name), ("url_key", .str t.urlKey)]

def distance : Nat := 4
def maxSize : Nat := 64
def minSize : Nat := 16

def sizeName (name : String) : String :=
  s!"{name}ThumbnailSize"

def sizeSignal (name scaleName : String) : Json :=
  .obj [("name", .str (sizeName name)),
    ("update", .str s!"min(bandwidth('{scaleName}'), {maxSize})")]

/-- Outside the plot area, centered on its band. -/
def place (scaleName scaleField : String) (p : Position) (name : String) : Fields :=
  let size := sizeName name
  let center := Encoding.signal
    s!"scale('{scaleName}', datum.{scaleField}) + bandwidth('{scaleName}') / 2"
  match p with
  | .left => [("x", Encoding.signal s!"-{distance} - {size}"), ("yc", center)]
  | .right => [("x", Encoding.signal s!"width + {distance}"), ("yc", center)]
  | .top => [("xc", center), ("y", Encoding.signal s!"-{distance} - {size}")]
  | .bottom => [("xc", center), ("y", Encoding.signal s!"height + {distance}")]

def whenHidden (name : String) : Json :=
  Encoding.testedValue s!"{sizeName name} < {minSize}" (.int 0)

def mark (scaleName scaleField : String) (p : Position) (t : Thumbnail) : Json :=
  let size := Encoding.signal (sizeName t.name)
  .obj [("type", .str "image"),
    ("name", .str t.name),
    ("from", .obj [("data", .str Theme.filteredTable)]),
    ("encode", .obj [
      ("enter", .obj [("url", .obj [("field", .str t.urlKey)])]),
      ("update", .obj (place scaleName scaleField p t.name ++
        [("width", size), ("height", size),
          ("opacity", .arr [whenHidden t.name, Encoding.number 1])]))])]

def marks (o : ResolvedAxis) (scaleName scaleField : String) : List Json :=
  (all o).map (mark scaleName scaleField o.position)

def labelOffset (name : String) (p : Position) : Fields :=
  let size := sizeName name
  match p with
  | .left => [("dx", .arr [whenHidden name, Encoding.signal s!"-{size}"])]
  | .right => [("dx", .arr [whenHidden name, Encoding.signal size])]
  | .top => [("dy", .arr [whenHidden name, Encoding.signal s!"-{size}"])]
  | .bottom => [("dy", .arr [whenHidden name, Encoding.signal size])]

def labelEncoding (p : Position) (t : Thumbnail) : Fields :=
  [("labels", .obj [("update", .obj (labelOffset t.name p))])]

end Thumbnail

end VegaAxes
