import VegaAxes.Json.Frozen

/-!
# Documents

A finished chart document, frozen part by part. The usermeta is left out where nobody
gave or wrote any.
-/

namespace VegaAxes

structure Document where
  scales : Frozen
  axes : Frozen
  marks : Frozen
  signals : Frozen
  data : Frozen
  usermeta : Option FrozenFields := none
  /-- The fields that axes have no part in. -/
  extra : FrozenFields := []
deriving DecidableEq

namespace Document

def lists (d : Document) : Fields :=
  [("scales", d.scales.thaw), ("axes", d.axes.thaw), ("marks", d.marks.thaw),
    ("signals", d.signals.thaw), ("data", d.data.thaw)]

def toJson (d : Document) : Json :=
  .obj (thawFields d.extra ++ d.lists ++ match d.usermeta with
    | some usermeta => [("usermeta", .obj (thawFields usermeta))]
    | none => [])

end Document

end VegaAxes
