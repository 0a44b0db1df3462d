/-!
States of the compiled shaders of a material.
-/

namespace Shaderwright

/-- Whether the compiled shaders of a material can be used. `unbuilt`: nothing
was compiled yet. `built`: they match the light counts. `stale`: they were
dropped since they were last compiled. -/
inductive CacheState where
  | unbuilt
  | built
  | stale
deriving DecidableEq, Repr

/-- The name under which a state is reported. -/
def CacheState.name : CacheState → String
  | unbuilt => "Unbuilt"
  | built => "Built"
  | stale => "Stale"

end Shaderwright
