import Shaderwright.LightCounts
import Shaderwright.Material.CacheState
import Shaderwright.Symbol

/-!
Events: what happened on the way to an answer, in order. An event that was
reached stays, even if a later step fails.
-/

namespace Shaderwright

inductive Event where
  /-- A stage-level symbol was met for the first time. -/
  | symbolHoisted (symbol : Symbol)
  /-- A function was defined ahead of the entry point. -/
  | functionHoisted (name : String) (parameters : Nat)
  /-- A stage was lowered to a source of so many UTF-8 bytes. -/
  | stageLowered (stage : Stage) (symbols functions bytes : Nat)
  /-- A material was given other light counts. -/
  | lightCountsChanged (material : String) (old new : LightCounts)
  /-- Both stages of a material were compiled. -/
  | shadersRebuilt (material : String) (previous : CacheState)
      (lights : LightCounts) (vertexBytes fragmentBytes : Nat)
  /-- A function was found in the cache. -/
  | cacheHit (key : String)
  /-- A function was built and put into the cache. -/
  | cacheMiss (key name : String)
deriving DecidableEq, Repr

end Shaderwright
