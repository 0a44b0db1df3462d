import Shaderwright.Material

/-!
The materials of a scene. They share a dialect, a function cache and the light
counts that new materials start with, and are rebuilt in the order in which
they were registered.
-/

namespace Shaderwright

/-- Why a registry cannot answer. -/
inductive MaterialError where
  | unknownMaterial (id : Nat)
  | lowering (fault : LoweringError)
deriving DecidableEq, Repr

/-- The text under which a material identifier is reported. -/
def materialIdText (id : Nat) : String :=
  "material#" ++ toString id

def MaterialError.message : MaterialError → String
  | unknownMaterial id => "unknown material " ++ materialIdText id
  | lowering fault => "cannot lower material shaders: " ++ fault.message

/-- The registered materials in the order of their identifiers, which are
given out once each. An identifier fits into a word of 32 bits as long as there
are fewer registrations than such words. -/
structure MaterialRegistry where
  dialect : Dialect
  workshop : Workshop
  lights : LightCounts
  materials : List (Nat × MaterialShaders)
  nextId : Nat

namespace MaterialRegistry

/-- A registry without materials, for a scene without lights. -/
def empty (dialect : Dialect) : MaterialRegistry :=
  ⟨dialect, .empty, {}, [], 0⟩

def size (registry : MaterialRegistry) : Nat :=
  registry.materials.length

def isEmpty (registry : MaterialRegistry) : Bool :=
  registry.materials.isEmpty

def find? (registry : MaterialRegistry) (id : Nat) :
    Option MaterialShaders :=
  registry.materials.lookup id

/-- Adds a material under a new identifier, for the light counts of the
scene. -/
def register (registry : MaterialRegistry) (material : Material) :
    Nat × MaterialRegistry :=
  let shaders := MaterialShaders.ofMaterial material registry.lights
  (registry.nextId,
    { registry with
      materials := registry.materials ++ [(registry.nextId, shaders)]
      nextId := registry.nextId + 1 })

def unregister (registry : MaterialRegistry) (id : Nat) :
    Bool × MaterialRegistry :=
  ((registry.find? id).isSome,
    { registry with
      materials := registry.materials.filter fun entry => entry.1 != id })

/-- Puts a material in the place of the one with its identifier. -/
def replace (registry : MaterialRegistry) (id : Nat)
    (shaders : MaterialShaders) : MaterialRegistry :=
  { registry with
    materials := registry.materials.map fun entry =>
      if entry.1 = id then (id, shaders) else entry }

def state (registry : MaterialRegistry) (id : Nat) :
    Except MaterialError CacheState :=
  match registry.find? id with
  | none => .error (.unknownMaterial id)
  | some shaders => .ok shaders.state

/-- Changes the light counts of one material, and tells whether they are other
ones. -/
def setLightCounts (registry : MaterialRegistry) (id : Nat)
    (lights : LightCounts) :
    Except MaterialError Bool × MaterialRegistry :=
  match registry.find? id with
  | none => (.error (.unknownMaterial id), registry)
  | some shaders =>
      let ((changed, shaders), workshop) :=
        shaders.setLightCounts lights registry.workshop
      (.ok changed, { registry with workshop := workshop }.replace id shaders)

/-- Changes the light counts of each material, and counts those that had other
ones. -/
def setEach (lights : LightCounts) :
    List (Nat × MaterialShaders) →
      Building (Nat × List (Nat × MaterialShaders))
  | [] => pure (0, [])
  | (id, shaders) :: rest => do
      let (changed, shaders) ← shaders.setLightCounts lights
      let (count, rest) ← setEach lights rest
      return ((if changed then 1 else 0) + count, (id, shaders) :: rest)

/-- Changes the light counts of the scene and of every material. Returns the
number of materials that had other ones. -/
def setSceneLightCounts (registry : MaterialRegistry)
    (lights : LightCounts) : Nat × MaterialRegistry :=
  let ((count, materials), workshop) :=
    setEach lights registry.materials registry.workshop
  (count,
    { registry with
      workshop := workshop
      lights := lights
      materials := materials })

/-- The compiled pair of one material, rebuilt if need be. -/
def compiled (registry : MaterialRegistry) (id : Nat) :
    Except MaterialError CompiledPair × MaterialRegistry :=
  match registry.find? id with
  | none => (.error (.unknownMaterial id), registry)
  | some shaders =>
      let ((outcome, shaders), workshop) :=
        shaders.rebuildIfStale registry.dialect registry.workshop
      (outcome.mapError .lowering,
        { registry with workshop := workshop }.replace id shaders)

/-- Rebuilds materials in turn, up to the first that fails. -/
def rebuildEach (dialect : Dialect) :
    List (Nat × MaterialShaders) →
      Building (Except LoweringError Unit × List (Nat × MaterialShaders))
  | [] => pure (.ok (), [])
  | (id, shaders) :: rest => do
      let (outcome, shaders) ← shaders.rebuildIfStale dialect
      match outcome with
      | .error fault => return (.error fault, (id, shaders) :: rest)
      | .ok _ =>
          let (outcome, rest) ← rebuildEach dialect rest
          return (outcome, (id, shaders) :: rest)

/-- Rebuilds every material that is not built, in the order of the
identifiers, up to the first that fails. -/
def rebuildAll (registry : MaterialRegistry) :
    Except MaterialError Unit × MaterialRegistry :=
  let ((outcome, materials), workshop) :=
    rebuildEach registry.dialect registry.materials registry.workshop
  (outcome.mapError .lowering,
    { registry with workshop := workshop, materials := materials })

end MaterialRegistry

end Shaderwright
