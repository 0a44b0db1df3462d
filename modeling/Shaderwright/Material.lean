import Shaderwright.FunctionCache
import Shaderwright.Lowering

/-!
Materials and their compiled shaders. A material builds the trees of both
stages for given light counts; `MaterialShaders` keeps what was compiled from
them until the light counts change.
-/

namespace Shaderwright

/-! ## Building -/

/-- What is shared by everything that is built: the function cache, and the
events so far. -/
structure Workshop where
  functions : FunctionCache
  events : List Event

namespace Workshop

def empty : Workshop := ⟨.empty, []⟩

def record (workshop : Workshop) (events : List Event) : Workshop :=
  { workshop with events := workshop.events ++ events }

end Workshop

/-- A computation in the workshop. -/
abbrev Building : Type → Type :=
  StateM Workshop

namespace Building

def record (events : List Event) : Building Unit :=
  modify fun workshop => workshop.record events

/-- The function of a key, built if it is not in the cache. -/
def function (key : String) (build : Unit → ShaderFunction) :
    Building ShaderFunction := do
  let workshop ← get
  let (answer, functions) := workshop.functions.request key build
  set { workshop with functions := functions }
  record [if answer.built then
    .cacheMiss key answer.function.name
  else
    .cacheHit key]
  return answer.function

end Building

structure ShaderPair where
  vertex : Shader
  fragment : Shader

structure CompiledPair where
  vertex : CompiledShader
  fragment : CompiledShader
deriving DecidableEq, Repr

/-- Lowers both stages, the vertex stage first. -/
def ShaderPair.compile (dialect : Dialect) (pair : ShaderPair) :
    Except LoweringError CompiledPair × List Event :=
  match lowerWithEvents dialect pair.vertex with
  | (.error fault, events) => (.error fault, events)
  | (.ok vertex, events) =>
      match lowerWithEvents dialect pair.fragment with
      | (.error fault, more) => (.error fault, events ++ more)
      | (.ok fragment, more) => (.ok ⟨vertex, fragment⟩, events ++ more)

/-- A material: its name, and the trees it builds for given light counts. -/
structure Material where
  name : String
  build : LightCounts → Building ShaderPair

/-! ## Compiled shaders of a material -/

/-- A material with its light counts, the pair that was compiled for them, if
there is one, and the state that is reported. -/
structure MaterialShaders where
  material : Material
  lights : LightCounts
  compiled? : Option CompiledPair
  state : CacheState

namespace MaterialShaders

/-- A material for the given light counts, not built yet. -/
def ofMaterial (material : Material) (lights : LightCounts) :
    MaterialShaders :=
  ⟨material, lights, none, .unbuilt⟩

/-- Takes the compiled pair out. The state is left as it is. -/
def take (shaders : MaterialShaders) :
    Option CompiledPair × MaterialShaders :=
  (shaders.compiled?, { shaders with compiled? := none })

/-- Keeps a compiled pair. The state is left as it is. -/
def insert (shaders : MaterialShaders) (pair : CompiledPair) :
    MaterialShaders :=
  { shaders with compiled? := some pair }

/-- Drops the compiled pair, if there is one, so that it is compiled again
before the next use. -/
def invalidate (shaders : MaterialShaders) : MaterialShaders :=
  match shaders.take with
  | (some _, shaders) => { shaders with state := .stale }
  | (none, shaders) => shaders

/-- Changes the light counts, and drops what was compiled for other ones.
Tells whether they are other ones. -/
def setLightCounts (shaders : MaterialShaders) (lights : LightCounts) :
    Building (Bool × MaterialShaders) := do
  if lights = shaders.lights then
    return (false, shaders)
  else
    Building.record
      [.lightCountsChanged shaders.material.name shaders.lights lights]
    return (true, { shaders with lights := lights }.invalidate)

/-- The compiled pair for the light counts, which is built and lowered unless
there is one. The pair is taken out meanwhile; where lowering fails, there was
none. -/
def rebuildIfStale (shaders : MaterialShaders) (dialect : Dialect) :
    Building (Except LoweringError CompiledPair × MaterialShaders) := do
  match shaders.take with
  | (some pair, shaders) => return (.ok pair, shaders.insert pair)
  | (none, shaders) =>
      let trees ← shaders.material.build shaders.lights
      let (outcome, events) := trees.compile dialect
      Building.record events
      match outcome with
      | .error fault => return (.error fault, shaders)
      | .ok pair =>
          Building.record
            [.shadersRebuilt shaders.material.name shaders.state
              shaders.lights pair.vertex.source.utf8ByteSize
              pair.fragment.source.utf8ByteSize]
          return (.ok pair, { shaders with state := .built }.insert pair)

section Pairs

variable {shaders : MaterialShaders} {pair : CompiledPair}

theorem take_of_missing (missing : shaders.compiled? = none) :
    shaders.take = (none, shaders) := by
  obtain ⟨material, lights, compiled?, state⟩ := shaders
  cases missing
  rfl

theorem take_of_compiled (kept : shaders.compiled? = some pair) :
    shaders.take = (some pair, { shaders with compiled? := none }) := by
  rw [take, kept]

/-- A pair that was taken out is put back by keeping it. -/
theorem insert_taken (kept : shaders.compiled? = some pair) :
    ({ shaders with compiled? := none } : MaterialShaders).insert pair =
      shaders := by
  obtain ⟨material, lights, compiled?, state⟩ := shaders
  cases kept
  rfl

theorem invalidate_of_missing (missing : shaders.compiled? = none) :
    shaders.invalidate = shaders := by
  rw [invalidate, take_of_missing missing]

theorem invalidate_of_compiled (kept : shaders.compiled? = some pair) :
    shaders.invalidate =
      { shaders with compiled? := none, state := .stale } := by
  rw [invalidate, take_of_compiled kept]

end Pairs

end MaterialShaders

end Shaderwright
