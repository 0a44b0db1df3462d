import Shaderwright.Material
import Shaderwright.Material.Transform

/-!
A diffuse material, lit by directional, point and spot lights. The data of the
lights of one kind come in arrays with one element for each light; a kind
without lights leaves no trace in the fragment stage.
-/

namespace Shaderwright.Lambert

open Transform

/-! ## Parts of the lighting functions -/

def arrayOf (handle : Nat) (name : String) (length : Nat) : Parameter :=
  ⟨handle, name, .vector3, .constant, length⟩

/-- The element of an array for the light at hand. -/
def current (array : Parameter) : Operation :=
  .select array "[i]"

def surfaceNormal : Parameter := ⟨10, "normal", .vector3, .constant, 0⟩

def surfacePosition : Parameter := ⟨11, "position", .vector3, .constant, 0⟩

def sum : Parameter := ⟨12, "sum", .vector3, .varying, 0⟩

def zero : Operand :=
  .literal (.vector3 #v[.ofInt 0, .ofInt 0, .ofInt 0])

def diffuse (direction : Operand) : Operation :=
  .maximum (Operation.dotProduct surfaceNormal direction) (.whole 0)

/-- A function that adds up the contributions of the lights of one kind. -/
def summing (name : String) (parameters : List Parameter) (count : Nat)
    (contribution : List Operation) : ShaderFunction where
  handle := 0
  name := name
  returnType := some .vector3
  parameters := parameters
  body :=
    [ .introduce sum zero,
      .countedLoop "i" count contribution,
      .returnValue sum ]

/-- Light from infinitely far away. Directions point from the surface towards
the lights. -/
def directionalLighting (count : Nat) : ShaderFunction :=
  let directions := arrayOf 20 "directions" count
  let colors := arrayOf 21 "colors" count
  summing "directionalLighting" [surfaceNormal, directions, colors] count
    [ .addTo sum <|
        Operation.times (current colors) (diffuse (current directions)) ]

/-- Light from points, weakened by the distance. -/
def pointLighting (count : Nat) : ShaderFunction :=
  let positions := arrayOf 30 "positions" count
  let colors := arrayOf 31 "colors" count
  let toLight : Parameter := ⟨32, "toLight", .vector3, .varying, 0⟩
  let attenuation : Parameter := ⟨33, "attenuation", .scalar, .varying, 0⟩
  summing "pointLighting"
    [surfaceNormal, surfacePosition, positions, colors] count
    [ .introduce toLight <|
        Operation.minus (current positions) surfacePosition,
      .introduce attenuation <|
        Operation.quotient (.whole 1) <|
          Operation.plus (.whole 1) (Operation.dotProduct toLight toLight),
      .addTo sum <|
        Operation.product
          [ current colors,
            diffuse (Operation.normalized toLight),
            attenuation ] ]

/-- Light from points into cones. Directions point from the lights into the
scene, and cutoffs are the cosines of half the opening angles. -/
def spotLighting (count : Nat) : ShaderFunction :=
  let positions := arrayOf 40 "positions" count
  let directions := arrayOf 41 "directions" count
  let colors := arrayOf 42 "colors" count
  let cutoffs : Parameter := ⟨43, "cutoffs", .scalar, .constant, count⟩
  let facing : Parameter := ⟨44, "facing", .scalar, .varying, 0⟩
  let fromLight := Operation.minus surfacePosition (current positions)
  let toLight := Operation.minus (current positions) surfacePosition
  summing "spotLighting"
    [ surfaceNormal, surfacePosition, positions, directions, colors,
      cutoffs ] count
    [ .introduce facing <|
        Operation.dotProduct (Operation.normalized fromLight)
          (current directions),
      .ifThen (Operation.compare .greater facing (current cutoffs))
        [ .addTo sum <|
            Operation.times (current colors)
              (diffuse (Operation.normalized toLight)) ] ]

/-! ## Symbols of the stages -/

def vertexNormal : Parameter := ⟨50, "normal", .vector3, .input, 0⟩

def normal : Parameter := ⟨51, "vNormal", .vector3, .varying, 0⟩

def worldPosition : Parameter :=
  ⟨52, "vWorldPosition", .vector3, .varying, 0⟩

def baseColor : Parameter := ⟨53, "baseColor", .vector3, .constant, 0⟩

def ambientColor : Parameter := ⟨54, "ambientColor", .vector3, .constant, 0⟩

def unitNormal : Parameter := ⟨55, "n", .vector3, .varying, 0⟩

/-- The light collected so far. -/
def light : Parameter := ⟨56, "light", .vector3, .varying, 0⟩

/-! ## The stages -/

/-- The first three coordinates of a vector in world space. -/
def inWorldSpace (vector : Operation) : Operation :=
  .select (Operation.times model vector) ".xyz"

def vertexShader : Shader where
  stage := .vertex
  precision := none
  operations :=
    [ .set worldPosition (inWorldSpace (point position)),
      .set normal (inWorldSpace (direction vertexNormal)),
      project ]

/-- Adds the light of one kind. The lighting function comes from the cache,
under a key that tells the kind and the number of lights. -/
def addLight (kind : String) (count : Nat) (build : Nat → ShaderFunction)
    (arguments : List Operand) : Building (List Operation) := do
  if count = 0 then
    return []
  else
    let key := kind ++ "_lighting/" ++ toString count
    let function ← Building.function key fun () => build count
    return [.addTo light (Operation.call function arguments)]

def addDirectionalLight (count : Nat) : Building (List Operation) :=
  addLight "directional" count directionalLighting
    [ unitNormal,
      arrayOf 60 "directionalDirections" count,
      arrayOf 61 "directionalColors" count ]

def addPointLight (count : Nat) : Building (List Operation) :=
  addLight "point" count pointLighting
    [ unitNormal,
      worldPosition,
      arrayOf 62 "pointPositions" count,
      arrayOf 63 "pointColors" count ]

def addSpotLight (count : Nat) : Building (List Operation) :=
  let cutoffs : Parameter := ⟨67, "spotCutoffs", .scalar, .constant, count⟩
  addLight "spot" count spotLighting
    [ unitNormal,
      worldPosition,
      arrayOf 64 "spotPositions" count,
      arrayOf 65 "spotDirections" count,
      arrayOf 66 "spotColors" count,
      cutoffs ]

def fragmentShader (precision : Precision) (lights : LightCounts) :
    Building Shader := do
  let directional ← addDirectionalLight lights.directional
  let point ← addPointLight lights.point
  let spot ← addSpotLight lights.spot
  return {
    stage := .fragment
    precision := some precision
    operations :=
      [ .introduce unitNormal (Operation.normalized normal),
        .introduce light ambientColor ] ++
      directional ++ point ++ spot ++
      [ .set BuiltInVariable.output <|
          Transform.point (Operation.times baseColor light) ] }

end Lambert

/-- The diffuse material of the given name and fragment precision. -/
def Material.lambert (name : String) (precision : Precision) :
    Material where
  name := name
  build := fun lights => do
    let fragment ← Lambert.fragmentShader precision lights
    return ⟨Lambert.vertexShader, fragment⟩

end Shaderwright
