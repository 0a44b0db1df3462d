import Shaderwright.Material
import Shaderwright.Material.Transform

/-!
An unlit material that draws smooth lines along the edges of a unit grid.
-/

namespace Shaderwright.Grid

open Transform

def gridPosition : Parameter := ⟨10, "vPosition", .vector3, .varying, 0⟩

def color : Parameter := ⟨11, "color", .vector4, .constant, 0⟩

def lineColor : Parameter := ⟨12, "lineColor", .vector4, .constant, 0⟩

def lineWidth : Parameter := ⟨13, "lineWidth", .scalar, .constant, 0⟩

def alphaThreshold : Parameter :=
  ⟨14, "alphaThreshold", .scalar, .constant, 0⟩

def cell : Parameter := ⟨15, "cell", .vector3, .varying, 0⟩

def line : Parameter := ⟨16, "line", .scalar, .varying, 0⟩

def result : Parameter := ⟨17, "result", .vector4, .varying, 0⟩

/-- Distance to the nearest edge of the grid, in pixels. -/
def edgeDistance : Operation :=
  let inCell :=
    Operation.builtIn .fract [Operation.minus gridPosition .half]
  .quotient
    (Operation.builtIn .abs [Operation.minus inCell .half])
    (Operation.builtIn .fwidth [gridPosition])

def vertexShader : Shader where
  stage := .vertex
  precision := none
  operations := [.set gridPosition position, project]

def fragmentShader : Shader where
  stage := .fragment
  precision := some .medium
  operations :=
    [ .introduce cell edgeDistance,
      .introduce line <|
        Operation.minimum
          (Operation.minimum (Operation.select cell ".x")
            (Operation.select cell ".y"))
          (Operation.select cell ".z"),
      .introduce result <|
        Operation.builtIn .mix
          [ lineColor,
            color,
            Operation.minimum (Operation.quotient line lineWidth)
              (.whole 1) ],
      .ifThen
        (Operation.compare .less (Operation.select result ".a")
          alphaThreshold)
        [.builtIn .discard []],
      .set BuiltInVariable.output result ]

end Grid

/-- The grid material of the given name. Lights do not affect it. -/
def Material.grid (name : String) : Material where
  name := name
  build := fun _ => return ⟨Grid.vertexShader, Grid.fragmentShader⟩

end Shaderwright
