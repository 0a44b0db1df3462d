import Shaderwright.BuiltIn

/-!
Dialects: the words that a target language uses for types, qualifiers,
precisions and built-in names. A keyword table may be partial; lowering fails
where it needs a word that is missing.
-/

namespace Shaderwright

/-- A partial assignment of keywords to the members of a family. -/
abbrev KeywordTable (α : Type) : Type :=
  α → Option String

namespace KeywordTable

variable {α : Type}

def empty : KeywordTable α := fun _ => none

/-- Gives a member a keyword, in place of any that it had. -/
def set [DecidableEq α] (table : KeywordTable α) (member : α)
    (keyword : String) : KeywordTable α :=
  fun other => if other = member then some keyword else table other

/-- The entries of a table, in the order in which the family is listed. -/
def entries (table : KeywordTable α) (all : List α) :
    List (α × String) :=
  all.filterMap fun member => (table member).map fun word => (member, word)

end KeywordTable

/-- The words of a target language. -/
structure Dialect where
  name : String
  types : KeywordTable ShaderType
  qualifiers : KeywordTable Qualifier
  precisions : KeywordTable Precision
  positionOutput : String
  colorOutput : String
  pointSize : String
  fragCoord : String
  pointCoord : String
  frontFacing : String
  textureSample : String
  entryPoint : String

namespace Dialect

/-- The dialect of GLSL ES 1.00, which is the default. -/
def glslEs100 : Dialect where
  name := "glsl-es-100"
  types := fun
    | .scalar => some "float"
    | .vector2 => some "vec2"
    | .vector3 => some "vec3"
    | .vector4 => some "vec4"
    | .matrix2 => some "mat2"
    | .matrix3 => some "mat3"
    | .matrix4 => some "mat4"
    | .boolean => some "bool"
    | .texture => some "sampler2D"
  qualifiers := fun
    | .constant => some "uniform"
    | .input => some "attribute"
    | .varying => some "varying"
  precisions := fun
    | .low => some "lowp"
    | .medium => some "mediump"
    | .high => some "highp"
  positionOutput := "gl_Position"
  colorOutput := "gl_FragColor"
  pointSize := "gl_PointSize"
  fragCoord := "gl_FragCoord"
  pointCoord := "gl_PointCoord"
  frontFacing := "gl_FrontFacing"
  textureSample := "texture2D"
  entryPoint := "main"

instance : Inhabited Dialect := ⟨glslEs100⟩

def builtInName (dialect : Dialect) (source : BuiltInVariable)
    (stage : Stage) : String :=
  match source, stage with
  | .output, .vertex => dialect.positionOutput
  | .output, .fragment => dialect.colorOutput
  | .pointSize, _ => dialect.pointSize
  | .fragCoord, _ => dialect.fragCoord
  | .pointCoord, _ => dialect.pointCoord
  | .frontFacing, _ => dialect.frontFacing

def functionName (dialect : Dialect) : BuiltInFunction → String
  | .texture2D => dialect.textureSample
  | function => function.keyword

/-- Whether two dialects use the same words. -/
def equals (first second : Dialect) : Bool :=
  first.name == second.name &&
    ShaderType.all.all (fun type => first.types type == second.types type) &&
    Qualifier.all.all
      (fun member => first.qualifiers member == second.qualifiers member) &&
    Precision.all.all
      (fun member => first.precisions member == second.precisions member) &&
    first.positionOutput == second.positionOutput &&
    first.colorOutput == second.colorOutput &&
    first.pointSize == second.pointSize &&
    first.fragCoord == second.fragCoord &&
    first.pointCoord == second.pointCoord &&
    first.frontFacing == second.frontFacing &&
    first.textureSample == second.textureSample &&
    first.entryPoint == second.entryPoint

end Dialect

end Shaderwright
