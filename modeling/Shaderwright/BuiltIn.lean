import Shaderwright.ShaderType

/-!
Variables and functions that the target language provides.
-/

namespace Shaderwright

/-- A variable provided by the target language. `output` stands for the result
of the stage: the clip-space position of a vertex stage and the colour of a
fragment stage. -/
inductive BuiltInVariable where
  | output
  | pointSize
  | fragCoord
  | pointCoord
  | frontFacing
deriving DecidableEq, Repr

namespace BuiltInVariable

/-- Every built-in variable, in declaration order. -/
def all : List BuiltInVariable :=
  [output, pointSize, fragCoord, pointCoord, frontFacing]

/-- The name under which a built-in variable is reported. -/
def name : BuiltInVariable → String
  | output => "Output"
  | pointSize => "PointSize"
  | fragCoord => "FragCoord"
  | pointCoord => "PointCoord"
  | frontFacing => "FrontFacing"

def type : BuiltInVariable → ShaderType
  | output => .vector4
  | pointSize => .scalar
  | fragCoord => .vector4
  | pointCoord => .vector2
  | frontFacing => .boolean

/-- Whether the variable exists in the given stage. -/
def availableIn : BuiltInVariable → Stage → Bool
  | output, _ => true
  | pointSize, stage => stage == .vertex
  | fragCoord, stage => stage == .fragment
  | pointCoord, stage => stage == .fragment
  | frontFacing, stage => stage == .fragment

/-- Whether a stage may assign the variable. -/
def isWritable : BuiltInVariable → Bool
  | output => true
  | pointSize => true
  | _ => false

end BuiltInVariable

/-- A function provided by the target language. -/
inductive BuiltInFunction where
  | abs
  | fract
  | fwidth
  | normalize
  | min
  | max
  | distance
  | pow
  | mix
  | dot
  | length
  | clamp
  | discard
  | sqrt
  | sin
  | cos
  | floor
  | step
  | smoothStep
  | reflect
  | cross
  | texture2D
deriving DecidableEq, Repr

namespace BuiltInFunction

/-- Every built-in function, in declaration order. -/
def all : List BuiltInFunction :=
  [abs, fract, fwidth, normalize, min, max, distance, pow, mix, dot, length,
    clamp, discard, sqrt, sin, cos, floor, step, smoothStep, reflect, cross,
    texture2D]

def arity : BuiltInFunction → Nat
  | discard => 0
  | abs => 1
  | fract => 1
  | fwidth => 1
  | normalize => 1
  | length => 1
  | sqrt => 1
  | sin => 1
  | cos => 1
  | floor => 1
  | min => 2
  | max => 2
  | distance => 2
  | pow => 2
  | dot => 2
  | step => 2
  | reflect => 2
  | cross => 2
  | texture2D => 2
  | mix => 3
  | clamp => 3
  | smoothStep => 3

/-- Name of the function in the target language. Dialects replace that of
`texture2D`. -/
def keyword : BuiltInFunction → String
  | abs => "abs"
  | fract => "fract"
  | fwidth => "fwidth"
  | normalize => "normalize"
  | min => "min"
  | max => "max"
  | distance => "distance"
  | pow => "pow"
  | mix => "mix"
  | dot => "dot"
  | length => "length"
  | clamp => "clamp"
  | discard => "discard"
  | sqrt => "sqrt"
  | sin => "sin"
  | cos => "cos"
  | floor => "floor"
  | step => "step"
  | smoothStep => "smoothstep"
  | reflect => "reflect"
  | cross => "cross"
  | texture2D => "texture2D"

/-- The name under which a built-in function is reported. -/
def name : BuiltInFunction → String
  | abs => "Abs"
  | fract => "Fract"
  | fwidth => "FWidth"
  | normalize => "Normalize"
  | min => "Min"
  | max => "Max"
  | distance => "Distance"
  | pow => "Pow"
  | mix => "Mix"
  | dot => "Dot"
  | length => "Length"
  | clamp => "Clamp"
  | discard => "Discard"
  | sqrt => "Sqrt"
  | sin => "Sin"
  | cos => "Cos"
  | floor => "Floor"
  | step => "Step"
  | smoothStep => "SmoothStep"
  | reflect => "Reflect"
  | cross => "Cross"
  | texture2D => "Texture2D"

/-- Type of a call, given what is known of the types of its arguments. Most
functions work component by component and keep the type of their first
argument. -/
def resultType? (function : BuiltInFunction)
    (arguments : List (Option ShaderType)) : Option ShaderType :=
  match function with
  | dot => some .scalar
  | length => some .scalar
  | distance => some .scalar
  | cross => some .vector3
  | texture2D => some .vector4
  | discard => none
  | step => arguments[1]?.join
  | smoothStep => arguments[2]?.join
  | _ => arguments[0]?.join

end BuiltInFunction

end Shaderwright
