import Shaderwright.Tree

/-!
Types of operands and operations, as far as they can be known without running
the shader. A type is inferred and never checked: lowering asks for it where
the number of components matters.
-/

namespace Shaderwright

def allKnown? : List (Option ShaderType) → Option (List ShaderType)
  | [] => some []
  | none :: _ => none
  | some type :: rest => (allKnown? rest).map (type :: ·)

/-- The vector type with the most components in a list. -/
def widestVector? : List ShaderType → Option ShaderType
  | [] => none
  | type :: rest =>
      match widestVector? rest with
      | none => if type.isVector then some type else none
      | some widest =>
          if type.isVector && widest.size < type.size then
            some type
          else
            some widest

/-- Type of an arithmetic chain with operands of the given types. Vectors win
over matrices, because a matrix times a vector is a vector, and matrices win
over scalars. -/
def arithmeticType? (types : List (Option ShaderType)) :
    Option ShaderType :=
  match allKnown? types with
  | none => none
  | some known =>
      widestVector? known <|> known.find? ShaderType.isMatrix <|>
        known.head?

/-- The letters that select components of a vector. -/
def swizzleLetters : List Char :=
  ['x', 'y', 'z', 'w', 'r', 'g', 'b', 'a', 's', 't', 'p', 'q']

/-- Type of a selection by a suffix that starts with a point: the vector of
the selected components, if the base is a vector. -/
def swizzleType? (base : ShaderType) (fields : List Char) :
    Option ShaderType :=
  if base.isVector && !fields.isEmpty &&
      fields.all (swizzleLetters.contains ·) then
    ShaderType.vector? fields.length
  else
    none

def elementType? (base : ShaderType) : Option ShaderType :=
  if base.isMatrix then
    base.column?
  else if base.isVector then
    some .scalar
  else
    none

/-- Type of the selection of a suffix from a value of type `base`. `array?` is
the element type of the base where it is an array. -/
def selectionType? (base : ShaderType) (array? : Option ShaderType)
    (suffix : String) : Option ShaderType :=
  match suffix.toList with
  | '.' :: fields => swizzleType? base fields
  | '[' :: inner =>
      if inner.getLast? = some ']' then
        array? <|> elementType? base
      else
        none
  | _ => none

/-- The element type of an operand that is an array. -/
def Operand.arrayType? : Operand → Option ShaderType
  | .parameter symbol =>
      if symbol.isArray then some symbol.type else none
  | _ => none

mutual

def Operand.type? : Operand → Option ShaderType
  | .parameter symbol => some symbol.type
  | .literal value => some value.type
  | .builtIn source => some source.type
  | .operation node => node.type?
  | .raw _ => none

def Operation.type? : Operation → Option ShaderType
  | .assign _ target _ => target.type?
  | .declare symbol => some symbol.type
  | .arithmetic _ operands => arithmeticType? (operandTypes operands)
  | .compare .. => some .boolean
  | .select base suffix =>
      match base.type? with
      | none => none
      | some type => selectionType? type base.arrayType? suffix
  | .builtIn function arguments =>
      function.resultType? (operandTypes arguments)
  | .ifThen .. => none
  | .ifElse .. => none
  | .loop .. => none
  | .returnValue _ => none
  | .returnVoid => none
  | .call function _ => function.returnType
  | .construct type _ => some type
  | .convert _ target _ => some target

def operandTypes : List Operand → List (Option ShaderType)
  | [] => []
  | operand :: rest => operand.type? :: operandTypes rest

end

/-- Number of components of an operand, if its type is known and has any. -/
def Operand.components? (operand : Operand) : Option Nat :=
  operand.type?.bind ShaderType.components?

/-- Number of components a conversion has to add, if both counts are known. It
is zero where the source is the larger; lowering rejects that conversion. -/
def missingComponents? (source : Operand) (target : ShaderType) :
    Option Nat :=
  match source.components?, target.components? with
  | some found, some wanted => some (wanted - found)
  | _, _ => none

end Shaderwright
