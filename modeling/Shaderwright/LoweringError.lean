import Shaderwright.BuiltIn
import Shaderwright.FloatLiteral
import Shaderwright.Symbol

/-!
Why a shader tree cannot be lowered.
-/

namespace Shaderwright

/-- An operation that is a statement and has no value. -/
inductive StatementKind where
  | declaration
  | discard
  | conditional
  | loop
  | return
deriving DecidableEq, Repr

/-- The text under which a kind of statement is reported. -/
def StatementKind.text : StatementKind → String
  | declaration => "declaration"
  | discard => "discard"
  | conditional => "if"
  | loop => "for"
  | «return» => "return"

/-- What stands below the selections of an assignment target that cannot be
assigned. -/
inductive ReadOnlyTarget where
  | parameter (qualifier : Qualifier) (name : String)
  | builtIn (source : BuiltInVariable)
  | operation
  | literal (type : ShaderType)
  | raw (text : String)
deriving DecidableEq, Repr

/-- The text under which an assignment target is reported. -/
def ReadOnlyTarget.text : ReadOnlyTarget → String
  | parameter qualifier name =>
      qualifier.name ++ " parameter `" ++ name ++ "` is read-only"
  | builtIn source => "built-in " ++ source.name ++ " is read-only"
  | operation => "the result of an operation"
  | literal type => type.name ++ " literal"
  | raw text => "raw text `" ++ text ++ "`"

/-- The fault that ends a lowering. -/
inductive LoweringError where
  /-- The dialect has no keyword for a type. -/
  | unmappableType (dialect usedBy : String) (type : ShaderType)
  /-- The dialect has no keyword for a qualifier. -/
  | unmappableQualifier (dialect usedBy : String) (qualifier : Qualifier)
  /-- The dialect has no keyword for a precision. -/
  | unmappablePrecision (dialect : String) (precision : Precision)
  /-- Only constant symbols can be arrays. -/
  | unsupportedDeclaration (name : String) (qualifier : Qualifier)
      (arrayLength : Nat)
  /-- The target of an assignment cannot be assigned. -/
  | invalidTarget (target : ReadOnlyTarget)
  /-- One name is declared in two ways. -/
  | inconsistentSymbol (name : String) (first second : SymbolShape)
  /-- One name is given to two functions. -/
  | inconsistentFunction (name : String)
  /-- A conversion would have to drop components. -/
  | shrinkingConversion (source target : ShaderType)
  /-- The number of components to convert is not known. -/
  | unknownConversionSource (target : ShaderType)
  /-- A constructor has too many or too few components. -/
  | componentMismatch (type : ShaderType) (expected found : Nat)
  /-- A call or a chain has too many or too few operands. -/
  | arityMismatch (name : String) (expected found : Nat)
  /-- A statement stands where a value is wanted. -/
  | statementAsValue (kind : StatementKind)
  /-- A built-in variable does not exist in the stage. -/
  | stageMismatch (source : BuiltInVariable) (stage : Stage)
  /-- Infinities and NaN have no literals. -/
  | nonFiniteLiteral (value : Binary32)
deriving DecidableEq, Repr

def LoweringError.message : LoweringError → String
  | unmappableType dialect usedBy type =>
      "dialect `" ++ dialect ++ "` has no keyword for type " ++ type.name ++
        " (used by `" ++ usedBy ++ "`)"
  | unmappableQualifier dialect usedBy qualifier =>
      "dialect `" ++ dialect ++ "` has no keyword for qualifier " ++
        qualifier.name ++ " (parameter `" ++ usedBy ++ "`)"
  | unmappablePrecision dialect precision =>
      "dialect `" ++ dialect ++ "` has no keyword for precision " ++
        precision.name
  | unsupportedDeclaration name qualifier arrayLength =>
      "parameter `" ++ name ++ "` cannot be declared as a " ++
        qualifier.name ++ " array of length " ++ toString arrayLength
  | invalidTarget target => "invalid assignment target: " ++ target.text
  | inconsistentSymbol name first second =>
      "symbol `" ++ name ++ "` declared as `" ++ first.text ++
        "` and as `" ++ second.text ++ "`"
  | inconsistentFunction name =>
      "two different functions are named `" ++ name ++ "`"
  | shrinkingConversion source target =>
      "cannot convert " ++ source.name ++ " to the smaller " ++ target.name
  | unknownConversionSource target =>
      "cannot infer the component count of the source converted to " ++
        target.name
  | componentMismatch type expected found =>
      type.name ++ " constructor expects " ++ toString expected ++
        " components but was given " ++ toString found
  | arityMismatch name expected found =>
      "`" ++ name ++ "` expects " ++ toString expected ++
        " arguments but was given " ++ toString found
  | statementAsValue kind => kind.text ++ " cannot be used as a value"
  | stageMismatch source stage =>
      "built-in variable " ++ source.name ++
        " is not available in the " ++ stage.name ++ " stage"
  | nonFiniteLiteral value =>
      "literal " ++ value.nonFiniteText ++ " is not finite"

end Shaderwright
