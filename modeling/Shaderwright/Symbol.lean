import Shaderwright.Parameter

/-!
Symbols: the stage-level declarations of a lowered shader, as they were when
lowering met them.
-/

namespace Shaderwright

/-- What two declarations of one name have to agree on. -/
structure SymbolShape where
  qualifier : Qualifier
  type : ShaderType
  arrayLength : Nat
deriving DecidableEq, Repr

/-- The length of an array in brackets; nothing for what is not an array. -/
def arraySuffix (length : Nat) : String :=
  if length = 0 then "" else "[" ++ toString length ++ "]"

def SymbolShape.text (shape : SymbolShape) : String :=
  shape.qualifier.name ++ " " ++ shape.type.name ++
    arraySuffix shape.arrayLength

/-- A stage-level declaration. -/
structure Symbol where
  name : String
  qualifier : Qualifier
  type : ShaderType
  arrayLength : Nat
deriving DecidableEq, Repr

def Symbol.shape (symbol : Symbol) : SymbolShape :=
  ⟨symbol.qualifier, symbol.type, symbol.arrayLength⟩

/-- The declaration of a parameter as it is now. -/
def Parameter.symbol (parameter : Parameter) : Symbol where
  name := parameter.name
  qualifier := parameter.qualifier
  type := parameter.type
  arrayLength := parameter.arrayLength

end Shaderwright
