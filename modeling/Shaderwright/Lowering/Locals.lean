import Shaderwright.LoweringError
import Shaderwright.Tree

/-!
Local variables of a body: the parameters of its function and everything that
is declared anywhere in it. Other parameters are symbols of the stage.
-/

namespace Shaderwright

mutual

/-- The parameters declared in an operand, in the order of the text. -/
def Operand.declarations : Operand → List Parameter
  | .operation node => node.declarations
  | _ => []

/-- The parameters declared in an operation, in the order of the text. The
bodies of callees are bodies of their own. -/
def Operation.declarations : Operation → List Parameter
  | .assign _ target value => target.declarations ++ value.declarations
  | .declare symbol => [symbol]
  | .arithmetic _ operands => operandDeclarations operands
  | .compare _ left right => left.declarations ++ right.declarations
  | .select base _ => base.declarations
  | .builtIn _ arguments => operandDeclarations arguments
  | .ifThen condition body =>
      condition.declarations ++ bodyDeclarations body
  | .ifElse condition body alternative =>
      condition.declarations ++ bodyDeclarations body ++
        bodyDeclarations alternative
  | .loop _ _ _ body => bodyDeclarations body
  | .returnValue value => value.declarations
  | .returnVoid => []
  | .call _ arguments => operandDeclarations arguments
  | .construct _ operands => operandDeclarations operands
  | .convert source _ _ => source.declarations

def operandDeclarations : List Operand → List Parameter
  | [] => []
  | operand :: rest => operand.declarations ++ operandDeclarations rest

def bodyDeclarations : List Operation → List Parameter
  | [] => []
  | operation :: rest => operation.declarations ++ bodyDeclarations rest

end

/-- The local variables of a body, one for each name. -/
structure Locals where
  parameters : List Parameter

namespace Locals

def empty : Locals := ⟨[]⟩

def find? (locals : Locals) (name : String) : Option Parameter :=
  locals.parameters.find? fun known => known.name == name

/-- Fails unless a parameter is declared like a known one of its name. -/
def checkSame (known parameter : Parameter) : Except LoweringError Unit :=
  if known.equals parameter then
    .ok ()
  else
    .error <|
      .inconsistentSymbol parameter.name known.symbol.shape
        parameter.symbol.shape

/-- Adds a local variable. A name that is declared again has to be declared
alike. -/
def insert (locals : Locals) (parameter : Parameter) :
    Except LoweringError Locals :=
  match locals.find? parameter.name with
  | some known => (checkSame known parameter).map fun () => locals
  | none => .ok ⟨locals.parameters ++ [parameter]⟩

/-- The local variables given by a list of declarations. -/
def ofDeclarations (declarations : List Parameter) :
    Except LoweringError Locals :=
  declarations.foldlM insert empty

/-- The local variables of a body with the given function parameters. -/
def ofBody (parameters : List Parameter) (body : List Operation) :
    Except LoweringError Locals :=
  ofDeclarations (parameters ++ bodyDeclarations body)

/-- Whether a parameter is a local variable. A symbol of the stage cannot have
the name of a local variable. -/
def isLocal (locals : Locals) (parameter : Parameter) :
    Except LoweringError Bool :=
  match locals.find? parameter.name with
  | some known => (checkSame known parameter).map fun () => true
  | none => .ok false

end Locals

end Shaderwright
