import Shaderwright.Proofs.Scoping.Readings

/-!
Declarations and the blocks that they hold in. The uses that no declaration in
scope precedes are counted twice, in the text of a body and in its tree, and
are the same ones (`strayUses_bodyPieces`): the text keeps the order and the
blocks of the tree.
-/

namespace Shaderwright

/-- Whether a variable of the name of a parameter is visible. -/
def isVisible (visible : List Parameter) (symbol : Parameter) : Bool :=
  visible.any fun known => known.name == symbol.name

/-! ## Scopes in the text -/

/-- The uses in a text that no declaration in scope precedes. A declaration
holds up to the end of its block; `outer` is what was visible before each open
block began. -/
def strayUses (visible : List Parameter) (outer : List (List Parameter)) :
    List Piece → List Parameter
  | [] => []
  | .plain _ :: rest => strayUses visible outer rest
  | .use symbol :: rest =>
      if isVisible visible symbol then
        strayUses visible outer rest
      else
        symbol :: strayUses visible outer rest
  | .declaration symbol _ :: rest =>
      strayUses (symbol :: visible) outer rest
  | .opening :: rest => strayUses visible (visible :: outer) rest
  | .closing :: rest => strayUses (outer.headD []) outer.tail rest

/-! ## Scopes in the tree -/

mutual

/-- The uses in an operand that no declaration precedes, given what is
visible. -/
def Operand.undeclaredUses (visible : List Parameter) :
    Operand → List Parameter
  | .parameter symbol => if isVisible visible symbol then [] else [symbol]
  | .operation node => node.undeclaredUses visible
  | .literal _ | .builtIn _ | .raw _ => []

/-- The uses in an operation that no declaration precedes. -/
def Operation.undeclaredUses (visible : List Parameter) :
    Operation → List Parameter
  | .assign _ left right | .compare _ left right =>
      left.undeclaredUses visible ++
        right.undeclaredUses (left.visibleAfter visible)
  | .arithmetic _ operands | .builtIn _ operands | .call _ operands
  | .construct _ operands => operandsUndeclaredUses visible operands
  | .select operand _ | .returnValue operand | .convert operand _ _ =>
      operand.undeclaredUses visible
  | .ifThen condition body =>
      condition.undeclaredUses visible ++
        bodyUndeclaredUses (condition.visibleAfter visible) body
  | .ifElse condition body alternative =>
      condition.undeclaredUses visible ++
        (bodyUndeclaredUses (condition.visibleAfter visible) body ++
          bodyUndeclaredUses (condition.visibleAfter visible) alternative)
  | .loop _ _ _ body => bodyUndeclaredUses visible body
  | .declare _ | .returnVoid => []

/-- The uses in a list of operands that no declaration precedes. -/
def operandsUndeclaredUses (visible : List Parameter) :
    List Operand → List Parameter
  | [] => []
  | operand :: rest =>
      operand.undeclaredUses visible ++
        operandsUndeclaredUses (operand.visibleAfter visible) rest

/-- The uses in a body that no declaration precedes, neither in the body nor
around it. -/
def bodyUndeclaredUses (visible : List Parameter) :
    List Operation → List Parameter
  | [] => []
  | operation :: rest =>
      operation.undeclaredUses visible ++
        bodyUndeclaredUses (operation.visibleAfter visible) rest

end

/-! ## The text keeps the scopes of the tree -/

/-- Stray uses as what a reading finds. All that is visible in front of a block
is visible in it. -/
def strayReading : BlockReading Parameter where
  read := strayUses
  opening visible := visible
  use visible symbol := if isVisible visible symbol then [] else [symbol]
  closing _ := []
  read_plain _ _ _ _ := rfl
  read_use visible outer symbol rest := by
    rw [strayUses]
    split <;> rfl
  read_declaration _ _ _ _ _ := rfl
  read_opening _ _ _ := rfl
  read_closing _ _ _ := rfl

@[simp]
theorem strayReading_opening (visible : List Parameter) :
    strayReading.opening visible = visible := by
  rfl

@[simp]
theorem strayReading_closing (visible : List Parameter) :
    strayReading.closing visible = [] := by
  rfl

mutual

private theorem operand_found_stray : ∀ (operand : Operand)
    (visible : List Parameter),
    operand.found strayReading visible = operand.undeclaredUses visible
  | .parameter _, _ | .literal _, _ | .builtIn _, _ | .raw _, _ => by
      rfl
  | .operation node, visible => by
      rw [Operand.found, Operand.undeclaredUses, operation_found_stray node]

private theorem operation_found_stray : ∀ (node : Operation)
    (visible : List Parameter),
    node.found strayReading visible = node.undeclaredUses visible
  | .assign _ left right, _ | .compare _ left right, _ => by
      rw [Operation.found, Operation.undeclaredUses,
        operand_found_stray left, operand_found_stray right]
  | .declare _, _ | .returnVoid, _ => by
      rfl
  | .arithmetic _ operands, _ | .builtIn _ operands, _
  | .call _ operands, _ | .construct _ operands, _ => by
      rw [Operation.found, Operation.undeclaredUses,
        operands_found_stray operands]
  | .select operand _, _ | .returnValue operand, _
  | .convert operand _ _, _ => by
      rw [Operation.found, Operation.undeclaredUses,
        operand_found_stray operand]
  | .ifThen condition body, _ => by
      simp [Operation.found, Operation.undeclaredUses,
        operand_found_stray condition, body_found_stray body]
  | .ifElse condition body alternative, _ => by
      simp [Operation.found, Operation.undeclaredUses,
        operand_found_stray condition, body_found_stray body,
        body_found_stray alternative]
  | .loop _ _ _ body, _ => by
      simp [Operation.found, Operation.undeclaredUses,
        body_found_stray body]

private theorem operands_found_stray : ∀ (operands : List Operand)
    (visible : List Parameter),
    operandsFound strayReading visible operands =
      operandsUndeclaredUses visible operands
  | [], _ => by
      rfl
  | operand :: rest, _ => by
      rw [operandsFound, operandsUndeclaredUses, operand_found_stray operand,
        operands_found_stray rest]

private theorem body_found_stray : ∀ (body : List Operation)
    (visible : List Parameter),
    bodyFound strayReading visible body = bodyUndeclaredUses visible body
  | [], _ => by
      rfl
  | operation :: rest, _ => by
      rw [bodyFound, bodyUndeclaredUses, operation_found_stray operation,
        body_found_stray rest]

end

/-- The stray uses in the text of a body are the undeclared uses in the
body. -/
theorem strayUses_bodyPieces {target : Target} {body : List Operation}
    {level : Nat}
    (bare : ∀ visit ∈ bodyVisits level body, visit.DiscardsBare)
    (visible : List Parameter) :
    strayUses visible [] (bodyPieces target level body) =
      bodyUndeclaredUses visible body := by
  have read : strayUses visible [] (bodyPieces target level body) = _ :=
    strayReading.read_bodyPieces bare visible
  rw [read, body_found_stray]
  exact List.append_nil _

end Shaderwright
