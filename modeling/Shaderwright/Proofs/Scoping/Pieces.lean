import Shaderwright.Proofs.WrittenText

/-!
The text of a body in pieces. Names of variables stand apart from the rest of
the text, as uses or as declarations, and so do the braces of blocks. The
pieces of a body make up its text (`written_bodyPieces`).
-/

namespace Shaderwright

/-! ## Pieces -/

/-- A piece of text. `declaration` is the type of a variable with its name. -/
inductive Piece where
  | plain (text : String)
  | use (symbol : Parameter)
  | declaration (symbol : Parameter) (text : String)
  | opening
  | closing

def Piece.text : Piece → String
  | plain text => text
  | use symbol => symbol.name
  | declaration _ text => text
  | opening => "\x7b\n"
  | closing => "\x7d"

/-- The text that pieces make up. -/
def written : List Piece → String
  | [] => ""
  | piece :: rest => piece.text ++ written rest

/-- Lists of pieces with a separator between them. -/
def joinedPieces (separator : String) : List (List Piece) → List Piece
  | [] => []
  | [pieces] => pieces
  | pieces :: next :: rest =>
      pieces ++ .plain separator :: joinedPieces separator (next :: rest)

/-- The pieces of a call, given those of its arguments. -/
def callPieces (name : String) (arguments : List (List Piece)) :
    List Piece :=
  .plain (name ++ "(") :: (joinedPieces ", " arguments ++ [.plain ")"])

/-- The pieces of an operation that has a value, at its position. -/
def Position.expressionPieces (position : Position) (pieces : List Piece) :
    List Piece :=
  match position with
  | statement level =>
      .plain (indentation level) :: (pieces ++ [.plain ";\n"])
  | value => pieces

/-- The pieces of an operand of an operator, or of the base of a selection. -/
def Operand.parenthesizedPieces (operand : Operand) (pieces : List Piece) :
    List Piece :=
  if operand.isInfix then
    .plain "(" :: (pieces ++ [.plain ")"])
  else
    pieces

def parenthesizedAllPieces :
    List Operand → List (List Piece) → List (List Piece)
  | operand :: operands, pieces :: others =>
      operand.parenthesizedPieces pieces ::
        parenthesizedAllPieces operands others
  | _, _ => []

/-- A block between braces, behind its head. -/
def blockPieces (head : List Piece) (body : List Piece) (level : Nat) :
    List Piece :=
  head ++ .opening :: (body ++ [.plain (indentation level), .closing])

mutual

/-- The pieces of an operand. -/
def Operand.pieces (target : Target) : Operand → List Piece
  | .parameter symbol => [.use symbol]
  | .literal value => [.plain (resultOf (target.literalText value))]
  | .builtIn source => [.plain (resultOf (lowerBuiltIn target source))]
  | .operation node => node.pieces target .value
  | .raw text => [.plain text]

/-- The pieces of an operation at its position. -/
def Operation.pieces (target : Target) (position : Position) :
    Operation → List Piece
  | .assign operator assigned value =>
      position.expressionPieces <|
        (match assigned.declared? with
          | some symbol =>
              [.declaration symbol (resultOf (target.variableText symbol))]
          | none => assigned.pieces target) ++
          .plain (" " ++ operator.symbol ++ " ") :: value.pieces target
  | .declare symbol =>
      [ .plain (indentation position.depth),
        .declaration symbol (resultOf (target.sizedVariableText symbol)),
        .plain ";\n" ]
  | .arithmetic operator operands =>
      position.expressionPieces <|
        joinedPieces (" " ++ operator.symbol ++ " ")
          (parenthesizedAllPieces operands (operandPieces target operands))
  | .compare operator left right =>
      position.expressionPieces <|
        left.parenthesizedPieces (left.pieces target) ++
          .plain (" " ++ operator.symbol ++ " ") ::
            right.parenthesizedPieces (right.pieces target)
  | .select base suffix =>
      position.expressionPieces <|
        base.parenthesizedPieces (base.pieces target) ++ [.plain suffix]
  | .builtIn function arguments =>
      if function = .discard then
        [.plain (indentation position.depth ++ "discard;\n")]
      else
        position.expressionPieces <|
          callPieces (target.dialect.functionName function)
            (operandPieces target arguments)
  | .ifThen condition body =>
      blockPieces
          (.plain (indentation position.depth ++ "if (") ::
            (condition.pieces target ++ [.plain ") "]))
          (bodyPieces target (position.depth + 1) body) position.depth ++
        [.plain "\n"]
  | .ifElse condition body alternative =>
      blockPieces
          (.plain (indentation position.depth ++ "if (") ::
            (condition.pieces target ++ [.plain ") "]))
          (bodyPieces target (position.depth + 1) body) position.depth ++
        (blockPieces [.plain " else "]
            (bodyPieces target (position.depth + 1) alternative)
            position.depth ++
          [.plain "\n"])
  | .loop initial condition step body =>
      blockPieces
          [.plain (indentation position.depth ++ "for (" ++ initial ++
            "; " ++ condition ++ "; " ++ step ++ ") ")]
          (bodyPieces target (position.depth + 1) body) position.depth ++
        [.plain "\n"]
  | .returnValue value =>
      .plain (indentation position.depth ++ "return ") ::
        (value.pieces target ++ [.plain ";\n"])
  | .returnVoid => [.plain (indentation position.depth ++ "return;\n")]
  | .call function arguments =>
      position.expressionPieces <|
        callPieces function.name (operandPieces target arguments)
  | .construct type operands =>
      position.expressionPieces <|
        callPieces (resultOf (target.typeKeyword type "constructor"))
          (operandPieces target operands)
  | .convert source type pad =>
      position.expressionPieces <|
        callPieces (resultOf (target.typeKeyword type "conversion"))
          (source.pieces target ::
            (resultOf (paddingTexts source type pad)).map fun text =>
              [.plain text])

/-- The pieces of each operand of a list. -/
def operandPieces (target : Target) : List Operand → List (List Piece)
  | [] => []
  | operand :: rest => operand.pieces target :: operandPieces target rest

/-- The pieces of a body at a level of indentation. -/
def bodyPieces (target : Target) (level : Nat) :
    List Operation → List Piece
  | [] => []
  | operation :: rest =>
      operation.pieces target (.statement level) ++
        bodyPieces target level rest

end

theorem operandPieces_eq_map (target : Target) (operands : List Operand) :
    operandPieces target operands =
      operands.map (Operand.pieces target) := by
  induction operands with
  | nil =>
      simp [operandPieces]
  | cons operand rest inductionHypothesis =>
      simp [operandPieces, inductionHypothesis]

theorem parenthesizedAllPieces_eq_map (target : Target)
    (operands : List Operand) :
    parenthesizedAllPieces operands (operandPieces target operands) =
      operands.map fun operand =>
        operand.parenthesizedPieces (operand.pieces target) := by
  induction operands with
  | nil =>
      simp [parenthesizedAllPieces]
  | cons operand rest inductionHypothesis =>
      simp [parenthesizedAllPieces, operandPieces, inductionHypothesis]

/-! ## The text of pieces -/

@[simp]
theorem written_append (first second : List Piece) :
    written (first ++ second) = written first ++ written second := by
  induction first with
  | nil =>
      simp [written]
  | cons piece rest inductionHypothesis =>
      simp [written, inductionHypothesis, String.append_assoc]

theorem written_joinedPieces (separator : String) :
    ∀ parts : List (List Piece),
      written (joinedPieces separator parts) =
        separator.intercalate (parts.map written)
  | [] => by
      rfl
  | [pieces] => by
      simp [joinedPieces]
  | pieces :: next :: rest => by
      have later := written_joinedPieces separator (next :: rest)
      rw [List.map_cons] at later
      simp [joinedPieces, written, Piece.text, later,
        String.intercalate_cons_cons, String.append_assoc]

theorem written_callPieces (name : String)
    (arguments : List (List Piece)) :
    written (callPieces name arguments) =
      callText name (arguments.map written) := by
  simp [callPieces, callText, written, Piece.text, written_joinedPieces,
    String.append_assoc]

theorem written_expressionPieces (position : Position)
    (pieces : List Piece) :
    written (position.expressionPieces pieces) =
      position.expression (written pieces) := by
  cases position with
  | statement level =>
      simp [Position.expressionPieces, Position.expression, written,
        Piece.text, String.append_assoc]
  | value =>
      rfl

theorem written_parenthesizedPieces (operand : Operand)
    (pieces : List Piece) :
    written (operand.parenthesizedPieces pieces) =
      operand.parenthesized (written pieces) := by
  unfold Operand.parenthesizedPieces Operand.parenthesized
  split
  · simp [written, Piece.text, String.append_assoc]
  · rfl

theorem map_written_parenthesizedAllPieces (operands : List Operand)
    (parts : List (List Piece)) :
    (parenthesizedAllPieces operands parts).map written =
      parenthesizedAll operands (parts.map written) := by
  induction operands generalizing parts with
  | nil =>
      simp [parenthesizedAllPieces, parenthesizedAll]
  | cons operand rest inductionHypothesis =>
      cases parts with
      | nil =>
          simp [parenthesizedAllPieces, parenthesizedAll]
      | cons pieces others =>
          simp [parenthesizedAllPieces, parenthesizedAll,
            written_parenthesizedPieces, inductionHypothesis]

theorem written_blockPieces (head body : List Piece) (level : Nat) :
    written (blockPieces head body level) =
      written head ++ "\x7b\n" ++ written body ++ indentation level ++
        "\x7d" := by
  simp [blockPieces, written, Piece.text, String.append_assoc]

section Text

variable (target : Target)

mutual

theorem written_operandPieces : ∀ operand : Operand,
    written (operand.pieces target) = operand.text target
  | .parameter _ | .literal _ | .builtIn _ | .raw _ => by
      simp [Operand.pieces, Operand.text, written, Piece.text]
  | .operation node => by
      simp [Operand.pieces, Operand.text,
        written_operationPieces .value node]

theorem written_operationPieces (position : Position) :
    ∀ node : Operation,
      written (node.pieces target position) = node.text target position
  | .assign operator assigned value => by
      have right := written_operandPieces value
      cases declared : assigned.declared? with
      | some symbol =>
          simp [Operation.pieces, Operation.text, declared,
            written_expressionPieces, written, Piece.text, right,
            String.append_assoc]
      | none =>
          simp [Operation.pieces, Operation.text, declared,
            written_expressionPieces, written, Piece.text, right,
            written_operandPieces assigned, String.append_assoc]
  | .declare _ | .returnVoid => by
      simp [Operation.pieces, Operation.text, written, Piece.text,
        String.append_assoc]
  | .arithmetic _ operands => by
      simp [Operation.pieces, Operation.text, written_expressionPieces,
        written_joinedPieces, map_written_parenthesizedAllPieces,
        map_written_operandPieces operands]
  | .compare _ left right => by
      simp [Operation.pieces, Operation.text, written_expressionPieces,
        written, Piece.text, written_parenthesizedPieces,
        written_operandPieces left, written_operandPieces right,
        String.append_assoc]
  | .select base _ => by
      simp [Operation.pieces, Operation.text, written_expressionPieces,
        written, Piece.text, written_parenthesizedPieces,
        written_operandPieces base]
  | .builtIn function arguments => by
      by_cases discards : function = .discard
      · simp [Operation.pieces, Operation.text, discards, written,
          Piece.text]
      · simp [Operation.pieces, Operation.text, discards,
          written_expressionPieces, written_callPieces,
          map_written_operandPieces arguments]
  | .ifThen condition body => by
      simp [Operation.pieces, Operation.text, written_blockPieces, written,
        Piece.text, written_operandPieces condition,
        written_bodyPieces _ body, String.append_assoc]
  | .ifElse condition body alternative => by
      have between (later : String) :
          "\x7d" ++ (" else \x7b\n" ++ later) =
            "\x7d else \x7b\n" ++ later := by
        rw [← String.append_assoc]
        rfl
      simp [Operation.pieces, Operation.text, written_blockPieces, written,
        Piece.text, written_operandPieces condition,
        written_bodyPieces _ body, written_bodyPieces _ alternative,
        String.append_assoc, between]
  | .loop _ _ _ body => by
      simp [Operation.pieces, Operation.text, written_blockPieces, written,
        Piece.text, written_bodyPieces _ body, String.append_assoc]
  | .returnValue value => by
      simp [Operation.pieces, Operation.text, written, Piece.text,
        written_operandPieces value, String.append_assoc]
  | .call _ operands | .construct _ operands => by
      simp [Operation.pieces, Operation.text, written_expressionPieces,
        written_callPieces, map_written_operandPieces operands]
  | .convert source _ _ => by
      simp [Operation.pieces, Operation.text, written_expressionPieces,
        written_callPieces, written_operandPieces source, written,
        Piece.text, Function.comp_def]

theorem map_written_operandPieces : ∀ operands : List Operand,
    (operandPieces target operands).map written =
      operandTexts target operands
  | [] => by
      simp [operandPieces, operandTexts]
  | operand :: rest => by
      simp [operandPieces, operandTexts, written_operandPieces operand,
        map_written_operandPieces rest]

/-- The pieces of a body make up its text. -/
theorem written_bodyPieces (level : Nat) : ∀ body : List Operation,
    written (bodyPieces target level body) = bodyText target level body
  | [] => by
      simp [bodyPieces, bodyText, written]
  | operation :: rest => by
      simp [bodyPieces, bodyText,
        written_operationPieces (.statement level) operation,
        written_bodyPieces level rest]

end

end Text

end Shaderwright
