import Shaderwright.Proofs.Scoping.Places

/-!
The variables that a text mentions, one after the other: they are those that
the walk over its body meets (`marks_bodyPieces`, `mentions_bodyPieces`). So
the text declares what the body declares, in the same order and each variable
as its place asks for (`declarations_bodyPieces`).
-/

namespace Shaderwright

/-- A place where a text has the name of a variable. -/
inductive Mention where
  | use (symbol : Parameter)
  | declaration (symbol : Parameter)

def Piece.mention? : Piece → Option Mention
  | .use symbol => some (.use symbol)
  | .declaration symbol _ => some (.declaration symbol)
  | .plain _ | .opening | .closing => none

def Visit.mention? : Visit → Option Mention
  | .parameter symbol => some (.use symbol)
  | .introduced symbol => some (.declaration symbol)
  | .operation _ (.declare symbol) => some (.declaration symbol)
  | _ => none

/-- The mentions in a text, in order. -/
def mentions (pieces : List Piece) : List Mention :=
  pieces.filterMap Piece.mention?

/-- The mentions that a walk meets, in order. -/
def visitMentions (visits : List Visit) : List Mention :=
  visits.filterMap Visit.mention?

/-! ## Marks -/

/-- Whether a piece has the name of a variable. -/
def Piece.isMark : Piece → Bool
  | .use _ | .declaration _ _ => true
  | .plain _ | .opening | .closing => false

/-- The pieces of a text that have the name of a variable, in order. -/
def marks (pieces : List Piece) : List Piece :=
  pieces.filter Piece.isMark

/-- The piece by which a visit shows in the text. -/
def Visit.mark? (target : Target) : Visit → Option Piece
  | .parameter symbol => some (.use symbol)
  | .introduced symbol =>
      some (.declaration symbol (resultOf (target.variableText symbol)))
  | .operation _ (.declare symbol) =>
      some <|
        .declaration symbol (resultOf (target.sizedVariableText symbol))
  | _ => none

/-- The pieces by which a walk shows in the text, in order. -/
def visitMarks (target : Target) (visits : List Visit) : List Piece :=
  visits.filterMap (Visit.mark? target)

section Pieces

@[simp]
theorem marks_nil : marks [] = [] := by
  rfl

@[simp]
theorem marks_cons (piece : Piece) (rest : List Piece) :
    marks (piece :: rest) =
      if piece.isMark then piece :: marks rest else marks rest :=
  List.filter_cons

@[simp]
theorem marks_append (first second : List Piece) :
    marks (first ++ second) = marks first ++ marks second :=
  List.filter_append first second

@[simp]
theorem marks_joinedPieces (separator : String) :
    ∀ parts : List (List Piece),
      marks (joinedPieces separator parts) = parts.flatMap marks
  | [] => rfl
  | [pieces] => by
      simp [joinedPieces]
  | pieces :: next :: rest => by
      have later := marks_joinedPieces separator (next :: rest)
      simp [joinedPieces, later, Piece.isMark]

@[simp]
theorem marks_expressionPieces (position : Position)
    (pieces : List Piece) :
    marks (position.expressionPieces pieces) = marks pieces := by
  cases position <;> simp [Position.expressionPieces, Piece.isMark]

@[simp]
theorem marks_parenthesizedPieces (operand : Operand)
    (pieces : List Piece) :
    marks (operand.parenthesizedPieces pieces) = marks pieces := by
  unfold Operand.parenthesizedPieces
  split <;> simp [Piece.isMark]

@[simp]
theorem marks_blockPieces (head body : List Piece) (level : Nat) :
    marks (blockPieces head body level) = marks head ++ marks body := by
  simp [blockPieces, Piece.isMark]

@[simp]
theorem marks_callPieces (name : String) (arguments : List (List Piece)) :
    marks (callPieces name arguments) = arguments.flatMap marks := by
  simp [callPieces, Piece.isMark]

theorem mentions_eq_marks (pieces : List Piece) :
    mentions pieces = (marks pieces).filterMap Piece.mention? := by
  induction pieces with
  | nil =>
      rfl
  | cons piece rest inductionHypothesis =>
      unfold mentions at inductionHypothesis ⊢
      cases piece <;>
        simp [List.filterMap_cons, Piece.mention?, Piece.isMark,
          inductionHypothesis]

end Pieces

section Walk

variable (target : Target)

@[simp]
theorem visitMarks_nil : visitMarks target [] = [] := by
  rfl

@[simp]
theorem visitMarks_append (first second : List Visit) :
    visitMarks target (first ++ second) =
      visitMarks target first ++ visitMarks target second :=
  List.filterMap_append

@[simp]
theorem visitMarks_cons (visit : Visit) (rest : List Visit) :
    visitMarks target (visit :: rest) =
      (visit.mark? target).toList ++ visitMarks target rest := by
  cases found : visit.mark? target <;> simp [visitMarks, found]

theorem visitMentions_eq_marks (visits : List Visit) :
    visitMentions visits =
      (visitMarks target visits).filterMap Piece.mention? := by
  unfold visitMentions visitMarks
  rw [List.filterMap_filterMap]
  refine congrArg (List.filterMap · visits) (funext fun visit => ?_)
  cases visit with
  | operation position node =>
      cases node <;> rfl
  | _ =>
      rfl

end Walk

section Tree

variable (target : Target)

mutual

theorem marks_operandPieces : ∀ operand : Operand,
    (∀ visit ∈ operand.visits, visit.DiscardsBare) →
      marks (operand.pieces target) = visitMarks target operand.visits
  | .parameter _, _ | .literal _, _ | .builtIn _, _ | .raw _, _ => by
      rfl
  | .operation node, bare => by
      rw [Operand.visits] at bare ⊢
      exact marks_operationPieces .value node bare

theorem marks_operationPieces (position : Position) :
    ∀ node : Operation,
      (∀ visit ∈ node.visits position, visit.DiscardsBare) →
        marks (node.pieces target position) =
          visitMarks target (node.visits position)
  | .assign operator assigned value, bare => by
      rw [Operation.visits, List.forall_mem_cons,
        List.forall_mem_append] at bare
      obtain ⟨_, bareTarget, bareValue⟩ := bare
      have right := marks_operandPieces value bareValue
      cases declared : assigned.declared? with
      | some symbol =>
          simp [Operation.pieces, Operation.visits, declared, right,
            Piece.isMark, Visit.mark?]
      | none =>
          rw [declared] at bareTarget
          have left := marks_operandPieces assigned bareTarget
          simp [Operation.pieces, Operation.visits, declared, left, right,
            Piece.isMark, Visit.mark?]
  | .declare _, _ | .returnVoid, _ => by
      rfl
  | .arithmetic operator operands, bare => by
      rw [Operation.visits, List.forall_mem_cons] at bare
      simp [Operation.pieces, Operation.visits,
        parenthesizedAllPieces_eq_map, List.flatMap_map,
        flatMap_marks operands bare.2, Visit.mark?]
  | .compare operator left right, bare => by
      rw [Operation.visits, List.forall_mem_cons,
        List.forall_mem_append] at bare
      simp [Operation.pieces, Operation.visits,
        marks_operandPieces left bare.2.1,
        marks_operandPieces right bare.2.2, Piece.isMark, Visit.mark?]
  | .select base suffix, bare => by
      rw [Operation.visits, List.forall_mem_cons] at bare
      simp [Operation.pieces, Operation.visits,
        marks_operandPieces base bare.2, Piece.isMark, Visit.mark?]
  | .builtIn function arguments, bare => by
      rw [Operation.visits, List.forall_mem_cons] at bare
      by_cases discards : function = .discard
      · subst discards
        obtain rfl : arguments = [] := bare.1
        rfl
      · simp [Operation.pieces, Operation.visits, discards,
          operandPieces_eq_map, List.flatMap_map,
          flatMap_marks arguments bare.2, Visit.mark?]
  | .ifThen condition body, bare => by
      rw [Operation.visits, List.forall_mem_cons,
        List.forall_mem_append] at bare
      simp [Operation.pieces, Operation.visits,
        marks_operandPieces condition bare.2.1,
        marks_bodyPieces _ body bare.2.2, Piece.isMark, Visit.mark?]
  | .ifElse condition body alternative, bare => by
      rw [Operation.visits, List.forall_mem_cons, List.forall_mem_append,
        List.forall_mem_append] at bare
      simp [Operation.pieces, Operation.visits,
        marks_operandPieces condition bare.2.1,
        marks_bodyPieces _ body bare.2.2.1,
        marks_bodyPieces _ alternative bare.2.2.2, Piece.isMark,
        Visit.mark?]
  | .loop _ _ _ body, bare => by
      rw [Operation.visits, List.forall_mem_cons] at bare
      simp [Operation.pieces, Operation.visits,
        marks_bodyPieces _ body bare.2, Piece.isMark, Visit.mark?]
  | .returnValue value, bare => by
      rw [Operation.visits, List.forall_mem_cons] at bare
      simp [Operation.pieces, Operation.visits,
        marks_operandPieces value bare.2, Piece.isMark, Visit.mark?]
  | .call _ operands, bare | .construct _ operands, bare => by
      rw [Operation.visits, List.forall_mem_cons] at bare
      simp [Operation.pieces, Operation.visits, operandPieces_eq_map,
        List.flatMap_map, flatMap_marks operands bare.2, Visit.mark?]
  | .convert source _ _, bare => by
      rw [Operation.visits, List.forall_mem_cons,
        List.forall_mem_append] at bare
      simp [Operation.pieces, Operation.visits, List.flatMap_map,
        marks_operandPieces source bare.2.1, Piece.isMark, Visit.mark?]

theorem flatMap_marks : ∀ operands : List Operand,
    (∀ visit ∈ operandVisits operands, visit.DiscardsBare) →
      operands.flatMap (fun operand => marks (operand.pieces target)) =
        visitMarks target (operandVisits operands)
  | [], _ => rfl
  | operand :: rest, bare => by
      rw [operandVisits, List.forall_mem_append] at bare
      simp [operandVisits, marks_operandPieces operand bare.1,
        flatMap_marks rest bare.2]

/-- The text of a body names the variables that the walk over it meets, with
the words that declare them. -/
theorem marks_bodyPieces (level : Nat) : ∀ body : List Operation,
    (∀ visit ∈ bodyVisits level body, visit.DiscardsBare) →
      marks (bodyPieces target level body) =
        visitMarks target (bodyVisits level body)
  | [], _ => rfl
  | operation :: rest, bare => by
      rw [bodyVisits, List.forall_mem_append] at bare
      simp [bodyPieces, bodyVisits,
        marks_operationPieces (.statement level) operation bare.1,
        marks_bodyPieces level rest bare.2]

end

theorem mentions_bodyPieces (level : Nat) (body : List Operation)
    (bare : ∀ visit ∈ bodyVisits level body, visit.DiscardsBare) :
    mentions (bodyPieces target level body) =
      visitMentions (bodyVisits level body) := by
  rw [mentions_eq_marks, marks_bodyPieces target level body bare,
    ← visitMentions_eq_marks]

end Tree

/-! ## Declarations of the tree -/

theorem Places.mention_mem {visits : List Visit}
    {places : List PlacedDeclaration} (met : Places visits places)
    {placed : PlacedDeclaration} (member : placed ∈ places) :
    .declaration placed.symbol ∈ visitMentions visits := by
  have subset := met.visits_subset member
  cases placed with
  | bare position symbol =>
      refine List.mem_filterMap.mpr
        ⟨.operation position (.declare symbol), ?_, rfl⟩
      exact subset _ List.mem_cons_self
  | target position symbol operator value =>
      refine List.mem_filterMap.mpr ⟨.introduced symbol, ?_, rfl⟩
      exact subset _ (List.mem_cons_of_mem _ List.mem_cons_self)

/-- What a body declares is met by the walk over it. -/
theorem body_declaration_mem {known : Parameter} (level : Nat)
    (body : List Operation) (member : known ∈ bodyDeclarations body) :
    .declaration known ∈ visitMentions (bodyVisits level body) := by
  obtain ⟨places, met, same⟩ := bodyVisits_declare level body
  rw [← same] at member
  obtain ⟨placed, inPlaces, rfl⟩ := List.mem_map.mp member
  exact met.mention_mem inPlaces

/-! ## Declarations of the text -/

def Piece.isDeclaration : Piece → Bool
  | .declaration _ _ => true
  | .plain _ | .use _ | .opening | .closing => false

/-- The pieces of a text that declare variables, in order. -/
def declarations (pieces : List Piece) : List Piece :=
  pieces.filter Piece.isDeclaration

/-- The words of a placed declaration. -/
def PlacedDeclaration.text (target : Target) : PlacedDeclaration → String
  | bare _ symbol => resultOf (target.sizedVariableText symbol)
  | PlacedDeclaration.target _ symbol _ _ =>
      resultOf (target.variableText symbol)

def PlacedDeclaration.piece (target : Target) (placed : PlacedDeclaration) :
    Piece :=
  .declaration placed.symbol (placed.text target)

theorem declarations_marks (pieces : List Piece) :
    declarations (marks pieces) = declarations pieces := by
  unfold declarations marks
  rw [List.filter_filter]
  refine congrArg (List.filter · pieces) (funext fun piece => ?_)
  cases piece <;> rfl

theorem Visit.IsSilent.declarations_mark {visit : Visit}
    (isSilent : visit.IsSilent) (target : Target) :
    declarations (visit.mark? target).toList = [] := by
  cases visit with
  | introduced symbol =>
      exact isSilent.elim
  | operation position node =>
      cases node with
      | declare symbol =>
          exact isSilent.elim
      | _ =>
          rfl
  | _ =>
      rfl

theorem Places.declarations_visitMarks {target : Target}
    {visits : List Visit} {places : List PlacedDeclaration}
    (met : Places visits places) :
    declarations (visitMarks target visits) =
      places.map (PlacedDeclaration.piece target) := by
  induction met with
  | nil =>
      rfl
  | silent isSilent _ inductionHypothesis =>
      have none := isSilent.declarations_mark target
      unfold declarations at none inductionHypothesis ⊢
      rw [visitMarks_cons, List.filter_append, none, inductionHypothesis]
      rfl
  | bare _ inductionHypothesis =>
      exact congrArg (_ :: ·) inductionHypothesis
  | target _ inductionHypothesis =>
      exact congrArg (_ :: ·) inductionHypothesis

/-- The text of a body declares what the tree declares, in the same order. -/
theorem declarations_bodyPieces {target : Target} {level : Nat}
    {body : List Operation} {places : List PlacedDeclaration}
    (met : Places (bodyVisits level body) places)
    (bare : ∀ visit ∈ bodyVisits level body, visit.DiscardsBare) :
    declarations (bodyPieces target level body) =
      places.map (PlacedDeclaration.piece target) := by
  rw [← declarations_marks, marks_bodyPieces target level body bare,
    met.declarations_visitMarks]

end Shaderwright
