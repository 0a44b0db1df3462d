import Mathlib.Data.List.Infix
import Shaderwright.Proofs.Scoping.Readings

/-!
Parts of a text. Every operation that the walk over a body meets is written
without a gap somewhere in the text of the body (`bodyVisits_written`).
-/

namespace Shaderwright

/-- An operation that is met stands in a text as it is written by itself. -/
def Visit.WrittenIn (target : Target) (pieces : List Piece) : Visit → Prop
  | .operation position node => node.pieces target position <:+: pieces
  | _ => True

theorem Visit.WrittenIn.mono {target : Target} {visit : Visit}
    {inner outer : List Piece} (found : visit.WrittenIn target inner)
    (part : inner <:+: outer) : visit.WrittenIn target outer := by
  cases visit with
  | operation position node =>
      exact List.IsInfix.trans found part
  | _ =>
      trivial

/-! ## Pieces around pieces -/

section Pieces

variable {pieces : List Piece}

theorem infix_expressionPieces (position : Position)
    (pieces : List Piece) : pieces <:+: position.expressionPieces pieces := by
  cases position with
  | statement level =>
      exact List.infix_cons List.infix_append_left
  | value =>
      exact List.infix_rfl

theorem infix_parenthesizedPieces (operand : Operand)
    (pieces : List Piece) :
    pieces <:+: operand.parenthesizedPieces pieces := by
  unfold Operand.parenthesizedPieces
  split
  · exact List.infix_cons List.infix_append_left
  · exact List.infix_rfl

theorem infix_joinedPieces (separator : String) :
    ∀ {parts : List (List Piece)}, pieces ∈ parts →
      pieces <:+: joinedPieces separator parts
  | [only], member => by
      rw [List.mem_singleton.mp member]
      exact List.infix_rfl
  | first :: next :: rest, member => by
      rw [joinedPieces]
      rcases List.mem_cons.mp member with rfl | later
      · exact List.infix_append_left
      · have inRest := infix_joinedPieces separator later
        exact (List.infix_cons inRest).trans List.infix_append_right

theorem infix_callPieces (name : String) {arguments : List (List Piece)}
    (member : pieces ∈ arguments) :
    pieces <:+: callPieces name arguments := by
  have joined := infix_joinedPieces ", " member
  exact List.infix_cons (joined.trans List.infix_append_left)

/-- The condition of a block stands in its head. -/
theorem infix_blockPieces_condition (text : String)
    (condition body : List Piece) (level : Nat) :
    condition <:+:
      blockPieces (.plain text :: (condition ++ [.plain ") "])) body level := by
  have inHead : condition <:+: .plain text :: (condition ++ [.plain ") "]) :=
    List.infix_cons List.infix_append_left
  exact inHead.trans List.infix_append_left

theorem infix_blockPieces_body (head body : List Piece) (level : Nat) :
    body <:+: blockPieces head body level := by
  have inside : body <:+:
      .opening :: (body ++ [.plain (indentation level), .closing]) :=
    List.infix_cons List.infix_append_left
  exact inside.trans List.infix_append_right

end Pieces

theorem Visit.WrittenIn.expression {target : Target} {visit : Visit}
    {inner pieces : List Piece} (found : visit.WrittenIn target inner)
    (part : inner <:+: pieces) (position : Position) :
    visit.WrittenIn target (position.expressionPieces pieces) :=
  found.mono (part.trans (infix_expressionPieces position pieces))

/-! ## The text of the tree -/

section Tree

variable (target : Target)

mutual

theorem operandVisits_written : ∀ operand : Operand,
    (∀ visit ∈ operand.visits, visit.DiscardsBare) →
      ∀ visit ∈ operand.visits,
        visit.WrittenIn target (operand.pieces target)
  | .parameter _, _ | .literal _, _ | .builtIn _, _ => by
      simp [Operand.visits, Visit.WrittenIn]
  | .raw _, _ => by
      simp [Operand.visits]
  | .operation node, bare => by
      rw [Operand.visits] at bare ⊢
      exact operationVisits_written .value node bare

/-- An operation contains the text of its operands and of its blocks. -/
theorem operationVisits_written (position : Position) :
    ∀ node : Operation,
      (∀ visit ∈ node.visits position, visit.DiscardsBare) →
        ∀ visit ∈ node.visits position,
          visit.WrittenIn target (node.pieces target position)
  | .assign operator assigned value, bare => by
      rw [Operation.visits, List.forall_mem_cons,
        List.forall_mem_append] at bare ⊢
      obtain ⟨_, bareTarget, bareValue⟩ := bare
      refine ⟨List.infix_rfl, ?_, ?_⟩
      · cases declared : assigned.declared? with
        | some symbol =>
            simp [Visit.WrittenIn]
        | none =>
            rw [declared] at bareTarget
            intro visit met
            have left := operandVisits_written assigned bareTarget visit met
            rw [Operation.pieces, declared]
            exact left.expression List.infix_append_left position
      · intro visit met
        have right := operandVisits_written value bareValue visit met
        rw [Operation.pieces]
        refine right.expression ?_ position
        exact (List.infix_cons List.infix_rfl).trans List.infix_append_right
  | .declare _, _ | .returnVoid, _ => by
      simp [Operation.visits, Visit.WrittenIn]
  | .arithmetic operator operands, bare => by
      rw [Operation.visits, List.forall_mem_cons] at bare ⊢
      refine ⟨List.infix_rfl, fun visit met => ?_⟩
      obtain ⟨operand, member, found⟩ :=
        listVisits_written operands bare.2 visit met
      rw [Operation.pieces, parenthesizedAllPieces_eq_map]
      have listed := List.mem_map_of_mem member
        (f := fun operand : Operand =>
          operand.parenthesizedPieces (operand.pieces target))
      refine found.expression ?_ position
      exact (infix_parenthesizedPieces operand _).trans
        (infix_joinedPieces _ listed)
  | .compare operator left right, bare => by
      rw [Operation.visits, List.forall_mem_cons,
        List.forall_mem_append] at bare ⊢
      obtain ⟨_, bareLeft, bareRight⟩ := bare
      rw [Operation.pieces]
      refine ⟨?_, ?_, ?_⟩
      · rw [Visit.WrittenIn, Operation.pieces]
      · intro visit met
        have found := operandVisits_written left bareLeft visit met
        refine found.expression ?_ position
        exact (infix_parenthesizedPieces left _).trans List.infix_append_left
      · intro visit met
        have found := operandVisits_written right bareRight visit met
        refine found.expression ?_ position
        have last := infix_parenthesizedPieces right (right.pieces target)
        exact (List.infix_cons last).trans List.infix_append_right
  | .select base suffix, bare => by
      rw [Operation.visits, List.forall_mem_cons] at bare ⊢
      refine ⟨List.infix_rfl, fun visit met => ?_⟩
      have found := operandVisits_written base bare.2 visit met
      rw [Operation.pieces]
      refine found.expression ?_ position
      exact (infix_parenthesizedPieces base _).trans List.infix_append_left
  | .builtIn function arguments, bare => by
      rw [Operation.visits, List.forall_mem_cons] at bare ⊢
      refine ⟨List.infix_rfl, fun visit met => ?_⟩
      by_cases discards : function = .discard
      · subst discards
        obtain rfl : arguments = [] := bare.1
        cases met
      · obtain ⟨operand, member, found⟩ :=
          listVisits_written arguments bare.2 visit met
        rw [Operation.pieces, if_neg discards, operandPieces_eq_map]
        exact found.expression
          (infix_callPieces _ (List.mem_map_of_mem member)) position
  | .ifThen condition body, bare => by
      rw [Operation.visits, List.forall_mem_cons,
        List.forall_mem_append] at bare ⊢
      obtain ⟨_, bareCondition, bareBody⟩ := bare
      refine ⟨List.infix_rfl, ?_, ?_⟩
      · intro visit met
        have found :=
          operandVisits_written condition bareCondition visit met
        rw [Operation.pieces]
        exact found.mono <|
          (infix_blockPieces_condition _ _ _ _).trans List.infix_append_left
      · intro visit met
        have found := bodyVisits_written _ body bareBody visit met
        rw [Operation.pieces]
        exact found.mono <|
          (infix_blockPieces_body _ _ _).trans List.infix_append_left
  | .ifElse condition body alternative, bare => by
      rw [Operation.visits, List.forall_mem_cons, List.forall_mem_append,
        List.forall_mem_append] at bare ⊢
      obtain ⟨_, bareCondition, bareBody, bareAlternative⟩ := bare
      refine ⟨List.infix_rfl, ?_, ?_, ?_⟩
      · intro visit met
        have found :=
          operandVisits_written condition bareCondition visit met
        rw [Operation.pieces]
        exact found.mono <|
          (infix_blockPieces_condition _ _ _ _).trans List.infix_append_left
      · intro visit met
        have found := bodyVisits_written _ body bareBody visit met
        rw [Operation.pieces]
        exact found.mono <|
          (infix_blockPieces_body _ _ _).trans List.infix_append_left
      · intro visit met
        have found :=
          bodyVisits_written _ alternative bareAlternative visit met
        rw [Operation.pieces]
        exact found.mono <|
          (infix_blockPieces_body _ _ _).trans <|
            List.infix_append_left.trans List.infix_append_right
  | .loop _ _ _ body, bare => by
      rw [Operation.visits, List.forall_mem_cons] at bare ⊢
      refine ⟨List.infix_rfl, fun visit met => ?_⟩
      have found := bodyVisits_written _ body bare.2 visit met
      rw [Operation.pieces]
      exact found.mono <|
        (infix_blockPieces_body _ _ _).trans List.infix_append_left
  | .returnValue value, bare => by
      rw [Operation.visits, List.forall_mem_cons] at bare ⊢
      refine ⟨List.infix_rfl, fun visit met => ?_⟩
      have found := operandVisits_written value bare.2 visit met
      rw [Operation.pieces]
      exact found.mono (List.infix_cons List.infix_append_left)
  | .call _ operands, bare | .construct _ operands, bare => by
      rw [Operation.visits, List.forall_mem_cons] at bare ⊢
      refine ⟨List.infix_rfl, fun visit met => ?_⟩
      obtain ⟨operand, member, found⟩ :=
        listVisits_written operands bare.2 visit met
      rw [Operation.pieces, operandPieces_eq_map]
      exact found.expression
        (infix_callPieces _ (List.mem_map_of_mem member)) position
  | .convert source _ _, bare => by
      rw [Operation.visits, List.forall_mem_cons,
        List.forall_mem_append] at bare ⊢
      refine ⟨List.infix_rfl, fun visit met => ?_, ?_⟩
      · have found := operandVisits_written source bare.2.1 visit met
        rw [Operation.pieces]
        exact found.expression
          (infix_callPieces _ List.mem_cons_self) position
      · simp [Visit.WrittenIn]

theorem listVisits_written : ∀ operands : List Operand,
    (∀ visit ∈ operandVisits operands, visit.DiscardsBare) →
      ∀ visit ∈ operandVisits operands, ∃ operand ∈ operands,
        visit.WrittenIn target (operand.pieces target)
  | [], _ => by
      simp [operandVisits]
  | operand :: rest, bare => by
      rw [operandVisits, List.forall_mem_append] at bare ⊢
      refine ⟨fun visit met => ?_, fun visit met => ?_⟩
      · have found := operandVisits_written operand bare.1 visit met
        exact ⟨operand, List.mem_cons_self, found⟩
      · obtain ⟨other, member, found⟩ :=
          listVisits_written rest bare.2 visit met
        exact ⟨other, List.mem_cons_of_mem _ member, found⟩

/-- What is met in a body stands in its text. -/
theorem bodyVisits_written (level : Nat) : ∀ body : List Operation,
    (∀ visit ∈ bodyVisits level body, visit.DiscardsBare) →
      ∀ visit ∈ bodyVisits level body,
        visit.WrittenIn target (bodyPieces target level body)
  | [], _ => by
      simp [bodyVisits]
  | operation :: rest, bare => by
      rw [bodyVisits, List.forall_mem_append] at bare ⊢
      rw [bodyPieces]
      refine ⟨fun visit met => ?_, fun visit met => ?_⟩
      · have found :=
          operationVisits_written (.statement level) operation bare.1 visit
            met
        exact found.mono List.infix_append_left
      · have found := bodyVisits_written level rest bare.2 visit met
        exact found.mono List.infix_append_right

end

end Tree

end Shaderwright
