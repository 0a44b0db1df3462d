import Shaderwright.Proofs.Acceptance
import Shaderwright.Proofs.Scoping.LocalDeclarations
import Shaderwright.Proofs.Scoping.Parts

/-!
Where local variables are declared. A declaration stands by itself as a
statement, or it is the target of an assignment; anywhere else lowering rejects
it (`lower_places_declarations`). Of the assignment lowering asks neither where
it stands nor which operator it has, so a declaration can be written inside of
an expression (`looseShader_declaresLoosely`).
-/

namespace Shaderwright

namespace PlacedDeclaration

/-- The declaration stands by itself as a statement, or it is the target of a
plain assignment that does. -/
def IsStatement : PlacedDeclaration → Prop
  | bare position _ => position ≠ .value
  | target position _ operator _ =>
      position ≠ .value ∧ operator = .assign

/-- The declaration is the target of an assignment that is a value, or of one
that also reads its target. -/
def IsLoose : PlacedDeclaration → Prop
  | bare _ _ => False
  | target position _ operator _ =>
      position = .value ∨ operator ≠ .assign

/-- What is written for the declaration, as far as its statement or its
assignment reaches. -/
def pieces (target : Target) (placed : PlacedDeclaration) : List Piece :=
  match placed with
  | bare position _ =>
      [ .plain (indentation position.depth), placed.piece target,
        .plain ";\n" ]
  | PlacedDeclaration.target position _ operator value =>
      position.expressionPieces <|
        placed.piece target :: .plain (" " ++ operator.symbol ++ " ") ::
          value.pieces target

end PlacedDeclaration

namespace Scope.Acceptable

variable {scope : Scope} {target : Target} {placed : PlacedDeclaration}

/-- A declaration that stands by itself is not a value. -/
theorem isStatement_or_isLoose (acceptable : scope.Acceptable target)
    (member : placed ∈ scope.placedDeclarations) :
    placed.IsStatement ∨ placed.IsLoose := by
  have subset := scope.places.visits_subset member
  cases placed with
  | bare position symbol =>
      have met := subset _ List.mem_cons_self
      exact Or.inl (acceptable.visits _ met).1
  | target position symbol operator value =>
      by_cases isValue : position = .value
      · exact Or.inr (Or.inl isValue)
      · by_cases plain : operator = .assign
        · exact Or.inl ⟨isValue, plain⟩
        · exact Or.inr (Or.inr plain)

/-- The text of a body has the declarations of the body and no others. -/
theorem declarations_pieces (acceptable : scope.Acceptable target) :
    declarations (scope.pieces target) =
      scope.placedDeclarations.map (PlacedDeclaration.piece target) :=
  declarations_bodyPieces scope.places acceptable.discardsBare

/-- A declaration is written in its place. -/
theorem pieces_infix (acceptable : scope.Acceptable target)
    (member : placed ∈ scope.placedDeclarations) :
    placed.pieces target <:+: scope.pieces target := by
  have subset := scope.places.visits_subset member
  have written := bodyVisits_written target 1 scope.body
    acceptable.discardsBare
  cases placed with
  | bare position symbol =>
      have found := written _ (subset _ List.mem_cons_self)
      rw [Visit.WrittenIn, Operation.pieces] at found
      exact found
  | target position symbol operator value =>
      have found := written _ (subset _ List.mem_cons_self)
      rw [Visit.WrittenIn, Operation.pieces] at found
      exact found

end Scope.Acceptable

/-! ## Lowered shaders -/

/-- What is written of a lowered shader are bodies of the shader, and
acceptable ones. -/
theorem Shader.Walk.of_writes {dialect : Dialect} {shader : Shader}
    {locals : Locals} {finish : Progress}
    (walk : shader.Walk dialect locals finish) {scope : Scope}
    (writes : shader.Writes
      (finish.definitions.map Definition.function) scope) :
    shader.HasScope scope ∧ scope.Acceptable (shader.target dialect) := by
  rcases writes with rfl | ⟨function, member, rfl⟩
  · exact ⟨.entry, walk.entry_served.acceptable⟩
  · obtain ⟨definition, inList, rfl⟩ := List.mem_map.mp member
    exact ⟨.callee (walk.calledFrom_of_mem inList),
      (walk.settled_of_mem inList).scope_served.acceptable⟩

/-- Of a shader that is lowered, every declaration in a body that can be
reached is a statement by itself or the target of an assignment. In the text
of the body it is written there. -/
theorem lower_places_declarations {dialect : Dialect} {shader : Shader}
    {compiled : CompiledShader} (agree : shader.HandlesAgree)
    (lowered : lower dialect shader = .ok compiled) :
    (∀ scope, shader.HasScope scope →
      scope.placedDeclarations.map PlacedDeclaration.symbol =
          bodyDeclarations scope.body ∧
        ∀ placed ∈ scope.placedDeclarations,
          placed.IsStatement ∨ placed.IsLoose) ∧
      ∃ functions,
        compiled.functions = functions.map ShaderFunction.name ∧
          compiled.Defines dialect shader functions ∧
          ∀ scope, shader.Writes functions scope →
            shader.HasScope scope ∧
              bodyText (shader.target dialect) 1 scope.body =
                written (scope.pieces (shader.target dialect)) ∧
              declarations (scope.pieces (shader.target dialect)) =
                scope.placedDeclarations.map
                  (PlacedDeclaration.piece (shader.target dialect)) ∧
              ∀ placed ∈ scope.placedDeclarations,
                placed.pieces (shader.target dialect) <:+:
                  scope.pieces (shader.target dialect) := by
  obtain ⟨locals, finish, walk, _, functions, defines⟩ :=
    walk_of_lower lowered
  constructor
  · intro scope inShader
    obtain ⟨precision, _, precise, _⟩ := defines
    have acceptable :=
      (walk.acceptable agree ⟨precision, precise⟩).scopes scope inShader
    refine ⟨scope.map_symbol_placedDeclarations, fun placed member => ?_⟩
    exact acceptable.isStatement_or_isLoose member
  · refine ⟨finish.definitions.map Definition.function, ?_, defines, ?_⟩
    · rw [functions, List.map_map]
      rfl
    · intro scope writes
      obtain ⟨inShader, acceptable⟩ := walk.of_writes writes
      refine ⟨inShader, (written_bodyPieces _ 1 scope.body).symm,
        acceptable.declarations_pieces, ?_⟩
      intro placed member
      exact acceptable.pieces_infix member

/-! ## Declarations in their place and out of it -/

section Examples

theorem not_calledFrom_of_noCallees {body : List Operation}
    {function : ShaderFunction} (none : bodyCallees body = []) :
    ¬ CalledFrom body function := by
  intro called
  induction called with
  | direct called =>
      rw [none] at called
      cases called
  | through _ _ inductionHypothesis =>
      exact inductionHypothesis

theorem shareShader_placesDeclarations :
    ∃ compiled, lower .glslEs100 shareShader = .ok compiled ∧
      compiled.source = shareSource ∧
      shareShader.entry.placedDeclarations.map PlacedDeclaration.symbol =
        [shareParameter] ∧
      ∀ placed ∈ shareShader.entry.placedDeclarations,
        placed.IsStatement ∨ placed.IsLoose := by
  obtain ⟨compiled, lowered, source⟩ :=
    exists_of_source shareShader shareSource (by decide +kernel)
  have agree : shareShader.HandlesAgree := by
    intro first called
    exact absurd called (not_calledFrom_of_noCallees rfl)
  obtain ⟨places, _⟩ := lower_places_declarations agree lowered
  obtain ⟨symbols, placed⟩ := places shareShader.entry .entry
  exact ⟨compiled, lowered, source, symbols, placed⟩

def litParameter : Parameter :=
  ⟨1, "lit", .boolean, .varying, 0⟩

/-- A declaration under a compound assignment, and one in a condition. -/
def looseShader : Shader :=
  ⟨.fragment, none,
    [ .addTo (Operation.declare shareParameter) (.whole 1),
      .ifThen
        (Operation.introduce litParameter (.builtIn .frontFacing)) [] ]⟩

def looseSource : String :=
  "\nvoid main() \x7b\n  float share += 1.0;\n" ++
    "  if (bool lit = gl_FrontFacing) \x7b\n  \x7d\n\x7d\n"

/-- Lowering rejects neither of them. -/
theorem looseShader_declaresLoosely :
    ∃ compiled, lower .glslEs100 looseShader = .ok compiled ∧
      compiled.source = looseSource ∧
      looseShader.entry.placedDeclarations.length = 2 ∧
      ∀ placed ∈ looseShader.entry.placedDeclarations,
        placed.IsLoose ∧ ¬ placed.IsStatement := by
  obtain ⟨compiled, lowered, source⟩ :=
    exists_of_source looseShader looseSource (by decide +kernel)
  refine ⟨compiled, lowered, source, rfl, ?_⟩
  intro placed member
  have places : looseShader.entry.placedDeclarations =
      [ .target (.statement 1) shareParameter .add (.whole 1),
        .target .value litParameter .assign (.builtIn .frontFacing) ] := rfl
  rw [places] at member
  simp only [List.mem_cons, List.not_mem_nil, or_false] at member
  rcases member with rfl | rfl <;>
    simp [PlacedDeclaration.IsLoose, PlacedDeclaration.IsStatement]

end Examples

end Shaderwright
