import Shaderwright.Proofs.Scoping.Blocks
import Shaderwright.Proofs.Scoping.Mentions
import Shaderwright.Proofs.SourceText
import Shaderwright.Tree.Build

/-!
Where the local variables of a body are declared. Lowering collects them from
the whole body before it writes a line, and so it does not ask whether a use
stands behind its declaration. What a lowered text declares in time is what
the tree declares in time, and every local variable that it uses is declared
somewhere in the same body (`lower_declares_locals`).
-/

namespace Shaderwright

namespace Scope

/-- The text of the body in pieces. -/
def pieces (target : Target) (scope : Scope) : List Piece :=
  bodyPieces target 1 scope.body

/-- A parameter has the name of a local variable. -/
def NamesLocal (scope : Scope) (symbol : Parameter) : Prop :=
  ∃ known ∈ scope.locals, known.name = symbol.name

/-- In the text every use of a local variable has a declaration in scope
before it. -/
def WritesDeclarationsFirst (target : Target) (scope : Scope) : Prop :=
  ∀ symbol ∈ strayUses scope.parameters [] (scope.pieces target),
    ¬ scope.NamesLocal symbol

/-- In the tree every use of a local variable has a declaration before it, in
the same block or in an enclosing one. -/
def DeclaresFirst (scope : Scope) : Prop :=
  ∀ symbol ∈ bodyUndeclaredUses scope.parameters scope.body,
    ¬ scope.NamesLocal symbol

variable {scope : Scope} {target : Target}

/-- No `discard` of an acceptable body has arguments. -/
theorem Acceptable.discardsBare
    (acceptable : scope.Acceptable target) :
    ∀ visit ∈ scope.visits, visit.DiscardsBare := by
  intro visit member
  have admissible := acceptable.visits visit member
  unfold Visit.DiscardsBare
  split
  · exact List.length_eq_zero_iff.mp admissible.1
  · trivial

/-- A use of a local variable agrees with a declaration in the text. -/
private theorem Acceptable.exists_declaration
    (acceptable : scope.Acceptable target) {symbol : Parameter}
    (used : .use symbol ∈ mentions (scope.pieces target))
    (localName : scope.NamesLocal symbol) :
    ∃ known, known.symbol = symbol.symbol ∧
      (known ∈ scope.parameters ∨
        .declaration known ∈ mentions (scope.pieces target)) := by
  obtain ⟨known, declared, named⟩ := localName
  have met := mentions_bodyPieces target 1 scope.body acceptable.discardsBare
  have visited : .parameter symbol ∈ scope.visits := by
    rw [pieces, met] at used
    obtain ⟨visit, member, mention⟩ := List.mem_filterMap.mp used
    cases visit with
    | parameter other =>
        cases mention
        exact member
    | operation position node =>
        cases node <;> simp [Visit.mention?] at mention
    | _ =>
        simp [Visit.mention?] at mention
  have agrees :=
    acceptable.visits (.parameter symbol) visited known declared named
  refine ⟨known, agrees, ?_⟩
  rcases List.mem_append.mp declared with parameter | inBody
  · exact Or.inl parameter
  · rw [pieces, met]
    exact Or.inr (body_declaration_mem 1 scope.body inBody)

end Scope

/-- The bodies that a lowered shader has the text of: that of its entry point
and those of the functions that it defines. -/
def Shader.Writes (shader : Shader) (functions : List ShaderFunction)
    (scope : Scope) : Prop :=
  scope = shader.entry ∨ ∃ function ∈ functions, scope = function.scope

/-- Every local variable that a written body uses is declared alike by the
function or somewhere in the body. The uses that no declaration in scope
precedes are those of the tree, one by one: a tree that declares its local
variables first is written as a text that does. -/
theorem lower_declares_locals {dialect : Dialect} {shader : Shader}
    {compiled : CompiledShader}
    (lowered : lower dialect shader = .ok compiled) :
    ∃ functions,
      compiled.functions = functions.map ShaderFunction.name ∧
        compiled.Defines dialect shader functions ∧
        ∀ scope, shader.Writes functions scope →
          bodyText (shader.target dialect) 1 scope.body =
              written (scope.pieces (shader.target dialect)) ∧
            (∀ symbol,
              .use symbol ∈
                  mentions (scope.pieces (shader.target dialect)) →
                scope.NamesLocal symbol →
                  ∃ known, known.symbol = symbol.symbol ∧
                    (known ∈ scope.parameters ∨
                      .declaration known ∈
                        mentions
                          (scope.pieces (shader.target dialect)))) ∧
            strayUses scope.parameters []
                (scope.pieces (shader.target dialect)) =
              bodyUndeclaredUses scope.parameters scope.body ∧
            (scope.DeclaresFirst →
              scope.WritesDeclarationsFirst (shader.target dialect)) := by
  obtain ⟨locals, finish, walk, _, functions, defines⟩ :=
    walk_of_lower lowered
  refine ⟨finish.definitions.map Definition.function, ?_, defines, ?_⟩
  · rw [functions, List.map_map]
    rfl
  · intro scope writes
    have acceptable : scope.Acceptable (shader.target dialect) := by
      rcases writes with rfl | ⟨function, member, rfl⟩
      · exact walk.entry_served.acceptable
      · obtain ⟨definition, inList, rfl⟩ := List.mem_map.mp member
        exact (walk.settled_of_mem inList).scope_served.acceptable
    have stray :
        strayUses scope.parameters []
            (scope.pieces (shader.target dialect)) =
          bodyUndeclaredUses scope.parameters scope.body :=
      strayUses_bodyPieces acceptable.discardsBare scope.parameters
    refine ⟨(written_bodyPieces _ 1 scope.body).symm, ?_, stray, ?_⟩
    · intro symbol used localName
      exact acceptable.exists_declaration used localName
    · intro first symbol member
      rw [stray] at member
      exact first symbol member

/-! ## Uses behind and in front of a declaration -/

section Examples

def shareParameter : Parameter :=
  ⟨0, "share", .scalar, .varying, 0⟩

/-- A local variable that is used in a block behind its declaration. -/
def shareShader : Shader :=
  ⟨.fragment, none,
    [ .introduce shareParameter (.whole 1),
      .ifThen (.builtIn .frontFacing)
        [.addTo (.parameter shareParameter) (.whole 1)] ]⟩

def shareSource : String :=
  "\nvoid main() \x7b\n  float share = 1.0;\n" ++
    "  if (gl_FrontFacing) \x7b\n    share += 1.0;\n  \x7d\n\x7d\n"

theorem shareShader_declaresLocals :
    ∃ compiled, lower .glslEs100 shareShader = .ok compiled ∧
      compiled.source = shareSource ∧
      shareShader.entry.WritesDeclarationsFirst
        (shareShader.target .glslEs100) := by
  obtain ⟨compiled, lowered, source⟩ :=
    exists_of_source shareShader shareSource (by decide +kernel)
  obtain ⟨functions, _, _, bodies⟩ := lower_declares_locals lowered
  have declared : shareShader.entry.DeclaresFirst := by
    have none : bodyUndeclaredUses shareShader.entry.parameters
        shareShader.entry.body = [] := by
      decide
    intro symbol member
    rw [none] at member
    cases member
  obtain ⟨_, _, _, written⟩ := bodies shareShader.entry (Or.inl rfl)
  exact ⟨compiled, lowered, source, written declared⟩

/-- The same variable, assigned in front of its declaration. -/
def hastyShader : Shader :=
  ⟨.fragment, none,
    [ .set (.parameter shareParameter) (.whole 1),
      .declare shareParameter ]⟩

def hastySource : String :=
  "\nvoid main() \x7b\n  share = 1.0;\n  float share;\n\x7d\n"

/-- Lowering neither rejects the assignment nor moves the declaration. -/
theorem hastyShader_usesUndeclared :
    ∃ compiled, lower .glslEs100 hastyShader = .ok compiled ∧
      compiled.source = hastySource ∧
      hastyShader.entry.NamesLocal shareParameter ∧
      ¬ hastyShader.entry.WritesDeclarationsFirst
        (hastyShader.target .glslEs100) := by
  obtain ⟨compiled, lowered, source⟩ :=
    exists_of_source hastyShader hastySource (by decide +kernel)
  have named : hastyShader.entry.NamesLocal shareParameter :=
    ⟨shareParameter, List.mem_cons_self, rfl⟩
  refine ⟨compiled, lowered, source, named, fun first => ?_⟩
  have stray : shareParameter ∈ strayUses hastyShader.entry.parameters []
      (hastyShader.entry.pieces (hastyShader.target .glslEs100)) :=
    List.mem_cons_self
  exact first shareParameter stray named

end Examples

end Shaderwright
