import Shaderwright.Proofs.Acceptance
import Shaderwright.Proofs.EqualTexts
import Shaderwright.Proofs.SourceText
import Shaderwright.Tree.Build

/-!
One definition for each name. All functions of one name that a lowered shader
calls are equal, and one of them is defined for all. Equality takes both zeros
for one number, and so the definition may have another zero than the function
that is called; but for the signs of zeros it is the definition which that
function would have itself (`lower_defines_once`). Unequal functions of one
name are never lowered.
-/

namespace Shaderwright

/-! ## Definitions by themselves -/

/-- A function that is met first is defined in the given way. -/
def ShaderFunction.DefinedAs (target : Target) (function : ShaderFunction)
    (definition : Definition) : Prop :=
  ∃ finish, (hoistFunction target function).run .start = .ok () finish ∧
    finish.definition? function.name = some definition

/-- Each function of an acceptable shader can be defined by itself. -/
theorem Shader.Acceptable.definedAs {dialect : Dialect} {shader : Shader}
    (acceptable : shader.Acceptable dialect) (agree : shader.HandlesAgree)
    {function : ShaderFunction}
    (called : CalledFrom shader.operations function) :
    function.DefinedAs (shader.target dialect)
      (function.definition (shader.target dialect)) := by
  rcases acceptable.bodies.hoistFunction_ends agree function called .start
      (Progress.start_within shader) with
    ⟨⟨⟩, finish, ran, _⟩ | ⟨name, _, _, clashes⟩
  · refine ⟨finish, ran, ?_⟩
    rcases hoistFunction_run_iff.mp ran with
      ⟨_, impossible, _⟩ | ⟨_, _, middle, _, _, _, untaken, rfl⟩
    · cases impossible
    · exact Progress.definition?_withDefinition untaken
  · exact absurd clashes (acceptable.not_clashes name)

/-! ## Names of different functions -/

theorem lower_eq_error_of_walk {dialect : Dialect} {shader : Shader}
    {locals : Locals} {finish : Progress} {fault : LoweringError}
    (collected : Locals.ofBody [] shader.operations = .ok locals)
    (ran : (performAll (shader.target dialect) locals
      (bodyVisits 1 shader.operations)).run .start = .error fault finish) :
    lower dialect shader = .error fault := by
  have body : (lowerBody (shader.target dialect) locals 1
      shader.operations).run .start = .error fault finish := by
    rw [lowerBody_eq, EStateM.run_bind, ran]
  have failed : (lowerShader dialect shader).run .start =
      .error fault finish := by
    unfold lowerShader
    dsimp only
    rw [collected, Lowering.check_ok, pure_bind, EStateM.run_bind]
    unfold Shader.target at body
    rw [body]
  unfold lower lowerWithEvents
  rw [failed]

/-- Functions of one name that are not equal end the lowering. -/
theorem Shader.AcceptableBodies.lower_clashes {dialect : Dialect}
    {shader : Shader} (bodies : shader.AcceptableBodies dialect)
    (agree : shader.HandlesAgree) {name : String}
    (clashes : shader.Clashes name) :
    ∃ other, shader.Clashes other ∧
      lower dialect shader = .error (.inconsistentFunction other) := by
  obtain ⟨locals, collected, ends⟩ := bodies.entry_ends agree
  rcases ends with ⟨⟨⟩, finish, ran, _⟩ | ⟨other, finish, ran, otherClashes⟩
  · have walk : shader.Walk dialect locals finish :=
      ⟨collected, performAll_run_iff.mp ran⟩
    obtain ⟨first, second, calledFirst, calledSecond, rfl, named, apart⟩ :=
      clashes
    exact absurd (walk.functionsAlike agree calledFirst calledSecond
      named.symm) apart
  · exact ⟨other, otherClashes, lower_eq_error_of_walk collected ran⟩

/-! ## One definition for each name -/

/-- Of a shader that is lowered, every function that is called is defined by
an equal one, with the text that it would have itself but for the signs of
zeros. A shader that calls unequal functions of one name is not lowered; where
nothing else is at fault, lowering says so. -/
theorem lower_defines_once {dialect : Dialect} {shader : Shader}
    (agree : shader.HandlesAgree) :
    (∀ compiled, lower dialect shader = .ok compiled →
      ∃ functions,
        compiled.functions = functions.map ShaderFunction.name ∧
          compiled.functions.Nodup ∧
          compiled.Defines dialect shader functions ∧
          ∀ function, CalledFrom shader.operations function →
            function.DefinedAs (shader.target dialect)
                (function.definition (shader.target dialect)) ∧
              ∃ known ∈ functions, known.name = function.name ∧
                known.canonical = function.canonical ∧
                (known.definitionText (shader.target dialect) =
                    function.definitionText (shader.target dialect) ↔
                  known.scope.zeroSigns = function.scope.zeroSigns)) ∧
    ∀ first second, CalledFrom shader.operations first →
      CalledFrom shader.operations second → first.name = second.name →
        first.canonical ≠ second.canonical →
          (∀ compiled, lower dialect shader ≠ .ok compiled) ∧
            (shader.AcceptableBodies dialect →
              ∃ name, shader.Clashes name ∧
                lower dialect shader =
                  .error (.inconsistentFunction name)) := by
  constructor
  · intro compiled lowered
    obtain ⟨locals, finish, walk, _, functions, defines⟩ :=
      walk_of_lower lowered
    have ⟨precision, _, precise, _⟩ := defines
    have acceptable := walk.acceptable agree ⟨precision, precise⟩
    refine ⟨finish.definitions.map Definition.function, ?_, ?_, defines,
      ?_⟩
    · rw [functions, List.map_map]
      rfl
    · rw [functions]
      exact walk.distinctDefinitions
    · intro function called
      obtain ⟨definition, member, named, same⟩ :=
        walk.exists_definition agree called
      have inShader : shader.HasScope definition.function.scope :=
        .callee (walk.calledFrom_of_mem member)
      exact ⟨acceptable.definedAs agree called, definition.function,
        List.mem_map_of_mem member, named, same,
        ShaderFunction.definitionText_eq_iff same
          (acceptable.scopes _ inShader)⟩
  · intro first second calledFirst calledSecond named apart
    have notFor : ¬ first.StandsFor second := fun same =>
      apart (agree.canonical_eq_of_standsFor calledFirst calledSecond same)
    constructor
    · intro compiled lowered
      obtain ⟨locals, finish, walk, _⟩ := walk_of_lower lowered
      exact notFor (walk.functionsAlike agree calledFirst calledSecond named)
    · intro bodies
      exact bodies.lower_clashes agree
        ⟨first, second, calledFirst, calledSecond, named, rfl, notFor⟩

section Examples

def toneSource : String :=
  "\nfloat tone() \x7b\n  return gain;\n\x7d\n"

theorem layeredShader_definesOnce :
    ∃ compiled functions,
      lower .glslEs100 layeredShader = .ok compiled ∧
        compiled.functions = List.map ShaderFunction.name functions ∧
        (gainFunction 2).DefinedAs (layeredShader.target .glslEs100)
          ⟨gainFunction 2, toneSource⟩ ∧
        ∃ known ∈ functions, known.name = "tone" ∧
          (known.definitionText (layeredShader.target .glslEs100) =
              toneSource ↔
            known.scope.zeroSigns = []) := by
  obtain ⟨compiled, lowered⟩ := layeredShader_lowers
  obtain ⟨defined, _⟩ := lower_defines_once layeredShader_handlesAgree
  obtain ⟨functions, names, _, _, once⟩ := defined compiled lowered
  have called : CalledFrom layeredShader.operations (gainFunction 2) :=
    .direct (List.mem_cons_of_mem _ (List.mem_singleton_self _))
  have written : (gainFunction 2).definitionText
      (layeredShader.target .glslEs100) = toneSource := by
    decide +kernel
  obtain ⟨own, known, member, named, _, texts⟩ :=
    once (gainFunction 2) called
  rw [ShaderFunction.definition, written] at own
  rw [written] at texts
  exact ⟨compiled, functions, lowered, names, own, known, member, named,
    texts⟩

/-- A function that returns zero with a sign. -/
def restFunction (handle : Nat) (zero : Binary32) : ShaderFunction :=
  ⟨handle, "rest", some .scalar, [],
    [.returnValue (.literal (.scalar zero))]⟩

/-- Calls of two functions of one name, with zeros of both signs. -/
def restShader : Shader :=
  ⟨.fragment, none,
    [ .call (restFunction 0 ⟨0⟩) [],
      .call (restFunction 1 ⟨0x80000000⟩) [] ]⟩

def restSource : String :=
  "\nfloat rest() \x7b\n  return 0.0;\n\x7d\n" ++
    "\nvoid main() \x7b\n  rest();\n  rest();\n\x7d\n"

/-- Functions that return different numbers do not share a name. -/
example :
    lower .glslEs100 ⟨.fragment, none,
      [ .call (restFunction 0 ⟨0⟩) [],
        .call (restFunction 1 (.ofInt 1)) [] ]⟩ =
      .error (.inconsistentFunction "rest") := by
  decide +kernel

/-- The second function is called, but the first one is defined for both. -/
theorem restShader_mergesZeros :
    ∃ compiled, lower .glslEs100 restShader = .ok compiled ∧
      compiled.source = restSource ∧
      CalledFrom restShader.operations (restFunction 1 ⟨0x80000000⟩) ∧
      (restFunction 0 ⟨0⟩).definitionText (restShader.target .glslEs100) =
        "\nfloat rest() \x7b\n  return 0.0;\n\x7d\n" ∧
      (restFunction 1 ⟨0x80000000⟩).definitionText
          (restShader.target .glslEs100) =
        "\nfloat rest() \x7b\n  return -0.0;\n\x7d\n" := by
  obtain ⟨compiled, lowered, source⟩ :=
    exists_of_source restShader restSource (by decide +kernel)
  refine ⟨compiled, lowered, source, .direct ?_, by decide +kernel,
    by decide +kernel⟩
  exact List.mem_cons_of_mem _ (List.mem_singleton_self _)

end Examples

end Shaderwright
