import Mathlib.Data.List.Nodup
import Shaderwright.Proofs.NameClashes

/-!
Lowering succeeds exactly on the acceptable shaders. A served shader is
acceptable, since every scope agrees with one that the walk has served. The
walk over an acceptable shader could only meet a clash of names, which the
conditions exclude.
-/

namespace Shaderwright

/-! ## Texts outside the bodies -/

theorem precisionText_ok_iff {target : Target}
    {precision : Option Precision} :
    (∃ text, target.precisionText precision = .ok text) ↔
      ∀ wanted, precision = some wanted →
        (target.dialect.precisions wanted).isSome = true := by
  cases precision with
  | none =>
      simp [Target.precisionText]
  | some wanted =>
      unfold Target.precisionText
      cases found : target.dialect.precisions wanted <;> simp [found]

/-- A parameter that can be declared has the text of its declaration. -/
theorem Target.Declares.declarationText {target : Target}
    {symbol : Parameter} (declares : target.Declares symbol) :
    ∃ text, target.declarationText symbol.symbol = .ok text := by
  obtain ⟨type, typeOk⟩ :=
    (target.typeKeyword_ok_iff _ symbol.name).mpr declares.type
  obtain ⟨qualifier, qualifierOk⟩ :=
    (target.qualifierKeyword_ok_iff _ symbol.name).mpr declares.qualifier
  exact ⟨qualifier ++ " " ++ type ++ " " ++ symbol.name ++
    arraySuffix symbol.arrayLength ++ ";\n", by
      simp [Target.declarationText, Parameter.symbol, typeOk, qualifierOk,
        bind, Except.bind, pure, Except.pure]⟩

/-! ## A lowered shader is acceptable -/

section Soundness

variable {dialect : Dialect} {shader : Shader} {locals : Locals}
  {finish : Progress}

/-- Functions of one name are stood for by one definition. -/
theorem Shader.Walk.functionsAlike
    (walk : shader.Walk dialect locals finish)
    (agree : shader.HandlesAgree) {first second : ShaderFunction}
    (calledFirst : CalledFrom shader.operations first)
    (calledSecond : CalledFrom shader.operations second)
    (named : first.name = second.name) : first.StandsFor second := by
  obtain ⟨definition, member, namedFirst, sameFirst⟩ :=
    walk.covers agree calledFirst
  obtain ⟨other, otherMember, namedSecond, sameSecond⟩ :=
    walk.covers agree calledSecond
  have sameDefinition : definition = other :=
    List.inj_on_of_nodup_map walk.distinctDefinitions member otherMember
      (namedFirst.trans (named.trans namedSecond.symm))
  subst sameDefinition
  have calledDefined := walk.calledFrom_of_mem member
  exact agree.standsFor_trans calledFirst calledDefined calledSecond
    (agree.standsFor_symm calledDefined calledFirst sameFirst) sameSecond

theorem Shader.Walk.acceptable (walk : shader.Walk dialect locals finish)
    (agree : shader.HandlesAgree)
    (precise : ∃ text,
      (shader.target dialect).precisionText shader.precision = .ok text) :
    shader.Acceptable dialect where
  scopes := by
    intro scope inShader
    obtain ⟨twin, same, served⟩ := walk.exists_served agree inShader
    exact served.acceptable.of_canonical_eq same
  stageUsesAlike := by
    intro first usedFirst second usedSecond named
    exact List.inj_on_of_nodup_map walk.distinctSymbols
      (walk.stageUse agree usedFirst).2 (walk.stageUse agree usedSecond).2
      named
  stageUsesDeclarable := by
    intro symbol used
    exact (walk.stageUse agree used).1
  signatures := by
    intro function called
    obtain ⟨definition, member, _, same⟩ :=
      walk.exists_definition agree called
    have declarable :=
      signature_passes_iff.mp (walk.settled_of_mem member).1
    exact declarable.of_canonical_eq same
  functionsAlike := by
    intro first calledFirst second calledSecond named
    exact walk.functionsAlike agree calledFirst calledSecond named
  precision := precisionText_ok_iff.mp precise

end Soundness

/-! ## An acceptable shader is lowered -/

/-- The walk over an acceptable shader succeeds. -/
theorem Shader.Acceptable.exists_walk {dialect : Dialect} {shader : Shader}
    (acceptable : shader.Acceptable dialect)
    (agree : shader.HandlesAgree) :
    ∃ locals finish, shader.Walk dialect locals finish := by
  obtain ⟨locals, collected, ends⟩ := acceptable.bodies.entry_ends agree
  rcases ends with ⟨⟨⟩, finish, ran, _⟩ | ⟨name, _, _, clashes⟩
  · exact ⟨locals, finish, collected, performAll_run_iff.mp ran⟩
  · exact absurd clashes (acceptable.not_clashes name)

/-! ## Acceptance -/

/-- Lowering succeeds exactly on acceptable shaders, whatever the order in
which their bodies are walked. -/
theorem lower_succeeds_iff_acceptable (dialect : Dialect) (shader : Shader)
    (agree : shader.HandlesAgree) :
    (∃ compiled, lower dialect shader = .ok compiled) ↔
      shader.Acceptable dialect := by
  constructor
  · rintro ⟨compiled, lowered⟩
    obtain ⟨locals, finish, precision, _, collected, performs, precise, _⟩ :=
      lower_ok_iff.mp lowered
    have walk : shader.Walk dialect locals finish := ⟨collected, performs⟩
    exact walk.acceptable agree ⟨precision, precise⟩
  · intro acceptable
    obtain ⟨locals, finish, walk⟩ := acceptable.exists_walk agree
    have precise :
        ∃ text, (shader.target dialect).precisionText shader.precision =
          .ok text :=
      precisionText_ok_iff.mpr acceptable.precision
    obtain ⟨precision, precise⟩ := precise
    have declarable :
        ∀ symbol ∈ finish.symbols.symbols,
          ∃ text, (shader.target dialect).declarationText symbol =
            .ok text := by
      intro symbol member
      obtain ⟨parameter, declares, rfl⟩ :=
        walk.performs.symbolsDeclarable (by simp [Progress.start,
          SymbolTable.empty]) symbol member
      exact declares.declarationText
    obtain ⟨declarations, declared⟩ := mapM_ok_iff.mpr declarable
    exact ⟨_, lower_ok_iff.mpr ⟨locals, finish, precision, declarations,
      walk.collected, walk.performs, precise, declared, rfl⟩⟩

theorem layeredShader_acceptable :
    layeredShader.HandlesAgree ∧ layeredShader.Acceptable .glslEs100 :=
  ⟨layeredShader_handlesAgree,
    (lower_succeeds_iff_acceptable .glslEs100 layeredShader
      layeredShader_handlesAgree).mp layeredShader_lowers⟩

end Shaderwright
