import Mathlib.Data.List.Forall2
import Shaderwright.Proofs.LoweredShader

/-!
The source text as a whole: the precision, one line for each symbol, one
definition for each function, and the entry point.
-/

namespace Shaderwright

/-- Whether a line declares a symbol in the words of a dialect. -/
def Dialect.DeclaresBy (dialect : Dialect) (symbol : Symbol)
    (line : String) : Prop :=
  ∃ qualifier type,
    dialect.qualifiers symbol.qualifier = some qualifier ∧
      dialect.types symbol.type = some type ∧
      line = qualifier ++ " " ++ type ++ " " ++ symbol.name ++
        arraySuffix symbol.arrayLength ++ ";\n"

/-- The source of a compiled shader with the functions that it defines. -/
def CompiledShader.Defines (dialect : Dialect) (shader : Shader)
    (compiled : CompiledShader) (functions : List ShaderFunction) : Prop :=
  ∃ precision lines,
    (shader.target dialect).precisionText shader.precision =
      .ok precision ∧
    List.Forall₂ dialect.DeclaresBy compiled.symbols lines ∧
    compiled.source =
      precision ++ String.join lines ++
        String.join (functions.map
          (ShaderFunction.definitionText (shader.target dialect))) ++
        shader.entryText dialect

theorem typeKeyword_eq_ok_iff {target : Target} {type : ShaderType}
    {usedBy word : String} :
    target.typeKeyword type usedBy = .ok word ↔
      target.dialect.types type = some word := by
  unfold Target.typeKeyword
  cases target.dialect.types type <;> simp

theorem qualifierKeyword_eq_ok_iff {target : Target}
    {qualifier : Qualifier} {usedBy word : String} :
    target.qualifierKeyword qualifier usedBy = .ok word ↔
      target.dialect.qualifiers qualifier = some word := by
  unfold Target.qualifierKeyword
  cases target.dialect.qualifiers qualifier <;> simp

theorem declaresBy_of_declarationText {target : Target} {symbol : Symbol}
    {line : String}
    (written : target.declarationText symbol = .ok line) :
    target.dialect.DeclaresBy symbol line := by
  unfold Target.declarationText at written
  cases qualified :
      target.qualifierKeyword symbol.qualifier symbol.name with
  | error fault =>
      rw [qualified] at written
      cases written
  | ok qualifier =>
      cases typed : target.typeKeyword symbol.type symbol.name with
      | error fault =>
          rw [qualified, typed] at written
          cases written
      | ok type =>
          rw [qualified, typed] at written
          cases written
          exact ⟨qualifier, type, qualifierKeyword_eq_ok_iff.mp qualified,
            typeKeyword_eq_ok_iff.mp typed, rfl⟩

theorem forall₂_of_mapM {α β : Type}
    {convert : α → Except LoweringError β} :
    ∀ {values : List α} {results : List β},
      values.mapM convert = .ok results →
        List.Forall₂ (fun value result => convert value = .ok result)
          values results
  | [], _, converted => by
      cases converted
      exact .nil
  | value :: rest, results, converted => by
      rw [List.mapM_cons] at converted
      cases first : convert value with
      | error fault =>
          rw [first] at converted
          cases converted
      | ok result =>
          cases others : rest.mapM convert with
          | error fault =>
              rw [first, others] at converted
              cases converted
          | ok later =>
              rw [first, others] at converted
              cases converted
              exact .cons first (forall₂_of_mapM others)

/-- A lowered shader has been walked; its symbols and functions are those that
the walk has met. -/
theorem walk_of_lower {dialect : Dialect} {shader : Shader}
    {compiled : CompiledShader}
    (lowered : lower dialect shader = .ok compiled) :
    ∃ locals finish,
      shader.Walk dialect locals finish ∧
        compiled.symbols = finish.symbols.symbols ∧
        compiled.functions =
          finish.definitions.map (fun known => known.function.name) ∧
        compiled.Defines dialect shader
          (finish.definitions.map Definition.function) := by
  obtain ⟨locals, finish, precision, declarations, collected, performs,
    precise, declared, rfl⟩ := lower_ok_iff.mp lowered
  have written :
      ∀ definition ∈ finish.definitions,
        definition.text =
          definition.function.definitionText (shader.target dialect) := by
    intro definition member
    have equality :=
      performs.definitionsWritten (by simp [Progress.start]) definition
        member
    exact congrArg Definition.text equality
  refine ⟨locals, finish, ⟨collected, performs⟩, rfl, rfl, precision,
    declarations, precise, ?_, ?_⟩
  · exact (forall₂_of_mapM declared).imp fun _ _ =>
      declaresBy_of_declarationText
  · rw [List.map_map, List.map_congr_left written]
    rfl

/-- A shader of which the source is known. -/
theorem exists_of_source (shader : Shader) (source : String)
    (found : (lower .glslEs100 shader).toOption.map CompiledShader.source =
      some source) :
    ∃ compiled, lower .glslEs100 shader = .ok compiled ∧
      compiled.source = source := by
  cases lowered : lower .glslEs100 shader with
  | ok compiled =>
      rw [lowered] at found
      exact ⟨compiled, rfl, Option.some.inj found⟩
  | error fault =>
      rw [lowered] at found
      cases found

end Shaderwright
