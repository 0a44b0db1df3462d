import Shaderwright.Proofs.Lambert.Stages
import Shaderwright.Proofs.Scoping.DeclaredLengths

/-!
Diffuse materials are specialised to the lights. For all numbers of lights, and
whatever earlier builds have left in the cache, both stages are lowered; the
number of lights of a kind is the length of its arrays in the stage and in the
signature of its function and the bound of the loop of this function, and a
kind without lights leaves no trace (`stages_specialized`).
-/

namespace Shaderwright

/-! ## Loops of a body -/

/-- The header of a loop. -/
structure LoopHeader where
  initial : String
  condition : String
  step : String
deriving DecidableEq, Repr

def LoopHeader.text (header : LoopHeader) : String :=
  "for (" ++ header.initial ++ "; " ++ header.condition ++ "; " ++
    header.step ++ ") \x7b\n"

def Visit.loop? : Visit → Option LoopHeader
  | .operation _ (.loop initial condition step _) =>
      some ⟨initial, condition, step⟩
  | _ => none

/-- The loops of a body, also those inside others, in the order of its text. -/
def bodyLoops (body : List Operation) : List LoopHeader :=
  (bodyVisits 1 body).filterMap Visit.loop?

theorem bodyLoops_append (first second : List Operation) :
    bodyLoops (first ++ second) = bodyLoops first ++ bodyLoops second := by
  rw [bodyLoops, bodyVisits_append, List.filterMap_append]
  rfl

/-- A statement of a body stands in the text of the body. -/
theorem exists_statement_written (target : Target) (level : Nat)
    {body : List Operation} {node : Operation} (member : node ∈ body) :
    ∃ before after,
      bodyText target level body =
        before ++ node.text target (.statement level) ++ after := by
  induction member with
  | head rest =>
      exact ⟨"", bodyText target level rest, by simp [bodyText]⟩
  | tail first _ inductionHypothesis =>
      obtain ⟨before, after, written⟩ := inductionHypothesis
      refine ⟨first.text target (.statement level) ++ before, after, ?_⟩
      rw [bodyText, written]
      simp [String.append_assoc]

/-- The text of a loop begins with its header. -/
theorem exists_text_loop (target : Target) (position : Position)
    (initial condition step : String) (body : List Operation) :
    ∃ after,
      (Operation.loop initial condition step body).text target position =
        indentation position.depth ++
          (LoopHeader.mk initial condition step).text ++ after := by
  refine ⟨bodyText target (position.depth + 1) body ++
    indentation position.depth ++ "\x7d\n", ?_⟩
  simp [Operation.text, LoopHeader.text, String.append_assoc]

namespace Lambert

/-- The loop over the lights of a kind. -/
def eachLight (count : Nat) : LoopHeader :=
  ⟨"int i = 0", "i < " ++ toString count, "i++"⟩

/-- A function of the fragment stage that is made for the lights of a kind: it
is called with the arrays of the kind, which are symbols of the stage; the
number of lights is their length, that of the parameters they are passed to,
and the bound of the only loop. -/
structure LightKind.Specialized (kind : LightKind) (count : Nat)
    (target : Target) (body : List Operation) (symbols : List Symbol)
    (function : ShaderFunction) : Prop where
  lighting : ∃ handle,
    function = (kind.lighting count).withHandle handle
  called : .addTo light (Operation.call function (kind.arguments count)) ∈
    body
  arrays : ∀ array ∈ kind.arrays count,
    array.symbol ∈ symbols ∧ array.arrayLength = count ∧
      ∃ parameter,
        (.parameter array, parameter) ∈
            (kind.arguments count).zip function.parameters ∧
          parameter.type = array.type ∧ parameter.arrayLength = count
  signature :
    target.DefinesWhole function (function.definitionText target)
  loops : bodyLoops function.body = [eachLight count]
  loopWritten : ∃ before after,
    function.definitionText target =
      before ++ (eachLight count).text ++ after

/-- A fragment stage that is compiled for given light counts. -/
structure SpecializedStage (dialect : Dialect) (lights : LightCounts)
    (shader : Shader) (compiled : CompiledShader)
    (functions : List ShaderFunction) : Prop where
  defines : compiled.Defines dialect shader functions
  names : compiled.functions = (present lights).map LightKind.functionName
  symbols : compiled.symbols =
    firstOccurrences ((litUses lights).map Parameter.symbol)
  eachKind : List.Forall₂
    (fun kind function =>
      kind.Specialized (kind.count lights) (shader.target dialect)
        shader.operations compiled.symbols function)
    (present lights) functions
  noOtherLoops : bodyLoops shader.operations = []
  absent : ∀ kind : LightKind, kind.count lights = 0 →
    kind.functionName ∉ compiled.functions ∧
      ∀ count, ∀ array ∈ kind.arrays count,
        array.name ∉ compiled.symbols.map Symbol.name
  localsStayLocal : ∀ scope, shader.Writes functions scope →
    ∀ known ∈ scope.locals,
      known.name ∉ compiled.symbols.map Symbol.name

/-! ## The functions -/

namespace LightKind

variable (kind : LightKind) (count : Nat)

theorem bodyLoops_lighting :
    bodyLoops (kind.lighting count).body = [eachLight count] := by
  cases kind <;> rfl

/-- Each array of the stage is passed to a parameter of its type and length. -/
theorem exists_parameter {array : Parameter}
    (member : array ∈ kind.arrays count) :
    ∃ parameter,
      (.parameter array, parameter) ∈
          (kind.arguments count).zip (kind.lighting count).parameters ∧
        parameter.type = array.type ∧ parameter.arrayLength = count := by
  revert array
  cases kind with
  | directional =>
      simp [arrays, arguments, lighting, directionalLighting, summing,
        arrayOf, unitNormal]
  | point =>
      simp [arrays, arguments, lighting, pointLighting, summing, arrayOf,
        unitNormal, worldPosition]
  | spot =>
      simp [arrays, arguments, lighting, spotLighting, summing, arrayOf,
        unitNormal, worldPosition]

/-- The arrays are constant, and their length is the number of lights. -/
theorem constant_of_mem_arrays {array : Parameter}
    (member : array ∈ kind.arrays count) :
    array.qualifier = .constant ∧ array.arrayLength = count := by
  revert array
  cases kind <;> simp [arrays, arrayOf]

end LightKind

/-- The loop over the lights stands in the text of the function. -/
theorem LightKind.exists_loop_written (kind : LightKind)
    (count handle : Nat) (target : Target) :
    ∃ before after,
      ((kind.lighting count).withHandle handle).definitionText target =
        before ++ (eachLight count).text ++ after := by
  obtain ⟨inner, statement⟩ : ∃ inner,
      .loop "int i = 0" ("i < " ++ toString count) "i++" inner ∈
        (kind.lighting count).body := by
    cases kind <;> exact ⟨_, List.mem_cons_of_mem _ List.mem_cons_self⟩
  obtain ⟨before, after, written⟩ :=
    exists_statement_written target 1 statement
  obtain ⟨rest, headed⟩ :
      ∃ rest,
        (Operation.loop "int i = 0" ("i < " ++ toString count) "i++"
          inner).text target (.statement 1) =
            indentation 1 ++ (eachLight count).text ++ rest :=
    exists_text_loop target (.statement 1) _ _ _ inner
  rw [headed] at written
  obtain ⟨opening, definition⟩ :
      ∃ opening,
        ((kind.lighting count).withHandle handle).definitionText target =
          opening ++ bodyText target 1 (kind.lighting count).body ++
            "\x7d\n" := ⟨_, rfl⟩
  refine ⟨opening ++ (before ++ indentation 1), rest ++ after ++ "\x7d\n",
    ?_⟩
  rw [definition, written]
  simp only [String.append_assoc]

/-! ## The fragment stage -/

section Fragment

variable {dialect : Dialect} (precision : Precision)
  (lights : LightCounts) (handles : LightKind → Nat)

theorem bodyLoops_litFragment :
    bodyLoops (litFragment precision lights handles).operations = [] := by
  have call (kind : LightKind) :
      bodyLoops [kind.lightCall (kind.count lights) (handles kind)] =
        [] := by
    cases kind <;> rfl
  have read := read_fragmentOperations bodyLoops_append
    (fun kind => kind.lightCall (kind.count lights) (handles kind))
    (present lights)
  simp only [call] at read
  rw [List.flatMap_eq_nil_iff.mpr fun _ _ => rfl] at read
  exact read

/-- The function of a kind with lights is made for them. -/
theorem specialized_of_present (complete : dialect.Complete)
    {kind : LightKind} (lit : kind ∈ present lights) :
    kind.Specialized (kind.count lights)
      ((litFragment precision lights handles).target dialect)
      (litFragment precision lights handles).operations
      (firstOccurrences ((litUses lights).map Parameter.symbol))
      ((kind.lighting (kind.count lights)).withHandle (handles kind)) where
  lighting := ⟨handles kind, rfl⟩
  called := by
    have listed :
        kind.lightCall (kind.count lights) (handles kind) ∈
          (present lights).map fun kind =>
            kind.lightCall (kind.count lights) (handles kind) :=
      List.mem_map.mpr ⟨kind, lit, rfl⟩
    exact List.mem_append_left _ (List.mem_append_right _ listed)
  arrays := by
    intro array member
    have used : array ∈ litUses lights :=
      uses_subset_litUses lights lit (List.mem_append_right _ member)
    exact ⟨(declaredAlike_litUses lights).mem_firstOccurrences used,
      (kind.constant_of_mem_arrays _ member).2,
      kind.exists_parameter _ member⟩
  signature := by
    have declarable :
        ((kind.lighting (kind.count lights)).withHandle
          (handles kind)).Declarable
            ((litFragment precision lights handles).target dialect) :=
      ⟨fun type _ => complete.types type,
        fun symbol _ => complete.types symbol.type⟩
    exact declarable.definesWhole
  loops := kind.bodyLoops_lighting (kind.count lights)
  loopWritten := kind.exists_loop_written _ _ _

/-- A kind without lights leaves no symbol. -/
theorem name_not_mem_litUses {kind : LightKind}
    (dark : kind.count lights = 0) {count : Nat} {array : Parameter}
    (member : array ∈ kind.arrays count) :
    array.name ∉ (litUses lights).map Parameter.name := by
  intro named
  obtain ⟨symbol, used, same⟩ := List.mem_map.mp named
  have arrayName := LightKind.name_mem_arrayNames member
  rw [← same] at arrayName
  rcases exists_kind_of_mem_litUses lights used with frame |
    ⟨other, lit, ofOther⟩
  · exact LightKind.not_mem_frameUses arrayName
      (List.mem_map_of_mem frame)
  · have sameKind : kind = other :=
      LightKind.eq_of_mem_arrayNames arrayName
        (LightKind.name_mem_arrayNames ofOther)
    rw [mem_present_iff, ← sameKind, dark] at lit
    exact absurd lit (Nat.lt_irrefl 0)

/-- No local variable of a written body has the name of a symbol. -/
theorem name_not_mem_stageNames {scope : Scope}
    (writes : (litFragment precision lights handles).Writes
      (litFunctions lights handles) scope) :
    ∀ known ∈ scope.locals, known.name ∉ stageNames := by
  rcases writes with rfl | ⟨function, member, rfl⟩
  · rw [locals_litFragment]
    decide
  · obtain ⟨kind, _, rfl⟩ := List.mem_map.mp member
    have locals :
        ((kind.lighting (kind.count lights)).withHandle
          (handles kind)).scope.locals = kind.locals (kind.count lights) :=
      kind.locals_lighting (kind.count lights)
    rw [locals]
    intro known isLocal
    exact LightKind.not_mem_stageNames isLocal

/-- The fragment stage is lowered to one that is made for the lights. -/
theorem exists_specializedStage (complete : dialect.Complete)
    (distinct : ((present lights).map handles).Nodup) :
    ∃ compiled,
      lower dialect (litFragment precision lights handles) =
        .ok compiled ∧
      SpecializedStage dialect lights
        (litFragment precision lights handles) compiled
        (litFunctions lights handles) := by
  obtain ⟨compiled, lowered, symbols, functions, defines⟩ :=
    exists_litFragment_lowered precision lights handles complete distinct
  have name_mem_iff (name : String) :
      name ∈ compiled.symbols.map Symbol.name ↔
        name ∈ (litUses lights).map Parameter.name := by
    rw [symbols, name_mem_firstOccurrences_iff, List.map_map]
    rfl
  refine ⟨compiled, lowered, defines, functions, symbols, ?_,
    bodyLoops_litFragment precision lights handles, ?_, ?_⟩
  · rw [symbols, litFunctions, List.forall₂_map_right_iff,
      List.forall₂_same]
    intro kind lit
    exact specialized_of_present precision lights handles complete lit
  · intro kind dark
    constructor
    · rw [functions]
      intro listed
      obtain ⟨other, lit, same⟩ := List.mem_map.mp listed
      rw [LightKind.functionName_injective same, mem_present_iff, dark]
        at lit
      exact absurd lit (Nat.lt_irrefl 0)
    · intro count array member
      rw [name_mem_iff]
      exact name_not_mem_litUses lights dark member
  · intro scope writes known isLocal
    rw [name_mem_iff]
    intro named
    have subset := List.map_subset Parameter.name (litUses_subset lights)
    rw [names_possibleUses] at subset
    exact name_not_mem_stageNames precision lights handles writes known
      isLocal (subset named)

end Fragment

/-! ## Both stages -/

/-- For all numbers of lights, and whatever earlier builds have left in the
cache, both stages of a diffuse material are lowered. The fragment stage is made
for the lights, the vertex stage is one and the same, and what the fragment
stage takes from it is among the symbols of both. -/
theorem stages_specialized {dialect : Dialect}
    (complete : dialect.Complete) :
    ∃ vertex, ∀ (name : String) (precision : Precision)
        (lights : LightCounts) (workshop : Workshop),
      FilledByBuilds workshop.functions →
        ∃ fragment functions,
          lower dialect ((Material.lambert name precision).build lights
              workshop).1.vertex = .ok vertex ∧
            lower dialect ((Material.lambert name precision).build lights
              workshop).1.fragment = .ok fragment ∧
            SpecializedStage dialect lights
              ((Material.lambert name precision).build lights
                workshop).1.fragment fragment functions ∧
            ∀ symbol ∈ fragment.symbols, symbol.qualifier = .varying →
              symbol ∈ vertex.symbols := by
  obtain ⟨vertex, loweredVertex, position, normalSet⟩ :=
    exists_vertexShader_lowered complete
  refine ⟨vertex, ?_⟩
  intro name precision lights workshop filled
  obtain ⟨handles, distinct, built, _⟩ :=
    filled.holdsLighting.exists_build name precision lights
  obtain ⟨fragment, lowered, specialized⟩ :=
    exists_specializedStage precision lights handles complete distinct
  rw [built]
  refine ⟨fragment, litFunctions lights handles, loweredVertex, lowered,
    specialized, ?_⟩
  intro symbol member varying
  rw [specialized.symbols] at member
  obtain ⟨parameter, used, rfl⟩ :=
    List.mem_map.mp ((firstOccurrences_sublist _).subset member)
  rcases exists_kind_of_mem_litUses lights used with frame |
    ⟨kind, _, array⟩
  · have taken : ∀ parameter ∈ frameUses,
        parameter.qualifier = .varying →
          parameter = worldPosition ∨ parameter = normal := by
      decide
    rcases taken parameter frame varying with rfl | rfl
    · exact position
    · exact normalSet
  · have constant := (kind.constant_of_mem_arrays _ array).1
    rw [Parameter.symbol, constant] at varying
    cases varying

/-- A workshop in which a material has been built for other lights. -/
def litWorkshop : Workshop :=
  ((Material.lambert "wall" .medium).build ⟨2, 3, 0⟩ .empty).2

def floorTrees : ShaderPair :=
  ((Material.lambert "floor" .high).build ⟨2, 0, 1⟩ litWorkshop).1

/-- Two directional lights and a spot light. The function for the former is
that of the earlier build. -/
theorem floorTrees_specialized :
    Dialect.glslEs100.Complete ∧ FilledByBuilds litWorkshop.functions ∧
      ∃ vertex fragment functions,
        lower .glslEs100 floorTrees.vertex = .ok vertex ∧
          lower .glslEs100 floorTrees.fragment = .ok fragment ∧
          SpecializedStage .glslEs100 ⟨2, 0, 1⟩ floorTrees.fragment fragment
            functions ∧
          fragment.functions = ["directionalLighting", "spotLighting"] ∧
          (fragment.symbols.map fun symbol =>
              (symbol.name, symbol.arrayLength)) =
            [ ("vNormal", 0), ("ambientColor", 0),
              ("directionalDirections", 2), ("directionalColors", 2),
              ("vWorldPosition", 0), ("spotPositions", 1),
              ("spotDirections", 1), ("spotColors", 1), ("spotCutoffs", 1),
              ("baseColor", 0) ] := by
  have filled : FilledByBuilds litWorkshop.functions := .built .empty _ _ _
  obtain ⟨vertex, specializes⟩ := stages_specialized glslEs100_complete
  obtain ⟨fragment, functions, loweredVertex, lowered, specialized, _⟩ :=
    specializes "floor" .high ⟨2, 0, 1⟩ litWorkshop filled
  refine ⟨glslEs100_complete, filled, vertex, fragment, functions,
    loweredVertex, lowered, specialized, specialized.names, ?_⟩
  rw [specialized.symbols]
  decide

end Lambert

end Shaderwright
