import Shaderwright.Proofs.AdmissibleParts
import Shaderwright.Proofs.FlatShader
import Shaderwright.Proofs.Lambert.LightingCache

/-!
The stages of a diffuse material as trees. The fragment stage calls one function
for each kind with lights, and what it uses beyond its local variables depends
on these kinds and on their numbers of lights alone
(`stageParameters_litFragment`). Both stages are acceptable to every dialect
that has all keywords.
-/

namespace Shaderwright.Lambert

open Operation Transform

/-! ## Names of a kind -/

namespace LightKind

/-- The name of the function that adds up the lights of a kind. -/
def functionName (kind : LightKind) : String :=
  kind.name ++ "Lighting"

/-- The arrays of the stage with the data of the lights of a kind. -/
def arrays : LightKind → Nat → List Parameter
  | directional, count =>
      [ arrayOf 60 "directionalDirections" count,
        arrayOf 61 "directionalColors" count ]
  | point, count =>
      [ arrayOf 62 "pointPositions" count,
        arrayOf 63 "pointColors" count ]
  | spot, count =>
      [ arrayOf 64 "spotPositions" count,
        arrayOf 65 "spotDirections" count,
        arrayOf 66 "spotColors" count,
        ⟨67, "spotCutoffs", .scalar, .constant, count⟩ ]

/-- What the call for a kind uses of the stage. Directional light does not
depend on where the surface is. -/
def uses (kind : LightKind) (count : Nat) : List Parameter :=
  kind.select [] [worldPosition] [worldPosition] ++ kind.arrays count

/-- The local variables of the function of a kind. -/
def locals : LightKind → Nat → List Parameter
  | directional, count =>
      [ surfaceNormal, arrayOf 20 "directions" count,
        arrayOf 21 "colors" count, sum ]
  | point, count =>
      [ surfaceNormal, surfacePosition, arrayOf 30 "positions" count,
        arrayOf 31 "colors" count, sum,
        ⟨32, "toLight", .vector3, .varying, 0⟩,
        ⟨33, "attenuation", .scalar, .varying, 0⟩ ]
  | spot, count =>
      [ surfaceNormal, surfacePosition, arrayOf 40 "positions" count,
        arrayOf 41 "directions" count, arrayOf 42 "colors" count,
        ⟨43, "cutoffs", .scalar, .constant, count⟩, sum,
        ⟨44, "facing", .scalar, .varying, 0⟩ ]

variable (kind : LightKind) (count : Nat)

theorem name_lighting : (kind.lighting count).name = kind.functionName := by
  cases kind <;> rfl

theorem functionName_injective : functionName.Injective := by
  intro kind kind' same
  cases kind <;> cases kind' <;> first
    | rfl
    | exact absurd same (by decide)

theorem locals_lighting :
    (kind.lighting count).scope.locals = kind.locals count := by
  cases kind <;> rfl

theorem stageParameters_lighting (handle : Nat) :
    ((kind.lighting count).withHandle handle).stageParameters = [] := by
  cases kind <;> rfl

theorem declaredAlike_locals : DeclaredAlike (kind.locals count) := by
  refine .of_nodup ?_
  cases kind <;>
    simp [locals, surfaceNormal, surfacePosition, arrayOf, sum]

/-- The names of the arrays do not depend on their length. -/
def arrayNames : List String :=
  (kind.arrays 0).map Parameter.name

end LightKind

/-- What a fragment stage may use besides the arrays of the kinds. -/
def frameUses : List Parameter :=
  [normal, ambientColor, worldPosition, baseColor]

/-- The names of all symbols that a fragment stage may have. -/
def stageNames : List String :=
  frameUses.map Parameter.name ++
    [.directional, .point, .spot].flatMap LightKind.arrayNames

namespace LightKind

variable {kind : LightKind} {count : Nat}

theorem name_mem_arrayNames {array : Parameter}
    (member : array ∈ kind.arrays count) :
    array.name ∈ kind.arrayNames := by
  have names :
      (kind.arrays count).map Parameter.name = kind.arrayNames := by
    cases kind <;> rfl
  rw [← names]
  exact List.mem_map_of_mem member

/-- The name of an array tells the kind. -/
theorem eq_of_mem_arrayNames {kind' : LightKind} {name : String}
    (first : name ∈ kind.arrayNames) (second : name ∈ kind'.arrayNames) :
    kind = kind' := by
  have apart : kind ≠ kind' →
      ∀ name ∈ kind.arrayNames, name ∉ kind'.arrayNames := by
    cases kind <;> cases kind' <;> decide
  by_contra different
  exact apart different name first second

theorem not_mem_frameUses {name : String}
    (member : name ∈ kind.arrayNames) :
    name ∉ frameUses.map Parameter.name := by
  have apart : ∀ name ∈ kind.arrayNames,
      name ∉ frameUses.map Parameter.name := by
    cases kind <;> decide
  exact apart name member

/-- No local variable of a function has the name of a symbol. -/
theorem not_mem_stageNames {known : Parameter}
    (isLocal : known ∈ kind.locals count) : known.name ∉ stageNames := by
  have names :
      (kind.locals count).map Parameter.name =
        (kind.locals 0).map Parameter.name := by
    cases kind <;> rfl
  have apart : ∀ name ∈ (kind.locals 0).map Parameter.name,
      name ∉ stageNames := by
    cases kind <;> decide
  rw [← names] at apart
  exact apart known.name (List.mem_map_of_mem isLocal)

end LightKind

/-! ## Homogeneous coordinates -/

theorem isFinite_zero : (Binary32.ofInt 0).isFinite = true := by
  decide +kernel

theorem isFinite_one : (Binary32.ofInt 1).isFinite = true := by
  decide +kernel

/-- A vector of three components is given a fourth one. -/
theorem allAdmissible_homogeneous {target : Target}
    {locals : List Parameter} {position : Position}
    (maps : ∀ type, target.Maps type) {vector : Operand}
    (three : vector.components? = some 3)
    (admissible : vector.AllAdmissible target locals) {pad : Binary32}
    (finite : pad.isFinite = true) :
    (Operation.convert vector .vector4 pad).AllAdmissible target locals
      position := by
  rw [allAdmissible_convert]
  exact ⟨⟨⟨3, 4, three, rfl, by decide⟩, maps _⟩, admissible,
    fun _ _ _ _ _ => finite⟩

/-! ## The functions -/

section Functions

variable {target : Target}

attribute [local simp] ShaderFunction.scope LightKind.lighting summing
  countedLoop zero current diffuse times minus plus quotient product
  Operation.dotProduct maximum normalized Operand.whole Literal.type
  Literal.components BuiltInFunction.arity isFinite_zero isFinite_one

/-- The bodies of the lighting functions are acceptable to a dialect that has
all keywords. -/
theorem LightKind.acceptable_lighting
    (maps : ∀ type, target.Maps type) (kind : LightKind) (count : Nat) :
    (kind.lighting count).scope.Acceptable target := by
  have alike := kind.declaredAlike_locals count
  rw [Scope.acceptable_iff, locals_lighting]
  refine ⟨alike, ?_⟩
  cases kind with
  | directional =>
      dsimp only [LightKind.locals] at alike ⊢
      simp [directionalLighting, maps, allAdmissible_addTo alike,
        Operand.allAdmissible_local alike]
  | point =>
      dsimp only [LightKind.locals] at alike ⊢
      simp [pointLighting, maps, allAdmissible_addTo alike,
        Operand.allAdmissible_local alike]
  | spot =>
      dsimp only [LightKind.locals] at alike ⊢
      simp [spotLighting, maps, allAdmissible_addTo alike,
        Operand.allAdmissible_local alike]

end Functions

/-! ## The fragment stage -/

/-- The fragment stage that calls functions of the given handles. -/
def litFragment (precision : Precision) (lights : LightCounts)
    (handles : LightKind → Nat) : Shader :=
  (trees precision ((present lights).map fun kind =>
    kind.lightCall (kind.count lights) (handles kind))).fragment

/-- The functions of the kinds with lights. -/
def litFunctions (lights : LightCounts) (handles : LightKind → Nat) :
    List ShaderFunction :=
  (present lights).map fun kind =>
    (kind.lighting (kind.count lights)).withHandle (handles kind)

/-- What the fragment stage uses beyond its local variables. -/
def litUses (lights : LightCounts) : List Parameter :=
  [normal, ambientColor] ++
    (present lights).flatMap (fun kind => kind.uses (kind.count lights)) ++
    [baseColor]

/-- What is read off a body operation by operation is, of the fragment stage,
what is read off its frame and off the calls. -/
theorem read_fragmentOperations {α : Type} {read : List Operation → List α}
    (append : ∀ first second,
      read (first ++ second) = read first ++ read second)
    (call : LightKind → Operation) (kinds : List LightKind) :
    read (fragmentOperations (kinds.map call)) =
      read
          [ introduce unitNormal (normalized normal),
            introduce light ambientColor ] ++
        kinds.flatMap (fun kind => read [call kind]) ++
        read
          [ set BuiltInVariable.output
              (Transform.point (times baseColor light)) ] := by
  have nothing : read [] = [] := by
    have twice := congrArg List.length (append [] [])
    rw [List.nil_append, List.length_append] at twice
    exact List.length_eq_zero_iff.mp (by omega)
  have calls : read (kinds.map call) =
      kinds.flatMap fun kind => read [call kind] := by
    induction kinds with
    | nil =>
        exact nothing
    | cons kind rest inductionHypothesis =>
        rw [List.map_cons, List.flatMap_cons, ← inductionHypothesis,
          ← append]
        rfl
  rw [fragmentOperations, append, append, calls]

theorem bodyDeclarations_append (first second : List Operation) :
    bodyDeclarations (first ++ second) =
      bodyDeclarations first ++ bodyDeclarations second := by
  induction first with
  | nil =>
      rfl
  | cons node rest inductionHypothesis =>
      rw [List.cons_append, bodyDeclarations, bodyDeclarations,
        inductionHypothesis, List.append_assoc]

theorem bodyStageParameters_append (locals : List Parameter)
    (first second : List Operation) :
    bodyStageParameters locals (first ++ second) =
      bodyStageParameters locals first ++
        bodyStageParameters locals second := by
  rw [bodyStageParameters_eq locals 1, bodyStageParameters_eq locals 1,
    bodyStageParameters_eq locals 1, bodyVisits_append, List.flatMap_append]

section Fragment

variable (precision : Precision) (lights : LightCounts)
  (handles : LightKind → Nat)

theorem bodyCallees_litFragment :
    bodyCallees (litFragment precision lights handles).operations =
      litFunctions lights handles := by
  have call (kind : LightKind) :
      bodyCallees [kind.lightCall (kind.count lights) (handles kind)] =
        [(kind.lighting (kind.count lights)).withHandle
          (handles kind)] := by
    cases kind <;> rfl
  have read := read_fragmentOperations bodyCallees_append
    (fun kind => kind.lightCall (kind.count lights) (handles kind))
    (present lights)
  simp only [call, ← List.map_eq_flatMap] at read
  refine read.trans ?_
  exact List.append_nil _

theorem locals_litFragment :
    (litFragment precision lights handles).entry.locals =
      [unitNormal, light] := by
  have call (kind : LightKind) :
      bodyDeclarations
        [kind.lightCall (kind.count lights) (handles kind)] = [] := by
    cases kind <;> rfl
  have read := read_fragmentOperations bodyDeclarations_append
    (fun kind => kind.lightCall (kind.count lights) (handles kind))
    (present lights)
  simp only [call] at read
  rw [List.flatMap_eq_nil_iff.mpr fun _ _ => rfl] at read
  exact read

theorem stageParameters_litFragment :
    (litFragment precision lights handles).stageParameters =
      litUses lights := by
  have call (kind : LightKind) :
      bodyStageParameters [unitNormal, light]
        [kind.lightCall (kind.count lights) (handles kind)] =
          kind.uses (kind.count lights) := by
    have arguments :
        operandStageParameters [unitNormal, light]
            (kind.arguments (kind.count lights)) =
          kind.uses (kind.count lights) := by
      cases kind <;> rfl
    simp [LightKind.lightCall, addTo, bodyStageParameters,
      Operation.stageParameters, Operand.stageParameters,
      kind.stageParameters_lighting, arguments]
  have read := read_fragmentOperations
    (bodyStageParameters_append [unitNormal, light])
    (fun kind => kind.lightCall (kind.count lights) (handles kind))
    (present lights)
  simp only [call] at read
  rw [Shader.stageParameters, locals_litFragment]
  exact read

theorem flat_litFragment : (litFragment precision lights handles).Flat := by
  constructor
  · rw [bodyCallees_litFragment, litFunctions, List.forall_mem_map]
    intro kind _
    exact kind.bodyCallees_lighting _
  · rw [bodyCallees_litFragment, litFunctions, List.map_map]
    have names : ShaderFunction.name ∘ (fun kind : LightKind =>
        (kind.lighting (kind.count lights)).withHandle (handles kind)) =
          LightKind.functionName :=
      funext fun kind => kind.name_lighting _
    rw [names]
    exact (nodup_present lights).map LightKind.functionName_injective

/-- All that a fragment stage may use, for given numbers of lights. -/
def possibleUses (lights : LightCounts) : List Parameter :=
  frameUses ++
    [.directional, .point, .spot].flatMap fun kind : LightKind =>
      kind.arrays (kind.count lights)

theorem names_possibleUses :
    (possibleUses lights).map Parameter.name = stageNames := by
  rfl

theorem uses_subset_litUses {kind : LightKind}
    (lit : kind ∈ present lights) :
    kind.uses (kind.count lights) ⊆ litUses lights := by
  intro symbol used
  have ofKind : symbol ∈ (present lights).flatMap
      fun kind => kind.uses (kind.count lights) :=
    List.mem_flatMap.mpr ⟨kind, lit, used⟩
  exact List.mem_append_left _ (List.mem_append_right _ ofKind)

/-- What is used is an array of a kind with lights, or one of the few symbols
besides. -/
theorem exists_kind_of_mem_litUses {symbol : Parameter}
    (used : symbol ∈ litUses lights) :
    symbol ∈ frameUses ∨
      ∃ kind ∈ present lights,
        symbol ∈ kind.arrays (kind.count lights) := by
  simp only [litUses, List.mem_append, List.mem_flatMap] at used
  rcases used with (opening | ⟨kind, lit, used⟩) | closing
  · exact Or.inl (List.mem_append_left [worldPosition, baseColor] opening)
  · rcases List.mem_append.mp used with position | array
    · have same : symbol = worldPosition := by
        cases kind with
        | directional =>
            cases position
        | point | spot =>
            exact List.mem_singleton.mp position
      rw [same]
      exact Or.inl (by simp [frameUses])
    · exact Or.inr ⟨kind, lit, array⟩
  · rw [List.mem_singleton.mp closing]
    exact Or.inl (by simp [frameUses])

theorem litUses_subset : litUses lights ⊆ possibleUses lights := by
  intro symbol used
  rcases exists_kind_of_mem_litUses lights used with frame |
    ⟨kind, _, array⟩
  · exact List.mem_append_left _ frame
  · refine List.mem_append_right _ (List.mem_flatMap.mpr ⟨kind, ?_, array⟩)
    cases kind <;> decide

theorem declaredAlike_litUses : DeclaredAlike (litUses lights) := by
  refine .mono (.of_nodup ?_) (litUses_subset lights)
  rw [names_possibleUses]
  decide

/-- No parameter of the stage has the name of a local variable of the entry
point. -/
theorem allAdmissible_possibleUse {target : Target} {symbol : Parameter}
    (possible : symbol ∈ possibleUses lights) :
    (Operand.parameter symbol).AllAdmissible target [unitNormal, light] := by
  have named : symbol.name ∈ stageNames := by
    rw [← names_possibleUses lights]
    exact List.mem_map_of_mem possible
  have free : ∀ name ∈ stageNames, name ∉ ["n", "light"] := by
    decide
  exact Operand.allAdmissible_stage (free symbol.name named)

section Entry

variable {target : Target}

/-- The call for a kind with lights is accepted whatever the dialect. -/
theorem LightKind.allAdmissible_lightCall {kind : LightKind}
    (lit : kind ∈ present lights) (handle : Nat) :
    (kind.lightCall (kind.count lights) handle).AllAdmissible target
      [unitNormal, light] (.statement 1) := by
  have alike : DeclaredAlike [unitNormal, light] :=
    .of_nodup (by decide)
  have arguments :
      kind.arguments (kind.count lights) =
        (unitNormal :: kind.uses (kind.count lights)).map
          Operand.parameter := by
    cases kind <;> rfl
  rw [lightCall, allAdmissible_addTo alike (by simp),
    Operand.allAdmissible_operation, allAdmissible_call, arguments]
  constructor
  · cases kind <;> rfl
  · rw [List.forall_mem_map, List.forall_mem_cons]
    refine ⟨Operand.allAdmissible_local alike (by simp), ?_⟩
    intro symbol used
    exact allAdmissible_possibleUse lights
      (litUses_subset lights (uses_subset_litUses lights lit used))

attribute [local simp] times normalized

/-- The body of the entry point is acceptable to a dialect that has all
keywords. -/
theorem acceptable_entry (maps : ∀ type, target.Maps type) :
    (litFragment precision lights handles).entry.Acceptable target := by
  have alike : DeclaredAlike [unitNormal, light] :=
    .of_nodup (by decide)
  have stage (symbol : Parameter) (possible : symbol ∈ possibleUses lights) :
      (Operand.parameter symbol).AllAdmissible target
        [unitNormal, light] :=
    allAdmissible_possibleUse lights possible
  have opening : ∀ node ∈ [ introduce unitNormal (normalized normal),
      introduce light ambientColor ],
        node.AllAdmissible target [unitNormal, light] (.statement 1) := by
    have normalUse := stage normal (by simp [possibleUses, frameUses])
    have ambientUse := stage ambientColor (by simp [possibleUses, frameUses])
    simp [maps, normalUse, ambientUse, BuiltInFunction.arity]
  have closing :
      (Operation.set BuiltInVariable.output
        (Transform.point (times baseColor light))).AllAdmissible target
          [unitNormal, light] (.statement 1) := by
    have baseUse := stage baseColor (by simp [possibleUses, frameUses])
    have lightUse :
        (Operand.parameter light).AllAdmissible target
          [unitNormal, light] :=
      Operand.allAdmissible_local alike (by simp)
    have lit : Operand.AllAdmissible target [unitNormal, light]
        (times baseColor light) := by
      simp [baseUse, lightUse]
    rw [Operation.set, allAdmissible_assign rfl,
      Operand.allAdmissible_operation]
    refine ⟨.inl rfl, ?_,
      allAdmissible_homogeneous maps rfl lit isFinite_one⟩
    simp [BuiltInVariable.availableIn]
  have body :
      (litFragment precision lights handles).entry.body =
        fragmentOperations ((present lights).map fun kind =>
          kind.lightCall (kind.count lights) (handles kind)) := rfl
  rw [Scope.acceptable_iff, locals_litFragment, body, fragmentOperations,
    List.forall_mem_append, List.forall_mem_append, List.forall_mem_map,
    List.forall_mem_singleton]
  exact ⟨alike, ⟨opening, fun kind lit =>
    LightKind.allAdmissible_lightCall lights lit (handles kind)⟩, closing⟩

end Entry

variable {dialect : Dialect}

theorem acceptable_litFragment (complete : dialect.Complete) :
    (litFragment precision lights handles).Acceptable dialect := by
  have maps (type : ShaderType) :
      ((litFragment precision lights handles).target dialect).Maps type :=
    complete.types type
  have arrays : ∀ symbol ∈ possibleUses lights,
      symbol.arrayLength = 0 ∨ symbol.qualifier = .constant := by
    simp [possibleUses, frameUses, LightKind.arrays, normal, ambientColor,
      worldPosition, baseColor, arrayOf]
  refine (flat_litFragment precision lights handles).acceptable complete
    (acceptable_entry precision lights handles maps) ?_ ?_ ?_ ?_
  · rw [bodyCallees_litFragment, litFunctions, List.forall_mem_map]
    intro kind _
    exact kind.acceptable_lighting maps (kind.count lights)
  · rw [bodyCallees_litFragment, litFunctions, List.forall_mem_map]
    intro kind _
    exact kind.stageParameters_lighting (kind.count lights) (handles kind)
  · rw [stageParameters_litFragment]
    exact declaredAlike_litUses lights
  · rw [stageParameters_litFragment]
    intro symbol used
    exact arrays symbol (litUses_subset lights used)

/-- The fragment stage is lowered. It defines the functions of the kinds with
lights, in their order. -/
theorem exists_litFragment_lowered (complete : dialect.Complete)
    (distinct : ((present lights).map handles).Nodup) :
    ∃ compiled,
      lower dialect (litFragment precision lights handles) =
        .ok compiled ∧
      compiled.symbols =
        firstOccurrences ((litUses lights).map Parameter.symbol) ∧
      compiled.functions =
        (present lights).map LightKind.functionName ∧
      compiled.Defines dialect (litFragment precision lights handles)
        (litFunctions lights handles) := by
  have flat := flat_litFragment precision lights handles
  have agree : (litFragment precision lights handles).HandlesAgree := by
    refine flat.handlesAgree ?_
    rw [bodyCallees_litFragment, litFunctions, List.map_map]
    exact distinct
  obtain ⟨compiled, lowered, symbols, functions, defines⟩ :=
    flat.exists_lowered (acceptable_litFragment precision lights handles
      complete) agree
  rw [bodyCallees_litFragment] at functions defines
  rw [stageParameters_litFragment] at symbols
  refine ⟨compiled, lowered, symbols, functions.trans ?_, defines⟩
  rw [litFunctions, List.map_map]
  exact List.map_congr_left fun kind _ => kind.name_lighting _

end Fragment

/-! ## The vertex stage -/

section Vertex

variable {dialect : Dialect}

attribute [local simp] inWorldSpace times product Transform.point
  Transform.direction

/-- The body of the vertex stage has no local variables and sets what the
fragment stage interpolates. -/
theorem acceptable_vertexEntry {target : Target}
    (maps : ∀ type, target.Maps type) :
    vertexShader.entry.Acceptable target := by
  have stage (symbol : Parameter) :
      (Operand.parameter symbol).AllAdmissible target [] :=
    Operand.allAdmissible_stage List.not_mem_nil
  have varying (symbol : Parameter) (varies : symbol.qualifier = .varying)
      {value : Operand} (admissible : value.AllAdmissible target []) :
      (Operation.set symbol value).AllAdmissible target []
        (.statement 1) := by
    have assignable : (Operand.parameter symbol).Assignable [] :=
      Or.inr ⟨varies, fun _ impossible => absurd impossible List.not_mem_nil⟩
    exact (allAdmissible_assign rfl).mpr
      ⟨assignable, stage symbol, admissible⟩
  have homogeneous (symbol : Parameter)
      (three : (Operand.parameter symbol).components? = some 3)
      {pad : Binary32} (finite : pad.isFinite = true) :
      (Operation.convert symbol .vector4 pad).AllAdmissible target []
        .value :=
    allAdmissible_homogeneous maps three (stage symbol) finite
  have point := homogeneous position rfl isFinite_one
  have direction := homogeneous vertexNormal rfl isFinite_zero
  have projected : project.AllAdmissible target [] (.statement 1) := by
    rw [project, Operation.set, allAdmissible_assign rfl]
    refine ⟨.inl rfl, ?_, ?_⟩
    · simp [BuiltInVariable.availableIn]
    · simp [stage, point]
  have locals : vertexShader.entry.locals = [] := rfl
  rw [Scope.acceptable_iff, locals]
  constructor
  · intro first impossible
    cases impossible
  · simp only [Shader.entry, vertexShader, List.forall_mem_cons]
    refine ⟨varying worldPosition rfl ?_, varying normal rfl ?_, projected,
      fun _ impossible => absurd impossible List.not_mem_nil⟩
    · simp [stage, point]
    · simp [stage, direction]

theorem stageParameters_vertexShader :
    vertexShader.stageParameters =
      [ worldPosition, model, position, normal, model, vertexNormal,
        projection, view, model, position ] := by
  rfl

theorem declaredAlike_vertexShader :
    DeclaredAlike vertexShader.stageParameters := by
  have distinct : DeclaredAlike
      [ worldPosition, normal, model, view, projection, position,
        vertexNormal ] :=
    .of_nodup (by decide)
  refine distinct.mono ?_
  rw [stageParameters_vertexShader]
  decide

/-- The vertex stage is lowered, and what it sets is among its symbols. -/
theorem exists_vertexShader_lowered (complete : dialect.Complete) :
    ∃ compiled, lower dialect vertexShader = .ok compiled ∧
      worldPosition.symbol ∈ compiled.symbols ∧
      normal.symbol ∈ compiled.symbols := by
  have noCalls : bodyCallees vertexShader.operations = [] := rfl
  have flat : vertexShader.Flat := by
    constructor
    · rw [noCalls]
      exact fun _ impossible => absurd impossible List.not_mem_nil
    · rw [noCalls]
      exact List.nodup_nil
  have arrays : ∀ symbol ∈ vertexShader.stageParameters,
      symbol.arrayLength = 0 ∨ symbol.qualifier = .constant := by
    rw [stageParameters_vertexShader]
    decide
  have acceptable : vertexShader.Acceptable dialect := by
    refine flat.acceptable complete
      (acceptable_vertexEntry complete.types) ?_ ?_
      declaredAlike_vertexShader arrays
    · rw [noCalls]
      exact fun _ impossible => absurd impossible List.not_mem_nil
    · rw [noCalls]
      exact fun _ impossible => absurd impossible List.not_mem_nil
  obtain ⟨compiled, lowered, symbols, _⟩ :=
    flat.exists_lowered acceptable (flat.handlesAgree List.nodup_nil)
  refine ⟨compiled, lowered, ?_, ?_⟩
  · rw [symbols]
    refine declaredAlike_vertexShader.mem_firstOccurrences ?_
    rw [stageParameters_vertexShader]
    simp
  · rw [symbols]
    refine declaredAlike_vertexShader.mem_firstOccurrences ?_
    rw [stageParameters_vertexShader]
    simp

end Vertex

end Shaderwright.Lambert
