import Shaderwright.Proofs.Acceptance
import Shaderwright.Proofs.Scoping.DeclarationPlaces

/-!
The array lengths of declarations. The stage, the signature of a function and a
declaration that stands by itself give the length of an array; a declaration
that is the target of an assignment does not. So a body declares all of its
variables by their lengths just if the targets that it declares are no arrays
(`lower_declares_lengths`).
-/

namespace Shaderwright

/-- A text declares a parameter in the words of a dialect, as an array of the
given length. -/
def Dialect.DeclaresAs (dialect : Dialect) (symbol : Parameter)
    (length : Nat) (text : String) : Prop :=
  ∃ word, dialect.types symbol.type = some word ∧
    text = word ++ " " ++ symbol.name ++ arraySuffix length

/-- A text declares a parameter as an array of its own length. -/
def Dialect.DeclaresWhole (dialect : Dialect) (symbol : Parameter)
    (text : String) : Prop :=
  dialect.DeclaresAs symbol symbol.arrayLength text

/-! ## Texts with and without a length -/

private theorem exists_of_bind_ok {α β : Type}
    {first : Except LoweringError α} {next : α → Except LoweringError β}
    {result : β} (done : first >>= next = .ok result) :
    ∃ value, first = .ok value ∧ next value = .ok result := by
  cases first with
  | error fault =>
      cases done
  | ok value =>
      exact ⟨value, rfl, done⟩

theorem arraySuffix_zero : arraySuffix 0 = "" := by
  rfl

theorem arraySuffix_eq_empty_iff {length : Nat} :
    arraySuffix length = "" ↔ length = 0 := by
  unfold arraySuffix
  by_cases none : length = 0 <;> simp [none]

section Texts

variable {target : Target} {symbol : Parameter} {text : String}

/-- One text does not declare both an array and a single value. -/
theorem Dialect.DeclaresAs.length_eq_zero {dialect : Dialect} {length : Nat}
    (sized : dialect.DeclaresAs symbol length text)
    (single : dialect.DeclaresAs symbol 0 text) : length = 0 := by
  obtain ⟨word, known, rfl⟩ := sized
  obtain ⟨other, alsoKnown, same⟩ := single
  rw [known] at alsoKnown
  cases alsoKnown
  rw [String.append_right_inj] at same
  exact arraySuffix_eq_empty_iff.mp same

theorem declaresAs_of_variableText
    (written : target.variableText symbol = .ok text) :
    target.dialect.DeclaresAs symbol 0 text := by
  obtain ⟨word, typed, built⟩ := exists_of_bind_ok written
  cases built
  refine ⟨word, typeKeyword_eq_ok_iff.mp typed, ?_⟩
  rw [arraySuffix_zero, String.append_empty]

theorem declaresWhole_of_sizedVariableText
    (written : target.sizedVariableText symbol = .ok text) :
    target.dialect.DeclaresWhole symbol text := by
  obtain ⟨start, plain, built⟩ := exists_of_bind_ok written
  cases built
  obtain ⟨word, known, rfl⟩ := declaresAs_of_variableText plain
  refine ⟨word, known, ?_⟩
  rw [arraySuffix_zero, String.append_empty]

theorem Target.Maps.declaresAs (maps : target.Maps symbol.type) :
    target.dialect.DeclaresAs symbol 0
      (resultOf (target.variableText symbol)) := by
  have passes : outcome (target.variableText symbol) = .ok () := by
    rw [outcome_variableText]
    exact (typeKeyword_passes_iff target symbol.type symbol.name).mpr maps
  obtain ⟨text, written⟩ := outcome_ok_iff.mp passes
  rw [written]
  exact declaresAs_of_variableText written

theorem Target.Maps.declaresWhole (maps : target.Maps symbol.type) :
    target.dialect.DeclaresWhole symbol
      (resultOf (target.sizedVariableText symbol)) := by
  obtain ⟨text, written⟩ := sizedVariableText_ok_iff.mpr maps
  rw [written]
  exact declaresWhole_of_sizedVariableText written

end Texts

/-! ## Signatures -/

/-- A text is the definition of a function that declares its parameters by
their lengths. -/
def Target.DefinesWhole (target : Target) (function : ShaderFunction)
    (text : String) : Prop :=
  ∃ returnWord parameters,
    List.Forall₂ target.dialect.DeclaresWhole function.parameters
        parameters ∧
      text = "\n" ++ (returnWord ++ " " ++ function.name ++ "(" ++
        ", ".intercalate parameters ++ ") \x7b\n") ++
        bodyText target 1 function.body ++ "\x7d\n"

theorem signatureText_of_ok {target : Target} {name : String}
    {returnType : Option ShaderType} {symbols : List Parameter}
    {line : String}
    (written : target.signatureText name returnType symbols = .ok line) :
    ∃ returnWord parameters,
      symbols.mapM target.sizedVariableText = .ok parameters ∧
        line = returnWord ++ " " ++ name ++ "(" ++
          ", ".intercalate parameters ++ ") \x7b\n" := by
  unfold Target.signatureText at written
  cases returnType with
  | none | some type =>
      obtain ⟨returnWord, _, rest⟩ := exists_of_bind_ok written
      obtain ⟨parameters, listed, built⟩ := exists_of_bind_ok rest
      cases built
      exact ⟨returnWord, parameters, listed, rfl⟩

theorem ShaderFunction.Declarable.definesWhole {target : Target}
    {function : ShaderFunction} (declarable : function.Declarable target) :
    target.DefinesWhole function (function.definitionText target) := by
  obtain ⟨line, written⟩ :=
    outcome_ok_iff.mp (signature_passes_iff.mpr declarable)
  obtain ⟨returnWord, parameters, listed, rfl⟩ :=
    signatureText_of_ok written
  refine ⟨returnWord, parameters, ?_, ?_⟩
  · exact (forall₂_of_mapM listed).imp fun _ _ =>
      declaresWhole_of_sizedVariableText
  · unfold ShaderFunction.definitionText
    rw [written]
    rfl

/-! ## Bodies -/

/-- The length that a declaration is written with: that of its array, unless it
is the target of an assignment. -/
def PlacedDeclaration.writtenLength : PlacedDeclaration → Nat
  | bare _ symbol => symbol.arrayLength
  | target _ _ _ _ => 0

namespace Scope

variable {scope : Scope} {target : Target}

/-- Every declaration in the text has the length of its array. -/
def WritesLengths (target : Target) (scope : Scope) : Prop :=
  ∀ symbol text, .declaration symbol text ∈ scope.pieces target →
    target.dialect.DeclaresWhole symbol text

theorem Acceptable.declaresAs (acceptable : scope.Acceptable target)
    {placed : PlacedDeclaration}
    (member : placed ∈ scope.placedDeclarations) :
    target.dialect.DeclaresAs placed.symbol placed.writtenLength
      (placed.text target) := by
  have subset := scope.places.visits_subset member
  cases placed with
  | bare position symbol =>
      have met := subset _ List.mem_cons_self
      exact Target.Maps.declaresWhole (acceptable.visits _ met).2
  | target position symbol operator value =>
      have met := subset _ (List.mem_cons_of_mem _ List.mem_cons_self)
      exact Target.Maps.declaresAs (acceptable.visits _ met)

/-- The lengths are all there just if no array is declared as the target of an
assignment. -/
theorem Acceptable.writesLengths_iff (acceptable : scope.Acceptable target) :
    scope.WritesLengths target ↔
      ∀ placed ∈ scope.placedDeclarations,
        placed.writtenLength = placed.symbol.arrayLength := by
  have mem_iff (symbol : Parameter) (text : String) :
      .declaration symbol text ∈ scope.pieces target ↔
        ∃ placed ∈ scope.placedDeclarations,
          placed.piece target = .declaration symbol text := by
    rw [← List.mem_map, ← acceptable.declarations_pieces, declarations,
      List.mem_filter]
    exact (and_iff_left rfl).symm
  constructor
  · intro whole placed member
    have known := acceptable.declaresAs member
    have own := whole _ _ ((mem_iff _ _).mpr ⟨placed, member, rfl⟩)
    cases placed with
    | bare position symbol =>
        rfl
    | target position symbol operator value =>
        exact (own.length_eq_zero known).symm
  · intro lengths symbol text inText
    obtain ⟨placed, member, same⟩ := (mem_iff symbol text).mp inText
    have known := acceptable.declaresAs member
    rw [lengths placed member] at known
    cases same
    exact known

end Scope

/-! ## Lowered shaders -/

/-- The symbols of a lowered shader and the parameters of its functions are
declared with the lengths of their arrays. So are the variables of a body where
they are declared by themselves; as targets of assignments they are declared
without. -/
theorem lower_declares_lengths {dialect : Dialect} {shader : Shader}
    {compiled : CompiledShader}
    (lowered : lower dialect shader = .ok compiled) :
    ∃ functions,
      compiled.functions = functions.map ShaderFunction.name ∧
        compiled.Defines dialect shader functions ∧
        (∀ function ∈ functions,
          (shader.target dialect).DefinesWhole function
            (function.definitionText (shader.target dialect))) ∧
        ∀ scope, shader.Writes functions scope →
          bodyText (shader.target dialect) 1 scope.body =
              written (scope.pieces (shader.target dialect)) ∧
            declarations (scope.pieces (shader.target dialect)) =
              scope.placedDeclarations.map
                (PlacedDeclaration.piece (shader.target dialect)) ∧
            (∀ placed ∈ scope.placedDeclarations,
              dialect.DeclaresAs placed.symbol placed.writtenLength
                (placed.text (shader.target dialect))) ∧
            (scope.WritesLengths (shader.target dialect) ↔
              ∀ placed ∈ scope.placedDeclarations,
                placed.writtenLength = placed.symbol.arrayLength) := by
  obtain ⟨locals, finish, walk, _, functions, defines⟩ :=
    walk_of_lower lowered
  refine ⟨finish.definitions.map Definition.function, ?_, defines, ?_, ?_⟩
  · rw [functions, List.map_map]
    rfl
  · intro function member
    obtain ⟨definition, inList, rfl⟩ := List.mem_map.mp member
    have declarable :=
      signature_passes_iff.mp (walk.settled_of_mem inList).1
    exact declarable.definesWhole
  · intro scope writes
    have acceptable := (walk.of_writes writes).2
    refine ⟨(written_bodyPieces _ 1 scope.body).symm,
      acceptable.declarations_pieces, ?_, acceptable.writesLengths_iff⟩
    intro placed member
    exact acceptable.declaresAs member

/-! ## Arrays by themselves and as targets -/

section Examples

def stepsParameter : Parameter :=
  ⟨2, "steps", .scalar, .constant, 2⟩

def partsParameter : Parameter :=
  ⟨3, "parts", .scalar, .varying, 4⟩

def weightsParameter : Parameter :=
  ⟨4, "weights", .scalar, .varying, 3⟩

/-- A function of an array. -/
def firstWeightFunction : ShaderFunction :=
  ⟨0, "firstWeight", some .scalar, [weightsParameter],
    [.returnValue (Operation.select weightsParameter "[0]")]⟩

/-- Arrays of the stage, of a function and of a body. -/
def stepsShader : Shader :=
  ⟨.fragment, none,
    [ .declare partsParameter,
      .introduce shareParameter
        (Operation.call firstWeightFunction [stepsParameter]),
      .set (Operation.select partsParameter "[1]") shareParameter ]⟩

def stepsSource : String :=
  "uniform float steps[2];\n\nfloat firstWeight(float weights[3]) \x7b\n" ++
    "  return weights[0];\n\x7d\n\nvoid main() \x7b\n" ++
    "  float parts[4];\n  float share = firstWeight(steps);\n" ++
    "  parts[1] = share;\n\x7d\n"

theorem stepsShader_declaresLengths :
    ∃ compiled, lower .glslEs100 stepsShader = .ok compiled ∧
      compiled.source = stepsSource ∧
      stepsShader.entry.WritesLengths (stepsShader.target .glslEs100) := by
  obtain ⟨compiled, lowered, source⟩ :=
    exists_of_source stepsShader stepsSource (by decide +kernel)
  obtain ⟨functions, _, _, _, bodies⟩ := lower_declares_lengths lowered
  obtain ⟨_, _, _, whole⟩ := bodies stepsShader.entry (Or.inl rfl)
  refine ⟨compiled, lowered, source, whole.mpr ?_⟩
  intro placed member
  have places : stepsShader.entry.placedDeclarations =
      [ .bare (.statement 1) partsParameter,
        .target (.statement 1) shareParameter .assign
          (Operation.call firstWeightFunction [stepsParameter]) ] := rfl
  rw [places] at member
  simp only [List.mem_cons, List.not_mem_nil, or_false] at member
  rcases member with rfl | rfl <;> rfl

/-- An array that is declared as the target of an assignment. -/
def weightsShader : Shader :=
  ⟨.fragment, none,
    [ .introduce weightsParameter (.raw "defaults"),
      .assign .multiply (Operation.select weightsParameter "[0]")
        (.whole 2) ]⟩

def weightsSource : String :=
  "\nvoid main() \x7b\n  float weights = defaults;\n" ++
    "  weights[0] *= 2.0;\n\x7d\n"

/-- It is declared as a single value, and indexed below. -/
theorem weightsShader_dropsLength :
    ∃ compiled, lower .glslEs100 weightsShader = .ok compiled ∧
      compiled.source = weightsSource ∧
      weightsParameter.arrayLength = 3 ∧
      .declaration weightsParameter "float weights" ∈
        weightsShader.entry.pieces (weightsShader.target .glslEs100) ∧
      ¬ Dialect.glslEs100.DeclaresWhole weightsParameter
        "float weights" := by
  obtain ⟨compiled, lowered, source⟩ :=
    exists_of_source weightsShader weightsSource (by decide +kernel)
  refine ⟨compiled, lowered, source, rfl, ?_, fun whole => ?_⟩
  · exact List.mem_cons_of_mem _ List.mem_cons_self
  · have single : Dialect.glslEs100.DeclaresAs weightsParameter 0
        "float weights" := ⟨"float", rfl, by decide⟩
    have none : weightsParameter.arrayLength = 0 :=
      whole.length_eq_zero single
    cases none

end Examples

end Shaderwright
