import Shaderwright.Proofs.Faults
import Shaderwright.Proofs.Scoping.DeclarationPlaces

/-!
Constructors and conversions by components. Of a shader that is lowered every
constructor is filled, as far as the components of its operands are known, and
every conversion is padded up to its type. A conversion that cannot be ends the
lowering with its own fault (`lower_components_exact`).
-/

namespace Shaderwright

-- Sums start from the zero of `Nat` itself, whatever monoids are in scope.
attribute [local instance (high)] Zero.ofOfNat0

/-! ## Components -/

/-- The components of a constructor or of a conversion are those of its type.
The operands of a constructor have them in all, as far as theirs are known, or
a single operand has one component; the source of a conversion has no more of
them, and the rest is missing. -/
def Visit.FillsType : Visit → Prop
  | .operation _ (.construct type operands) =>
      ∀ wanted counts, type.components? = some wanted →
        componentCounts? operands = some counts →
          counts.sum = wanted ∨ counts = [1]
  | .operation _ (.convert source type _) =>
      ∃ found wanted, source.components? = some found ∧
        type.components? = some wanted ∧ found ≤ wanted ∧
        missingComponents? source type = some (wanted - found)
  | _ => True

/-- A constructor is written as a call of its type with its operands, and a
conversion as one with its source and a number for each component that is
missing. -/
def Visit.WritesArguments (target : Target) : Visit → Prop
  | .operation position (.construct type operands) =>
      ∃ keyword, target.dialect.types type = some keyword ∧
        written
            ((Operation.construct type operands).pieces target position) =
          position.expression
            (callText keyword (operands.map (Operand.text target)))
  | .operation position (.convert source type pad) =>
      ∃ found wanted keyword padding arguments,
        source.components? = some found ∧
        type.components? = some wanted ∧
        target.dialect.types type = some keyword ∧
        (found < wanted → numberText pad = .ok padding) ∧
        arguments =
          source.text target :: List.replicate (wanted - found) padding ∧
        (arguments.length = 1 ↔ found = wanted) ∧
        written ((Operation.convert source type pad).pieces target
            position) =
          position.expression (callText keyword arguments)
  | _ => True

theorem length_componentCounts? {operands : List Operand}
    {counts : List Nat}
    (counted : componentCounts? operands = some counts) :
    counts.length = operands.length := by
  induction operands generalizing counts with
  | nil =>
      cases counted
      rfl
  | cons operand rest inductionHypothesis =>
      rw [componentCounts?] at counted
      cases first : operand.components? with
      | none =>
          simp [first] at counted
      | some count =>
          cases others : componentCounts? rest with
          | none =>
              simp [first, others] at counted
          | some later =>
              rw [first, others] at counted
              cases counted
              exact congrArg (· + 1) (inductionHypothesis others)

/-- A constructor with components is filled by its check. -/
theorem FillsConstructor.fillsType {type : ShaderType}
    {operands : List Operand} (fills : FillsConstructor type operands)
    (position : Position) :
    Visit.FillsType (.operation position (.construct type operands)) := by
  intro wanted counts sized counted
  have size : type.size = wanted := by
    rw [ShaderType.size, sized]
    rfl
  rcases fills counts counted with total | ⟨single, splat⟩
  · exact .inl (total.trans size)
  · have one := (length_componentCounts? counted).trans single
    obtain ⟨count, rfl⟩ := List.length_eq_one_iff.mp one
    rw [List.sum_singleton] at splat
    rw [splat]
    exact .inr rfl

/-- What can be admitted fills its type. -/
theorem Visit.Admissible.fillsType {target : Target}
    {locals : List Parameter} {visit : Visit}
    (admissible : visit.Admissible target locals) : visit.FillsType := by
  cases visit with
  | operation position node =>
      cases node with
      | construct type operands =>
          exact admissible.1.fillsType position
      | convert source type pad =>
          obtain ⟨⟨found, wanted, known, sized, le⟩, _⟩ := admissible
          refine ⟨found, wanted, known, sized, le, ?_⟩
          rw [missingComponents?, known, sized]
      | _ =>
          trivial
  | _ =>
      trivial

/-! ## What an operation holds -/

/-- With an operation all that it holds is among the visits. -/
def HoldsParts (visits : List Visit) : Prop :=
  ∀ position node, .operation position node ∈ visits →
    ∀ visit ∈ node.visits position, visit ∈ visits

namespace HoldsParts

variable {first second : List Visit}

theorem nil : HoldsParts [] := by
  intro position node impossible
  cases impossible

theorem append (left : HoldsParts first) (right : HoldsParts second) :
    HoldsParts (first ++ second) := by
  intro position node member visit held
  rcases List.mem_append.mp member with early | late
  · exact List.mem_append_left _ (left position node early visit held)
  · exact List.mem_append_right _ (right position node late visit held)

/-- A visit that is no operation holds nothing. -/
theorem plain {visit : Visit}
    (other : ∀ position node, visit ≠ .operation position node) :
    HoldsParts [visit] := by
  intro position node member
  exact absurd (List.mem_singleton.mp member).symm (other position node)

/-- An operation in front of all that stands below it. -/
theorem node {position : Position} {node : Operation} {below : List Visit}
    (visits_eq : node.visits position = .operation position node :: below)
    (holds : HoldsParts below) : HoldsParts (node.visits position) := by
  intro place part member visit held
  rw [visits_eq, List.mem_cons] at member
  rcases member with same | inside
  · cases same
    exact held
  · rw [visits_eq]
    exact List.mem_cons_of_mem _ (holds place part inside visit held)

end HoldsParts

mutual

private theorem operandHoldsParts : ∀ operand : Operand,
    HoldsParts operand.visits
  | .parameter _ | .literal _ | .builtIn _ => .plain (by simp)
  | .raw _ => .nil
  | .operation node => operationHoldsParts .value node

private theorem operationHoldsParts (position : Position) :
    ∀ node : Operation, HoldsParts (node.visits position)
  | .assign operator assigned value => by
      refine .node (by rw [Operation.visits]) ?_
      refine .append ?_ (operandHoldsParts value)
      cases assigned.declared? with
      | some symbol =>
          exact .plain (by simp)
      | none =>
          exact operandHoldsParts assigned
  | .declare _ | .returnVoid =>
      .node (by rw [Operation.visits]) .nil
  | .arithmetic _ operands | .builtIn _ operands | .call _ operands
  | .construct _ operands =>
      .node (by rw [Operation.visits]) (operandsHoldParts operands)
  | .compare _ left right =>
      .node (by rw [Operation.visits]) <|
        .append (operandHoldsParts left) (operandHoldsParts right)
  | .select base _ | .returnValue base =>
      .node (by rw [Operation.visits]) (operandHoldsParts base)
  | .ifThen condition body =>
      .node (by rw [Operation.visits]) <|
        .append (operandHoldsParts condition) (bodyHoldsParts _ body)
  | .ifElse condition body alternative =>
      .node (by rw [Operation.visits]) <|
        .append (operandHoldsParts condition) <|
          .append (bodyHoldsParts _ body) (bodyHoldsParts _ alternative)
  | .loop _ _ _ body =>
      .node (by rw [Operation.visits]) (bodyHoldsParts _ body)
  | .convert source _ _ =>
      .node (by rw [Operation.visits]) <|
        .append (operandHoldsParts source) (.plain (by simp))

private theorem operandsHoldParts : ∀ operands : List Operand,
    HoldsParts (operandVisits operands)
  | [] => .nil
  | operand :: rest =>
      .append (operandHoldsParts operand) (operandsHoldParts rest)

/-- What an operation in a body holds is met in the body. -/
theorem bodyHoldsParts (level : Nat) : ∀ body : List Operation,
    HoldsParts (bodyVisits level body)
  | [] => .nil
  | operation :: rest =>
      .append (operationHoldsParts (.statement level) operation)
        (bodyHoldsParts level rest)

end

/-! ## What is written -/

/-- A number is written once for each copy of it. -/
theorem mapM_replicate_numberText {value : Binary32} {text : String} :
    ∀ {count : Nat}, (0 < count → numberText value = .ok text) →
      (List.replicate count value).mapM numberText =
        .ok (List.replicate count text)
  | 0, _ => rfl
  | count + 1, converts => by
      have first : numberText value = .ok text := converts (Nat.succ_pos _)
      have others : (List.replicate count value).mapM numberText =
          .ok (List.replicate count text) :=
        mapM_replicate_numberText fun _ => first
      rw [List.replicate_succ, List.mapM_cons, first, others]
      rfl

/-- The keyword of a type that the dialect maps. -/
theorem Target.Maps.exists_keyword {target : Target} {type : ShaderType}
    (maps : target.Maps type) :
    ∃ keyword, target.dialect.types type = some keyword ∧
      ∀ usedBy, resultOf (target.typeKeyword type usedBy) = keyword := by
  obtain ⟨keyword, mapped⟩ := Option.isSome_iff_exists.mp maps
  refine ⟨keyword, mapped, fun usedBy => ?_⟩
  rw [typeKeyword_eq_ok_iff.mpr mapped]
  rfl

namespace Scope.Acceptable

variable {scope : Scope} {target : Target}

/-- The number that pads a conversion can be written where it is needed. -/
theorem exists_padding (acceptable : scope.Acceptable target)
    {position : Position} {source : Operand} {type : ShaderType}
    {pad : Binary32} {found wanted : Nat}
    (member : .operation position (.convert source type pad) ∈ scope.visits)
    (known : source.components? = some found)
    (sized : type.components? = some wanted) :
    ∃ padding, found < wanted → numberText pad = .ok padding := by
  have held : .padding source type pad ∈
      (Operation.convert source type pad).visits position := by
    simp [Operation.visits]
  have met := bodyHoldsParts 1 scope.body position _ member _ held
  have finite := acceptable.visits _ met found wanted known sized
  by_cases smaller : found < wanted
  case pos =>
      obtain ⟨padding, written⟩ :=
        (numberText_ok_iff pad).mpr (finite smaller)
      exact ⟨padding, fun _ => written⟩
  case neg =>
      exact ⟨"", fun impossible => absurd impossible smaller⟩

/-- Constructors and conversions of an acceptable body are written in full. -/
theorem writesArguments (acceptable : scope.Acceptable target)
    {visit : Visit} (member : visit ∈ scope.visits) :
    visit.WritesArguments target := by
  have admissible := acceptable.visits visit member
  cases visit with
  | operation position node =>
      cases node with
      | construct type operands =>
          obtain ⟨keyword, mapped, word⟩ :=
            Target.Maps.exists_keyword admissible.2
          refine ⟨keyword, mapped, ?_⟩
          rw [written_operationPieces, Operation.text, word,
            operandTexts_eq_map]
      | convert source type pad =>
          obtain ⟨⟨found, wanted, known, sized, le⟩, maps⟩ := admissible
          obtain ⟨keyword, mapped, word⟩ := maps.exists_keyword
          obtain ⟨padding, padded⟩ :=
            acceptable.exists_padding member known sized
          have missing : conversionPadding source type =
              .ok (wanted - found) :=
            (conversionPadding_ok_iff source type _).mpr
              ⟨found, wanted, known, sized, le, rfl⟩
          have texts : paddingTexts source type pad =
              .ok (List.replicate (wanted - found) padding) := by
            rw [paddingTexts, missing]
            exact mapM_replicate_numberText fun positive =>
              padded (Nat.lt_of_sub_pos positive)
          refine ⟨found, wanted, keyword, padding, _, known, sized, mapped,
            padded, rfl, ?_, ?_⟩
          · rw [List.length_cons, List.length_replicate]
            omega
          · rw [written_operationPieces, Operation.text, word, texts]
            rfl
      | _ =>
          trivial
  | _ =>
      trivial

end Scope.Acceptable

/-! ## Lowered shaders -/

/-- Every body of a shader agrees with one that is written. -/
theorem Shader.Walk.exists_writes {dialect : Dialect} {shader : Shader}
    {locals : Locals} {finish : Progress}
    (walk : shader.Walk dialect locals finish)
    (agree : shader.HandlesAgree) {scope : Scope}
    (inShader : shader.HasScope scope) :
    ∃ twin,
      shader.Writes (finish.definitions.map Definition.function) twin ∧
        twin.canonical = scope.canonical := by
  cases inShader with
  | entry =>
      exact ⟨shader.entry, .inl rfl, rfl⟩
  | callee called =>
      obtain ⟨definition, member, _, same⟩ :=
        walk.exists_definition agree called
      exact ⟨definition.function.scope,
        .inr ⟨definition.function, List.mem_map_of_mem member, rfl⟩,
        ShaderFunction.canonical_scope_eq same⟩

/-- Of a shader that is lowered, every constructor and every conversion in a
body that can be reached has the components of its type. In the text of each
body that is written it is a call of its type with these arguments, and every
other body that can be reached is equal to one that is written. A lowering ends
with the fault of a conversion exactly when it arrives at a conversion that has
this fault by itself, whatever its source holds: one whose source is known to
have more components than its type, or one whose source has no known number of
them. -/
theorem lower_components_exact {dialect : Dialect} {shader : Shader}
    (agree : shader.HandlesAgree) :
    (∀ compiled, lower dialect shader = .ok compiled →
      ∃ functions,
        compiled.functions = functions.map ShaderFunction.name ∧
        compiled.Defines dialect shader functions ∧
        (∀ scope, shader.Writes functions scope →
          shader.HasScope scope ∧
            bodyText (shader.target dialect) 1 scope.body =
              written (scope.pieces (shader.target dialect)) ∧
            ∀ visit ∈ scope.visits,
              visit.WrittenIn (shader.target dialect)
                  (scope.pieces (shader.target dialect)) ∧
                visit.WritesArguments (shader.target dialect)) ∧
        ∀ scope, shader.HasScope scope →
          (∀ visit ∈ scope.visits, visit.FillsType) ∧
            ∃ twin, shader.Writes functions twin ∧
              twin.visits.map Visit.canonical =
                scope.visits.map Visit.canonical) ∧
    (∀ sourceType type,
      lower dialect shader =
          .error (.shrinkingConversion sourceType type) ↔
        ∃ position source pad found,
          shader.Reaches dialect
              (.operation position (.convert source type pad)) ∧
            source.type? = some sourceType ∧
            source.components? = some found ∧
            ∀ wanted, type.components? = some wanted → wanted < found) ∧
    ∀ type,
      lower dialect shader = .error (.unknownConversionSource type) ↔
        ∃ position source pad,
          shader.Reaches dialect
              (.operation position (.convert source type pad)) ∧
            source.components? = none := by
  refine ⟨?_, ?_, ?_⟩
  · intro compiled lowered
    obtain ⟨locals, finish, walk, _, functions, defines⟩ :=
      walk_of_lower lowered
    refine ⟨finish.definitions.map Definition.function, ?_, defines, ?_, ?_⟩
    · rw [functions, List.map_map]
      rfl
    · intro scope writes
      obtain ⟨inShader, acceptable⟩ := walk.of_writes writes
      refine ⟨inShader, (written_bodyPieces _ 1 scope.body).symm, ?_⟩
      intro visit member
      exact ⟨bodyVisits_written _ 1 scope.body acceptable.discardsBare visit
        member, acceptable.writesArguments member⟩
    · intro scope inShader
      obtain ⟨precision, _, precise, _⟩ := defines
      have acceptable :=
        (walk.acceptable agree ⟨precision, precise⟩).scopes scope inShader
      obtain ⟨twin, writes, same⟩ := walk.exists_writes agree inShader
      refine ⟨fun visit member =>
        (acceptable.visits visit member).fillsType, twin, writes, ?_⟩
      rw [← Scope.visits_canonical, ← Scope.visits_canonical, same]
  · intro sourceType type
    have conversion :
        (LoweringError.shrinkingConversion sourceType type).IsConversion :=
      trivial
    rw [lower_conversionFault_iff conversion]
    simp only [conversionPadding_eq_shrinking_iff]
    constructor
    · rintro ⟨position, source, _, pad, reaches, rfl, typed, found, known,
        fewer⟩
      exact ⟨position, source, pad, found, reaches, typed, known, fewer⟩
    · rintro ⟨position, source, pad, found, reaches, typed, known, fewer⟩
      exact ⟨position, source, type, pad, reaches, rfl, typed, found, known,
        fewer⟩
  · intro type
    have conversion :
        (LoweringError.unknownConversionSource type).IsConversion := trivial
    rw [lower_conversionFault_iff conversion]
    simp only [conversionPadding_eq_unknown_iff]
    constructor
    · rintro ⟨position, source, _, pad, reaches, rfl, unknown⟩
      exact ⟨position, source, pad, reaches, unknown⟩
    · rintro ⟨position, source, pad, reaches, unknown⟩
      exact ⟨position, source, type, pad, reaches, rfl, unknown⟩

/-! ## Conversions in a constructor -/

section Examples

/-- A point is padded to a vector in a constructor of a larger one. -/
def tintShader : Shader :=
  ⟨.fragment, none,
    [ .set (.builtIn .output)
        (Operation.construct .vector4
          [ Operation.convert (.builtIn .pointCoord) .vector3 (.ofInt 1),
            .half ]) ]⟩

def tintSource : String :=
  "\nvoid main() \x7b\n" ++
    "  gl_FragColor = vec4(vec3(gl_PointCoord, 1.0), 0.5);\n\x7d\n"

theorem tintShader_componentsExact :
    ∃ compiled, lower .glslEs100 tintShader = .ok compiled ∧
      compiled.source = tintSource ∧
      (∀ visit ∈ tintShader.entry.visits, visit.FillsType) ∧
      ∀ visit ∈ tintShader.entry.visits,
        visit.WritesArguments (tintShader.target .glslEs100) := by
  obtain ⟨compiled, lowered, source⟩ :=
    exists_of_source tintShader tintSource (by decide +kernel)
  have agree : tintShader.HandlesAgree := by
    intro first called
    exact absurd called (not_calledFrom_of_noCallees rfl)
  obtain ⟨success, _⟩ := lower_components_exact agree
  obtain ⟨functions, _, _, bodies, scopes⟩ := success compiled lowered
  obtain ⟨_, _, arguments⟩ := bodies tintShader.entry (.inl rfl)
  exact ⟨compiled, lowered, source, (scopes _ .entry).1,
    fun visit member => (arguments visit member).2⟩

/-- The outer conversion is refused before the inner one is looked at. -/
example :
    lower .glslEs100
        ⟨.fragment, none,
          [.set (.builtIn .output)
            (Operation.convert
              (Operation.convert (.raw "tint") .vector4 (.ofInt 0))
              .vector2 (.ofInt 0))]⟩ =
      .error (.shrinkingConversion .vector4 .vector2) :=
  rfl

end Examples

end Shaderwright
