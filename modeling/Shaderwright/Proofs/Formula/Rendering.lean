import Shaderwright.Proofs.Formula.ReadPaths

/-!
The code of a formula regroups and reorders nothing. Its tokens evaluate to a
tree that is, up to its chains, that of the formula taken node by node, and each
arithmetic node of the tree is a left spine without parentheses or a negation
(`code_nodewise`).
-/

namespace Shaderwright.Formula

section Rendering

variable {bindings : Bindings}

/-! ## Operands -/

/-- Code of an operand does what a formula says. -/
structure Renders (bindings : Bindings) (formula : Formula)
    (code : OperandCode) : Prop where
  denotes : Denotes bindings formula (code.evaluate bindings)
  parts : List.Forall₂ (Gives bindings) (formula.arithmeticParts none)
    (code.arithmeticNodes bindings)
  paths : code.paths = formula.paths

/-- The operand of a literal is a literal. -/
private theorem constantCode_renders {formula : Formula}
    {isNegative : Bool} {literal : Constant} {code : OperandCode}
    (leaf : formula.nodewise bindings.expanded =
      literal.operand? bindings.expanded isNegative)
    (noParts : formula.arithmeticParts none = [])
    (noPaths : formula.paths = [])
    (coded : constantCode isNegative literal = .ok code) :
    Renders bindings formula code := by
  cases literal with
  | integer spelling | decimal spelling =>
      obtain rfl : .number isNegative spelling = code := by
        simpa [constantCode] using coded
      constructor
      · rw [Denotes, leaf]
        rfl
      · rw [noParts]
        exact .nil
      · exact noPaths.symm
  | boolean value =>
      cases isNegative with
      | true =>
          simp [constantCode] at coded
      | false =>
          obtain rfl : .boolean value = code := by
            simpa [constantCode] using coded
          constructor
          · rw [Denotes, leaf]
            rfl
          · rw [noParts]
            exact .nil
          · exact noPaths.symm
  | text spelling =>
      simp [constantCode] at coded

/-- A formula that describes an operand is coded as what it stands for. -/
private theorem operandCode_renders_of_isOperand :
    ∀ {formula : Formula} {code : OperandCode},
      formula.isOperand = true →
      operandCode formula.operationCode formula = .ok code →
        Renders bindings formula code
  | .constant literal, _, _, coded =>
      constantCode_renders rfl rfl rfl coded
  | .unary .negate (.constant literal), _, _, coded =>
      constantCode_renders rfl rfl rfl coded
  | .path (.name _), _, _, coded | .path (.segments _), _, _, coded => by
      cases coded
      exact ⟨rfl, .nil, rfl⟩
  | .path (.qualified _), _, _, coded => by
      simp [operandCode, operationCode] at coded
  | .parenthesized inner, _, leaf, coded
  | .grouped inner, _, leaf, coded => by
      rw [operationCode, operandCode] at coded
      obtain ⟨denotes, parts, paths⟩ : Renders bindings inner _ :=
        operandCode_renders_of_isOperand leaf coded
      exact ⟨denotes, parts, paths⟩

/-- Any other formula is coded as the operation it describes. -/
theorem operandCode_eq_of_not_isOperand :
    ∀ {formula : Formula}, formula.isOperand = false →
      operandCode formula.operationCode formula =
        OperandCode.operation <$> formula.operationCode
  | .unary .negate value, inner => by
      cases value with
      | constant _ =>
          simp [isOperand] at inner
      | _ =>
          simp [operandCode]
  | .parenthesized inner, node | .grouped inner, node => by
      rw [operationCode, operandCode]
      have operation : inner.isOperand = false := node
      exact operandCode_eq_of_not_isOperand operation
  | .constant _, node | .path _, node => by
      simp [isOperand] at node
  | .binary .., _ | .assign .., _ | .compoundAssign .., _
  | .select .., _ | .index .., _ | .call .., _ | .foreign _, _
  | .unary .complement _, _ | .unary .dereference _, _ => by
      simp [operandCode]

/-! ## Operations -/

/-- The operands of a chain that the left side of its operator contributes:
with one more operand they make a node of the left side and that operand. -/
structure Leads (bindings : Bindings) (operator : ArithmeticOperator)
    (left : Formula) (codes : List OperandCode) : Prop where
  nested : ∃ value, left.nodewise bindings.expanded = some value ∧
    ∀ last, leftNested operator
        (expandedOperands (evaluateAll bindings codes) ++ [last]) =
      .arithmetic operator [value, last]
  merged : List.Forall₂ (Denotes bindings) (left.spine operator)
    (evaluateAll bindings codes)
  parts : List.Forall₂ (Gives bindings)
    (left.arithmeticParts (some operator))
    (arithmeticNodesOfAll bindings codes)
  paths : pathsOfCodes codes = left.paths

/-- Code of an operation does what a formula says, and a chain of an operator
can go on to the right. -/
structure RendersOperation (bindings : Bindings) (formula : Formula)
    (code : OperationCode) : Prop where
  renders : Renders bindings formula (.operation code)
  leads : ∀ operator, formula.isChain operator = true →
    ∃ codes, code = .chain operator codes ∧
      Leads bindings operator formula codes

/-- What a formula is coded as, where it describes an operation, does what the
formula says. -/
def RenderedAsOperation (bindings : Bindings) (formula : Formula) : Prop :=
  ∀ code, formula.isOperand = false → formula.operationCode = .ok code →
    RendersOperation bindings formula code

private theorem operandCode_renders {formula : Formula}
    {code : OperandCode}
    (rendered : RenderedAsOperation bindings formula)
    (coded : operandCode formula.operationCode formula = .ok code) :
    Renders bindings formula code := by
  cases leaf : formula.isOperand with
  | true =>
      exact operandCode_renders_of_isOperand leaf coded
  | false =>
      rw [operandCode_eq_of_not_isOperand leaf] at coded
      cases operation : formula.operationCode with
      | error fault =>
          simp [operation] at coded
      | ok node =>
          obtain rfl : .operation node = code := by
            simpa [operation] using coded
          exact (rendered node leaf operation).renders

/-- A formula of another kind is no interrupted chain: it makes up its own
spine, and being a left side changes none of its parts. -/
private theorem spine_of_not_isChain {operator : ArithmeticOperator}
    {formula : Formula} (other : formula.isChain operator = false) :
    formula.spine operator = [formula] ∧
      formula.arithmeticParts (some operator) =
        formula.arithmeticParts none := by
  cases formula with
  | binary kind left right =>
      cases kind with
      | arithmetic found =>
          have differs : found ≠ operator := by
            simpa [isChain] using other
          simp [spine, arithmeticParts, differs, differs.symm]
      | _ =>
          simp [spine, arithmeticParts]
  | unary sign value =>
      cases value <;> simp [spine, arithmeticParts]
  | _ =>
      simp [spine, arithmeticParts]

/-- A single operand leads a chain. -/
private theorem Renders.leads {operator : ArithmeticOperator}
    {left : Formula} {code : OperandCode}
    (renders : Renders bindings left code)
    (other : left.isChain operator = false) :
    Leads bindings operator left [code] := by
  obtain ⟨alone, kept⟩ := spine_of_not_isChain other
  refine ⟨⟨_, renders.denotes, fun last => ?_⟩, ?_, ?_, ?_⟩
  · rw [evaluateAll_eq_map, expandedOperands_eq_map]
    exact leftNested_pair operator _ last
  · rw [alone, evaluateAll_eq_map]
    exact .cons renders.denotes .nil
  · rw [kept]
    simpa [arithmeticNodesOfAll] using renders.parts
  · simpa [pathsOfCodes] using renders.paths

private theorem leadingOperands_leads {operator : ArithmeticOperator}
    {left : Formula} {codes : List OperandCode}
    (rendered : RenderedAsOperation bindings left)
    (led : leadingOperands operator left.operationCode left = .ok codes) :
    Leads bindings operator left codes := by
  unfold leadingOperands at led
  cases chain : left.isChain operator with
  | true =>
      have inner : left.isOperand = false := by
        cases left <;> simp_all [isChain, isOperand]
      cases operation : left.operationCode with
      | error fault =>
          simp [chain, operation, Except.map] at led
      | ok node =>
          obtain ⟨leading, rfl, leads⟩ :=
            (rendered node inner operation).leads operator chain
          obtain rfl : leading = codes := by
            simpa [chain, operation, Except.map] using led
          exact leads
  | false =>
      rw [chain] at led
      cases coded : operandCode left.operationCode left with
      | error fault =>
          simp [coded] at led
      | ok code =>
          obtain rfl : [code] = codes := by
            simpa [coded] using led
          exact (operandCode_renders rendered coded).leads chain

/-- A chain goes on by the right side of its operator. -/
private theorem Leads.append {operator : ArithmeticOperator}
    {left right : Formula} {leading : List OperandCode}
    {last : OperandCode}
    (leads : Leads bindings operator left leading)
    (renders : Renders bindings right last) :
    RendersOperation bindings (.binary (.arithmetic operator) left right)
      (.chain operator (leading ++ [last])) := by
  obtain ⟨value, translated, nested⟩ := leads.nested
  -- The code of the left side is a list of operands by now; `nested` alone
  -- says that they stand for one node.
  have operands : evaluateAll bindings (leading ++ [last]) =
      evaluateAll bindings leading ++ [last.evaluate bindings] := by
    simp [evaluateAll_eq_map]
  have denotes : (Formula.binary (.arithmetic operator) left
      right).nodewise bindings.expanded =
        some (.operation (.arithmetic operator
          [value, (last.evaluate bindings).expanded])) := by
    have translatedRight : right.nodewise bindings.expanded = _ :=
      renders.denotes
    simp [nodewise, translated, translatedRight]
  have merged : List.Forall₂ (Denotes bindings)
      (spine operator (.binary (.arithmetic operator) left right))
      (evaluateAll bindings (leading ++ [last])) := by
    rw [spine, if_pos rfl, operands]
    exact List.rel_append leads.merged (.cons renders.denotes .nil)
  have below : List.Forall₂ (Gives bindings)
      (left.arithmeticParts (some operator) ++ right.arithmeticParts none)
      (arithmeticNodesOfAll bindings (leading ++ [last])) := by
    rw [arithmeticNodesOfAll_append]
    refine List.rel_append leads.parts ?_
    simpa [arithmeticNodesOfAll] using renders.parts
  have grown : leftNested operator
      (expandedOperands (evaluateAll bindings (leading ++ [last]))) =
        .arithmetic operator
          [value, (last.evaluate bindings).expanded] := by
    rw [operands, expandedOperands_eq_map, List.map_append,
      ← expandedOperands_eq_map]
    exact nested _
  have paths : pathsOfCodes (leading ++ [last]) =
      left.paths ++ right.paths := by
    simp [pathsOfCodes_append, pathsOfCodes, leads.paths, renders.paths]
  -- The whole may be a side of its own: as such it is one node, and in front
  -- of the same operator its operands go into a longer chain.
  refine ⟨⟨?_, ?_, paths⟩, fun other chain => ?_⟩
  · rw [Denotes, denotes, OperandCode.evaluate, OperationCode.evaluate,
      Operand.expanded, Operation.expanded, grown]
  · rw [arithmeticParts, if_neg (by simp), OperandCode.arithmeticNodes,
      OperationCode.arithmeticNodes]
    exact .cons (.chain merged) below
  · obtain rfl : operator = other := by
      simpa [isChain] using chain
    refine ⟨_, rfl, ⟨_, denotes, fun next => ?_⟩, merged, ?_, paths⟩
    · have wide : 2 ≤
          (evaluateAll bindings (leading ++ [last])).length :=
        (Gives.chain merged).two_le_length
      rw [leftNested_append operator
        (by simpa [expandedOperands_eq_map] using wide), grown]
    · rw [arithmeticParts, if_pos rfl]
      exact below

/-! ## Whole formulas -/

private theorem bind_eq_ok_iff {α β : Type} {first : Except Unsupported α}
    {next : α → Except Unsupported β} {result : β} :
    first >>= next = .ok result ↔
      ∃ value, first = .ok value ∧ next value = .ok result := by
  cases first with
  | error fault =>
      simp [bind, Except.bind]
  | ok value =>
      simp [bind, Except.bind]

private theorem bind_pure_eq_ok_iff {α β : Type}
    {first : Except Unsupported α} {build : α → β} {result : β} :
    (do let value ← first; return build value) = .ok result ↔
      ∃ value, first = .ok value ∧ build value = result := by
  rw [bind_eq_ok_iff]
  simp [pure, Except.pure]

theorem assignment?_eq_some_iff {operator : BinaryOperator}
    {assignment : AssignmentOperator} :
    operator.assignment? = some assignment ↔
      ∃ arithmetic, operator = .arithmetic arithmetic ∧
        compound arithmetic = assignment := by
  cases operator with
  | arithmetic arithmetic =>
      cases arithmetic <;> simp [BinaryOperator.assignment?, compound]
  | _ =>
      simp [BinaryOperator.assignment?]

theorem calleeName?_eq_some_iff {callee : Formula} {name : String} :
    calleeName? callee = some name ↔ callee = .path (.name name) := by
  cases callee with
  | path path =>
      cases path <;> simp [calleeName?]
  | _ =>
      simp [calleeName?]

/-- An operation that is no chain itself. -/
private theorem Renders.operation {formula : Formula}
    {code : OperationCode}
    (renders : Renders bindings formula (.operation code))
    (noChain : ∀ operator, formula.isChain operator = false) :
    RendersOperation bindings formula code :=
  ⟨renders, fun operator chain => by
    rw [noChain operator] at chain
    contradiction⟩

/-- What two sides give makes up what a node of them gives. -/
private theorem Renders.ofSides {left right whole : Formula}
    {leftCode rightCode : OperandCode} {code : OperationCode}
    {build : Operand → Operand → Operation}
    (first : Renders bindings left leftCode)
    (second : Renders bindings right rightCode)
    (nodewise_eq : whole.nodewise bindings.expanded = do
      let left ← left.nodewise bindings.expanded
      let right ← right.nodewise bindings.expanded
      return .operation (build left right))
    (expanded_eq : (code.evaluate bindings).expanded =
      build (leftCode.evaluate bindings).expanded
        (rightCode.evaluate bindings).expanded)
    (parts_eq : whole.arithmeticParts none =
      left.arithmeticParts none ++ right.arithmeticParts none)
    (nodes_eq : code.arithmeticNodes bindings =
      leftCode.arithmeticNodes bindings ++
        rightCode.arithmeticNodes bindings)
    (paths_eq : whole.paths = left.paths ++ right.paths)
    (codePaths_eq : code.paths = leftCode.paths ++ rightCode.paths) :
    Renders bindings whole (.operation code) := by
  have leftDenotes : left.nodewise bindings.expanded = _ := first.denotes
  have rightDenotes : right.nodewise bindings.expanded = _ := second.denotes
  constructor
  · rw [Denotes, nodewise_eq, leftDenotes, rightDenotes,
      OperandCode.evaluate, Operand.expanded, expanded_eq]
    rfl
  · rw [parts_eq, OperandCode.arithmeticNodes, nodes_eq]
    exact List.rel_append first.parts second.parts
  · rw [paths_eq, OperandCode.paths, codePaths_eq, first.paths, second.paths]

/-- What a base gives makes up what a selection from it gives. -/
private theorem Renders.ofBase {base whole : Formula}
    {baseCode : OperandCode} {suffix : String}
    (renders : Renders bindings base baseCode)
    (nodewise_eq : whole.nodewise bindings.expanded = do
      let base ← base.nodewise bindings.expanded
      return .operation (.select base suffix))
    (parts_eq : whole.arithmeticParts none = base.arithmeticParts none)
    (paths_eq : whole.paths = base.paths) :
    Renders bindings whole (.operation (.select baseCode suffix)) := by
  have denotes : base.nodewise bindings.expanded = _ := renders.denotes
  constructor
  · rw [Denotes, nodewise_eq, denotes]
    simp [OperandCode.evaluate, OperationCode.evaluate, Operand.expanded,
      Operation.expanded]
  · rw [parts_eq]
    simpa [OperandCode.arithmeticNodes, OperationCode.arithmeticNodes]
      using renders.parts
  · rw [paths_eq]
    exact renders.paths

/-- A minus before what is no literal multiplies by minus one. -/
private theorem Renders.negated {value : Formula} {code : OperandCode}
    (renders : Renders bindings value code)
    (operation : (Formula.unary .negate value).isOperand = false) :
    Renders bindings (.unary .negate value) (.operation (.negate code)) := by
  have denotes : value.nodewise bindings.expanded = _ := renders.denotes
  have nodewise_eq : (Formula.unary .negate value).nodewise
      bindings.expanded = do
        let value ← value.nodewise bindings.expanded
        return .operation (.times (.whole (-1)) value) := by
    cases value with
    | constant _ =>
        simp [isOperand] at operation
    | _ =>
        simp only [nodewise]
  have parts_eq : (Formula.unary .negate value).arithmeticParts none =
      .unary .negate value :: value.arithmeticParts none := by
    cases value with
    | constant _ =>
        simp [isOperand] at operation
    | _ =>
        simp only [arithmeticParts]
  constructor
  · rw [Denotes, nodewise_eq, denotes]
    rfl
  · rw [parts_eq]
    exact .cons (.negation renders.denotes) renders.parts
  · exact renders.paths

/-- What the arguments give makes up what their call gives. -/
private theorem callCode_renders {name : String} {arguments : List Formula}
    {codes : List OperandCode} (named : name ≠ "discard")
    (denotes : nodewiseAll bindings.expanded arguments =
      some (expandedOperands (evaluateAll bindings codes)))
    (parts : List.Forall₂ (Gives bindings)
      (arithmeticPartsOfAll arguments)
      (arithmeticNodesOfAll bindings codes))
    (paths : pathsOfCodes codes = pathsOfAll arguments) :
    Renders bindings (.call (.path (.name name)) arguments)
      (.operation (callCode name codes)) := by
  have nodewise_eq : (Formula.call (.path (.name name))
      arguments).nodewise bindings.expanded = do
        let call ← calledOperation? bindings.expanded name
          (expandedOperands (evaluateAll bindings codes))
        return .operation call := by
    simp [nodewise, denotes]
  constructor
  · rw [Denotes, nodewise_eq, calledOperation?, if_neg named]
    unfold callCode
    cases builtInFunction? name with
    | some function =>
        rfl
    | none =>
        cases vectorWidth? name <;> rfl
  · have nodes_eq : (callCode name codes).arithmeticNodes bindings =
        arithmeticNodesOfAll bindings codes := by
      unfold callCode
      cases builtInFunction? name with
      | some function =>
          rfl
      | none =>
          cases vectorWidth? name <;> rfl
    rw [arithmeticParts, OperandCode.arithmeticNodes, nodes_eq]
    exact parts
  · have paths_eq : (callCode name codes).paths = pathsOfCodes codes := by
      unfold callCode
      cases builtInFunction? name with
      | some function =>
          rfl
      | none =>
          cases vectorWidth? name <;> rfl
    rw [OperandCode.paths, paths_eq, paths]
    rfl

/-- The code of a node of two sides holds what renders its sides. -/
private theorem sidesCode_renders {left right : Formula}
    {build : OperandCode → OperandCode → OperationCode}
    {code : OperationCode}
    (leftRendered : RenderedAsOperation bindings left)
    (rightRendered : RenderedAsOperation bindings right)
    (coded : (do
      let left ← operandCode left.operationCode left
      let right ← operandCode right.operationCode right
      return build left right) = .ok code) :
    ∃ leftCode rightCode, Renders bindings left leftCode ∧
      Renders bindings right rightCode ∧ build leftCode rightCode = code := by
  obtain ⟨leftCode, leftCoded, coded⟩ := bind_eq_ok_iff.mp coded
  obtain ⟨rightCode, rightCoded, built⟩ := bind_pure_eq_ok_iff.mp coded
  exact ⟨leftCode, rightCode, operandCode_renders leftRendered leftCoded,
    operandCode_renders rightRendered rightCoded, built⟩

mutual

/-- By induction on the formula: each case renders its sides first and puts
them together as the node does. -/
private theorem renderedAsOperation :
    ∀ formula : Formula, RenderedAsOperation bindings formula
  | .binary operator left right => by
      intro code _ coded
      cases operator with
      | arithmetic operator =>
          rw [operationCode, bind_eq_ok_iff] at coded
          obtain ⟨leading, led, coded⟩ := coded
          obtain ⟨last, ended, rfl⟩ := bind_pure_eq_ok_iff.mp coded
          have leads := leadingOperands_leads (renderedAsOperation left) led
          have renders :=
            operandCode_renders (renderedAsOperation right) ended
          exact leads.append renders
      | comparison operator =>
          rw [operationCode] at coded
          obtain ⟨first, second, leftRenders, rightRenders, rfl⟩ :=
            sidesCode_renders (renderedAsOperation left)
              (renderedAsOperation right) coded
          have renders : Renders bindings
              (.binary (.comparison operator) left right)
              (.operation (.compare operator first second)) :=
            leftRenders.ofSides rightRenders (by rw [nodewise])
              rfl rfl rfl rfl rfl
          exact renders.operation (fun _ => rfl)
      | _ =>
          simp [operationCode] at coded
  | .assign target value => by
      intro code _ coded
      rw [operationCode] at coded
      obtain ⟨first, second, targetRenders, valueRenders, rfl⟩ :=
        sidesCode_renders (renderedAsOperation target)
          (renderedAsOperation value) coded
      have renders : Renders bindings (.assign target value)
          (.operation (.assign .assign first second)) :=
        targetRenders.ofSides valueRenders (by rw [nodewise])
            rfl rfl rfl rfl rfl
      exact renders.operation (fun _ => rfl)
  | .compoundAssign operator target value => by
      intro code _ coded
      cases assigned : operator.assignment? with
      | none =>
          simp [operationCode, assigned] at coded
      | some assignment =>
          obtain ⟨arithmetic, rfl, rfl⟩ :=
            assignment?_eq_some_iff.mp assigned
          simp only [operationCode, assigned] at coded
          obtain ⟨first, second, targetRenders, valueRenders, rfl⟩ :=
            sidesCode_renders (renderedAsOperation target)
              (renderedAsOperation value) coded
          have renders : Renders bindings
              (.compoundAssign (.arithmetic arithmetic) target value)
              (.operation (.assign (compound arithmetic) first second)) :=
            targetRenders.ofSides valueRenders (by rw [nodewise])
            rfl rfl rfl rfl rfl
          exact renders.operation (fun _ => rfl)
  | .select base (.named identifier) => by
      intro code _ coded
      rw [operationCode] at coded
      obtain ⟨baseCode, baseCoded, rfl⟩ := bind_pure_eq_ok_iff.mp coded
      have baseRenders :=
        operandCode_renders (renderedAsOperation base) baseCoded
      have renders : Renders bindings (.select base (.named identifier))
          (.operation (.select baseCode ("." ++ identifier))) :=
        baseRenders.ofBase (by rw [nodewise]; rfl) rfl rfl
      exact renders.operation (fun _ => rfl)
  | .index base subscript => by
      intro code _ coded
      rw [operationCode] at coded
      obtain ⟨baseCode, baseCoded, rfl⟩ := bind_pure_eq_ok_iff.mp coded
      have baseRenders :=
        operandCode_renders (renderedAsOperation base) baseCoded
      have renders : Renders bindings (.index base subscript)
          (.operation
            (.select baseCode ("[" ++ Token.textOf subscript ++ "]"))) :=
        baseRenders.ofBase (by rw [nodewise]; rfl) rfl rfl
      exact renders.operation (fun _ => rfl)
  | .call callee arguments => by
      intro code _ coded
      cases found : calleeName? callee with
      | none =>
          simp [operationCode, found] at coded
      | some name =>
          obtain rfl := calleeName?_eq_some_iff.mp found
          by_cases discards : name = "discard"
          · subst discards
            cases arguments with
            | nil =>
                obtain rfl : .discard = code := by
                  simpa [operationCode, calleeName?] using coded
                exact Renders.operation ⟨rfl, .nil, rfl⟩ (fun _ => rfl)
            | cons _ _ =>
                simp [operationCode, calleeName?] at coded
          · cases argumentsCoded : operandCodes arguments with
            | error fault =>
                simp [operationCode, calleeName?, argumentsCoded] at coded
            | ok codes =>
                obtain rfl : callCode name codes = code := by
                  simpa [operationCode, calleeName?, discards,
                    argumentsCoded] using coded
                obtain ⟨denotes, parts, paths⟩ :=
                  operandCodes_render argumentsCoded
                have renders :=
                  callCode_renders discards denotes parts paths
                exact renders.operation (fun _ => rfl)
  | .unary .negate value => by
      intro code operation coded
      rw [operationCode] at coded
      obtain ⟨valueCode, valueCoded, rfl⟩ := bind_pure_eq_ok_iff.mp coded
      have renders :=
        operandCode_renders (renderedAsOperation value) valueCoded
      exact (renders.negated operation).operation (fun _ => rfl)
  | .parenthesized inner | .grouped inner => by
      intro code operation coded
      rw [operationCode] at coded
      obtain ⟨⟨denotes, parts, paths⟩, _⟩ :=
        renderedAsOperation inner code operation coded
      exact Renders.operation ⟨denotes, parts, paths⟩ (fun _ => rfl)
  | .constant _ | .path _ => by
      intro code operation
      simp [isOperand] at operation
  | .select _ (.position _) | .foreign _ | .unary .complement _
  | .unary .dereference _ => by
      intro code _ coded
      simp [operationCode] at coded

private theorem operandCodes_render :
    ∀ {formulas : List Formula} {codes : List OperandCode},
      operandCodes formulas = .ok codes →
        nodewiseAll bindings.expanded formulas =
            some (expandedOperands (evaluateAll bindings codes)) ∧
          List.Forall₂ (Gives bindings) (arithmeticPartsOfAll formulas)
            (arithmeticNodesOfAll bindings codes) ∧
          pathsOfCodes codes = pathsOfAll formulas
  | [], _, coded => by
      cases coded
      exact ⟨rfl, .nil, rfl⟩
  | formula :: rest, _, coded => by
      rw [operandCodes, bind_eq_ok_iff] at coded
      obtain ⟨code, formulaCoded, coded⟩ := coded
      obtain ⟨codes, restCoded, rfl⟩ := bind_pure_eq_ok_iff.mp coded
      have renders :=
        operandCode_renders (renderedAsOperation formula) formulaCoded
      have denotes : formula.nodewise bindings.expanded = _ :=
        renders.denotes
      obtain ⟨restDenotes, restParts, restPaths⟩ :=
        operandCodes_render restCoded
      refine ⟨?_, List.rel_append renders.parts restParts, ?_⟩
      · rw [nodewiseAll, denotes, restDenotes]
        rfl
      · rw [pathsOfCodes, pathsOfAll, renders.paths, restPaths]

end

end Rendering

/-! ## A formula with chains -/

section Fade

end Fade

end Shaderwright.Formula
