import Mathlib.Data.List.Nodup
import Shaderwright.Proofs.Scoping.DeclarationPlaces

/-!
What each block of a text declares. Lowering compares the declarations of a
whole body with each other and lets one name be declared again, if it is
declared alike; it adds no declaration and moves none. So a block of the text
declares what the same block of the tree declares, and it declares a name
twice only where the tree does (`lower_keeps_block_declarations`). The names
of symbols, the names of functions and the name of the entry point are not
compared with each other (`echoShader_declaresTwice`).
-/

namespace Shaderwright

/-! ## Blocks of the text -/

/-- What the blocks of a text declare, one list for each block in the order in
which they end, the latest declaration first. `current` is what the open block
has declared so far, and `outer` what the blocks around it have. -/
def blockDeclarations (current : List Parameter)
    (outer : List (List Parameter)) : List Piece → List (List Parameter)
  | [] => current :: outer
  | .plain _ :: rest => blockDeclarations current outer rest
  | .use _ :: rest => blockDeclarations current outer rest
  | .declaration symbol _ :: rest =>
      blockDeclarations (symbol :: current) outer rest
  | .opening :: rest => blockDeclarations [] (current :: outer) rest
  | .closing :: rest =>
      current :: blockDeclarations (outer.headD []) outer.tail rest

/-- What holds of all that a text declares holds of what its blocks declare. -/
theorem forall_mem_blockDeclarations {holds : Parameter → Prop}
    {pieces : List Piece} {current : List Parameter}
    {outer : List (List Parameter)}
    (declared : ∀ symbol text, .declaration symbol text ∈ pieces →
      holds symbol)
    (inside : ∀ symbol ∈ current, holds symbol)
    (around : ∀ block ∈ outer, ∀ symbol ∈ block, holds symbol) :
    ∀ block ∈ blockDeclarations current outer pieces,
      ∀ symbol ∈ block, holds symbol := by
  induction pieces generalizing current outer with
  | nil =>
      exact List.forall_mem_cons.mpr ⟨inside, around⟩
  | cons piece rest inductionHypothesis =>
      have later : ∀ symbol text, .declaration symbol text ∈ rest →
          holds symbol := fun symbol text member =>
        declared symbol text (List.mem_cons_of_mem _ member)
      cases piece with
      | plain text =>
          exact inductionHypothesis later inside around
      | use other =>
          exact inductionHypothesis later inside around
      | declaration other text =>
          exact inductionHypothesis later (List.forall_mem_cons.mpr
            ⟨declared other text List.mem_cons_self, inside⟩) around
      | opening =>
          exact inductionHypothesis later (List.forall_mem_nil _)
            (List.forall_mem_cons.mpr ⟨inside, around⟩)
      | closing =>
          refine List.forall_mem_cons.mpr ⟨inside, ?_⟩
          cases outer with
          | nil =>
              exact inductionHypothesis later (List.forall_mem_nil _) around
          | cons block others =>
              rw [List.forall_mem_cons] at around
              exact inductionHypothesis later around.1 around.2

/-! ## Blocks of the tree -/

mutual

/-- What the blocks in an operand declare, in the order in which they end. -/
def Operand.blocks : Operand → List (List Parameter)
  | .operation node => node.blocks
  | .parameter _ | .literal _ | .builtIn _ | .raw _ => []

/-- What the blocks in an operation declare. A block declares what is visible
at its end and was not before. -/
def Operation.blocks : Operation → List (List Parameter)
  | .assign _ left right | .compare _ left right =>
      left.blocks ++ right.blocks
  | .arithmetic _ operands | .builtIn _ operands | .call _ operands
  | .construct _ operands => operandsBlocks operands
  | .select operand _ | .returnValue operand | .convert operand _ _ =>
      operand.blocks
  | .ifThen condition body =>
      condition.blocks ++
        (bodyBlocks body ++ [body.foldl Operation.visibleAfter []])
  | .ifElse condition body alternative =>
      condition.blocks ++
        (bodyBlocks body ++ [body.foldl Operation.visibleAfter []]) ++
        (bodyBlocks alternative ++
          [alternative.foldl Operation.visibleAfter []])
  | .loop _ _ _ body =>
      bodyBlocks body ++ [body.foldl Operation.visibleAfter []]
  | .declare _ | .returnVoid => []

/-- What the blocks in a list of operands declare. -/
def operandsBlocks : List Operand → List (List Parameter)
  | [] => []
  | operand :: rest => operand.blocks ++ operandsBlocks rest

/-- What the blocks inside of a body declare. -/
def bodyBlocks : List Operation → List (List Parameter)
  | [] => []
  | operation :: rest => operation.blocks ++ bodyBlocks rest

end

/-- What the blocks of a body declare. The outermost one ends last, and it has
the parameters of the function too. -/
def Scope.blocks (scope : Scope) : List (List Parameter) :=
  bodyBlocks scope.body ++
    [scope.body.foldl Operation.visibleAfter scope.parameters]

/-! ## The text keeps the blocks of the tree -/

/-- Blocks as what a reading finds, each one at its end. A block begins without
declarations. -/
def blockReading : BlockReading (List Parameter) where
  read := blockDeclarations
  opening _ := []
  use _ _ := []
  closing current := [current]
  read_plain _ _ _ _ := rfl
  read_use _ _ _ _ := rfl
  read_declaration _ _ _ _ _ := rfl
  read_opening _ _ _ := rfl
  read_closing _ _ _ := rfl

@[simp]
theorem blockReading_opening (current : List Parameter) :
    blockReading.opening current = [] := by
  rfl

@[simp]
theorem blockReading_closing (current : List Parameter) :
    blockReading.closing current = [current] := by
  rfl

mutual

private theorem operand_found_blocks : ∀ (operand : Operand)
    (current : List Parameter),
    operand.found blockReading current = operand.blocks
  | .parameter _, _ | .literal _, _ | .builtIn _, _ | .raw _, _ => by
      rfl
  | .operation node, _ => by
      rw [Operand.found, Operand.blocks, operation_found_blocks node]

private theorem operation_found_blocks : ∀ (node : Operation)
    (current : List Parameter),
    node.found blockReading current = node.blocks
  | .assign _ left right, _ | .compare _ left right, _ => by
      rw [Operation.found, Operation.blocks, operand_found_blocks left,
        operand_found_blocks right]
  | .declare _, _ | .returnVoid, _ => by
      rfl
  | .arithmetic _ operands, _ | .builtIn _ operands, _
  | .call _ operands, _ | .construct _ operands, _ => by
      rw [Operation.found, Operation.blocks, operands_found_blocks operands]
  | .select operand _, _ | .returnValue operand, _
  | .convert operand _ _, _ => by
      rw [Operation.found, Operation.blocks, operand_found_blocks operand]
  | .ifThen condition body, _ => by
      simp [Operation.found, Operation.blocks,
        operand_found_blocks condition, body_found_blocks body]
  | .ifElse condition body alternative, _ => by
      simp [Operation.found, Operation.blocks,
        operand_found_blocks condition, body_found_blocks body,
        body_found_blocks alternative]
  | .loop _ _ _ body, _ => by
      simp [Operation.found, Operation.blocks, body_found_blocks body]

private theorem operands_found_blocks : ∀ (operands : List Operand)
    (current : List Parameter),
    operandsFound blockReading current operands = operandsBlocks operands
  | [], _ => by
      rfl
  | operand :: rest, _ => by
      rw [operandsFound, operandsBlocks, operand_found_blocks operand,
        operands_found_blocks rest]

private theorem body_found_blocks : ∀ (body : List Operation)
    (current : List Parameter),
    bodyFound blockReading current body = bodyBlocks body
  | [], _ => by
      rfl
  | operation :: rest, _ => by
      rw [bodyFound, bodyBlocks, operation_found_blocks operation,
        body_found_blocks rest]

end

/-- The blocks of a text declare what the blocks of the tree declare. -/
theorem Scope.blockDeclarations_pieces {scope : Scope}
    (bare : ∀ visit ∈ scope.visits, visit.DiscardsBare) (target : Target) :
    blockDeclarations scope.parameters [] (scope.pieces target) =
      scope.blocks := by
  have read : blockDeclarations scope.parameters [] (scope.pieces target) =
      _ := blockReading.read_bodyPieces bare scope.parameters
  rw [read, body_found_blocks]
  rfl

/-- What a text declares is declared in the body. -/
theorem declared_of_bodyPieces {target : Target} {level : Nat}
    {body : List Operation}
    (bare : ∀ visit ∈ bodyVisits level body, visit.DiscardsBare)
    {symbol : Parameter} {text : String}
    (member : .declaration symbol text ∈ bodyPieces target level body) :
    symbol ∈ bodyDeclarations body := by
  obtain ⟨places, met, same⟩ := bodyVisits_declare level body
  have inText : .declaration symbol text ∈
      declarations (bodyPieces target level body) :=
    List.mem_filter.mpr ⟨member, rfl⟩
  rw [declarations_bodyPieces met bare] at inText
  obtain ⟨placed, inPlaces, shown⟩ := List.mem_map.mp inText
  cases shown
  rw [← same]
  exact List.mem_map_of_mem inPlaces

/-- What the blocks of a body declare is local to the body. -/
theorem Scope.blocks_subset_locals {scope : Scope}
    (bare : ∀ visit ∈ scope.visits, visit.DiscardsBare) (target : Target) :
    ∀ block ∈ scope.blocks, block ⊆ scope.locals := by
  rw [← scope.blockDeclarations_pieces bare target]
  refine forall_mem_blockDeclarations ?_ ?_ ?_
  · intro symbol text member
    exact List.mem_append_right _ (declared_of_bodyPieces bare member)
  · intro symbol member
    exact List.mem_append_left _ member
  · intro block impossible
    cases impossible

/-! ## Names of a shader -/

/-- The names that the source declares outside of all bodies. -/
def CompiledShader.globalNames (compiled : CompiledShader)
    (dialect : Dialect) : List String :=
  compiled.symbols.map Symbol.name ++ compiled.functions ++
    [dialect.entryPoint]

/-- No two declarations of a block have the same name. -/
def DistinctNames (block : List Parameter) : Prop :=
  (block.map Parameter.name).Nodup

instance (block : List Parameter) : Decidable (DistinctNames block) :=
  inferInstanceAs (Decidable (block.map Parameter.name).Nodup)

theorem CompiledShader.globalNames_nodup_iff {compiled : CompiledShader}
    {dialect : Dialect}
    (distinctSymbols : (compiled.symbols.map Symbol.name).Nodup)
    (distinctFunctions : compiled.functions.Nodup) :
    (compiled.globalNames dialect).Nodup ↔
      (compiled.symbols.map Symbol.name).Disjoint compiled.functions ∧
        dialect.entryPoint ∉
          compiled.symbols.map Symbol.name ++ compiled.functions := by
  rw [globalNames, List.nodup_append', List.nodup_append',
    List.disjoint_singleton]
  simp only [distinctSymbols, distinctFunctions, List.nodup_singleton,
    true_and]

/-- Symbols have different names, and so have functions. A block of the text
declares what the same block of the tree declares, and what a body declares
under one name is declared alike. -/
theorem lower_keeps_block_declarations {dialect : Dialect} {shader : Shader}
    {compiled : CompiledShader}
    (lowered : lower dialect shader = .ok compiled) :
    (compiled.symbols.map Symbol.name).Nodup ∧
      compiled.functions.Nodup ∧
      ((compiled.globalNames dialect).Nodup ↔
        (compiled.symbols.map Symbol.name).Disjoint compiled.functions ∧
          dialect.entryPoint ∉
            compiled.symbols.map Symbol.name ++ compiled.functions) ∧
      ∃ functions,
        compiled.functions = functions.map ShaderFunction.name ∧
          compiled.Defines dialect shader functions ∧
          ∀ scope, shader.Writes functions scope →
            bodyText (shader.target dialect) 1 scope.body =
                written (scope.pieces (shader.target dialect)) ∧
              blockDeclarations scope.parameters []
                  (scope.pieces (shader.target dialect)) =
                scope.blocks ∧
              (∀ block ∈ scope.blocks, block ⊆ scope.locals) ∧
              DeclaredAlike scope.locals := by
  obtain ⟨locals, finish, walk, symbols, functions, defines⟩ :=
    walk_of_lower lowered
  have distinctSymbols : (compiled.symbols.map Symbol.name).Nodup := by
    rw [symbols]
    exact walk.distinctSymbols
  have distinctFunctions : compiled.functions.Nodup := by
    rw [functions]
    exact walk.distinctDefinitions
  refine ⟨distinctSymbols, distinctFunctions,
    CompiledShader.globalNames_nodup_iff distinctSymbols distinctFunctions,
    finish.definitions.map Definition.function, ?_, defines, ?_⟩
  · rw [functions, List.map_map]
    rfl
  · intro scope writes
    have acceptable := (walk.of_writes writes).2
    have bare := acceptable.discardsBare
    exact ⟨(written_bodyPieces _ 1 scope.body).symm,
      scope.blockDeclarations_pieces bare _,
      scope.blocks_subset_locals bare (shader.target dialect),
      acceptable.localsAlike⟩

section Examples

/-- A variable that is declared alike in a block and in a block inside. -/
def nestedShader : Shader :=
  ⟨.fragment, none,
    [ .declare shareParameter,
      .ifThen (.builtIn .frontFacing)
        [.introduce shareParameter (.whole 1)] ]⟩

def nestedSource : String :=
  "\nvoid main() \x7b\n  float share;\n" ++
    "  if (gl_FrontFacing) \x7b\n    float share = 1.0;\n  \x7d\n\x7d\n"

theorem nestedShader_declaresInBlocks :
    ∃ compiled, lower .glslEs100 nestedShader = .ok compiled ∧
      compiled.source = nestedSource ∧
      blockDeclarations [] []
          (nestedShader.entry.pieces (nestedShader.target .glslEs100)) =
        [[shareParameter], [shareParameter]] ∧
      DeclaredAlike nestedShader.entry.locals := by
  obtain ⟨compiled, lowered, source⟩ :=
    exists_of_source nestedShader nestedSource (by decide +kernel)
  obtain ⟨_, _, _, functions, _, _, bodies⟩ :=
    lower_keeps_block_declarations lowered
  obtain ⟨_, blocks, _, alike⟩ := bodies nestedShader.entry (Or.inl rfl)
  exact ⟨compiled, lowered, source, blocks, alike⟩

def hueParameter : Parameter :=
  ⟨1, "hue", .scalar, .constant, 0⟩

/-- A function that has the name of the symbol that it returns. -/
def hueFunction : ShaderFunction :=
  ⟨0, "hue", some .scalar, [], [.returnValue hueParameter]⟩

/-- A function that has the name of the entry point. -/
def mainFunction : ShaderFunction :=
  ⟨1, "main", none, [], [.returnVoid]⟩

/-- A variable that is declared alike twice in a block, and calls of functions
with names that the source declares for something else. -/
def echoShader : Shader :=
  ⟨.fragment, none,
    [ .declare shareParameter,
      .declare shareParameter,
      .call hueFunction [],
      .call mainFunction [] ]⟩

def echoCompiled : CompiledShader where
  stage := .fragment
  source :=
    "uniform float hue;\n\nfloat hue() \x7b\n  return hue;\n\x7d\n" ++
      "\nvoid main() \x7b\n  return;\n\x7d\n" ++
      "\nvoid main() \x7b\n  float share;\n  float share;\n" ++
      "  hue();\n  main();\n\x7d\n"
  symbols := [hueParameter.symbol]
  functions := ["hue", "main"]

/-- Lowering rejects none of them. -/
theorem echoShader_declaresTwice :
    lower .glslEs100 echoShader = .ok echoCompiled ∧
      (∃ symbol ∈ echoCompiled.symbols,
        symbol.name ∈ echoCompiled.functions) ∧
      Dialect.glslEs100.entryPoint ∈ echoCompiled.functions ∧
      ∃ block ∈ blockDeclarations [] []
          (echoShader.entry.pieces (echoShader.target .glslEs100)),
        ¬ DistinctNames block := by
  refine ⟨by decide +kernel, ⟨_, List.mem_singleton_self _, by decide⟩,
    by decide, [shareParameter, shareParameter], ?_, by decide⟩
  exact List.mem_singleton_self _

end Examples

end Shaderwright
