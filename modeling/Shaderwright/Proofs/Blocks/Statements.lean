import Shaderwright.Proofs.Blocks.PlainTexts
import Shaderwright.Proofs.Scoping.LocalDeclarations

/-!
The statements of a lowered body. Line by line its text is read back as the
operations of the body, each in its block and in its place, and every line is
indented by its level (`lower_blocks_read_back`). A function that is called
inside of a block is written elsewhere, so it does not show in the block.
-/

namespace Shaderwright

open Blocks

/-! ## Statements of operations -/

/-- The line of an operation that opens no block, without its indentation and
its semicolon. -/
def Operation.lineText (target : Target) : Operation → String
  | .declare symbol => resultOf (target.sizedVariableText symbol)
  | .builtIn .discard _ => "discard"
  | .returnValue value => "return " ++ value.text target
  | .returnVoid => "return"
  | node => node.text target .value

mutual

/-- The statement that an operation stands for. -/
def Operation.statement (target : Target) : Operation → Statement
  | .ifThen condition body =>
      .ifThen (condition.text target) (bodyStatements target body)
  | .ifElse condition body alternative =>
      .ifElse (condition.text target) (bodyStatements target body)
        (bodyStatements target alternative)
  | .loop initial condition step body =>
      .loop (initial ++ "; " ++ condition ++ "; " ++ step)
        (bodyStatements target body)
  | node => .simple (node.lineText target)

/-- The statements of a body in their order. -/
def bodyStatements (target : Target) : List Operation → List Statement
  | [] => []
  | node :: rest => node.statement target :: bodyStatements target rest

end

section Statements

variable {target : Target} {locals : Locals} {depth : Nat}
  {node : Operation}

theorem Operation.lineText_builtIn {function : BuiltInFunction}
    (notDiscard : function ≠ .discard) (arguments : List Operand) :
    (Operation.builtIn function arguments).lineText target =
      (Operation.builtIn function arguments).text target .value := by
  cases function <;> first
    | rfl
    | exact absurd rfl notDiscard

/-- An operation that opens no block is written in one line. -/
theorem Operation.text_of_simple {level : Nat}
    (simple : node.statement target = .simple (node.lineText target)) :
    node.text target (.statement level) =
      indentation level ++ node.lineText target ++ ";\n" := by
  cases node with
  | ifThen _ _ =>
      cases simple
  | ifElse _ _ _ =>
      cases simple
  | loop _ _ _ _ =>
      cases simple
  | returnValue value =>
      simp [Operation.text, Operation.lineText, Position.depth,
        String.append_assoc]
  | returnVoid =>
      rw [Operation.text, Operation.lineText, String.append_assoc]
      rfl
  | builtIn function arguments =>
      by_cases discards : function = .discard
      case pos =>
        subst discards
        rw [Operation.text, if_pos rfl, Operation.lineText,
          String.append_assoc]
        rfl
      case neg =>
        rw [Operation.lineText_builtIn discards, Operation.text,
          Operation.text, if_neg discards, if_neg discards]
        rfl
  | _ =>
      rfl

/-- The line of a plain operation is a word of one line, whether the operation
stands as a value or is no value. -/
theorem Operation.isWord_lineText (dialect : target.dialect.WritesWords)
    {level : Nat} (plain : node.IsPlain)
    (simple : node.statement target = .simple (node.lineText target))
    (passes : Passes target locals (node.visits (.statement level))) :
    IsWord (node.lineText target) := by
  cases node with
  | ifThen _ _ =>
      cases simple
  | ifElse _ _ _ =>
      cases simple
  | loop _ _ _ _ =>
      cases simple
  | declare symbol =>
      have typed := (sequence_ok_iff.mp passes.head).2
      exact isWord_sizedVariableText dialect plain typed
  | returnValue value =>
      have before : IsWord "return " := by decide
      have word := Operand.isWord_text dialect value plain passes.tail
      exact before.append word.isInline
  | returnVoid =>
      exact (by decide : IsWord "return")
  | builtIn function arguments =>
      by_cases discards : function = .discard
      case pos =>
        subst discards
        exact (by decide : IsWord "discard")
      case neg =>
        have head := passes.head
        rw [Visit.check, Operation.check, if_neg discards] at head
        have asValue : (Visit.operation .value
            (.builtIn function arguments)).check target locals = .ok () := by
          rw [Visit.check, Operation.check, if_neg discards]
          exact head
        rw [Operation.lineText_builtIn discards]
        exact Operation.isWord_text dialect _ plain
          (List.forall_mem_cons.mpr ⟨asValue, passes.tail⟩)
  | _ =>
      exact Operation.isWord_text dialect _ plain
        (List.forall_mem_cons.mpr ⟨passes.head, passes.tail⟩)

theorem Operation.readsAs_line (dialect : target.dialect.WritesWords)
    (plain : node.IsPlain)
    (simple : node.statement target = .simple (node.lineText target))
    (passes : Passes target locals (node.visits (.statement (depth + 1)))) :
    ReadsAs depth (node.text target (.statement (depth + 1)))
      [node.statement target] := by
  rw [simple, Operation.text_of_simple simple]
  exact readsAs_simple (node.isWord_lineText dialect plain simple passes)

mutual

/-- At a depth, the text of a plain operation that is lowered is read as its
statement. -/
theorem Operation.readsAs_text (dialect : target.dialect.WritesWords) :
    ∀ (node : Operation) (depth : Nat), node.IsPlain →
      Passes target locals (node.visits (.statement (depth + 1))) →
        ReadsAs depth (node.text target (.statement (depth + 1)))
          [node.statement target]
  | .ifThen condition body, depth, plain, passes => by
      have test := Operand.isWord_text dialect condition plain.1
        passes.tail.left
      have inner := readsAs_bodyText dialect body (depth + 1) plain.2
        passes.tail.right
      exact readsAs_ifThen test.isInline inner
  | .ifElse condition body alternative, depth, plain, passes => by
      have test := Operand.isWord_text dialect condition plain.1
        passes.tail.left
      have inner := readsAs_bodyText dialect body (depth + 1) plain.2.1
        passes.tail.right.left
      have other := readsAs_bodyText dialect alternative (depth + 1)
        plain.2.2 passes.tail.right.right
      exact readsAs_ifElse test.isInline inner other
  | .loop initial condition step body, depth, plain, passes => by
      obtain ⟨⟨first, second, third⟩, plainBody⟩ := plain
      have inner := readsAs_bodyText dialect body (depth + 1) plainBody
        passes.tail
      have between : IsInline "; " := by decide
      have header : IsInline
          (initial ++ "; " ++ condition ++ "; " ++ step) :=
        (((first.append between).append second).append between).append third
      have textEq :
          (Operation.loop initial condition step body).text target
              (.statement (depth + 1)) =
            indentation (depth + 1) ++ "for (" ++
              (initial ++ "; " ++ condition ++ "; " ++ step) ++
              ") \x7b\n" ++ bodyText target (depth + 2) body ++
              indentation (depth + 1) ++ "\x7d\n" := by
        simp [Operation.text, Position.depth, String.append_assoc]
      rw [textEq]
      exact readsAs_loop header inner
  | .assign .., _, plain, passes
  | .declare .., _, plain, passes
  | .arithmetic .., _, plain, passes
  | .compare .., _, plain, passes
  | .select .., _, plain, passes
  | .builtIn .., _, plain, passes
  | .returnValue .., _, plain, passes
  | .returnVoid, _, plain, passes
  | .call .., _, plain, passes
  | .construct .., _, plain, passes
  | .convert .., _, plain, passes =>
      Operation.readsAs_line dialect plain rfl passes

/-- At a depth, the text of a plain body that is lowered is read as its
statements. -/
theorem readsAs_bodyText (dialect : target.dialect.WritesWords) :
    ∀ (body : List Operation) (depth : Nat), BodyPlain body →
      Passes target locals (bodyVisits (depth + 1) body) →
        ReadsAs depth (bodyText target (depth + 1) body)
          (bodyStatements target body)
  | [], _, _, _ => readsAs_nil
  | node :: rest, depth, plain, passes =>
      (Operation.readsAs_text dialect node depth plain.1 passes.left).append
        (readsAs_bodyText dialect rest depth plain.2 passes.right)

end

/-- The text of a plain body that is lowered is read back as its statements,
and its lines are indented by their levels. -/
theorem bodyText_reads_back {body : List Operation}
    (dialect : target.dialect.WritesWords) (plain : BodyPlain body)
    (passes : Passes target locals (bodyVisits 1 body)) :
    read? (bodyText target 1 body) = some (bodyStatements target body) ∧
      IsIndented (bodyText target 1 body) := by
  have reads :=
    (readsAs_bodyText dialect body 0 plain passes).read?_eq
  exact ⟨reads, isIndented_of_reads reads⟩

end Statements

/-! ## Lowered bodies -/

/-- Of a shader that is lowered, the text of every plain body is read back as
the statements of the body, and each of its lines is indented by two spaces for
every level at which it stands. -/
theorem lower_blocks_read_back {dialect : Dialect} {shader : Shader}
    {compiled : CompiledShader} (words : dialect.WritesWords)
    (lowered : lower dialect shader = .ok compiled) :
    ∃ functions,
      compiled.functions = functions.map ShaderFunction.name ∧
        compiled.Defines dialect shader functions ∧
        ∀ scope, shader.Writes functions scope → BodyPlain scope.body →
          read? (bodyText (shader.target dialect) 1 scope.body) =
              some (bodyStatements (shader.target dialect) scope.body) ∧
            IsIndented (bodyText (shader.target dialect) 1 scope.body) := by
  obtain ⟨locals, finish, walk, _, functions, defines⟩ :=
    walk_of_lower lowered
  refine ⟨finish.definitions.map Definition.function, ?_, defines, ?_⟩
  · rw [functions, List.map_map]
    rfl
  · intro scope writes plain
    have served : scope.Served (shader.target dialect) finish := by
      rcases writes with rfl | ⟨function, member, rfl⟩
      · exact walk.entry_served
      · obtain ⟨definition, inList, rfl⟩ := List.mem_map.mp member
        exact (walk.settled_of_mem inList).scope_served
    obtain ⟨inner, _, each⟩ := served
    have passes : Passes (shader.target dialect) inner scope.visits :=
      fun visit member => (each visit member).checked
    exact bodyText_reads_back words plain passes

section Examples

theorem glslEs100_writesWords : Dialect.glslEs100.WritesWords where
  types := by
    intro type word mapped
    cases type <;> cases mapped <;> decide
  builtIns := by
    intro source stage
    cases source <;> cases stage <;> decide
  textureSample := by decide

/-- Conditionals without an alternative, with an empty one and with another
one, and a loop in which a function is called. -/
def branchingShader : Shader :=
  ⟨.fragment, none,
    [ .ifThen (.builtIn .frontFacing) [],
      .ifElse (.builtIn .frontFacing)
        [ .loop "int i = 0" "i < 4" "i++"
            [.call shadeFunction []] ]
        [],
      .ifElse (.builtIn .frontFacing) [.builtIn .discard []]
        [.returnVoid] ]⟩

def branchingBody : String :=
  "  if (gl_FrontFacing) \x7b\n  \x7d\n" ++
    "  if (gl_FrontFacing) \x7b\n" ++
    "    for (int i = 0; i < 4; i++) \x7b\n" ++
    "      shade();\n" ++
    "    \x7d\n" ++
    "  \x7d else \x7b\n" ++
    "  \x7d\n" ++
    "  if (gl_FrontFacing) \x7b\n" ++
    "    discard;\n" ++
    "  \x7d else \x7b\n" ++
    "    return;\n" ++
    "  \x7d\n"

def branchingSource : String :=
  "uniform float gain;\n\n" ++
    "float tone() \x7b\n  return gain;\n\x7d\n\n" ++
    "void shade() \x7b\n  gl_FragColor.x = tone();\n\x7d\n\n" ++
    "void main() \x7b\n" ++ branchingBody ++ "\x7d\n"

theorem branchingShader_reads_back :
    ∃ compiled, lower .glslEs100 branchingShader = .ok compiled ∧
      compiled.source = branchingSource ∧
      read? branchingBody =
        some
          [ .ifThen "gl_FrontFacing" [],
            .ifElse "gl_FrontFacing"
              [.loop "int i = 0; i < 4; i++" [.simple "shade()"]] [],
            .ifElse "gl_FrontFacing" [.simple "discard"]
              [.simple "return"] ] ∧
      IsIndented branchingBody := by
  obtain ⟨compiled, lowered, source⟩ :=
    exists_of_source branchingShader branchingSource (by decide +kernel)
  have plain : BodyPlain branchingShader.operations := by
    simp only [branchingShader, BodyPlain, Operation.IsPlain,
      Operand.IsPlain, OperandsPlain]
    decide
  have text : bodyText (branchingShader.target .glslEs100) 1
      branchingShader.entry.body = branchingBody := by
    decide +kernel
  obtain ⟨functions, _, _, each⟩ :=
    lower_blocks_read_back glslEs100_writesWords lowered
  obtain ⟨reads, indented⟩ :=
    each branchingShader.entry (Or.inl rfl) plain
  rw [text] at reads indented
  exact ⟨compiled, lowered, source, reads, indented⟩

end Examples

end Shaderwright
