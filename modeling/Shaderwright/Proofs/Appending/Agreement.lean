import Shaderwright.Proofs.Appending.Pass
import Shaderwright.Proofs.Run

/-!
The pass over a state agrees with lowering. Each writer appends the text that
lowering returns, meets what lowering meets, and fails with the same fault
(`writeOperand_appends`). So both give whole shaders one outcome
(`writeShader_eq_lower`).
-/

namespace Shaderwright

/-! ## Steps side by side -/

/-- The state of the pass in a body with the given local variables, where some
definitions may have been written before progress was made. -/
def Progress.pass (earlier : String) (locals : Locals)
    (progress : Progress) : Pass where
  locals := locals
  symbols := progress.symbols
  functions := progress.definitions.map Definition.function
  functionSources :=
    earlier ++ String.join (progress.definitions.map Definition.text)

section State

variable (progress : Progress) (earlier : String) (locals : Locals)

@[simp]
theorem Progress.symbols_pass :
    (progress.pass earlier locals).symbols = progress.symbols :=
  rfl

@[simp]
theorem Progress.functions_pass :
    (progress.pass earlier locals).functions =
      progress.definitions.map Definition.function :=
  rfl

@[simp]
theorem Progress.functionSources_pass :
    (progress.pass earlier locals).functionSources =
      earlier ++ String.join (progress.definitions.map Definition.text) :=
  rfl

theorem Progress.function?_pass (name : String) :
    (progress.pass earlier locals).function? name =
      (progress.definition? name).map Definition.function := by
  unfold Pass.function? Progress.definition?
  exact List.find?_map ..

end State

/-- The end of a step of lowering as the pass sees it. -/
def passEnd {α : Type} (earlier : String) (locals : Locals) :
    EStateM.Result LoweringError Progress α →
      Except LoweringError (α × Pass)
  | .ok value progress => .ok (value, progress.pass earlier locals)
  | .error fault _ => .error fault

/-- A step of the pass that does what a step of lowering does. -/
def Mirrors {α : Type} (earlier : String) (locals : Locals)
    (step : Passing α) (lowering : Lowering α) : Prop :=
  ∀ progress : Progress,
    step.run (progress.pass earlier locals) =
      passEnd earlier locals (lowering.run progress)

namespace Mirrors

variable {α β : Type} {earlier : String} {locals : Locals}

theorem pure (value : α) :
    Mirrors earlier locals (Pure.pure value) (Pure.pure value) := by
  intro progress
  rfl

theorem throw (fault : LoweringError) :
    Mirrors earlier locals (MonadExcept.throw fault : Passing α)
      (MonadExcept.throw fault) := by
  intro progress
  rfl

theorem check (result : Except LoweringError α) :
    Mirrors earlier locals (liftM result) (Lowering.check result) := by
  intro progress
  cases result <;> rfl

theorem bind {step : Passing α} {lowering : Lowering α}
    {next : α → Passing β} {next' : α → Lowering β}
    (before : Mirrors earlier locals step lowering)
    (after : ∀ value, Mirrors earlier locals (next value) (next' value)) :
    Mirrors earlier locals (step >>= next) (lowering >>= next') := by
  intro progress
  rw [StateT.run_bind, before, EStateM.run_bind]
  cases lowering.run progress with
  | ok value later =>
      exact after value later
  | error fault later =>
      rfl

theorem get_then {next : Pass → Passing β} {next' : Progress → Lowering β}
    (after : ∀ progress,
      (next (progress.pass earlier locals)).run
          (progress.pass earlier locals) =
        passEnd earlier locals ((next' progress).run progress)) :
    Mirrors earlier locals (get >>= next) (get >>= next') := by
  intro progress
  exact after progress

/-- Local variables that are replaced for a step are put back behind it. -/
theorem underLocals {inner outer : Locals} {step : Passing α}
    {lowering : Lowering α} (within : Mirrors earlier inner step lowering) :
    Mirrors earlier outer (underLocals inner step) lowering := by
  intro progress
  have replaced :
      (Shaderwright.underLocals inner step).run
          (progress.pass earlier outer) =
        (do let (value, later) ← step.run (progress.pass earlier inner)
            return (value, { later with locals := outer })) := rfl
  rw [replaced, within]
  cases lowering.run progress <;> rfl

end Mirrors

/-! ## Single steps -/

section Steps

variable {earlier : String} {locals : Locals}

theorem passSymbol_mirrors (target : Target) (parameter : Parameter) :
    Mirrors earlier locals (passSymbol target parameter)
      (hoistParameter target parameter) := by
  unfold passSymbol hoistParameter
  split
  · exact .throw _
  · refine .bind (.check _) fun _ => .bind (.check _) fun _ => ?_
    refine .get_then fun progress => ?_
    rw [Progress.symbols_pass]
    cases inserted : progress.symbols.insert parameter with
    | error fault =>
        rfl
    | ok result =>
        obtain ⟨isNew, table⟩ := result
        rcases SymbolTable.insert_ok_iff.mp inserted with
          ⟨rfl, _, rfl⟩ | ⟨rfl, rfl, _⟩
        · rfl
        · rfl

theorem meetParameter_mirrors (target : Target) (parameter : Parameter) :
    Mirrors earlier locals (meetParameter target parameter)
      (do let isLocal ← Lowering.check (locals.isLocal parameter)
          if !isLocal then
            hoistParameter target parameter) := by
  intro progress
  have checked :
      Mirrors earlier locals
        (do let isLocal ← (locals.isLocal parameter : Passing Bool)
            if !isLocal then
              passSymbol target parameter)
        (do let isLocal ← Lowering.check (locals.isLocal parameter)
            if !isLocal then
              hoistParameter target parameter) := by
    refine .bind (.check _) fun isLocal => ?_
    cases isLocal with
    | true =>
        exact .pure ()
    | false =>
        exact passSymbol_mirrors target parameter
  exact checked progress

theorem meetTarget_mirrors (assigned : Operand) :
    Mirrors earlier locals (meetTarget assigned)
      (Lowering.check (checkTarget locals assigned)) := by
  intro progress
  exact Mirrors.check _ progress

theorem addFunction_mirrors (function : ShaderFunction) (text : String) :
    Mirrors earlier locals (addFunction function text)
      (addDefinition ⟨function, text⟩) := by
  refine .get_then fun progress => ?_
  have added :
      (progress.pass earlier locals).withFunction function text =
        (progress.withDefinition ⟨function, text⟩).pass earlier locals := by
    simp [Pass.withFunction, Progress.pass, Progress.withDefinition,
      Progress.record, String.append_assoc]
  rw [Progress.function?_pass, added]
  cases found : progress.definition? function.name with
  | some known =>
      simp only [found]
      rfl
  | none =>
      simp only [found]
      rfl

end Steps

/-! ## Appended text -/

/-- A step that appends the text that a step of lowering returns. -/
def Appends (earlier : String) (locals : Locals) (writing : Writing Unit)
    (lowering : Lowering String) : Prop :=
  ∀ buffer, Mirrors earlier locals (writing.run buffer)
    (do let text ← lowering
        return ((), buffer ++ text))

namespace Appends

variable {α : Type} {earlier : String} {locals : Locals}
  {writing first second : Writing Unit}
  {lowering before after : Lowering String}

theorem of_eq (appends : Appends earlier locals writing before)
    (same : before = after) : Appends earlier locals writing after :=
  same ▸ appends

theorem textFrom (appends : Appends earlier locals writing lowering)
    (buffer : String) :
    Mirrors earlier locals (writing.textFrom buffer)
      (do let text ← lowering
          return buffer ++ text) := by
  intro progress
  have ran :=
    Mirrors.bind (appends buffer) (fun result => .pure result.2) progress
  refine Eq.trans ran ?_
  simp

theorem write (text : String) :
    Appends earlier locals (Shaderwright.write text) (pure text) := by
  intro buffer
  exact .pure _

theorem nothing : Appends earlier locals (pure ()) (pure "") := by
  intro buffer progress
  simpa using Mirrors.pure ((), buffer) progress

theorem sequence (appends : Appends earlier locals first before)
    (appendsMore : Appends earlier locals second after) :
    Appends earlier locals (do first; second)
      (do let text ← before
          let more ← after
          return text ++ more) := by
  intro buffer progress
  have ran :=
    Mirrors.bind (appends buffer) (fun result => appendsMore result.2)
      progress
  rw [StateT.run_bind]
  simpa [String.append_assoc] using ran

theorem throw (fault : LoweringError) :
    Appends earlier locals (MonadExcept.throw fault)
      (MonadExcept.throw fault) := by
  intro buffer
  exact Mirrors.throw fault

theorem check_then {result : Except LoweringError α}
    {next : α → Writing Unit} {next' : α → Lowering String}
    (appends : ∀ value, Appends earlier locals (next value) (next' value)) :
    Appends earlier locals
      (do let value ← (result : Writing α)
          next value)
      (do let value ← Lowering.check result
          next' value) := by
  intro buffer
  cases result with
  | ok value =>
      exact appends value buffer
  | error fault =>
      exact Mirrors.throw fault

theorem step_then {step : Passing Unit} {lowering : Lowering Unit}
    (mirrors : Mirrors earlier locals step lowering)
    (appends : Appends earlier locals writing after) :
    Appends earlier locals (do step; writing) (do lowering; after) := by
  intro buffer progress
  have ran :=
    Mirrors.bind mirrors (fun _ => appends buffer) progress
  rw [StateT.run_bind]
  simpa using ran

theorem nested (operand : Operand) (nested : Bool)
    (appends : Appends earlier locals writing lowering) :
    Appends earlier locals (operand.writeNested nested writing)
      (do let text ← lowering
          return if nested then operand.parenthesized text else text) := by
  unfold Operand.writeNested Operand.parenthesized
  cases nested with
  | false =>
      simpa using appends
  | true =>
      cases operand.isInfix with
      | false =>
          simpa using appends
      | true =>
          refine ((write "(").sequence <|
            appends.sequence (write ")")).of_eq ?_
          simp [String.append_assoc]

theorem expression (position : Position)
    (appends : Appends earlier locals writing lowering) :
    Appends earlier locals (position.writeExpression writing)
      (do let text ← lowering
          return position.expression text) := by
  cases position with
  | value =>
      simpa [Position.writeExpression, Position.expression] using appends
  | statement level =>
      refine ((write (indentation level)).sequence <|
        appends.sequence (write ";\n")).of_eq ?_
      simp [Position.expression, String.append_assoc]

theorem assigned (operand : Operand) (target : Target)
    (appends : Appends earlier locals writing lowering) :
    Appends earlier locals (operand.writeAssigned target writing)
      (match operand.declared? with
        | some symbol => Lowering.check (target.variableText symbol)
        | none => lowering) := by
  unfold Operand.writeAssigned
  cases operand.declared? with
  | some symbol =>
      exact (check_then write).of_eq (bind_pure _)
  | none =>
      exact appends

theorem call (name : String)
    (appends : Appends earlier locals writing lowering) :
    Appends earlier locals (writeCall name writing)
      (do let arguments ← lowering
          return name ++ "(" ++ arguments ++ ")") := by
  refine ((write (name ++ "(")).sequence <|
    appends.sequence (write ")")).of_eq ?_
  simp [String.append_assoc]

end Appends

/-! ## Lists of texts -/

/-- Texts in one line, with a text in front of the first one and a separator
in front of each further one. -/
def leadTexts (lead separator : String) : List String → String
  | [] => ""
  | text :: rest => lead ++ text ++ leadTexts separator separator rest

theorem leadTexts_cons (lead separator text : String) (rest : List String) :
    leadTexts lead separator (text :: rest) =
      lead ++ separator.intercalate (text :: rest) := by
  induction rest generalizing lead text with
  | nil =>
      simp [leadTexts]
  | cons next rest inductionHypothesis =>
      rw [leadTexts, inductionHypothesis, String.intercalate_cons_cons]
      simp [String.append_assoc]

theorem leadTexts_eq_intercalate (separator : String)
    (texts : List String) :
    leadTexts "" separator texts = separator.intercalate texts := by
  cases texts with
  | nil =>
      rfl
  | cons text rest =>
      rw [leadTexts_cons, String.empty_append]

/-- The texts of operands, in parentheses where they are nested. -/
def nestedTexts (nested : Bool) (operands : List Operand)
    (texts : List String) : List String :=
  if nested then parenthesizedAll operands texts else texts

theorem Lowering.check_map {α β : Type} (transform : α → β)
    (result : Except LoweringError α) :
    check (transform <$> result) = transform <$> check result := by
  cases result <;> rfl

theorem writePadding_appends {earlier : String} {locals : Locals}
    (pad : Binary32) (count : Nat) :
    Appends earlier locals (writePadding pad count)
      (do let texts ← Lowering.check <|
            (List.replicate count pad).mapM numberText
          return leadTexts ", " ", " texts) := by
  induction count with
  | zero =>
      exact .nothing
  | succ count inductionHypothesis =>
      refine (Appends.check_then fun text =>
        (Appends.write (", " ++ text)).sequence inductionHypothesis).of_eq ?_
      simp [List.replicate_succ, leadTexts, Lowering.check_map]

/-! ## Writers -/

section Writers

variable (target : Target) (earlier : String)

-- The induction is on the tree, with one case for each constructor. A function
-- is written under local variables of its own, so these are not fixed.
mutual

theorem writeOperand_appends (locals : Locals) : ∀ operand : Operand,
    Appends earlier locals (writeOperand target operand)
      (lowerOperand target locals operand)
  | .parameter symbol => by
      refine (Appends.step_then (meetParameter_mirrors target symbol)
        (.write symbol.name)).of_eq ?_
      simp only [lowerOperand, lowerParameter, bind_assoc]
      refine congrArg (bind _) (funext fun isLocal => ?_)
      cases isLocal <;> simp
  | .literal literal =>
      (Appends.check_then .write).of_eq (bind_pure _)
  | .builtIn source =>
      (Appends.check_then .write).of_eq (bind_pure _)
  | .operation node => writeOperation_appends locals .value node
  | .raw text => .write text

theorem writeOperation_appends (locals : Locals) (position : Position) :
    ∀ node : Operation,
      Appends earlier locals (writeOperation target position node)
        (lowerOperation target locals position node)
  | .assign operator assigned value => by
      have left :=
        (writeOperand_appends locals assigned).assigned assigned target
      have right :=
        (Appends.write (" " ++ operator.symbol ++ " ")).sequence
          (writeOperand_appends locals value)
      refine (Appends.expression position <|
        .step_then (meetTarget_mirrors assigned) <|
          left.sequence right).of_eq ?_
      cases declared : assigned.declared? <;>
        simp [lowerOperation, declared, String.append_assoc]
  | .declare symbol => by
      refine (Appends.check_then fun level =>
        (Appends.write (indentation level)).sequence <|
          .check_then fun text =>
            (Appends.write text).sequence (.write ";\n")).of_eq ?_
      simp [lowerOperation, String.append_assoc]
  | .arithmetic operator operands => by
      rw [writeOperation, lowerOperation]
      split
      · exact ((Appends.throw _).expression position).of_eq (by simp)
      · refine (Appends.expression position <|
          writeOperands_appends locals true "" _ operands).of_eq ?_
        simp [nestedTexts, leadTexts_eq_intercalate]
  | .compare operator left right => by
      have texts :=
        ((writeOperand_appends locals left).nested left true).sequence <|
          (Appends.write (" " ++ operator.symbol ++ " ")).sequence <|
            (writeOperand_appends locals right).nested right true
      refine (texts.expression position).of_eq ?_
      simp [lowerOperation, String.append_assoc]
  | .select base suffix => by
      have texts :=
        ((writeOperand_appends locals base).nested base true).sequence <|
          .write suffix
      refine (texts.expression position).of_eq ?_
      simp [lowerOperation]
  | .builtIn function arguments => by
      rw [writeOperation, lowerOperation]
      split
      · exact .check_then fun level => .check_then fun _ => .write _
      · have texts :=
          (writeOperands_appends locals false "" ", " arguments).call
            (target.dialect.functionName function)
        refine (Appends.expression position <|
          .check_then fun _ => texts).of_eq ?_
        simp [nestedTexts, leadTexts_eq_intercalate, callText]
  | .ifThen condition body => by
      refine (Appends.check_then fun level =>
        (Appends.write (indentation level ++ "if (")).sequence <|
          (writeOperand_appends locals condition).sequence <|
            (Appends.write ") \x7b\n").sequence <|
              (writeBody_appends locals (level + 1) body).sequence <|
                .write (indentation level ++ "\x7d\n")).of_eq ?_
      simp [lowerOperation, String.append_assoc]
  | .ifElse condition body alternative => by
      refine (Appends.check_then fun level =>
        (Appends.write (indentation level ++ "if (")).sequence <|
          (writeOperand_appends locals condition).sequence <|
            (Appends.write ") \x7b\n").sequence <|
              (writeBody_appends locals (level + 1) body).sequence <|
                (Appends.write
                    (indentation level ++ "\x7d else \x7b\n")).sequence <|
                  (writeBody_appends locals (level + 1)
                      alternative).sequence <|
                    .write (indentation level ++ "\x7d\n")).of_eq ?_
      simp [lowerOperation, String.append_assoc]
  | .loop initial condition step body => by
      refine (Appends.check_then fun level =>
        (Appends.write <| indentation level ++ "for (" ++ initial ++ "; " ++
            condition ++ "; " ++ step ++ ") \x7b\n").sequence <|
          (writeBody_appends locals (level + 1) body).sequence <|
            .write (indentation level ++ "\x7d\n")).of_eq ?_
      simp [lowerOperation, String.append_assoc]
  | .returnValue value => by
      refine (Appends.check_then fun level =>
        (Appends.write (indentation level ++ "return ")).sequence <|
          (writeOperand_appends locals value).sequence <|
            .write ";\n").of_eq ?_
      simp [lowerOperation, String.append_assoc]
  | .returnVoid =>
      .check_then fun level => .write _
  | .call function arguments => by
      have texts :=
        (writeOperands_appends locals false "" ", " arguments).call
          function.name
      refine (Appends.expression position <|
        .check_then fun _ =>
          .step_then (passFunction_mirrors function locals) texts).of_eq ?_
      simp [lowerOperation, nestedTexts, leadTexts_eq_intercalate, callText]
  | .construct type operands => by
      refine (Appends.expression position <|
        .check_then fun _ => .check_then fun keyword =>
          (writeOperands_appends locals false "" ", " operands).call
            keyword).of_eq ?_
      simp [lowerOperation, nestedTexts, leadTexts_eq_intercalate, callText]
  | .convert source type pad => by
      refine (Appends.expression position <|
        .check_then fun missing => .check_then fun keyword =>
          ((writeOperand_appends locals source).sequence
            (writePadding_appends pad missing)).call keyword).of_eq ?_
      simp [lowerOperation, callText, ← leadTexts_eq_intercalate, leadTexts]

theorem passFunction_mirrors : ∀ (function : ShaderFunction)
    (locals : Locals),
    Mirrors earlier locals (passFunction target function)
      (hoistFunction target function)
  | ⟨handle, name, returnType, parameters, body⟩, locals => by
      rw [passFunction, hoistFunction]
      refine .get_then fun progress => ?_
      rw [Progress.function?_pass]
      cases found : progress.definition? name with
      | some known =>
          simp only [Option.map_some]
          split <;> rfl
      | none =>
          have written (inner : Locals) :=
            Mirrors.bind
              (.check (target.signatureText name returnType parameters))
              fun signature =>
                (writeBody_appends inner 1 body).textFrom
                  ("\n" ++ signature)
          have added (text : String) :
              Mirrors earlier locals _ _ :=
            addFunction_mirrors
              ⟨handle, name, returnType, parameters, body⟩
              (text ++ "\x7d\n")
          have defined :=
            Mirrors.bind (.check (Locals.ofBody parameters body))
              fun inner => .bind (.underLocals (written inner)) added
          refine (defined progress).trans ?_
          simp [String.append_assoc]

theorem writeOperands_appends (locals : Locals) (nested : Bool)
    (lead separator : String) : ∀ operands : List Operand,
      Appends earlier locals
        (writeOperands target nested lead separator operands)
        (do let texts ← lowerOperands target locals operands
            return leadTexts lead separator
              (nestedTexts nested operands texts))
  | [] => by
      refine Appends.nothing.of_eq ?_
      cases nested <;>
        simp [lowerOperands, nestedTexts, parenthesizedAll, leadTexts]
  | operand :: rest => by
      refine ((Appends.write lead).sequence <|
        ((writeOperand_appends locals operand).nested operand
          nested).sequence <|
            writeOperands_appends locals nested separator separator
              rest).of_eq ?_
      cases nested <;>
        simp [lowerOperands, nestedTexts, parenthesizedAll, leadTexts,
          String.append_assoc]

theorem writeBody_appends (locals : Locals) (level : Nat) :
    ∀ body : List Operation,
      Appends earlier locals (writeBody target level body)
        (lowerBody target locals level body)
  | [] => .nothing
  | operation :: rest => by
      rw [writeBody, lowerBody]
      exact (writeOperation_appends locals (.statement level)
        operation).sequence (writeBody_appends locals level rest)

end

end Writers

/-! ## Whole shaders -/

theorem Pass.start_eq (locals : Locals) :
    Pass.start locals = Progress.start.pass "" locals := by
  simp [Pass.start, Progress.pass, Progress.start]

/-- Behind its local variables, a shader is lowered as it is written. -/
theorem writeParts_mirrors (dialect : Dialect) (shader : Shader) :
    ∃ parts : Locals → Lowering CompiledShader,
      lowerShader dialect shader =
          (do let locals ←
                Lowering.check (Locals.ofBody [] shader.operations)
              parts locals) ∧
        ∀ locals, Mirrors "" locals (writeParts dialect shader)
          (parts locals) := by
  refine ⟨_, rfl, fun locals => ?_⟩
  have written :=
    (writeBody_appends ⟨dialect, shader.stage⟩ "" locals 1
      shader.operations).textFrom ""
  simp only [String.empty_append, bind_pure] at written
  refine .bind written fun body => .bind (.check _) fun precision =>
    .get_then fun progress => ?_
  dsimp only
  rw [Progress.symbols_pass]
  cases progress.symbols.symbols.mapM
      (Target.mk dialect shader.stage).declarationText with
  | error fault =>
      rfl
  | ok declarations =>
      rw [Progress.functionSources_pass, String.empty_append,
        Progress.functions_pass, List.map_map]
      rfl

/-- The pass over a state and lowering have one outcome. -/
theorem writeShader_eq_lower (dialect : Dialect) (shader : Shader) :
    writeShader dialect shader = lower dialect shader := by
  obtain ⟨parts, lowers, mirrors⟩ := writeParts_mirrors dialect shader
  unfold writeShader lower lowerWithEvents
  rw [lowers]
  cases Locals.ofBody [] shader.operations with
  | error fault =>
      rfl
  | ok locals =>
      have ran := mirrors locals .start
      rw [← Pass.start_eq] at ran
      rw [Lowering.check_ok, pure_bind]
      change (writeParts dialect shader).run' (.start locals) = _
      rw [StateT.run'_eq, ran]
      cases (parts locals).run .start <;> rfl

end Shaderwright
