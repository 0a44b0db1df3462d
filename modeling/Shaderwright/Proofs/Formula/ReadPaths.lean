import Shaderwright.Formula.Reader
import Shaderwright.Proofs.Formula.FactoryCalls
import Shaderwright.Proofs.Formula.Nodewise

/-!
The paths of formulas that are read from tokens. Each of them ends as a path
does, with the name of a step or with its arguments (`spelled_of_ofTokens?`).
-/

namespace Shaderwright.Formula

open TokenReader

/-! ## What readers ensure -/

section Readers

variable {α β : Type}

/-- Whenever a reader that has taken some tokens succeeds, its value and the
tokens it has taken by then meet a condition. -/
def Ensures (reader : TokenReader α) (taken : List Token)
    (post : α → List Token → Prop) : Prop :=
  ∀ ahead value after, reader ⟨ahead, taken⟩ = some (value, after) →
    post value after.taken

namespace Ensures

variable {first : TokenReader β} {further : β → TokenReader α}
  {reader other : TokenReader α} {taken : List Token}
  {post : α → List Token → Prop}

theorem pure {value : α} (holds : post value taken) :
    Ensures (pure value) taken post := by
  intro ahead read after same
  cases same
  exact holds

theorem failure : Ensures (failure : TokenReader α) taken post := by
  intro ahead read after impossible
  cases impossible

theorem mono {condition : α → List Token → Prop}
    (ensures : Ensures reader taken condition)
    (stronger : ∀ value taken, condition value taken → post value taken) :
    Ensures reader taken post :=
  fun ahead value after read =>
    stronger value after.taken (ensures ahead value after read)

theorem bind
    (ensures : Ensures first taken fun value taken =>
      Ensures (further value) taken post) :
    Ensures (first >>= further) taken post := by
  intro ahead value after read
  obtain ⟨⟨middle, cursor⟩, firstRead, rest⟩ :=
    Option.bind_eq_some_iff.mp read
  exact ensures ahead middle cursor firstRead cursor.ahead value after rest

/-- Whatever is read first, the rest ensures the condition. -/
theorem andThen (ensures : ∀ value taken, Ensures (further value) taken post) :
    Ensures (first >>= further) taken post :=
  bind fun _ value after _ => ensures value after.taken

theorem ite {condition : Prop} [Decidable condition]
    (isTrue : Ensures reader taken post) (isFalse : Ensures other taken post) :
    Ensures (if condition then reader else other) taken post := by
  split
  · exact isTrue
  · exact isFalse

theorem ask (question : Ahead) :
    Ensures (ask question) taken fun _ after => after = taken := by
  intro ahead value after read
  cases read
  rfl

theorem askThen {question : Ahead} {further : Bool → TokenReader α}
    (ensures : ∀ answer, Ensures (further answer) taken post) :
    Ensures (TokenReader.ask question >>= further) taken post := by
  refine bind ((ask question).mono ?_)
  rintro answer _ rfl
  exact ensures answer

theorem demandThen {question : Ahead} {further : Unit → TokenReader α}
    (ensures : Ensures (further ()) taken post) :
    Ensures (demand question >>= further) taken post := by
  refine bind ?_
  unfold demand
  exact askThen fun _ => ite (pure ensures) failure

theorem get :
    Ensures get taken fun cursor after =>
      cursor.taken = taken ∧ after = taken := by
  intro ahead value after read
  cases read
  exact ⟨rfl, rfl⟩

theorem set (cursor : Cursor) :
    Ensures (set cursor) taken fun _ after => after = cursor.taken := by
  intro ahead value after read
  cases read
  rfl

theorem next : Ensures next taken fun _ after => after = taken := by
  refine bind (get.mono ?_)
  rintro cursor _ ⟨same, rfl⟩
  split
  · refine bind ((set _).mono ?_)
    rintro _ _ rfl
    exact pure same
  · exact failure

theorem keep (tokens : List Token) :
    Ensures (keep tokens) taken fun _ after =>
      after = tokens.reverse ++ taken := by
  intro ahead value after read
  cases read
  rfl

theorem takeToken :
    Ensures takeToken taken fun token after => after = token :: taken := by
  refine bind (next.mono ?_)
  rintro token _ rfl
  refine bind ((keep [token]).mono ?_)
  rintro _ _ rfl
  exact pure rfl

theorem takeWord :
    Ensures takeWord taken fun name after => after = .word name :: taken := by
  refine bind (takeToken.mono ?_)
  rintro token _ rfl
  cases token with
  | word name =>
      exact pure rfl
  | _ =>
      exact failure

theorem removeMarks (marks : List Char) :
    Ensures (removeMarks marks) taken fun _ after => after = taken := by
  induction marks with
  | nil =>
      exact pure rfl
  | cons _ more inductionHypothesis =>
      refine bind (next.mono ?_)
      rintro _ _ rfl
      exact inductionHypothesis

theorem takeSign (spelling : String) :
    Ensures (takeSign spelling) taken fun _ after =>
      after = (Token.operator spelling.toList).reverse ++ taken := by
  refine demandThen (bind ((removeMarks _).mono ?_))
  rintro _ _ rfl
  exact keep _

theorem trySign (spelling : String) :
    Ensures (trySign spelling) taken fun found after =>
      after = if found then
        (Token.operator spelling.toList).reverse ++ taken
      else
        taken := by
  refine askThen fun _ => ite (bind ((takeSign spelling).mono ?_)) (pure rfl)
  rintro _ _ rfl
  exact pure rfl

/-- By induction on the number of repetitions: a step keeps what holds of the
value before it. -/
theorem iterate {step : α → TokenReader (Option α)}
    (kept : α → List Token → Prop)
    (ensures : ∀ value taken, kept value taken →
      Ensures (step value) taken fun next after =>
        kept (next.getD value) after)
    (bound : Nat) {value : α} (holds : kept value taken) :
    Ensures (iterate step bound value) taken kept := by
  induction bound generalizing value taken with
  | zero =>
      exact failure
  | succ bound inductionHypothesis =>
      refine bind ((ensures value taken holds).mono ?_)
      rintro (_ | next) after
      · exact pure
      · exact inductionHypothesis

theorem spelled (ensures : Ensures reader [] post) :
    Ensures (spelled reader) taken fun read _ =>
      post read.1 read.2.reverse := by
  refine andThen fun before _ => bind ((set _).mono ?_)
  rintro _ _ rfl
  refine bind (ensures.mono fun value after holds => ?_)
  refine bind (get.mono ?_)
  rintro cursor _ ⟨rfl, rfl⟩
  exact andThen fun _ _ => pure (by simpa using holds)

end Ensures

/-- Whatever a reader reads meets a condition. -/
def Reads (condition : α → Prop) (reader : TokenReader α) : Prop :=
  ∀ taken, Ensures reader taken fun value _ => condition value

namespace Reads

variable {first : TokenReader β} {further : β → TokenReader α}
  {reader other : TokenReader α} {condition : α → Prop}

theorem pure {value : α} (holds : condition value) :
    Reads condition (pure value) :=
  fun _ => .pure holds

theorem failure : Reads condition (failure : TokenReader α) :=
  fun _ => .failure

theorem bind {premise : β → Prop} (reads : Reads premise first)
    (furtherReads : ∀ value, premise value →
      Reads condition (further value)) :
    Reads condition (first >>= further) :=
  fun taken => .bind ((reads taken).mono fun value taken holds =>
    furtherReads value holds taken)

/-- Whatever is read first, the rest meets the condition. -/
theorem andThen (reads : ∀ value, Reads condition (further value)) :
    Reads condition (first >>= further) :=
  fun _ => .andThen fun value taken => reads value taken

theorem ite {premise : Prop} [Decidable premise]
    (isTrue : Reads condition reader) (isFalse : Reads condition other) :
    Reads condition (if premise then reader else other) :=
  fun taken => .ite (isTrue taken) (isFalse taken)

theorem iterate {step : α → TokenReader (Option α)}
    (reads : ∀ value, condition value →
      Reads (fun next => condition (next.getD value)) (step value))
    (bound : Nat) {value : α} (holds : condition value) :
    Reads condition (iterate step bound value) :=
  fun _ => .iterate (fun value _ => condition value)
    (fun value taken holds => reads value holds taken) bound holds

/-- What is read inside of brackets. -/
theorem insideOf {delimiter : Delimiter} {tokens : List Token}
    (reads : Reads condition reader) :
    Reads condition (insideOf delimiter tokens reader) := by
  unfold TokenReader.insideOf
  split
  · rename_i value inner read
    exact andThen fun _ => pure (reads [] tokens value ⟨[], inner⟩ read)
  · exact failure

theorem inside {delimiter : Delimiter} (reads : Reads condition reader) :
    Reads condition (inside delimiter reader) := by
  refine andThen fun token => ?_
  cases token with
  | group found tokens =>
      exact ite (insideOf reads) failure
  | _ =>
      exact failure

theorem insideInvisible (reads : Reads condition reader) :
    Reads condition (insideInvisible reader) := by
  refine andThen fun cursor => ?_
  split
  · exact andThen fun _ => insideOf reads
  · exact failure

theorem listed (bound : Nat) (reads : Reads condition reader) :
    Reads (∀ value ∈ ·, condition value) (listed bound reader) := by
  refine fun taken => .bind ((Ensures.iterate
    (fun read _ => ∀ value ∈ read.1, condition value) ?_ _ ?_).mono ?_)
  · rintro ⟨values, isComplete⟩ taken holds
    refine .ite (.pure holds) (.askThen fun _ => .ite (.pure holds) ?_)
    refine .bind ((reads taken).mono fun value _ met => ?_)
    have more : ∀ read ∈ value :: values, condition read :=
      List.forall_mem_cons.mpr ⟨met, holds⟩
    exact .askThen fun _ =>
      .ite (.pure more) (.andThen fun _ _ => .pure more)
  · simp
  · intro values _ holds
    exact .pure (by simpa using holds)

end Reads

end Readers

/-! ## Paths -/

/-- The paths of a formula end as paths do. -/
def Spelled (formula : Formula) : Prop :=
  ∀ path ∈ formula.paths, isPath path

theorem spelled_of_isPath {tokens : List Token} (ends : isPath tokens)
    (shape : Grammar.PathShape) : Spelled (.path (shape.path tokens)) := by
  unfold Grammar.PathShape.path
  split <;> simp [Spelled, paths, ends]

theorem spelled_foreign (form : ForeignForm) : Spelled (.foreign form) := by
  simp [Spelled, paths]

theorem spelled_constant (literal : Constant) :
    Spelled (.constant literal) := by
  simp [Spelled, paths]

theorem Spelled.join {left right : Formula} (leftSpelled : Spelled left)
    (rightSpelled : Spelled right) (joint : Joint) :
    Spelled (joint.join left right) := by
  unfold Joint.join
  split
  all_goals
    exact List.forall_mem_append.mpr ⟨leftSpelled, rightSpelled⟩

theorem Spelled.call {callee : Formula} (calleeSpelled : Spelled callee) :
    ∀ {arguments : List Formula},
      (∀ argument ∈ arguments, Spelled argument) →
        Spelled (.call callee arguments) := by
  intro arguments spelled
  refine List.forall_mem_append.mpr ⟨calleeSpelled, ?_⟩
  induction arguments with
  | nil =>
      simp [pathsOfAll]
  | cons argument rest inductionHypothesis =>
      obtain ⟨first, others⟩ := List.forall_mem_cons.mp spelled
      exact List.forall_mem_append.mpr ⟨first, inductionHypothesis others⟩

theorem endsPath_append {tokens : List Token} (ends : endsPath tokens)
    (more : List Token) : endsPath (tokens ++ more) := by
  unfold endsPath at ends
  split at ends
  · rfl
  · rfl
  · contradiction

/-- Attributes in front of a path leave its end as it is. -/
theorem Spelled.attributed {formula : Formula} (spelled : Spelled formula)
    (attributes : List Token) :
    Spelled (Grammar.attributed attributes formula) := by
  unfold Grammar.attributed
  split
  · rename_i tokens
    have ends : isPath tokens := spelled tokens (List.mem_singleton_self tokens)
    simpa [Spelled, paths, isPath] using endsPath_append ends _
  · exact spelled

namespace Grammar

variable {grammar : Grammar} {taken : List Token}

theorem genericArguments_ensures :
    Ensures grammar.genericArguments taken fun _ after =>
      endsPath after := by
  refine .andThen fun _ _ => .andThen fun _ _ => ?_
  refine (Ensures.takeSign ">").mono ?_
  rintro _ _ rfl
  rfl

/-- A step of a path is a name, which arguments may follow. -/
theorem pathSegment_ensures (inExpression : Bool) :
    Ensures (grammar.pathSegment inExpression) taken fun step after =>
      step.2 = false ∧ after = .word step.1 :: taken ∨ endsPath after := by
  refine .askThen fun _ => .ite ?_ (.demandThen ?_)
  · refine .bind (Ensures.takeWord.mono ?_)
    rintro name _ rfl
    exact .pure (.inl ⟨rfl, rfl⟩)
  · refine .bind (Ensures.takeWord.mono ?_)
    rintro name _ rfl
    refine .askThen fun _ => .ite ?_ (.askThen fun _ => .ite ?_ ?_)
    · exact .bind (genericArguments_ensures.mono fun _ _ ends =>
        .pure (.inr ends))
    · exact .andThen fun _ _ =>
        .bind (genericArguments_ensures.mono fun _ _ ends =>
          .pure (.inr ends))
    · exact .pure (.inl ⟨rfl, rfl⟩)

/-- The steps behind the first one, each behind a double colon. -/
theorem pathRest_ensures (inExpression : Bool) :
    Ensures (grammar.pathRest inExpression) taken fun steps after =>
      steps = [] ∧ after = taken ∨ endsPath after := by
  refine .bind ((Ensures.iterate (fun steps after =>
    steps = [] ∧ after = taken ∨ endsPath after) ?_ _ ?_).mono ?_)
  · intro steps before kept
    refine .askThen fun _ => .ite ?_ (.pure kept)
    refine .bind ((Ensures.takeSign "::").mono ?_)
    rintro _ _ rfl
    refine .bind ((pathSegment_ensures inExpression).mono ?_)
    rintro ⟨name, hasArguments⟩ after (⟨_, rfl⟩ | ends)
    · exact .pure (.inr rfl)
    · exact .pure (.inr ends)
  · exact .inl ⟨rfl, rfl⟩
  · intro steps after kept
    exact .pure (by simpa using kept)

theorem unqualifiedPath_ensures (inExpression : Bool) :
    Ensures (grammar.unqualifiedPath inExpression) [] fun shape after =>
      (∃ name, shape = ⟨false, false, [(name, false)]⟩) ∨
        endsPath after := by
  refine .bind ((Ensures.trySign "::").mono ?_)
  rintro isRooted _ rfl
  refine .bind ((pathSegment_ensures inExpression).mono ?_)
  rintro ⟨name, hasArguments⟩ after first
  refine .bind ((pathRest_ensures inExpression).mono ?_)
  rintro steps after (⟨rfl, rfl⟩ | ends)
  · refine .pure ?_
    obtain ⟨rfl, rfl⟩ | ends := first
    · cases isRooted with
      | true =>
          exact .inr rfl
      | false =>
          exact .inl ⟨name, rfl⟩
    · exact .inr ends
  · exact .pure (.inr ends)

theorem path_ensures (inExpression : Bool) :
    Ensures (grammar.path inExpression) [] fun shape after =>
      Spelled (.path (shape.path after.reverse)) := by
  refine .askThen fun _ => .ite ?_ ?_
  -- A qualified path has no tokens of its own, with a trait or without one.
  · refine .andThen fun _ _ => .andThen fun _ _ => .andThen fun _ _ => ?_
    refine .ite (.andThen fun _ _ => ?_) ?_
    all_goals
      refine .andThen fun _ _ => .andThen fun _ _ => ?_
      refine .andThen fun _ _ => .andThen fun _ _ => .pure ?_
      simp [Spelled, PathShape.path, paths]
  · refine (unqualifiedPath_ensures inExpression).mono ?_
    rintro shape after (⟨name, rfl⟩ | ends)
    · simp [Spelled, PathShape.path, paths]
    · exact spelled_of_isPath (by simpa [isPath] using ends) shape

/-! ## Levels -/

/-- What the readers of a level read has spelled paths. -/
structure SpellsPaths (grammar : Grammar) : Prop where
  expression (hasStructures : Bool) :
    Reads Spelled (grammar.expression hasStructures)
  unary (hasStructures : Bool) :
    Reads Spelled (grammar.unary hasStructures)
  continuation (precedence : Precedence) (hasStructures : Bool)
    {left : Formula} (spelled : Spelled left) :
    Reads Spelled (grammar.continuation precedence hasStructures left)

namespace SpellsPaths

variable (spells : grammar.SpellsPaths)
include spells

theorem operandBehind (hasStructures : Bool) (goesOn : Precedence → Bool) :
    Reads Spelled (grammar.operandBehind hasStructures goesOn) := by
  refine .bind (spells.unary hasStructures) fun first spelled => ?_
  refine .iterate (fun left spelled => ?_) _ spelled
  refine .andThen fun tokens => .ite ?_ (.pure spelled)
  exact .bind (spells.continuation _ hasStructures spelled)
    fun _ spelled => .pure spelled

theorem continuationStep (base : Precedence) (hasStructures : Bool)
    {left : Formula} (spelled : Spelled left) :
    Reads (fun next => Spelled (next.getD left))
      (grammar.continuationStep base hasStructures left) := by
  refine .andThen fun tokens => ?_
  dsimp only
  split
  · rename_i joint _
    refine .andThen fun _ => ?_
    exact .bind (spells.operandBehind _ _) fun right rightSpelled =>
      .pure (spelled.join rightSpelled joint)
  · refine .ite ?_ (.ite ?_ (.ite ?_ (.ite ?_ ?_)))
    · refine .andThen fun _ => ?_
      exact .bind (spells.operandBehind _ _) fun right rightSpelled =>
        .pure (List.forall_mem_append.mpr ⟨spelled, rightSpelled⟩)
    · refine .andThen fun _ => .andThen fun _ => .ite ?_ ?_
      · exact .pure (spelled_foreign _)
      · exact .andThen fun _ => .pure (spelled_foreign _)
    · exact .andThen fun _ => .andThen fun _ => .pure (spelled_foreign _)
    · exact .andThen fun _ => .andThen fun _ => .pure (spelled_foreign _)
    · exact .pure spelled

theorem continuationFrom (base : Precedence) (hasStructures : Bool)
    {left : Formula} (spelled : Spelled left) :
    Reads Spelled (grammar.continuationFrom base hasStructures left) :=
  .iterate (fun _ spelled => spells.continuationStep base _ spelled) _ spelled

omit spells in
theorem selectParts (parts : List String) {base : Formula}
    (spelled : Spelled base) :
    Reads (fun read => Spelled read.1) (selectParts parts base) := by
  fun_induction Grammar.selectParts parts base with
  | case1 | case2 =>
      exact .pure spelled
  | case3 _ _ _ _ _ _ inductionHypothesis =>
      have rest := inductionHypothesis spelled
      exact .andThen fun _ => .ite rest (.andThen fun _ => rest)
  | case4 =>
      exact .failure

omit spells in
theorem selectMember {base : Formula} (spelled : Spelled base) :
    Reads Spelled (grammar.selectMember base) := by
  refine .andThen fun selected => ?_
  cases selected with
  | position _ =>
      exact .pure spelled
  | named identifier =>
      refine .andThen fun hasArguments => .ite ?_ ?_
      on_goal 1 => refine .andThen fun _ => .andThen fun _ => ?_
      all_goals
        refine .andThen fun _ => .ite ?_ (.pure spelled)
        exact .andThen fun _ => .pure (spelled_foreign _)

omit spells in
theorem selection {base : Formula} (spelled : Spelled base) :
    Reads Spelled (grammar.selection base) := by
  refine .andThen fun _ => .andThen fun _ => .ite ?_ ?_
  · exact .pure (spelled_foreign _)
  · refine .andThen fun _ => .ite ?_ (selectMember spelled)
    refine .andThen fun number => ?_
    refine .bind (selectParts _ spelled) fun read readSpelled => ?_
    exact .ite (.pure readSpelled) (selectMember readSpelled)

theorem arguments :
    Reads (∀ argument ∈ ·, Spelled argument)
      (inside .parentheses (listed grammar.bound (grammar.expression true))) :=
  .inside (.listed _ (spells.expression true))

theorem postfixStep {base : Formula} (spelled : Spelled base) :
    Reads (fun next => Spelled (next.getD base))
      (grammar.postfixStep base) := by
  refine .andThen fun _ => .ite ?_ (.andThen fun _ => .ite ?_
    (.andThen fun _ => .ite ?_ (.andThen fun _ => .ite ?_ ?_)))
  · refine .bind spells.arguments fun arguments argumentsSpelled => .pure ?_
    exact spelled.call argumentsSpelled
  · exact .bind (selection spelled) fun _ read => .pure read
  · exact .andThen fun read => .pure spelled
  · exact .pure (spelled_foreign _)
  · exact .pure spelled

theorem postfixes {base : Formula} (spelled : Spelled base) :
    Reads Spelled (grammar.postfixes base) :=
  .iterate (fun _ spelled => spells.postfixStep spelled) _ spelled

omit spells in
theorem named (hasStructures : Bool) :
    Reads Spelled (grammar.named hasStructures) := by
  intro taken
  refine .bind ((Ensures.spelled (path_ensures true)).mono ?_)
  rintro ⟨shape, tokens⟩ _ ends
  refine .askThen fun _ => .ite ?_ (.askThen fun _ => .ite ?_ ?_)
  · exact .andThen fun _ _ => .pure (spelled_foreign _)
  · exact .andThen fun _ _ => .pure (spelled_foreign _)
  · exact .pure (by simpa using ends)

theorem parenthesized : Reads Spelled grammar.parenthesized := by
  refine .inside (.andThen fun _ => .ite (.pure (spelled_foreign _)) ?_)
  refine .bind (spells.expression true) fun first spelled => ?_
  refine .andThen fun _ => .ite (.pure spelled) ?_
  exact .andThen fun _ => .andThen fun _ => .pure (spelled_foreign _)

omit spells in
theorem array : Reads Spelled grammar.array :=
  .andThen fun _ => .pure (spelled_foreign _)

theorem atom (hasStructures : Bool) :
    Reads Spelled (grammar.atom hasStructures) := by
  unfold Grammar.atom Grammar.closure Grammar.labelled Grammar.controlFlow
  refine .andThen fun _ => .ite ?_ (.andThen fun _ => .ite ?_ ?_)
  · exact .bind (.insideInvisible (spells.expression true))
      fun _ spelled => .pure spelled
  · exact .andThen fun _ => .pure (spelled_constant _)
  -- Whatever else is read on the way, a name, parentheses or a foreign
  -- expression comes of it.
  repeat' first
    | with_reducible refine .ite ?_ ?_
    | with_reducible refine .andThen fun _ => ?_
    | with_reducible exact named _
    | with_reducible exact spells.parenthesized
    | with_reducible exact array
    | exact .pure (spelled_foreign _)

theorem unaryStep (hasStructures : Bool) :
    Reads Spelled (grammar.unaryStep hasStructures) := by
  refine .andThen fun ⟨_, attributes⟩ => .andThen fun _ => .ite ?_
    (.andThen fun _ => .ite ?_ (.andThen fun tokens => ?_))
  · refine .andThen fun _ => .ite ?_ ?_
    · exact .andThen fun _ => .andThen fun _ => .andThen fun _ =>
        .pure (spelled_foreign _)
    · exact .andThen fun _ => .andThen fun _ => .pure (spelled_foreign _)
  · exact .andThen fun _ => .pure (spelled_foreign _)
  · split
    · refine .andThen fun _ => ?_
      exact .bind (spells.unary hasStructures) fun _ spelled => .pure spelled
    · refine .bind (spells.atom hasStructures) fun operand spelled => ?_
      exact .bind (spells.postfixes spelled) fun _ spelled =>
        .pure (spelled.attributed attributes)

theorem step : grammar.step.SpellsPaths where
  expression hasStructures :=
    .bind (spells.unaryStep hasStructures) fun _ spelled =>
      spells.continuationFrom .none hasStructures spelled
  unary := spells.unaryStep
  continuation precedence hasStructures _ spelled :=
    spells.continuationFrom precedence hasStructures spelled

end SpellsPaths

end Grammar

end Shaderwright.Formula
