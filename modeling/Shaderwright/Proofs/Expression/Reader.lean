import Shaderwright.Proofs.Expression.Grammar

/-!
The grammar gives tokens one tree at most. A reader that never goes back
follows every derivation (`readAt_of_reads`), so two derivations over the same
tokens end in the tree that it reads.
-/

namespace Shaderwright.Expression

/-! ## A reader -/

/-- A reading that leaves at most `bound` tokens, with that bound. What is read
next is shorter or at a tighter level, so the reader ends. -/
def within {α : Type} (bound : Nat) (read : Option (α × List Token)) :
    Option (α × { rest : List Token // rest.length ≤ bound }) :=
  read.bind fun (value, rest) =>
    if fits : rest.length ≤ bound then
      some (value, ⟨rest, fits⟩)
    else
      none

theorem within_some {α : Type} {bound : Nat} {value : α}
    {rest : List Token} (fits : rest.length ≤ bound) :
    within bound (some (value, rest)) = some (value, ⟨rest, fits⟩) := by
  simp [within, fits]

theorem Level.rank_tighter_lt {level : Level} (looser : level ≠ .access) :
    level.tighter.rank < level.rank := by
  cases level with
  | access =>
      exact absurd rfl looser
  | _ =>
      decide

mutual

/-- Reads a tree at a level and what continues it at that level. -/
def readAt (level : Level) (tokens : List Token) :
    Option (Tree × List Token) :=
  if level = .access then
    readPrimary tokens
  else if level = .unary then
    match tokens with
    | .operator (.arithmetic .subtract) :: rest => do
        let (operand, rest) ← readAt .unary rest
        return (.negate operand, rest)
    | tokens => readAt level.tighter tokens
  else do
    let (tree, ⟨rest, _⟩) ←
      within tokens.length (readAt level.tighter tokens)
    continueAt level tree rest
termination_by (tokens.length, level.rank + 2)
decreasing_by
  · exact .right _ (Nat.lt_add_left _ (by decide))
  · exact .left _ _ (Nat.lt_succ_self _)
  · exact .right _ (Nat.add_lt_add_right (Level.rank_tighter_lt ‹_›) 2)
  · exact .right _ (Nat.add_lt_add_right (Level.rank_tighter_lt ‹_›) 2)
  · exact .right' _ ‹_› (Nat.zero_lt_succ _)

/-- Reads what an expression can begin with, and what continues it. -/
def readPrimary (tokens : List Token) : Option (Tree × List Token) :=
  match tokens with
  | .number text :: rest => continueAt .access (.number text) rest
  | .openParenthesis :: rest => do
      let (tree, rest) ← within rest.length (readAt .assignment rest)
      match rest with
      | ⟨.closeParenthesis :: rest, _⟩ => continueAt .access tree rest
      | _ => none
  | .word name :: .openParenthesis :: .closeParenthesis :: rest =>
      continueAt .access (.call name []) rest
  | .word name :: .openParenthesis :: rest => do
      let (arguments, ⟨rest, _⟩) ← within rest.length (readArguments rest)
      continueAt .access (.call name arguments) rest
  | .word name :: rest =>
      if name = booleanWord true then
        continueAt .access (.boolean true) rest
      else if name = booleanWord false then
        continueAt .access (.boolean false) rest
      else
        continueAt .access (.variable name) rest
  | _ => none
termination_by (tokens.length, 1)
decreasing_by
  all_goals
    apply Prod.Lex.left
    simp only [List.length_cons] at *
    omega

/-- Reads arguments up to the end of a call. -/
def readArguments (tokens : List Token) :
    Option (List Tree × List Token) := do
  let (argument, rest) ← within tokens.length (readAt .assignment tokens)
  match rest with
  | ⟨.closeParenthesis :: rest, _⟩ => return ([argument], rest)
  | ⟨.comma :: rest, _⟩ => do
      let (others, rest) ← readArguments rest
      return (argument :: others, rest)
  | _ => none
termination_by (tokens.length, Level.rank .assignment + 3)
decreasing_by
  · exact .right _ (by decide)
  · apply Prod.Lex.left
    simp only [List.length_cons] at *
    omega

/-- Reads what continues a tree at a level, if anything does. -/
def continueAt (level : Level) (tree : Tree) (tokens : List Token) :
    Option (Tree × List Token) :=
  match level, tokens with
  | .access, .point :: .word name :: rest =>
      continueAt .access (.field tree name) rest
  | .access, .openBracket :: rest => do
      let (place, rest) ← within rest.length (readAt .assignment rest)
      match rest with
      | ⟨.closeBracket :: rest, _⟩ =>
          continueAt .access (.index tree place) rest
      | _ => none
  | .assignment, .assignment operator :: rest => do
      let (value, rest) ← readAt .assignment rest
      return (.assign operator tree value, rest)
  | level, .operator operator :: rest =>
      if operator.level = level then do
        let (right, ⟨rest, _⟩) ←
          within rest.length (readAt level.tighter rest)
        continueAt level (.binary operator tree right) rest
      else
        return (tree, .operator operator :: rest)
  | _, tokens => return (tree, tokens)
termination_by (tokens.length, 0)
decreasing_by
  all_goals
    apply Prod.Lex.left
    simp only [List.length_cons] at *
    omega

end

/-! ## What can follow -/

/-- Whether a token can stand behind an expression of a level without being
taken for a part of it. -/
def Token.Follows (level : Level) : Token → Prop
  | .openParenthesis => False
  | .point => level = .access
  | .openBracket => level = .access
  | .operator sign => level.rank ≤ sign.level.rank
  | .assignment _ => level ≠ .assignment
  | _ => True

/-- The same of the first of some tokens, if there is any. -/
def Follows (level : Level) (rest : List Token) : Prop :=
  ∀ token, rest.head? = some token → token.Follows level

theorem follows_cons {level : Level} {token : Token} {rest : List Token}
    (follows : token.Follows level) : Follows level (token :: rest) := by
  intro first head
  cases head
  exact follows

theorem follows_nil (level : Level) : Follows level [] := by
  intro token impossible
  cases impossible

theorem Level.rank_tighter_le (level : Level) :
    level.tighter.rank ≤ level.rank := by
  cases level <;> decide

theorem Follows.tighter {level : Level} {rest : List Token}
    (follows : Follows level rest) : Follows level.tighter rest := by
  intro token head
  have first := follows token head
  cases token with
  | operator sign =>
      exact Nat.le_trans level.rank_tighter_le first
  | assignment sign =>
      cases level <;> exact Level.noConfusion
  | point =>
      exact congrArg Level.tighter first
  | openBracket =>
      exact congrArg Level.tighter first
  | openParenthesis =>
      exact first
  | _ =>
      trivial

/-! ## Where the reader stops -/

theorem continueAt_nil (level : Level) (tree : Tree) :
    continueAt level tree [] = some (tree, []) := by
  cases level <;> (unfold continueAt; rfl)

/-- A tighter level ends before what can follow a looser one. -/
theorem continueAt_tighter {level : Level} (looser : level ≠ .access)
    {rest : List Token} (follows : Follows level rest) (tree : Tree) :
    continueAt level.tighter tree rest = some (tree, rest) := by
  cases rest with
  | nil =>
      exact continueAt_nil level.tighter tree
  | cons token rest =>
      have first := follows token rfl
      cases token with
      | operator sign =>
          have different : sign.level ≠ level.tighter := by
            intro same
            have ranks : level.rank ≤ sign.level.rank := first
            rw [same] at ranks
            cases level <;> first
              | exact looser rfl
              | exact absurd ranks (by decide)
          unfold continueAt
          cases level <;> simp_all [Level.tighter]
      | point =>
          exact absurd first looser
      | openBracket =>
          exact absurd first looser
      | openParenthesis =>
          cases first
      | assignment sign =>
          unfold continueAt
          cases level <;> rfl
      | _ =>
          unfold continueAt
          cases level <;> rfl

theorem continueAt_assignment {rest : List Token}
    (follows : Follows .assignment rest) (tree : Tree) :
    continueAt .assignment tree rest = some (tree, rest) := by
  cases rest with
  | nil =>
      exact continueAt_nil .assignment tree
  | cons token rest =>
      have first := follows token rfl
      unfold continueAt
      cases token with
      | assignment sign =>
          exact absurd rfl first
      | operator sign =>
          have different : sign.level ≠ .assignment := by
            rcases sign with sign | sign <;> cases sign <;>
              exact Level.noConfusion
          simp [different]
      | _ =>
          rfl

theorem continueAt_unary (tree : Tree) (rest : List Token) :
    continueAt .unary tree rest = some (tree, rest) := by
  cases rest with
  | nil =>
      exact continueAt_nil .unary tree
  | cons token rest =>
      unfold continueAt
      cases token with
      | operator sign =>
          have different : sign.level ≠ .unary := by
            rcases sign with sign | sign <;> cases sign <;>
              exact Level.noConfusion
          simp [different]
      | _ =>
          rfl

/-! ## The reader follows derivations -/

/-- Whether an expression of a level can begin with a token. -/
def Token.Begins (level : Level) : Token → Prop
  | .word _ => True
  | .number _ => True
  | .openParenthesis => True
  | .operator sign =>
      sign = .arithmetic .subtract ∧ level ≠ .access
  | _ => False

theorem Token.Begins.looser {level : Level} {token : Token}
    (begins : token.Begins level.tighter) : token.Begins level := by
  cases token with
  | operator sign =>
      refine ⟨begins.1, ?_⟩
      rintro rfl
      exact begins.2 rfl
  | _ =>
      exact begins

theorem Reads.begins {level : Level} {tokens : List Token} {tree : Tree}
    (reads : Reads level tokens tree) :
    ∃ first others, tokens = first :: others ∧ first.Begins level := by
  induction reads with
  | name _ | number _ | boolean _ | group _ _ | call _ _ _ _ =>
      exact ⟨_, _, rfl, trivial⟩
  | negate _ _ =>
      exact ⟨_, _, rfl, rfl, Level.noConfusion⟩
  | field _ _ inductionHypothesis =>
      obtain ⟨first, others, rfl, begins⟩ := inductionHypothesis
      exact ⟨first, _, rfl, begins⟩
  | index _ _ inductionHypothesis _ =>
      obtain ⟨first, others, rfl, begins⟩ := inductionHypothesis
      exact ⟨first, _, rfl, begins⟩
  | binary _ _ inductionHypothesis _ =>
      obtain ⟨first, others, rfl, begins⟩ := inductionHypothesis
      exact ⟨first, _, rfl, begins⟩
  | assign _ _ inductionHypothesis _ =>
      obtain ⟨first, others, rfl, begins⟩ := inductionHypothesis
      refine ⟨first, _, rfl, ?_⟩
      cases first with
      | operator sign =>
          exact ⟨begins.1, Level.noConfusion⟩
      | _ =>
          exact begins
  | looser _ inductionHypothesis =>
      obtain ⟨first, others, rfl, begins⟩ := inductionHypothesis
      exact ⟨first, others, rfl, begins.looser⟩

/-- The reader follows a derivation: it reads the tokens as the tree and goes
on from there. -/
def Followed (level : Level) (tokens : List Token) (tree : Tree) : Prop :=
  ∀ rest, Follows level rest →
    readAt level (tokens ++ rest) = continueAt level tree rest

theorem readArguments_of_followed :
    ∀ {arguments : List (List Token × Tree)}, arguments ≠ [] →
      (∀ argument ∈ arguments,
        Followed .assignment argument.1 argument.2) →
      ∀ rest,
        readArguments
            (commaSeparated (arguments.map Prod.fst) ++
              .closeParenthesis :: rest) =
          some (arguments.map Prod.snd, rest)
  | [], nonempty, _, _ => absurd rfl nonempty
  | [argument], _, each, rest => by
      have follows : Follows .assignment (.closeParenthesis :: rest) :=
        follows_cons trivial
      have only := each argument (List.mem_cons_self ..) _ follows
      rw [continueAt_assignment follows] at only
      have tokens :
          commaSeparated ([argument].map Prod.fst) ++
              .closeParenthesis :: rest =
            argument.1 ++ .closeParenthesis :: rest := by
        simp [commaSeparated, List.intercalate]
      rw [tokens]
      unfold readArguments
      rw [only, within_some (by simp)]
      rfl
  | argument :: other :: arguments, _, each, rest => by
      have others :
          readArguments
              (commaSeparated ((other :: arguments).map Prod.fst) ++
                .closeParenthesis :: rest) =
            some ((other :: arguments).map Prod.snd, rest) :=
        readArguments_of_followed (by simp)
          (fun argument member =>
            each argument (List.mem_cons_of_mem _ member)) rest
      have follows :
          Follows .assignment
            (.comma ::
              (commaSeparated ((other :: arguments).map Prod.fst) ++
                .closeParenthesis :: rest)) :=
        follows_cons trivial
      have first := each argument (List.mem_cons_self ..) _ follows
      rw [continueAt_assignment follows] at first
      have tokens :
          commaSeparated
              ((argument :: other :: arguments).map Prod.fst) ++
                .closeParenthesis :: rest =
            argument.1 ++
              (.comma ::
                (commaSeparated ((other :: arguments).map Prod.fst) ++
                  .closeParenthesis :: rest)) := by
        simp [commaSeparated, List.intercalate]
      rw [tokens]
      unfold readArguments
      rw [first, within_some (by simp)]
      simp only [Option.bind_eq_bind, Option.bind_some]
      rw [others]
      rfl

section Productions

variable {tokens : List Token} {tree : Tree}

private theorem readAt_access (tokens : List Token) :
    readAt .access tokens = readPrimary tokens := by
  unfold readAt
  rfl

/-- A word that is not called stands for itself. -/
private theorem readPrimary_word (name : String) {rest : List Token}
    (follows : Follows .access rest) :
    readPrimary (.word name :: rest) =
      continueAt .access
        (if name = booleanWord true then
          .boolean true
        else if name = booleanWord false then
          .boolean false
        else
          .variable name) rest := by
  have plain :
      readPrimary (.word name :: rest) =
        if name = booleanWord true then
          continueAt .access (.boolean true) rest
        else if name = booleanWord false then
          continueAt .access (.boolean false) rest
        else
          continueAt .access (.variable name) rest := by
    unfold readPrimary
    cases rest with
    | nil =>
        rfl
    | cons token rest =>
        have first := follows token rfl
        cases token with
        | openParenthesis =>
            cases first
        | _ =>
            rfl
  rw [plain]
  split
  · rfl
  · split <;> rfl

private theorem followed_variable {name : String} (named : IsName name) :
    Followed .access [.word name] (.variable name) := by
  intro rest follows
  have notTrue : name ≠ booleanWord true := by
    rintro rfl
    exact named.noKeyword (by decide)
  have notFalse : name ≠ booleanWord false := by
    rintro rfl
    exact named.noKeyword (by decide)
  rw [readAt_access, List.singleton_append,
    readPrimary_word name follows, if_neg notTrue, if_neg notFalse]

private theorem followed_boolean (truth : Bool) :
    Followed .access [.word (booleanWord truth)] (.boolean truth) := by
  intro rest follows
  rw [readAt_access, List.singleton_append, readPrimary_word _ follows]
  cases truth <;> rfl

private theorem followed_number (text : String) :
    Followed .access [.number text] (.number text) := by
  intro rest _
  rw [readAt_access, List.singleton_append]
  unfold readPrimary
  rfl

private theorem followed_group (inner : Followed .assignment tokens tree) :
    Followed .access (.openParenthesis :: (tokens ++ [.closeParenthesis]))
      tree := by
  intro rest _
  have follows : Follows .assignment (.closeParenthesis :: rest) :=
    follows_cons trivial
  have read := inner _ follows
  rw [continueAt_assignment follows] at read
  rw [readAt_access, List.cons_append, List.append_assoc,
    List.singleton_append]
  unfold readPrimary
  dsimp only
  rw [read, within_some (by simp)]
  rfl

private theorem followed_call (name : String)
    {arguments : List (List Token × Tree)}
    (begins : ∀ argument ∈ arguments, ∃ first others,
      argument.1 = first :: others ∧ first.Begins .assignment)
    (each : ∀ argument ∈ arguments,
      Followed .assignment argument.1 argument.2) :
    Followed .access
      (.word name :: .openParenthesis ::
        (commaSeparated (arguments.map Prod.fst) ++ [.closeParenthesis]))
      (.call name (arguments.map Prod.snd)) := by
  intro rest _
  rw [readAt_access, List.cons_append, List.cons_append,
    List.append_assoc, List.singleton_append]
  cases arguments with
  | nil =>
      unfold readPrimary
      rfl
  | cons argument arguments =>
      have read := readArguments_of_followed (by simp) each rest
      -- The first argument does not begin with the end of the call.
      obtain ⟨first, others, beginning, beginsArgument⟩ :=
        begins argument (List.mem_cons_self ..)
      have fits :
          rest.length ≤
            (commaSeparated ((argument :: arguments).map Prod.fst) ++
              .closeParenthesis :: rest).length := by
        rw [List.length_append, List.length_cons]
        omega
      obtain ⟨later, listed⟩ :
          ∃ later,
            commaSeparated ((argument :: arguments).map Prod.fst) ++
                .closeParenthesis :: rest = first :: later := by
        simp only [List.map_cons, commaSeparated, List.intercalate,
          beginning]
        cases arguments <;> exact ⟨_, rfl⟩
      rw [listed] at read fits ⊢
      unfold readPrimary
      cases first with
      | closeParenthesis =>
          cases beginsArgument
      | _ =>
          dsimp only
          rw [read, within_some fits]
          rfl

private theorem followed_field {name : String}
    (selected : Followed .access tokens tree) :
    Followed .access (tokens ++ [.point, .word name])
      (.field tree name) := by
  intro rest _
  have follows :
      Follows .access (.point :: .word name :: rest) :=
    follows_cons rfl
  have read := selected _ follows
  rw [List.append_assoc, List.cons_append, List.singleton_append, read,
    continueAt]

private theorem followed_index {inner : List Token} {place : Tree}
    (selected : Followed .access tokens tree)
    (indexed : Followed .assignment inner place) :
    Followed .access (tokens ++ .openBracket :: (inner ++ [.closeBracket]))
      (.index tree place) := by
  intro rest _
  have followsInner : Follows .assignment (.closeBracket :: rest) :=
    follows_cons trivial
  have readInner := indexed _ followsInner
  rw [continueAt_assignment followsInner] at readInner
  have follows :
      Follows .access
        (.openBracket :: (inner ++ .closeBracket :: rest)) :=
    follows_cons rfl
  have read := selected _ follows
  rw [List.append_assoc, List.cons_append, List.append_assoc,
    List.singleton_append, read]
  rw [continueAt, readInner, within_some (by simp)]
  rfl

private theorem followed_negate (operand : Followed .unary tokens tree) :
    Followed .unary (.operator (.arithmetic .subtract) :: tokens)
      (.negate tree) := by
  intro rest follows
  have read := operand rest follows
  rw [continueAt_unary] at read
  rw [continueAt_unary, List.cons_append]
  unfold readAt
  rw [if_neg Level.noConfusion, if_pos rfl]
  dsimp only
  rw [read]
  rfl

private theorem continueAt_operator {operator : BinaryOperator}
    {after rest : List Token} {left right : Tree}
    (read : readAt operator.level.tighter after = some (right, rest))
    (fits : rest.length ≤ after.length) :
    continueAt operator.level left (.operator operator :: after) =
      continueAt operator.level (.binary operator left right) rest := by
  have step :
      continueAt operator.level left (.operator operator :: after) =
        (within after.length (readAt operator.level.tighter after)).bind
          fun read =>
            continueAt operator.level (.binary operator left read.1)
              read.2 := by
    conv =>
      lhs
      unfold continueAt
    rcases operator with operator | operator <;> cases operator <;> rfl
  rw [step, read, within_some fits]
  rfl

private theorem followed_binary {operator : BinaryOperator}
    {before after : List Token} {left right : Tree}
    (first : Followed operator.level before left)
    (second : Followed operator.level.tighter after right) :
    Followed operator.level (before ++ .operator operator :: after)
      (.binary operator left right) := by
  intro rest follows
  have looser : operator.level ≠ .access := by
    rcases operator with operator | operator <;> cases operator <;>
      exact Level.noConfusion
  have readRight := second rest follows.tighter
  rw [continueAt_tighter looser follows] at readRight
  have followsLeft :
      Follows operator.level (.operator operator :: (after ++ rest)) :=
    follows_cons (Nat.le_refl _)
  rw [List.append_assoc, List.cons_append, first _ followsLeft,
    continueAt_operator readRight (by simp)]

/-- A looser level goes on from what a tighter one read. -/
private theorem readAt_looser {level : Level} {rest : List Token}
    (looser : level ≠ .access) (notUnary : level ≠ .unary)
    (tight : readAt level.tighter tokens = some (tree, rest))
    (fits : rest.length ≤ tokens.length) :
    readAt level tokens = continueAt level tree rest := by
  conv =>
    lhs
    unfold readAt
  rw [if_neg looser, if_neg notUnary, tight, within_some fits]
  rfl

/-- What can be assigned is read in front of an assignment at every level. -/
private theorem readAt_assigned {sign : AssignmentOperator}
    {rest : List Token}
    (read : readAt .unary tokens = some (tree, .assignment sign :: rest))
    (fits : (Token.assignment sign :: rest).length ≤ tokens.length) :
    readAt .equality tokens = some (tree, .assignment sign :: rest) := by
  have step (level : Level) (looser : level ≠ .access)
      (notUnary : level ≠ .unary) (notAssignment : level ≠ .assignment)
      (tight : readAt level.tighter tokens =
        some (tree, .assignment sign :: rest)) :
      readAt level tokens = some (tree, .assignment sign :: rest) := by
    rw [readAt_looser looser notUnary tight fits]
    unfold continueAt
    cases level <;> first
      | exact absurd rfl notAssignment
      | rfl
  have multiplicative :=
    step .multiplicative Level.noConfusion Level.noConfusion
      Level.noConfusion read
  have additive :=
    step .additive Level.noConfusion Level.noConfusion
      Level.noConfusion multiplicative
  have relational :=
    step .relational Level.noConfusion Level.noConfusion
      Level.noConfusion additive
  exact step .equality Level.noConfusion Level.noConfusion
    Level.noConfusion relational

private theorem followed_assign {operator : AssignmentOperator}
    {before after : List Token} {target value : Tree}
    (assigned : Followed .unary before target)
    (source : Followed .assignment after value) :
    Followed .assignment (before ++ .assignment operator :: after)
      (.assign operator target value) := by
  intro rest follows
  have readValue := source rest follows
  rw [continueAt_assignment follows] at readValue
  have followsTarget :
      Follows .unary (.assignment operator :: (after ++ rest)) :=
    follows_cons Level.noConfusion
  have readTarget := assigned _ followsTarget
  rw [continueAt_unary] at readTarget
  have fits :
      (Token.assignment operator :: (after ++ rest)).length ≤
        (before ++ .assignment operator :: (after ++ rest)).length := by
    simp
  have readEquality :
      readAt Level.assignment.tighter
          (before ++ .assignment operator :: (after ++ rest)) =
        some (target, .assignment operator :: (after ++ rest)) :=
    readAt_assigned readTarget fits
  rw [List.append_assoc, List.cons_append, continueAt_assignment follows,
    readAt_looser Level.noConfusion Level.noConfusion readEquality fits]
  unfold continueAt
  dsimp only
  rw [readValue]
  rfl

private theorem followed_looser {level : Level}
    (begins : ∃ first others,
      tokens = first :: others ∧ first.Begins level.tighter)
    (tight : Followed level.tighter tokens tree) :
    Followed level tokens tree := by
  intro rest follows
  by_cases access : level = .access
  · subst access
    exact tight rest follows
  · have read := tight rest follows.tighter
    rw [continueAt_tighter access follows] at read
    by_cases unary : level = .unary
    · subst unary
      obtain ⟨first, others, rfl, beginsAccess⟩ := begins
      have plain :
          readAt .unary (first :: others ++ rest) =
            readAt .access (first :: others ++ rest) := by
        conv =>
          lhs
          unfold readAt
        rw [if_neg Level.noConfusion, if_pos rfl]
        cases first with
        | operator sign =>
            exact absurd rfl beginsAccess.2
        | _ =>
            rfl
      rw [plain, continueAt_unary]
      exact read
    · exact readAt_looser access unary read (by simp)

end Productions

theorem readAt_of_reads {level : Level} {tokens : List Token} {tree : Tree}
    (reads : Reads level tokens tree) : Followed level tokens tree := by
  induction reads with
  | name named =>
      exact followed_variable named
  | number _ =>
      exact followed_number _
  | boolean truth =>
      exact followed_boolean truth
  | group _ inductionHypothesis =>
      exact followed_group inductionHypothesis
  | call _ arguments each inductionHypothesis =>
      exact followed_call _
        (fun argument member => (each argument member).begins)
        inductionHypothesis
  | field _ _ inductionHypothesis =>
      exact followed_field inductionHypothesis
  | index _ _ baseHypothesis placeHypothesis =>
      exact followed_index baseHypothesis placeHypothesis
  | negate _ inductionHypothesis =>
      exact followed_negate inductionHypothesis
  | binary _ _ leftHypothesis rightHypothesis =>
      exact followed_binary leftHypothesis rightHypothesis
  | assign _ _ targetHypothesis valueHypothesis =>
      exact followed_assign targetHypothesis valueHypothesis
  | looser tight inductionHypothesis =>
      exact followed_looser tight.begins inductionHypothesis

/-- The grammar is not ambiguous. -/
theorem Reads.unique {level : Level} {tokens : List Token}
    {first second : Tree} (reads : Reads level tokens first)
    (reads' : Reads level tokens second) : first = second := by
  have read := readAt_of_reads reads [] (follows_nil level)
  rw [readAt_of_reads reads' [] (follows_nil level), continueAt_nil,
    continueAt_nil] at read
  cases read
  rfl

end Shaderwright.Expression
