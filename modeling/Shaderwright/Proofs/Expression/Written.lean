import Shaderwright.FloatLiteral
import Shaderwright.Lowering
import Shaderwright.Proofs.Expression.Reader

/-!
Texts of expressions and how they are read. `Written` ties a text to its tree
at a level; each form of expression has one lemma that builds its text from
the texts of its parts.
-/

namespace Shaderwright.Expression

/-! ## Texts with their trees -/

/-- What can stand behind an expression. -/
def Closes (c : Char) : Prop :=
  c = ' ' ∨ c = ')' ∨ c = ',' ∨ c = ']'

/-- What can stand behind an expression that is selected from. -/
def Selects (c : Char) : Prop :=
  Closes c ∨ c = '.' ∨ c = '['

/-- A text that is read as a tree at a level, before what is safe. -/
def Written (safe : Char → Prop) (level : Level) (text : List Char)
    (tree : Tree) : Prop :=
  ∃ tokens, Scans safe text tokens ∧ Reads level tokens tree

theorem Reads.loosen {tight level : Level} {tokens : List Token}
    {tree : Tree} (reads : Reads tight tokens tree)
    (le : tight.rank ≤ level.rank) : Reads level tokens tree := by
  cases level <;> cases tight <;> first
    | exact absurd le (by decide)
    | repeat' first
        | exact reads
        | apply Reads.looser

section Written

variable {safe safe' : Char → Prop} {tight level : Level}
  {text : List Char} {tree : Tree}

theorem Written.loosen (written : Written safe tight text tree)
    (le : tight.rank ≤ level.rank) : Written safe level text tree := by
  obtain ⟨tokens, scans, reads⟩ := written
  exact ⟨tokens, scans, reads.loosen le⟩

theorem Written.before (written : Written safe level text tree)
    (stronger : ∀ c, safe' c → safe c) :
    Written safe' level text tree := by
  obtain ⟨tokens, scans, reads⟩ := written
  exact ⟨tokens, scans.mono stronger, reads⟩

theorem Written.operand (written : Written Selects .access text tree) :
    Written Closes .unary text tree :=
  (written.loosen (by decide)).before fun _ => Or.inl

theorem Selects.not_isWordPart {c : Char} (selects : Selects c) :
    isWordPart c = false := by
  rcases selects with (rfl | rfl | rfl | rfl) | rfl | rfl <;> decide

theorem Closes.not_isNumberPart {c : Char} (closes : Closes c) :
    isWordPart c = false ∧ c ≠ '.' := by
  rcases closes with rfl | rfl | rfl | rfl <;> decide

end Written

/-! ## Words and numbers -/

theorem written_variable {name : String} (named : IsName name) :
    Written Selects .access name.toList (.variable name) :=
  ⟨_, (scans_word named.identifier).mono fun _ =>
    Selects.not_isWordPart, .name named⟩

theorem written_boolean (truth : Bool) :
    Written Closes .unary (booleanWord truth).toList (.boolean truth) := by
  have identifier : isIdentifier (booleanWord truth) = true := by
    cases truth <;> decide
  have word :
      Written Selects .access (booleanWord truth).toList
        (.boolean truth) :=
    ⟨_, (scans_word identifier).mono fun _ => Selects.not_isWordPart,
      .boolean truth⟩
  exact word.operand

/-- The tree of a number: its magnitude with its sign. -/
def numberTree (value : Binary32) : Tree :=
  if value.isNegative then
    .negate (.number value.magnitudeText)
  else
    .number value.magnitudeText

theorem decimalDigits_isDigit (width n : Nat) :
    ∀ c ∈ Binary32.decimalDigits width n, c.isDigit = true := by
  induction width generalizing n with
  | zero =>
      intro c impossible
      cases impossible
  | succ width inductionHypothesis =>
      intro c member
      rcases List.mem_append.mp member with earlier | last
      · exact inductionHypothesis _ c earlier
      · rw [List.mem_singleton.mp last, Nat.isDigit_digitChar]
        exact decide_eq_true (Nat.mod_lt n (by decide))

theorem shortestFrom_positional (x : Binary32) (more places : Nat) :
    ∃ n width, x.shortestFrom more places =
      Binary32.positional n width := by
  induction more generalizing places with
  | zero =>
      exact ⟨_, _, rfl⟩
  | succ more inductionHypothesis =>
      unfold Binary32.shortestFrom
      cases x.nearestDecimal? places with
      | some n =>
          exact ⟨_, _, rfl⟩
      | none =>
          exact inductionHypothesis (places + 1)

theorem magnitudeText_positional (x : Binary32) :
    ∃ n width, x.magnitudeText = Binary32.positional n width := by
  unfold Binary32.magnitudeText
  dsimp only
  split
  · exact ⟨_, _, rfl⟩
  · exact shortestFrom_positional x _ _

/-- The text of a magnitude is a numeral that begins with a digit. -/
theorem magnitudeText_toList (x : Binary32) :
    ∃ first others,
      x.magnitudeText.toList = first :: others ∧
        first.isDigit = true ∧ others.all isNumberPart = true ∧
        (first :: others).count '.' ≤ 1 := by
  obtain ⟨n, width, positional⟩ := magnitudeText_positional x
  have point {digits : List Char}
      (areDigits : ∀ c ∈ digits, c.isDigit = true) :
      digits.count '.' = 0 := by
    refine List.count_eq_zero.mpr fun member => ?_
    exact absurd (areDigits '.' member) (by decide)
  have whole :
      ∀ c ∈ Nat.toDigits 10 (n / 10 ^ width), c.isDigit = true :=
    fun c member => Nat.isDigit_of_mem_toDigits (by decide) (by decide) member
  have fraction := decimalDigits_isDigit width (n % 10 ^ width)
  have text :
      x.magnitudeText.toList =
        Nat.toDigits 10 (n / 10 ^ width) ++
          '.' :: Binary32.decimalDigits width (n % 10 ^ width) := by
    rw [positional, Binary32.positional]
    simp
  have counted :
      (Nat.toDigits 10 (n / 10 ^ width) ++
        '.' :: Binary32.decimalDigits width (n % 10 ^ width)).count '.' ≤
          1 := by
    simp [List.count_append, point whole, point fraction]
  cases digits : Nat.toDigits 10 (n / 10 ^ width) with
  | nil =>
      exact absurd digits Nat.toDigits_ne_nil
  | cons first others =>
      rw [digits] at text counted whole
      refine ⟨first, _, text, whole first (List.mem_cons_self ..), ?_,
        counted⟩
      rw [List.all_eq_true]
      intro c member
      rcases List.mem_append.mp member with early | late
      · simp [isNumberPart, whole c (List.mem_cons_of_mem _ early)]
      · rcases List.mem_cons.mp late with rfl | later
        · decide
        · simp [isNumberPart, fraction c later]

theorem written_magnitude (x : Binary32) :
    Written Closes .unary x.magnitudeText.toList
      (.number x.magnitudeText) := by
  obtain ⟨first, others, text, digit, parts, counted⟩ :=
    magnitudeText_toList x
  have numeral : isNumeral x.magnitudeText = true := by
    simp only [isNumeral, text, Bool.and_eq_true, decide_eq_true_eq,
      List.any_cons, List.all_cons]
    simp [digit, parts, isNumberPart, counted]
  have scans := scans_number digit parts
  rw [← text, String.ofList_toList] at scans
  exact ⟨_, scans.mono fun _ => Closes.not_isNumberPart,
    .looser (.number numeral)⟩

theorem extend?_minus_of_isDigit {c : Char} (digit : c.isDigit = true)
    (token : Token) : (Pending.mark '-' token).extend? c = none := by
  have notEquals : c ≠ '=' := by
    rintro rfl
    exact absurd digit (by decide)
  have notMinus : c ≠ '-' := by
    rintro rfl
    exact absurd digit (by decide)
  simp [mark₂?, notEquals, notMinus]

theorem written_number {value : Binary32} {text : String}
    (written : numberText value = .ok text) :
    Written Closes .unary text.toList (numberTree value) := by
  have textEq :
      text = (if value.isNegative then "-" else "") ++
        value.magnitudeText := by
    unfold numberText Binary32.literalText? at written
    by_cases finite : value.isFinite = true
    · rw [if_pos finite] at written
      exact (Except.ok.inj written).symm
    · simp [finite] at written
  obtain ⟨tokens, scans, reads⟩ := written_magnitude value
  obtain ⟨first, others, magnitude, digit, _⟩ := magnitudeText_toList value
  rw [textEq, numberTree]
  by_cases negative : value.isNegative = true
  · have minus : Pending.begin? '-' =
        some (.mark '-' (.operator (.arithmetic .subtract))) := rfl
    have signed :=
      (scans_mark minus).append scans fun rest _ => by
        rw [magnitude]
        exact startsWith_cons (extend?_minus_of_isDigit digit _)
    rw [if_pos negative, if_pos negative]
    refine ⟨_, ?_, .negate reads⟩
    simpa using signed
  · rw [if_neg negative, if_neg negative]
    exact ⟨tokens, by simpa using scans, reads⟩

/-! ## Groups and calls -/

section Punctuation

theorem scans_open : Scans (fun _ => True) ['('] [.openParenthesis] :=
  scans_single rfl fun _ => by simp [mark₂?_eq_none]

theorem scans_close : Scans (fun _ => True) [')'] [.closeParenthesis] :=
  scans_single rfl fun _ => by simp [mark₂?_eq_none]

theorem scans_comma : Scans (fun _ => True) [','] [.comma] :=
  scans_single rfl fun _ => by simp [mark₂?_eq_none]

theorem scans_openBracket : Scans (fun _ => True) ['['] [.openBracket] :=
  scans_single rfl fun _ => by simp [mark₂?_eq_none]

theorem scans_closeBracket : Scans (fun _ => True) [']'] [.closeBracket] :=
  scans_single rfl fun _ => by simp [mark₂?_eq_none]

end Punctuation

/-- In parentheses every expression can be selected from. -/
theorem written_group {text : List Char} {tree : Tree}
    (written : Written Closes .assignment text tree) :
    Written Selects .access ('(' :: (text ++ [')'])) tree := by
  obtain ⟨tokens, scans, reads⟩ := written
  have inner := scans.append scans_close fun _ _ =>
    startsWith_cons (Or.inr (Or.inl rfl))
  exact ⟨_, (scans_open.append_any inner).mono fun _ _ => trivial,
    .group reads⟩

/-- The texts of arguments, with the tokens and trees that they give. -/
private theorem written_arguments :
    ∀ {parts : List (String × Tree)},
      (∀ part ∈ parts, Written Closes .assignment part.1.toList part.2) →
      ∃ arguments : List (List Token × Tree),
        arguments.map Prod.snd = parts.map Prod.snd ∧
          (∀ argument ∈ arguments,
            Reads .assignment argument.1 argument.2) ∧
          Scans Closes (", ".intercalate (parts.map Prod.fst)).toList
            (commaSeparated (arguments.map Prod.fst))
  | [], _ => ⟨[], rfl, by simp, by
      simpa [commaSeparated] using Scans.nil⟩
  | [(text, tree)], each => by
      obtain ⟨tokens, scans, reads⟩ := each _ (List.mem_cons_self ..)
      refine ⟨[(tokens, tree)], rfl, ?_, ?_⟩
      · intro argument member
        rw [List.mem_singleton.mp member]
        exact reads
      · simpa [commaSeparated, List.intercalate] using scans
  | (text, tree) :: second :: rest, each => by
      obtain ⟨tokens, scans, reads⟩ := each _ (List.mem_cons_self ..)
      obtain ⟨arguments, trees, readEach, scansRest⟩ :=
        written_arguments (fun part member =>
          each part (List.mem_cons_of_mem _ member))
      have separated :=
        scans.append
          (scans_comma.append_any (scans_blank.append_any scansRest))
          fun _ _ => startsWith_cons (Or.inr (Or.inr (Or.inl rfl)))
      refine ⟨(tokens, tree) :: arguments, by simp [trees], ?_, ?_⟩
      · intro argument member
        rcases List.mem_cons.mp member with rfl | later
        · exact reads
        · exact readEach argument later
      · cases arguments with
        | nil =>
            simp at trees
        | cons other others =>
            simpa [commaSeparated, List.intercalate_cons_cons,
              String.intercalate_cons_cons] using separated

theorem written_call {name : String} (callable : IsCallable name)
    {parts : List (String × Tree)}
    (each : ∀ part ∈ parts,
      Written Closes .assignment part.1.toList part.2) :
    Written Selects .access (callText name (parts.map Prod.fst)).toList
      (.call name (parts.map Prod.snd)) := by
  obtain ⟨arguments, trees, readEach, scans⟩ := written_arguments each
  have inner := scans.append scans_close fun _ _ =>
    startsWith_cons (Or.inr (Or.inl rfl))
  have called :=
    (scans_word callable.identifier).append (scans_open.append_any inner)
      fun _ _ => startsWith_cons (by decide)
  rw [← trees]
  refine ⟨_, ?_, .call callable arguments readEach⟩
  have anywhere : Scans Selects _ _ := called.mono fun _ _ => trivial
  simpa [callText] using anywhere

/-! ## Selections -/

theorem extend?_point_of_isWordStart {c : Char}
    (starts : isWordStart c = true) (token : Token) :
    (Pending.mark '.' token).extend? c = none := by
  have notDigit : c.isDigit = false := by
    cases digit : c.isDigit with
    | false =>
        rfl
    | true =>
        rw [isWordStart_of_isDigit digit] at starts
        cases starts
  simp [mark₂?_eq_none, notDigit]

theorem startsWith_of_isIdentifier {text : String}
    (identifier : isIdentifier text = true) (rest : List Char) :
    StartsWith (fun c => isWordStart c = true) (text.toList ++ rest) := by
  unfold isIdentifier at identifier
  cases letters : text.toList with
  | nil =>
      rw [letters] at identifier
      cases identifier
  | cons first others =>
      rw [letters] at identifier
      simp only [Bool.and_eq_true] at identifier
      exact startsWith_cons identifier.1

/-- A selection from a base: a component by its name, or a place that is given
by a variable or by digits. -/
inductive Access where
  | field (name : String)
  | place (name : String)
  | element (digits : String)
deriving DecidableEq, Repr

namespace Access

def text : Access → String
  | field name => "." ++ name
  | place name => "[" ++ name ++ "]"
  | element digits => "[" ++ digits ++ "]"

/-- The selection from the tree of a base. -/
def apply (base : Tree) : Access → Tree
  | field name => .field base name
  | place name => .index base (.variable name)
  | element digits => .index base (.number digits)

def Legible : Access → Prop
  | field name => IsName name
  | place name => IsName name
  | element digits =>
      digits.toList ≠ [] ∧ ∀ c ∈ digits.toList, c.isDigit = true

def tokens : Access → List Token
  | field name => [.point, .word name]
  | place name => [.openBracket, .word name, .closeBracket]
  | element digits => [.openBracket, .number digits, .closeBracket]

end Access

/-- The selections that tokens stand for, if they are selections. -/
def accesses? : List Token → Option (List Access)
  | [] => some []
  | .point :: .word name :: rest =>
      (accesses? rest).map (.field name :: ·)
  | .openBracket :: .word name :: .closeBracket :: rest =>
      (accesses? rest).map (.place name :: ·)
  | .openBracket :: .number digits :: .closeBracket :: rest =>
      (accesses? rest).map (.element digits :: ·)
  | _ => none

/-- The selections of a suffix. -/
def suffixAccesses (suffix : String) : List Access :=
  ((tokens? suffix).bind accesses?).getD []

theorem accesses?_flatMap_tokens (accesses : List Access) :
    accesses? (accesses.flatMap Access.tokens) = some accesses := by
  induction accesses with
  | nil =>
      rfl
  | cons access rest inductionHypothesis =>
      cases access <;>
        simp [Access.tokens, accesses?, inductionHypothesis]

private theorem scans_digits {digits : String}
    (legible : (Access.element digits).Legible) :
    Scans Closes digits.toList [.number digits] := by
  obtain ⟨nonempty, areDigits⟩ := legible
  cases characters : digits.toList with
  | nil =>
      exact absurd characters nonempty
  | cons first others =>
      rw [characters] at areDigits
      have parts : others.all isNumberPart = true := by
        rw [List.all_eq_true]
        intro c member
        simp [isNumberPart, areDigits c (List.mem_cons_of_mem _ member)]
      have scans :=
        scans_number (areDigits first (List.mem_cons_self ..)) parts
      rw [← characters, String.ofList_toList] at scans
      rw [← characters]
      exact scans.mono fun _ => Closes.not_isNumberPart

private theorem isNumeral_of_legible {digits : String}
    (legible : (Access.element digits).Legible) :
    isNumeral digits = true := by
  obtain ⟨nonempty, areDigits⟩ := legible
  obtain ⟨first, others, characters⟩ := List.exists_cons_of_ne_nil nonempty
  have noPoint : digits.toList.count '.' = 0 := by
    refine List.count_eq_zero.mpr fun member => ?_
    exact absurd (areDigits '.' member) (by decide)
  have someDigit : digits.toList.any Char.isDigit = true := by
    rw [characters] at areDigits ⊢
    simp [areDigits first (List.mem_cons_self ..)]
  have parts : digits.toList.all isNumberPart = true := by
    rw [List.all_eq_true]
    intro c member
    simp [isNumberPart, areDigits c member]
  simp [isNumeral, someDigit, parts, noPoint]

private theorem scans_brackets {place : List Char} {tokens : List Token}
    (scans : Scans Closes place tokens) :
    Scans Selects ('[' :: (place ++ [']']))
      (.openBracket :: (tokens ++ [.closeBracket])) := by
  have inner := scans.append scans_closeBracket fun _ _ =>
    startsWith_cons (Or.inr (Or.inr (Or.inr rfl)))
  exact (scans_openBracket.append_any inner).mono fun _ _ => trivial

private theorem scans_name {name : String} (named : IsName name) :
    Scans Selects name.toList [.word name] :=
  (scans_word named.identifier).mono fun _ => Selects.not_isWordPart

theorem Access.Legible.scans {access : Access} (legible : access.Legible) :
    Scans Selects access.text.toList access.tokens := by
  cases access with
  | field name =>
      have point : Pending.begin? '.' = some (.mark '.' .point) := rfl
      have selected :=
        (scans_mark point).append (scans_name legible) fun rest _ c head =>
          extend?_point_of_isWordStart
            (startsWith_of_isIdentifier legible.identifier rest c head) _
      simpa [Access.text, Access.tokens] using selected
  | place name =>
      have scans : Scans Closes name.toList [.word name] :=
        (scans_name legible).mono fun _ => Or.inl
      simpa [Access.text, Access.tokens] using scans_brackets scans
  | element digits =>
      simpa [Access.text, Access.tokens] using
        scans_brackets (scans_digits legible)

private theorem startsWith_access (access : Access) (rest : List Char) :
    StartsWith Selects (access.text.toList ++ rest) := by
  have point (others : List Char) : StartsWith Selects ('.' :: others) :=
    startsWith_cons (Or.inr (Or.inl rfl))
  have bracket (others : List Char) : StartsWith Selects ('[' :: others) :=
    startsWith_cons (Or.inr (Or.inr rfl))
  cases access with
  | field name =>
      simpa [Access.text] using point _
  | _ =>
      simpa [Access.text] using bracket _

private theorem scans_accesses {accesses : List Access}
    (legible : ∀ access ∈ accesses, access.Legible) :
    Scans Selects (String.join (accesses.map Access.text)).toList
      (accesses.flatMap Access.tokens) := by
  induction accesses with
  | nil =>
      simpa using Scans.nil
  | cons access rest inductionHypothesis =>
      have first := (legible access (List.mem_cons_self ..)).scans
      have others := inductionHypothesis fun other member =>
        legible other (List.mem_cons_of_mem _ member)
      have starts :
          ∀ later, StartsWith Selects later →
            StartsWith Selects
              ((String.join (rest.map Access.text)).toList ++ later) := by
        intro later startsLater
        cases rest with
        | nil =>
            simpa using startsLater
        | cons next rest =>
            simpa using startsWith_access next _
      simpa using first.append others starts

/-- The selections of a suffix are those that it was put together from. -/
theorem suffixAccesses_join {accesses : List Access}
    (legible : ∀ access ∈ accesses, access.Legible) :
    suffixAccesses (String.join (accesses.map Access.text)) =
      accesses := by
  rw [suffixAccesses, (scans_accesses legible).tokens?_eq,
    Option.bind_some, accesses?_flatMap_tokens]
  rfl

/-- A base with a suffix is read as the selections from the base, one after
the other. -/
theorem written_accesses {accesses : List Access}
    (legible : ∀ access ∈ accesses, access.Legible) :
    ∀ {text : List Char} {tree : Tree},
      Written Selects .access text tree →
      Written Selects .access
        (text ++ (String.join (accesses.map Access.text)).toList)
        (accesses.foldl Access.apply tree) := by
  induction accesses with
  | nil =>
      intro text tree written
      simpa using written
  | cons access rest inductionHypothesis =>
      intro text tree written
      have first := legible access (List.mem_cons_self ..)
      obtain ⟨tokens, scans, reads⟩ := written
      have selected :
          Written Selects .access (text ++ access.text.toList)
            (access.apply tree) := by
        refine ⟨_, scans.append first.scans fun later _ =>
          startsWith_access access later, ?_⟩
        cases access with
        | field name =>
            exact .field reads first
        | place name =>
            exact .index reads
              ((Reads.name first).loosen (by decide))
        | element digits =>
            exact .index reads
              ((Reads.number (isNumeral_of_legible first)).loosen
                (by decide))
      have whole :=
        inductionHypothesis
          (fun other member =>
            legible other (List.mem_cons_of_mem _ member))
          selected
      simpa using whole

/-! ## Operators -/

theorem written_binary (operator : BinaryOperator)
    {before after : List Char} {left right : Tree}
    (first : Written Closes operator.level before left)
    (second : Written Closes operator.level.tighter after right) :
    Written Closes operator.level
      (before ++ (' ' :: (operator.symbol.toList ++ [' '])) ++ after)
      (.binary operator left right) := by
  obtain ⟨leftTokens, leftScans, leftReads⟩ := first
  obtain ⟨rightTokens, rightScans, rightReads⟩ := second
  have behind :=
    leftScans.append (scans_spaced (scans_operator operator))
      fun _ _ => startsWith_cons (Or.inl rfl)
  refine ⟨_, behind.append_any rightScans, ?_⟩
  simpa using Reads.binary leftReads rightReads

theorem written_assign (operator : AssignmentOperator)
    {before after : List Char} {target value : Tree}
    (assigned : Written Closes .unary before target)
    (source : Written Closes .assignment after value) :
    Written Closes .assignment
      (before ++ (' ' :: (operator.symbol.toList ++ [' '])) ++ after)
      (.assign operator target value) := by
  obtain ⟨targetTokens, targetScans, targetReads⟩ := assigned
  obtain ⟨valueTokens, valueScans, valueReads⟩ := source
  have behind :=
    targetScans.append (scans_spaced (scans_assignment operator))
      fun _ _ => startsWith_cons (Or.inl rfl)
  refine ⟨_, behind.append_any valueScans, ?_⟩
  simpa using Reads.assign targetReads valueReads

/-- A chain of operands with one operator groups to the left. -/
theorem written_chain {operator : BinaryOperator}
    (tight : Level.unary.rank ≤ operator.level.tighter.rank) :
    ∀ {rest : List (String × Tree)} {text : String} {tree : Tree},
      Written Closes operator.level text.toList tree →
      (∀ part ∈ rest, Written Closes .unary part.1.toList part.2) →
      Written Closes operator.level
        ((" " ++ operator.symbol ++ " ").intercalate
          (text :: rest.map Prod.fst)).toList
        ((rest.map Prod.snd).foldl (Tree.binary operator) tree)
  | [], text, tree, first, _ => by
      simpa using first
  | (other, otherTree) :: rest, text, tree, first, each => by
      have second := each _ (List.mem_cons_self ..)
      have both := written_binary operator first (second.loosen tight)
      have joined :
          (" " ++ operator.symbol ++ " ").intercalate
              (text :: other :: rest.map Prod.fst) =
            (" " ++ operator.symbol ++ " ").intercalate
              ((text ++ (" " ++ operator.symbol ++ " ") ++ other) ::
                rest.map Prod.fst) := by
        cases rest <;>
          simp [String.intercalate_cons_cons, String.append_assoc]
      rw [List.map_cons, List.map_cons, List.foldl_cons, joined]
      refine written_chain tight ?_ fun part member =>
        each part (List.mem_cons_of_mem _ member)
      simpa using both

end Shaderwright.Expression
