import Mathlib
import Shaderwright.Tree

/-!
Tokens of expressions. Text is cut into words, numbers and marks, each of them
as long as it can be; blanks end a token and are dropped. `Scans` says of a
text that it gives its tokens whatever stands behind it, up to what could make
its last token longer.
-/

namespace Shaderwright.Expression

/-! ## Tokens -/

inductive BinaryOperator where
  | arithmetic (operator : ArithmeticOperator)
  | comparison (operator : ComparisonOperator)
deriving DecidableEq, Repr

/-- The operator in the target language. -/
def BinaryOperator.symbol : BinaryOperator → String
  | arithmetic operator => operator.symbol
  | comparison operator => operator.symbol

inductive Token where
  | word (text : String)
  | number (text : String)
  | operator (operator : BinaryOperator)
  | assignment (operator : AssignmentOperator)
  | openParenthesis
  | closeParenthesis
  | openBracket
  | closeBracket
  | comma
  | point
  | other (text : String)
deriving DecidableEq, Repr

def isBlank (c : Char) : Bool :=
  c == ' ' || c == '\t' || c == '\n' || c == '\r'

def isWordStart (c : Char) : Bool :=
  c.isAlpha || c == '_'

def isWordPart (c : Char) : Bool :=
  c.isAlphanum || c == '_'

/-- The token of a single character. -/
def mark? : Char → Option Token
  | '+' => some (.operator (.arithmetic .add))
  | '-' => some (.operator (.arithmetic .subtract))
  | '*' => some (.operator (.arithmetic .multiply))
  | '/' => some (.operator (.arithmetic .divide))
  | '<' => some (.operator (.comparison .less))
  | '>' => some (.operator (.comparison .greater))
  | '=' => some (.assignment .assign)
  | '(' => some .openParenthesis
  | ')' => some .closeParenthesis
  | '[' => some .openBracket
  | ']' => some .closeBracket
  | ',' => some .comma
  | '.' => some .point
  | c =>
      if c ∈ ['!', '%', '&', '|', '^', '~', '?', ':', ';'] then
        some (.other (String.singleton c))
      else
        none

/-- The token of two characters, the beginnings of comments included. -/
def mark₂? : Char → Char → Option Token
  | '+', '=' => some (.assignment .add)
  | '-', '=' => some (.assignment .subtract)
  | '*', '=' => some (.assignment .multiply)
  | '/', '=' => some (.assignment .divide)
  | '<', '=' => some (.operator (.comparison .lessEquals))
  | '>', '=' => some (.operator (.comparison .greaterEquals))
  | '=', '=' => some (.operator (.comparison .equals))
  | '!', '=' => some (.operator (.comparison .notEquals))
  | first, second =>
      if (first, second) ∈ [('+', '+'), ('-', '-'), ('&', '&'),
          ('|', '|'), ('^', '^'), ('<', '<'), ('>', '>'), ('/', '/'),
          ('/', '*')] then
        some (.other (String.ofList [first, second]))
      else
        none

/-- A character that begins no longer mark stands for itself. -/
theorem mark₂?_eq_none {first : Char}
    (alone : first ∉ "+-*/<>=!&|^".toList) (second : Char) :
    mark₂? first second = none := by
  simp at alone
  simp [mark₂?, alone]

/-! ## Scanning -/

/-- The token that is being read. -/
inductive Pending where
  | nothing
  | word (letters : List Char)
  | number (digits : List Char)
  | mark (first : Char) (token : Token)
  | complete (token : Token)

namespace Pending

/-- The token as far as it has been read. -/
def tokens : Pending → List Token
  | nothing => []
  | word letters => [.word (String.ofList letters)]
  | number digits => [.number (String.ofList digits)]
  | mark _ token => [token]
  | complete token => [token]

/-- The token with a further character, if that belongs to it. -/
def extend? : Pending → Char → Option Pending
  | nothing, _ => none
  | word letters, c =>
      if isWordPart c then some (word (letters ++ [c])) else none
  | number digits, c =>
      if isWordPart c || c == '.' then
        some (number (digits ++ [c]))
      else
        none
  | mark first _, c =>
      if first == '.' && c.isDigit then
        some (number [first, c])
      else
        (mark₂? first c).map complete
  | complete _, _ => none

@[simp]
theorem extend?_nothing (c : Char) : nothing.extend? c = none := by
  rfl

@[simp]
theorem extend?_word (letters : List Char) (c : Char) :
    (word letters).extend? c =
      if isWordPart c then some (word (letters ++ [c])) else none := by
  rfl

@[simp]
theorem extend?_number (digits : List Char) (c : Char) :
    (number digits).extend? c =
      if isWordPart c || c == '.' then
        some (number (digits ++ [c]))
      else
        none := by
  rfl

@[simp]
theorem extend?_mark (first : Char) (token : Token) (c : Char) :
    (mark first token).extend? c =
      if first == '.' && c.isDigit then
        some (number [first, c])
      else
        (mark₂? first c).map complete := by
  rfl

/-- What begins with a character. -/
def begin? (c : Char) : Option Pending :=
  if isBlank c then
    some nothing
  else if isWordStart c then
    some (word [c])
  else if c.isDigit then
    some (number [c])
  else
    (mark? c).map (mark c)

end Pending

/-- The tokens of a text behind a token that is being read. -/
def scan : Pending → List Char → Option (List Token)
  | pending, [] => some pending.tokens
  | pending, c :: rest =>
      match pending.extend? c with
      | some longer => scan longer rest
      | none =>
          match Pending.begin? c with
          | some next => (scan next rest).map (pending.tokens ++ ·)
          | none => none

theorem scan_nil (pending : Pending) :
    scan pending [] = some pending.tokens := by
  rfl

theorem scan_cons (pending : Pending) (c : Char) (rest : List Char) :
    scan pending (c :: rest) =
      match pending.extend? c with
      | some longer => scan longer rest
      | none =>
          match Pending.begin? c with
          | some next => (scan next rest).map (pending.tokens ++ ·)
          | none => none := by
  rfl

/-- The tokens of a text, unless it holds a character of no token. -/
def tokens? (text : String) : Option (List Token) :=
  scan .nothing text.toList

/-! ## Texts and their tokens -/

/-- Whether a text begins with a character that has a property, if it begins
at all. -/
def StartsWith (safe : Char → Prop) (text : List Char) : Prop :=
  ∀ c, text.head? = some c → safe c

/-- A text that gives its tokens before any text that starts safely. -/
def Scans (safe : Char → Prop) (text : List Char)
    (tokens : List Token) : Prop :=
  ∀ rest, StartsWith safe rest →
    scan .nothing (text ++ rest) =
      (scan .nothing rest).map (tokens ++ ·)

theorem map_nil_append (result : Option (List Token)) :
    result.map ([] ++ ·) = result := by
  cases result <;> rfl

theorem map_append_append (first second : List Token)
    (result : Option (List Token)) :
    (result.map (second ++ ·)).map (first ++ ·) =
      result.map ((first ++ second) ++ ·) := by
  cases result <;> simp

/-- A token that cannot become longer is complete. -/
theorem scan_of_stops (pending : Pending) {rest : List Char}
    (stops : StartsWith (fun c => pending.extend? c = none) rest) :
    scan pending rest =
      (scan .nothing rest).map (pending.tokens ++ ·) := by
  cases rest with
  | nil =>
      simp [scan_nil, Pending.tokens]
  | cons c rest =>
      have stopped : pending.extend? c = none := stops c rfl
      have silent : Pending.nothing.extend? c = none := rfl
      have empty : Pending.nothing.tokens = [] := rfl
      rw [scan_cons, scan_cons, stopped, silent, empty]
      cases Pending.begin? c with
      | none =>
          rfl
      | some next =>
          exact congrArg (Option.map _) (map_nil_append _).symm

theorem startsWith_cons {safe : Char → Prop} {c : Char} {rest : List Char}
    (holds : safe c) : StartsWith safe (c :: rest) := by
  intro first head
  cases head
  exact holds

namespace Scans

variable {safe safe' : Char → Prop} {first second text : List Char}
  {before after tokens : List Token}

theorem nil : Scans safe [] [] := by
  intro rest _
  exact (map_nil_append _).symm

/-- Texts that follow each other give their tokens one after the other. -/
theorem append (scans : Scans safe first before)
    (scans' : Scans safe' second after)
    (starts : ∀ rest, StartsWith safe' rest →
      StartsWith safe (second ++ rest)) :
    Scans safe' (first ++ second) (before ++ after) := by
  intro rest startsRest
  rw [List.append_assoc, scans _ (starts rest startsRest),
    scans' rest startsRest, map_append_append]

/-- After some texts anything is safe. -/
theorem append_any (scans : Scans (fun _ => True) first before)
    (scans' : Scans safe' second after) :
    Scans safe' (first ++ second) (before ++ after) :=
  scans.append scans' fun _ _ _ _ => trivial

/-- What is safe behind a text may be restricted. -/
theorem mono (scans : Scans safe text tokens)
    (stronger : ∀ c, safe' c → safe c) : Scans safe' text tokens := by
  intro rest starts
  exact scans rest fun c head => stronger c (starts c head)

theorem tokens?_eq {written : String}
    (scans : Scans safe written.toList tokens) :
    tokens? written = some tokens := by
  have whole := scans [] (by
    intro c impossible
    cases impossible)
  rw [List.append_nil] at whole
  simpa [tokens?, scan_nil, Pending.tokens] using whole

end Scans

/-! ## Words -/

/-- Whether a text is a word: a letter or an underscore, then letters, digits
and underscores. -/
def isIdentifier (text : String) : Bool :=
  match text.toList with
  | [] => false
  | first :: rest => isWordStart first && rest.all isWordPart

theorem isBlank_of_isWordStart {c : Char} (starts : isWordStart c = true) :
    isBlank c = false := by
  cases blank : isBlank c with
  | false =>
      rfl
  | true =>
      simp only [isBlank, Bool.or_eq_true, beq_iff_eq] at blank
      rcases blank with ((rfl | rfl) | rfl) | rfl <;>
        exact absurd starts (by decide)

private theorem scan_letters :
    ∀ {letters : List Char}, letters.all isWordPart = true →
      ∀ known rest : List Char,
        scan (.word known) (letters ++ rest) =
          scan (.word (known ++ letters)) rest
  | [], _, known, rest => by
      simp
  | letter :: letters, parts, known, rest => by
      simp only [List.all_cons, Bool.and_eq_true] at parts
      rw [List.cons_append, scan_cons, Pending.extend?_word,
        if_pos parts.1]
      dsimp only
      rw [scan_letters parts.2]
      simp

/-- A word ends before anything that is not part of a word. -/
theorem scans_word {text : String}
    (identifier : isIdentifier text = true) :
    Scans (fun c => isWordPart c = false) text.toList [.word text] := by
  intro rest starts
  unfold isIdentifier at identifier
  cases letters : text.toList with
  | nil =>
      rw [letters] at identifier
      cases identifier
  | cons first others =>
      rw [letters] at identifier
      simp only [Bool.and_eq_true] at identifier
      obtain ⟨start, parts⟩ := identifier
      have begun : Pending.begin? first = some (.word [first]) := by
        simp [Pending.begin?, isBlank_of_isWordStart start, start]
      have stops :
          StartsWith
            (fun c => (Pending.word (first :: others)).extend? c = none)
            rest := by
        intro c head
        simp [starts c head]
      have whole : String.ofList (first :: others) = text := by
        rw [← letters, String.ofList_toList]
      rw [List.cons_append, scan_cons, Pending.extend?_nothing]
      dsimp only
      rw [begun]
      dsimp only
      rw [scan_letters parts, List.singleton_append,
        scan_of_stops _ stops, Pending.tokens, Pending.tokens, whole,
        map_nil_append]

/-! ## Numbers -/

theorem isWordStart_of_isDigit {c : Char} (digit : c.isDigit = true) :
    isWordStart c = false := by
  cases starts : isWordStart c with
  | false =>
      rfl
  | true =>
      simp only [isWordStart, Char.isAlpha, Char.isUpper, Char.isLower,
        Char.isDigit, Bool.or_eq_true, Bool.and_eq_true, beq_iff_eq,
        decide_eq_true_eq, UInt32.le_iff_toNat_le] at starts digit
      have capital : 'A'.val.toNat = 65 := rfl
      have small : 'a'.val.toNat = 97 := rfl
      have nine : '9'.val.toNat = 57 := rfl
      rcases starts with (upper | lower) | rfl
      · omega
      · omega
      · exact absurd digit.2 (by decide)

theorem isBlank_of_isDigit {c : Char} (digit : c.isDigit = true) :
    isBlank c = false := by
  cases blank : isBlank c with
  | false =>
      rfl
  | true =>
      simp only [isBlank, Bool.or_eq_true, beq_iff_eq] at blank
      rcases blank with ((rfl | rfl) | rfl) | rfl <;>
        exact absurd digit (by decide)

/-- What belongs to a number behind its first digit. -/
def isNumberPart (c : Char) : Bool :=
  c.isDigit || c == '.'

private theorem scan_digits :
    ∀ {digits : List Char}, digits.all isNumberPart = true →
      ∀ known rest : List Char,
        scan (.number known) (digits ++ rest) =
          scan (.number (known ++ digits)) rest
  | [], _, known, rest => by
      simp
  | digit :: digits, parts, known, rest => by
      simp only [List.all_cons, Bool.and_eq_true] at parts
      have extends_ : (isWordPart digit || digit == '.') = true := by
        have part := parts.1
        simp only [isNumberPart, Bool.or_eq_true] at part
        rcases part with number | point
        · simp [isWordPart, Char.isAlphanum, number]
        · simp [point]
      rw [List.cons_append, scan_cons, Pending.extend?_number,
        if_pos extends_]
      dsimp only
      rw [scan_digits parts.2]
      simp

/-- A number ends before anything that is neither part of a word nor a
point. -/
theorem scans_number {first : Char} {others : List Char}
    (digit : first.isDigit = true)
    (parts : others.all isNumberPart = true) :
    Scans (fun c => isWordPart c = false ∧ c ≠ '.') (first :: others)
      [.number (String.ofList (first :: others))] := by
  intro rest starts
  have begun : Pending.begin? first = some (.number [first]) := by
    simp [Pending.begin?, isBlank_of_isDigit digit,
      isWordStart_of_isDigit digit, digit]
  have stops :
      StartsWith
        (fun c => (Pending.number (first :: others)).extend? c = none)
        rest := by
    intro c head
    have safe := starts c head
    simp [safe.1, safe.2]
  rw [List.cons_append, scan_cons, Pending.extend?_nothing]
  dsimp only
  rw [begun]
  dsimp only
  rw [scan_digits parts, List.singleton_append, scan_of_stops _ stops,
    Pending.tokens, Pending.tokens, map_nil_append]

/-! ## Marks -/

theorem scans_blank : Scans (fun _ => True) [' '] [] := by
  intro rest _
  rfl

theorem scans_mark {c : Char} {token : Token}
    (begun : Pending.begin? c = some (.mark c token)) :
    Scans (fun next => (Pending.mark c token).extend? next = none) [c]
      [token] := by
  intro rest starts
  rw [List.singleton_append, scan_cons, Pending.extend?_nothing]
  dsimp only
  rw [begun]
  dsimp only
  rw [scan_of_stops _ starts, Pending.tokens, Pending.tokens,
    map_nil_append]

theorem scans_mark₂ {first second : Char} {begins token : Token}
    (begun : Pending.begin? first = some (.mark first begins))
    (joined : (Pending.mark first begins).extend? second =
      some (.complete token)) :
    Scans (fun _ => True) [first, second] [token] := by
  intro rest _
  have stops :
      StartsWith (fun c => (Pending.complete token).extend? c = none)
        rest := by
    intro c _
    rfl
  rw [List.cons_append, List.singleton_append, scan_cons,
    Pending.extend?_nothing]
  dsimp only
  rw [begun]
  dsimp only
  rw [scan_cons, joined]
  dsimp only
  rw [scan_of_stops _ stops, Pending.tokens, Pending.tokens,
    map_nil_append]

theorem scans_single {c : Char} {token : Token}
    (begun : Pending.begin? c = some (.mark c token))
    (single : ∀ next, (Pending.mark c token).extend? next = none) :
    Scans (fun _ => True) [c] [token] :=
  (scans_mark begun).mono fun next _ => single next

section Symbols

private theorem scans_symbol {c : Char} {token : Token}
    (begun : Pending.begin? c = some (.mark c token))
    (ends : (Pending.mark c token).extend? ' ' = none) :
    Scans (fun c => c = ' ') [c] [token] :=
  (scans_mark begun).mono fun _ blank => blank ▸ ends

private theorem scans_symbol₂ {first second : Char} {begins token : Token}
    (begun : Pending.begin? first = some (.mark first begins))
    (joined : (Pending.mark first begins).extend? second =
      some (.complete token)) :
    Scans (fun c => c = ' ') [first, second] [token] :=
  (scans_mark₂ begun joined).mono fun _ _ => trivial

theorem scans_operator (operator : BinaryOperator) :
    Scans (fun c => c = ' ') operator.symbol.toList
      [.operator operator] := by
  rcases operator with operator | operator
  · cases operator <;> exact scans_symbol rfl rfl
  · cases operator <;> first
      | exact scans_symbol rfl rfl
      | exact scans_symbol₂ rfl rfl

theorem scans_assignment (operator : AssignmentOperator) :
    Scans (fun c => c = ' ') operator.symbol.toList
      [.assignment operator] := by
  cases operator <;> first
    | exact scans_symbol rfl rfl
    | exact scans_symbol₂ rfl rfl

theorem scans_spaced {symbol : List Char} {tokens : List Token}
    (scans : Scans (fun c => c = ' ') symbol tokens) :
    Scans (fun _ => True) (' ' :: (symbol ++ [' '])) tokens := by
  have behind := scans.append scans_blank fun _ _ => startsWith_cons rfl
  have spaced := scans_blank.append_any behind
  simpa using spaced

end Symbols

end Shaderwright.Expression
