import Shaderwright.Formula.Token

/-!
Reading token lists. A reader takes tokens off the front and keeps them as the
grammar spells them: every operator stands for itself there, however closely it
was written to its neighbours. Invisible groups are opened where something else
than such a group is wanted.
-/

namespace Shaderwright.Formula

/-- Where a reader stands: the tokens ahead, and those it has taken, in
reverse. -/
structure Cursor where
  ahead : List Token
  taken : List Token

/-- Reads something from the tokens ahead, or finds that it is not there. -/
abbrev TokenReader : Type → Type :=
  StateT Cursor Option

/-! ## Looking ahead -/

/-- A question about the tokens ahead. -/
abbrev Ahead : Type :=
  List Token → Bool

/-- Whether an operator comes next. Further marks may follow it. -/
def beginsOperator : List Char → Ahead
  | [], _ => true
  | sign :: more, tokens =>
      match Token.opened tokens with
      | .mark first isJoined :: rest =>
          first == sign &&
            (more.isEmpty || isJoined && beginsOperator more rest)
      | _ => false

def sign (spelling : String) : Ahead :=
  beginsOperator spelling.toList

def keyword (text : String) : Ahead := fun tokens =>
  match Token.opened tokens with
  | .word first :: _ => first == text
  | _ => false

def anyKeyword (texts : List String) : Ahead := fun tokens =>
  texts.any fun text => keyword text tokens

def reservedWords : List String :=
  [ "_", "abstract", "as", "become", "box", "break", "const", "continue",
    "crate", "do", "else", "enum", "extern", "false", "final", "fn", "for",
    "if", "impl", "in", "let", "loop", "macro", "match", "mod", "move", "mut",
    "override", "priv", "pub", "ref", "return", "Self", "self", "static",
    "struct", "super", "trait", "true", "type", "typeof", "unsafe", "unsized",
    "use", "virtual", "where", "while", "yield" ]

def word : Ahead := fun tokens =>
  match Token.opened tokens with
  | .word _ :: _ => true
  | _ => false

def identifier : Ahead := fun tokens =>
  match Token.opened tokens with
  | .word text :: _ => !reservedWords.contains text
  | _ => false

def lifetime : Ahead := fun tokens =>
  match Token.opened tokens with
  | .mark '\'' true :: rest => word rest
  | _ => false

/-- Whether a literal comes next; one of a number may have a minus in
front. -/
def literal : Ahead := fun tokens =>
  match Token.opened tokens with
  | .literal _ _ :: _ => true
  | .word text :: _ => text == "true" || text == "false"
  | .mark '-' _ :: rest =>
      match Token.opened rest with
      | .literal kind _ :: _ => kind != .text
      | _ => false
  | _ => false

def literalOf (wanted : LiteralKind) : Ahead := fun tokens =>
  match Token.opened tokens with
  | .literal kind _ :: _ => kind == wanted
  | _ => false

def bracketed (delimiter : Delimiter) : Ahead := fun tokens =>
  match Token.opened tokens with
  | .group found _ :: _ => found == delimiter
  | _ => false

def invisible : Ahead
  | .group .invisible _ :: _ => true
  | _ => false

def finished : Ahead :=
  List.isEmpty

/-- The tokens behind the first one. A lifetime counts as one token. -/
def behind? : List Token → Option (List Token)
  | [] => none
  | .mark '\'' true :: .word _ :: rest => some rest
  | _ :: rest => some rest

/-- Asks about what is behind the first token: the first of an invisible
group, or that group as a whole. -/
def second (question : Ahead) : Ahead := fun tokens =>
  let inside := match tokens with
    | .group .invisible inner :: _ => (behind? inner).any question
    | _ => false
  inside || (behind? tokens).any question

/-- Asks about what is behind the first two tokens. -/
def third (question : Ahead) : Ahead := fun tokens =>
  let further := fun tokens => (behind? tokens >>= behind?).any question
  let inside := match tokens with
    | .group .invisible inner :: _ => further inner
    | _ => false
  inside || further tokens

namespace TokenReader

def ask (question : Ahead) : TokenReader Bool := do
  return question (← get).ahead

/-- Goes on only if the question is answered with yes. -/
def demand (question : Ahead) : TokenReader Unit := do
  if ← ask question then pure () else failure

def ahead : TokenReader (List Token) := do
  return (← get).ahead

/-! ## Taking tokens -/

/-- Keeps tokens as taken. -/
def keep (tokens : List Token) : TokenReader Unit :=
  modify fun cursor => { cursor with taken := tokens.reverse ++ cursor.taken }

/-- Removes the next token that is not an invisible group. -/
def next : TokenReader Token := do
  let cursor ← get
  match Token.opened cursor.ahead with
  | token :: rest =>
      set { cursor with ahead := rest }
      return token
  | [] => failure

def takeToken : TokenReader Token := do
  let token ← next
  keep [token]
  return token

/-- Removes as many tokens as the list is long. -/
def removeMarks : List Char → TokenReader Unit
  | [] => pure ()
  | _ :: more => do
      let _ ← next
      removeMarks more

/-- Takes an operator and keeps it in another spelling. -/
def takeSignAs (spelling kept : String) : TokenReader Unit := do
  demand (sign spelling)
  removeMarks spelling.toList
  keep (Token.operator kept.toList)

def takeSign (spelling : String) : TokenReader Unit :=
  takeSignAs spelling spelling

def trySign (spelling : String) : TokenReader Bool := do
  if ← ask (sign spelling) then
    takeSign spelling
    return true
  else
    return false

def takeWord : TokenReader String := do
  match ← takeToken with
  | .word text => return text
  | _ => failure

def takeKeyword (text : String) : TokenReader Unit := do
  demand (keyword text)
  let _ ← takeWord

def tryKeyword (text : String) : TokenReader Bool := do
  if ← ask (keyword text) then
    let _ ← takeWord
    return true
  else
    return false

def takeLifetime : TokenReader Unit := do
  demand lifetime
  let _ ← takeToken
  let _ ← takeWord

def tryLifetime : TokenReader Unit := do
  if ← ask lifetime then takeLifetime

/-- Takes a literal with the minus in front of it, if there is one. -/
def takeLiteral : TokenReader Token := do
  demand literal
  let _ ← trySign "-"
  takeToken

def takeRest : TokenReader Unit := do
  let cursor ← get
  set { cursor with ahead := [] }
  keep cursor.ahead

/-- Reads the inside of a group as a whole, and keeps the group with what was
kept inside. -/
def insideOf {α : Type} (delimiter : Delimiter) (tokens : List Token)
    (reader : TokenReader α) : TokenReader α := do
  match reader ⟨tokens, []⟩ with
  | some (value, ⟨[], taken⟩) =>
      keep [.group delimiter taken.reverse]
      return value
  | _ => failure

def inside {α : Type} (delimiter : Delimiter) (reader : TokenReader α) :
    TokenReader α := do
  match ← next with
  | .group found tokens =>
      if found = delimiter then insideOf delimiter tokens reader else failure
  | _ => failure

def insideInvisible {α : Type} (reader : TokenReader α) : TokenReader α := do
  let cursor ← get
  match cursor.ahead with
  | .group .invisible tokens :: rest =>
      set { cursor with ahead := rest }
      insideOf .invisible tokens reader
  | _ => failure

/-- What was read, with the tokens that were kept for it. -/
def spelled {α : Type} (reader : TokenReader α) :
    TokenReader (α × List Token) := do
  let before ← get
  set { before with taken := [] }
  let value ← reader
  let after ← get
  set { after with taken := after.taken ++ before.taken }
  return (value, after.taken.reverse)

/-! ## Repetition -/

/-- Repeats a step as long as it goes on, at most `bound` times. -/
def iterate {α : Type} (step : α → TokenReader (Option α)) :
    Nat → α → TokenReader α
  | 0, _ => failure
  | bound + 1, value => do
      match ← step value with
      | some value => iterate step bound value
      | none => return value

/-- Repeats a reader as long as the question is answered with yes. -/
def whileAhead (bound : Nat) (question : Ahead) (reader : TokenReader Unit) :
    TokenReader Unit :=
  iterate
    (fun _ => do
      if ← ask question then
        reader
        return some ()
      else
        return none)
    bound ()

/-- Reads elements up to where the question is answered with yes. A separator
stands between any two, and may stand behind the last one. -/
def separatedUntil {α : Type} (bound : Nat) (stop : Ahead)
    (separator : String) (element : TokenReader α) : TokenReader (List α) := do
  let reversed ← iterate
    (fun (values, isComplete) => do
      if isComplete then
        return none
      else if ← ask stop then
        return some (values, true)
      else
        let value ← element
        if ← ask stop then
          return some (value :: values, true)
        else
          takeSign separator
          return some (value :: values, false))
    bound ([], false)
  return reversed.1.reverse

def listed {α : Type} (bound : Nat) (element : TokenReader α) :
    TokenReader (List α) :=
  separatedUntil bound finished "," element

end TokenReader

end Shaderwright.Formula
