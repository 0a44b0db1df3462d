import Shaderwright.Formula.Token
import Shaderwright.Json.Reader
import Shaderwright.Text.Identifier

/-!
Reading the text of a formula as tokens. A scanner passes over something at
the front of a text and returns what is left; the tokens take the text that was
passed over. Comments and blanks separate tokens, and a documentation comment
is an attribute.
-/

namespace Shaderwright.Token

/-- Passes over something at the front of a text. -/
abbrev Scanner : Type :=
  List Char → Option (List Char)

/-- What a scanner that left the given rest has passed over. -/
def passed (text rest : List Char) : String :=
  String.ofList (text.take (text.length - rest.length))

/-! ## Blanks and comments -/

/-- Blanks are those of Unicode and the two marks that set the direction of
writing. -/
def isBlank (c : Char) : Bool :=
  Text.isWithin
    [ (0x09, 0x0D), (0x20, 0x20), (0x85, 0x85), (0xA0, 0xA0),
      (0x1680, 0x1680), (0x2000, 0x200A), (0x200E, 0x200F),
      (0x2028, 0x2029), (0x202F, 0x202F), (0x205F, 0x205F),
      (0x3000, 0x3000) ] c

/-- Passes over a comment between `/*` and `*/`. Such comments nest; `depth`
is the number of those that are open. -/
def scanBlockComment : Nat → Scanner
  | depth, '/' :: '*' :: rest => scanBlockComment (depth + 1) rest
  | 1, '*' :: '/' :: rest => some rest
  | depth, '*' :: '/' :: rest => scanBlockComment (depth - 1) rest
  | depth, _ :: rest => scanBlockComment depth rest
  | _, [] => none

/-- Splits a text before the end of its first line. A return in front of the
line feed belongs to neither part. -/
def splitLine : List Char → List Char × List Char
  | [] => ([], [])
  | '\n' :: rest => ([], '\n' :: rest)
  | '\r' :: '\n' :: rest => ([], '\n' :: rest)
  | c :: rest =>
      let (line, after) := splitLine rest
      (c :: line, after)

/-- Whether every return in the text stands in front of a line feed. -/
def hasPairedReturns : List Char → Bool
  | [] => true
  | '\r' :: '\n' :: rest => hasPairedReturns rest
  | '\r' :: _ => false
  | _ :: rest => hasPairedReturns rest

/-- The attribute that a documentation comment stands for. An inner one
documents what it stands in. -/
def documentation (isInner : Bool) (comment : List Char) :
    Option (List Token) :=
  if hasPairedReturns comment then
    some <|
      mark '#' false :: (if isInner then [mark '!' false] else []) ++
        [ group .brackets
            [ word "doc", mark '=' false,
              quoting (String.ofList comment) ] ]
  else
    none

/-- The text of a block comment without its three marks in front and the two
behind it. -/
def blockText (text rest : List Char) : List Char :=
  (text.take (text.length - rest.length - 2)).drop 3

/-- Reads a comment, and the attribute if it is a documentation comment. -/
def readComment (text : List Char) : Option (List Token × List Char) :=
  let block := fun (_ : Unit) => scanBlockComment 0 text
  match text with
  | '/' :: '/' :: '/' :: '/' :: rest => some ([], (splitLine rest).2)
  | '/' :: '/' :: '/' :: rest => do
      let (line, rest) := splitLine rest
      return (← documentation false line, rest)
  | '/' :: '/' :: '!' :: rest => do
      let (line, rest) := splitLine rest
      return (← documentation true line, rest)
  | '/' :: '/' :: rest => some ([], (splitLine rest).2)
  | '/' :: '*' :: '*' :: '/' :: rest => some ([], rest)
  | '/' :: '*' :: '*' :: '*' :: _ => do return ([], ← block ())
  | '/' :: '*' :: '*' :: _ => do
      let rest ← block ()
      return (← documentation false (blockText text rest), rest)
  | '/' :: '*' :: '!' :: _ => do
      let rest ← block ()
      return (← documentation true (blockText text rest), rest)
  | '/' :: '*' :: _ => do return ([], ← block ())
  | _ => none

def beginsComment : List Char → Bool
  | '/' :: '/' :: _ => true
  | '/' :: '*' :: _ => true
  | _ => false

/-! ## Words and marks -/

def scanIdentifier : Scanner
  | [] => none
  | c :: rest =>
      if Text.beginsIdentifier c then
        some (rest.dropWhile Text.continuesIdentifier)
      else
        none

/-- Passes over the suffix of a literal, if there is one. -/
def skipSuffix (text : List Char) : List Char :=
  (scanIdentifier text).getD text

/-- Passes over an identifier. One that is marked `r#` may be a keyword, but
none of those that begin paths. -/
def scanWord (text : List Char) : Option (List Char) :=
  match text with
  | 'r' :: '#' :: name => do
      let rest ← scanIdentifier name
      if ["_", "super", "self", "Self", "crate"].contains (passed name rest)
      then none
      else some rest
  | text => scanIdentifier text

/-- Whether the text begins like a literal with a letter in front, so that the
letter is no identifier. -/
def beginsLettered : List Char → Bool
  | 'r' :: '"' :: _ => true
  | 'r' :: '#' :: '"' :: _ => true
  | 'r' :: '#' :: '#' :: _ => true
  | 'b' :: '"' :: _ => true
  | 'b' :: '\'' :: _ => true
  | 'b' :: 'r' :: '"' :: _ => true
  | 'b' :: 'r' :: '#' :: _ => true
  | _ => false

def beginsMark (text : List Char) : Bool :=
  match text with
  | [] => false
  | c :: _ => "~!@#$%^&*-=+|;:,<.>/?'".toList.contains c && !beginsComment text

/-- Reads a mark. A quotation mark is one only in front of the name of a
lifetime or label. -/
def readMark (text : List Char) : Option (Token × List Char) :=
  match text with
  | '\'' :: rest => do
      let after ← scanWord rest
      if after.head? = some '\'' then none
      else some (mark '\'' true, rest)
  | c :: rest =>
      if beginsMark text then some (mark c (beginsMark rest), rest) else none
  | [] => none

/-! ## Quoted literals -/

/-- Where a scanner stands inside a quoted literal: behind a return, behind
the backslash of an escape, inside of an escape by number, or in the blanks
that an escaped end of line lets go. -/
inductive QuotedState where
  | plain
  | afterReturn
  | escape
  | highDigit
  | lowDigit
  | openBrace
  | scalar (digits value : Nat)
  | lineBlanks
  | lineReturn
deriving DecidableEq, Repr

def isScalar (value : Nat) : Bool :=
  decide (value < 0xD800 ∨ (0xE000 ≤ value ∧ value < 0x110000))

/-- The state behind a character that does not close the literal. Literals of
bytes are ASCII, and know no escapes by the number of a character. -/
def QuotedState.next? (isBytes : Bool) : QuotedState → Char →
    Option QuotedState
  | afterReturn, '\n' => some plain
  | escape, 'x' => some highDigit
  | escape, 'u' => if isBytes then none else some openBrace
  | escape, '\n' => some lineBlanks
  | escape, '\r' => some lineReturn
  | escape, c =>
      if ['n', 'r', 't', '\\', '\'', '"', '0'].contains c then
        some plain
      else
        none
  | highDigit, c => do
      let value ← Json.hexValue? c
      if isBytes || value < 8 then some lowDigit else none
  | lowDigit, c => do
      let _ ← Json.hexValue? c
      return plain
  | openBrace, '\x7b' => some (scalar 0 0)
  | scalar digits value, '\x7d' =>
      if digits ≠ 0 ∧ isScalar value then some plain else none
  | scalar digits value, '_' =>
      if digits ≠ 0 then some (scalar digits value) else none
  | scalar digits value, c => do
      let digit ← Json.hexValue? c
      if digits = 6 then none
      else some (scalar (digits + 1) (16 * value + digit))
  | lineReturn, '\n' => some lineBlanks
  | lineBlanks, ' ' => some lineBlanks
  | lineBlanks, '\t' => some lineBlanks
  | lineBlanks, '\n' => some lineBlanks
  | lineBlanks, '\r' => some lineReturn
  | plain, '\\' => some escape
  | lineBlanks, '\\' => some escape
  | plain, '\r' => some afterReturn
  | plain, c => if isBytes && c.toNat ≥ 0x80 then none else some plain
  | lineBlanks, c => if isBytes && c.toNat ≥ 0x80 then none else some plain
  | _, _ => none

/-- Whether a quotation mark closes the literal here. -/
def QuotedState.canClose : QuotedState → Bool
  | plain => true
  | lineBlanks => true
  | _ => false

/-- Passes over the rest of a quoted text and its suffix. -/
def scanQuoted (isBytes : Bool) : QuotedState → Scanner
  | _, [] => none
  | state, c :: rest =>
      if c = '"' ∧ state.canClose then
        some (skipSuffix rest)
      else
        match state.next? isBytes c with
        | some state => scanQuoted isBytes state rest
        | none => none

def scanEscape (isBytes : Bool) : QuotedState → Scanner
  | _, [] => none
  | state, c :: rest =>
      match state.next? isBytes c with
      | some .plain => some rest
      | some .lineBlanks => none
      | some .lineReturn => none
      | some state => scanEscape isBytes state rest
      | none => none

/-- Passes over the rest of a quoted character and its suffix. -/
def scanCharacter (isBytes : Bool) (text : List Char) :
    Option (List Char) := do
  let rest ← match text with
    | '\\' :: rest => scanEscape isBytes .escape rest
    | c :: rest => if isBytes && c.toNat ≥ 0x80 then none else some rest
    | [] => none
  match rest with
  | '\'' :: rest => some (skipSuffix rest)
  | _ => none

/-- Passes over the rest of a quoted text without escapes, which a quotation
mark with the given number of `#` closes. -/
def scanRaw (isBytes : Bool) (hashes : Nat) : Scanner
  | [] => none
  | '\r' :: '\n' :: rest => scanRaw isBytes hashes rest
  | '\r' :: _ => none
  | c :: rest =>
      if c = '"' ∧ rest.take hashes = List.replicate hashes '#' then
        some (skipSuffix (rest.drop hashes))
      else if isBytes && c.toNat ≥ 0x80 then
        none
      else
        scanRaw isBytes hashes rest

/-- Passes over a quoted text without escapes, behind its letters. At most 255
`#` open it. -/
def scanRawText (isBytes : Bool) (text : List Char) : Option (List Char) :=
  let hashes := (text.takeWhile (· == '#')).length
  match text.drop hashes with
  | '"' :: rest => if hashes ≤ 255 then scanRaw isBytes hashes rest else none
  | _ => none

def scanText : Scanner
  | '"' :: rest => scanQuoted false .plain rest
  | 'r' :: rest => scanRawText false rest
  | 'b' :: '"' :: rest => scanQuoted true .plain rest
  | 'b' :: 'r' :: rest => scanRawText true rest
  | 'b' :: '\'' :: rest => scanCharacter true rest
  | '\'' :: rest => scanCharacter false rest
  | _ => none

/-! ## Numbers -/

def isDigitOrGap (c : Char) : Bool :=
  c.isDigit || c == '_'

/-- Passes over the exponent of a number, behind its letter: at most one sign
and at least one digit. -/
def scanExponent (hasSign hasDigit : Bool) : Scanner
  | [] => if hasDigit then some [] else none
  | c :: rest =>
      if c.isDigit then
        scanExponent hasSign true rest
      else if c = '_' then
        scanExponent hasSign hasDigit rest
      else if hasDigit then
        some (c :: rest)
      else if (c = '+' ∨ c = '-') ∧ !hasSign then
        scanExponent true hasDigit rest
      else
        none

def beginsExponent : List Char → Bool
  | c :: _ => c == 'e' || c == 'E'
  | [] => false

/-- Passes over a number with a point or an exponent. The point belongs to
the number unless a second one or a name follows. -/
def scanDecimalDigits (text : List Char) : Option (List Char) :=
  let whole := text.dropWhile isDigitOrGap
  match whole with
  | '.' :: rest =>
      if rest.head?.any fun c => c == '.' || Text.beginsIdentifier c then
        none
      else
        let fraction := rest.dropWhile isDigitOrGap
        if beginsExponent fraction then
          some ((scanExponent false false (fraction.drop 1)).getD fraction)
        else
          some fraction
  | whole =>
      if beginsExponent whole then
        scanExponent false false (whole.drop 1)
      else
        none

/-- Passes over the digits of an integer; `isEmpty` says that there was none
so far. A digit that the base does not have spoils the number, a letter ends
it. -/
def scanDigits (base : Nat) (isEmpty : Bool) : Scanner
  | [] => if isEmpty then none else some []
  | c :: rest =>
      if c = '_' then
        if isEmpty ∧ base = 10 then none else scanDigits base isEmpty rest
      else
        match Json.hexValue? c with
        | some value =>
            if value < base then
              scanDigits base false rest
            else if c.isDigit || isEmpty then
              none
            else
              some (c :: rest)
        | none => if isEmpty then none else some (c :: rest)

def scanIntegerDigits : Scanner
  | '0' :: 'x' :: rest => scanDigits 16 true rest
  | '0' :: 'o' :: rest => scanDigits 8 true rest
  | '0' :: 'b' :: rest => scanDigits 2 true rest
  | text => scanDigits 10 true text

/-- Passes over the suffix of a number, behind which no name goes on. -/
def endNumber (text : List Char) : Option (List Char) :=
  let rest := skipSuffix text
  if rest.head?.any Text.continuesIdentifier then none else some rest

def readNumber (text : List Char) : Option (Token × List Char) :=
  if !text.head?.any Char.isDigit then
    none
  else
    match scanDecimalDigits text >>= endNumber with
    | some rest => some (literal .decimal (passed text rest), rest)
    | none => do
        let rest ← scanIntegerDigits text >>= endNumber
        return (literal .integer (passed text rest), rest)

/-! ## Tokens -/

def readLeaf (text : List Char) : Option (Token × List Char) :=
  match scanText text with
  | some rest => some (literal .text (passed text rest), rest)
  | none =>
      (readNumber text).orElse fun _ =>
        (readMark text).orElse fun _ => do
          if beginsLettered text then
            none
          else
            let rest ← scanWord text
            return (word (passed text rest), rest)

/-- The groups that are open around a place, innermost first, each with the
tokens in front of it in reverse. -/
abbrev Enclosing : Type :=
  List (Delimiter × List Token)

/-- The groups and tokens behind a closing bracket. -/
def close (delimiter : Delimiter) (tokens : List Token) :
    Enclosing → Option (Enclosing × List Token)
  | (opened, before) :: outer =>
      if opened = delimiter then
        some (outer, group delimiter tokens.reverse :: before)
      else
        none
  | [] => none

/-- Reads one step further: a blank, a comment, a bracket or a token. `tokens`
are those of the innermost group so far, in reverse. -/
def advance (enclosing : Enclosing) (tokens : List Token) :
    List Char → Option ((Enclosing × List Token) × List Char)
  | [] => none
  | '(' :: rest => some (((.parentheses, tokens) :: enclosing, []), rest)
  | '[' :: rest => some (((.brackets, tokens) :: enclosing, []), rest)
  | '\x7b' :: rest => some (((.braces, tokens) :: enclosing, []), rest)
  | ')' :: rest => do return (← close .parentheses tokens enclosing, rest)
  | ']' :: rest => do return (← close .brackets tokens enclosing, rest)
  | '\x7d' :: rest => do return (← close .braces tokens enclosing, rest)
  | c :: rest =>
      if isBlank c then
        some ((enclosing, tokens), rest)
      else if beginsComment (c :: rest) then do
        let (read, rest) ← readComment (c :: rest)
        return ((enclosing, read.reverse ++ tokens), rest)
      else do
        let (token, rest) ← readLeaf (c :: rest)
        return ((enclosing, token :: tokens), rest)

/-- Reads the tokens of a text whose brackets match. Every step has to leave
less than it found. -/
def readFrom (enclosing : Enclosing) (tokens : List Token)
    (text : List Char) : Option (List Token) :=
  match text, advance enclosing tokens text with
  | [], _ => if enclosing.isEmpty then some tokens.reverse else none
  | _ :: _, none => none
  | _ :: text, some ((enclosing, tokens), rest) =>
      if rest.length ≤ text.length then
        readFrom enclosing tokens rest
      else
        none
termination_by text.length
decreasing_by
  simp only [List.length_cons]
  omega

/-! ## Invisible groups -/

mutual

/-- Makes invisible groups inside of a group. -/
def withInvisibleInside : Token → Token
  | group delimiter tokens => group delimiter (withInvisible tokens)
  | token => token

/-- Makes an invisible group of every `__group!(...)`, which is how such a
group is written. -/
def withInvisible : List Token → List Token
  | [] => []
  | word "__group" :: mark '!' _ :: group .parentheses tokens :: rest =>
      group .invisible (withInvisible tokens) :: withInvisible rest
  | token :: rest => withInvisibleInside token :: withInvisible rest

end

/-- The tokens of a text, if it consists of tokens. A byte order mark in front
is let go. -/
def ofText? (text : String) : Option (List Token) :=
  let characters := match text.toList with
    | '\ufeff' :: rest => rest
    | characters => characters
  (readFrom [] [] characters).map withInvisible

end Shaderwright.Token
