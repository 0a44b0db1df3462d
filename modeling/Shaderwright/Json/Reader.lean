/-!
Reading JSON text in one pass, by the shape that is wanted. A reader takes the
characters that are left and returns what it read with the rest; the first
fault it meets ends the reading, and nothing behind it is looked at.
-/

namespace Shaderwright.Json

-- Powers are those of `Nat` itself, whatever monoids are in scope.
attribute [local instance (high)] instPowNat

/-- Why a text cannot be read: it ends too early, it is not JSON, or it is
JSON of another shape than the wanted one. -/
inductive Fault where
  | endOfText
  | malformed
  | shape
deriving DecidableEq, Repr

/-- Reads a value off the front of a text. -/
abbrev Reader (α : Type) : Type :=
  List Char → Except Fault (α × List Char)

/-! ## Blanks, words and punctuation -/

def isBlank (c : Char) : Bool :=
  c == ' ' || c == '\n' || c == '\t' || c == '\r'

def skipBlanks (text : List Char) : List Char :=
  text.dropWhile isBlank

/-- The fault of meeting the given text where something else has to be. -/
def unexpected : List Char → Fault
  | [] => .endOfText
  | _ => .malformed

/-- Reads the rest of a word, character by character. -/
def readWord : List Char → Reader Unit
  | [], text => .ok ((), text)
  | c :: word, d :: text =>
      if c = d then readWord word text else .error .malformed
  | _ :: _, [] => .error .endOfText

def readMark (mark : Char) : Reader Unit := fun text =>
  match skipBlanks text with
  | [] => .error .endOfText
  | c :: rest => if c = mark then .ok ((), rest) else .error .malformed

/-- Accepts a text that holds nothing but blanks. -/
def finish (text : List Char) : Except Fault Unit :=
  if (skipBlanks text).isEmpty then .ok () else .error .malformed

/-! ## Strings -/

def hexValue? (c : Char) : Option Nat :=
  if '0' ≤ c ∧ c ≤ '9' then
    some (c.toNat - '0'.toNat)
  else if 'a' ≤ c ∧ c ≤ 'f' then
    some (c.toNat - 'a'.toNat + 10)
  else if 'A' ≤ c ∧ c ≤ 'F' then
    some (c.toNat - 'A'.toNat + 10)
  else
    none

def hexUnit? (a b c d : Char) : Option Nat := do
  let a ← hexValue? a
  let b ← hexValue? b
  let c ← hexValue? c
  let d ← hexValue? d
  return 4096 * a + 256 * b + 16 * c + d

/-- The fault of an escape that is not followed by four digits: the text ends
too early if fewer than four bytes of it are left. -/
def hexFault (text : List Char) : Fault :=
  if (String.ofList text).utf8ByteSize < 4 then .endOfText else .malformed

def escaped? : Char → Option Char
  | '"' => some '"'
  | '\\' => some '\\'
  | '/' => some '/'
  | 'b' => some '\x08'
  | 'f' => some '\x0c'
  | 'n' => some '\n'
  | 'r' => some '\r'
  | 't' => some '\t'
  | _ => none

def isLeadingSurrogate (unit : Nat) : Bool :=
  decide (0xD800 ≤ unit ∧ unit ≤ 0xDBFF)

def isTrailingSurrogate (unit : Nat) : Bool :=
  decide (0xDC00 ≤ unit ∧ unit ≤ 0xDFFF)

def surrogatePair (leading trailing : Nat) : Char :=
  Char.ofNat (0x10000 + (leading - 0xD800) * 0x400 + (trailing - 0xDC00))

/-- The fault of a leading surrogate without its partner. -/
def pairFault : List Char → Fault
  | [] => .endOfText
  | '\\' :: [] => .endOfText
  | '\\' :: 'u' :: rest => hexFault rest
  | _ => .malformed

/-- Puts a character in front of what was read. -/
def prepend (c : Char) :
    Except Fault (List Char × List Char) → Except Fault (List Char × List Char)
  | .ok (text, rest) => .ok (c :: text, rest)
  | .error fault => .error fault

/-- Reads a string behind its opening quotation mark. Control characters,
unknown escapes and surrogates without a partner are malformed. -/
def readStringBody : Reader (List Char)
  | [] => .error .endOfText
  | '"' :: rest => .ok ([], rest)
  | '\\' :: 'u' :: a :: b :: c :: d :: rest =>
      match hexUnit? a b c d with
      | none => .error .malformed
      | some unit =>
          if isTrailingSurrogate unit then
            .error .malformed
          else if isLeadingSurrogate unit then
            match rest with
            | '\\' :: 'u' :: e :: f :: g :: h :: rest =>
                match hexUnit? e f g h with
                | none => .error .malformed
                | some trailing =>
                    if isTrailingSurrogate trailing then
                      prepend (surrogatePair unit trailing)
                        (readStringBody rest)
                    else
                      .error .malformed
            | rest => .error (pairFault rest)
          else
            prepend (Char.ofNat unit) (readStringBody rest)
  | '\\' :: 'u' :: rest => .error (hexFault rest)
  | '\\' :: c :: rest =>
      match escaped? c with
      | none => .error .malformed
      | some c => prepend c (readStringBody rest)
  | '\\' :: [] => .error .endOfText
  | c :: rest =>
      if c.toNat < 0x20 then
        .error .malformed
      else
        prepend c (readStringBody rest)

/-- Passes over a string behind its opening quotation mark. Surrogates are not
looked at, because no string is made of them. -/
def skipStringBody : List Char → Except Fault (List Char)
  | [] => .error .endOfText
  | '"' :: rest => .ok rest
  | '\\' :: 'u' :: a :: b :: c :: d :: rest =>
      match hexUnit? a b c d with
      | none => .error .malformed
      | some _ => skipStringBody rest
  | '\\' :: 'u' :: rest => .error (hexFault rest)
  | '\\' :: c :: rest =>
      match escaped? c with
      | none => .error .malformed
      | some _ => skipStringBody rest
  | '\\' :: [] => .error .endOfText
  | c :: rest =>
      if c.toNat < 0x20 then .error .malformed else skipStringBody rest

/-! ## Numbers -/

def digitsValue (digits : List Char) : Nat :=
  digits.foldl (fun n c => 10 * n + (c.toNat - '0'.toNat)) 0

def spanDigits (text : List Char) : List Char × List Char :=
  text.span Char.isDigit

/-- Whether `digits * 10 ^ exponent` rounds to a finite double: it is below
`2 ^ 1024 - 2 ^ 970`. Exponents are bounded first, so that no huge power is
computed. -/
def isInRange (digits : Nat) (exponent : Int) : Bool :=
  if digits = 0 then
    true
  else if exponent > 308 then
    false
  else if exponent + Nat.log2 digits < 0 then
    true
  else
    decide (digits * 10 ^ exponent.toNat <
      (2 ^ (1024 : Nat) - 2 ^ (970 : Nat)) * 10 ^ (-exponent).toNat)

def readExponent (text : List Char) : Except Fault (Int × List Char) :=
  let (negative, text) :=
    match text with
    | '+' :: rest => (false, rest)
    | '-' :: rest => (true, rest)
    | _ => (false, text)
  let (digits, rest) := spanDigits text
  if digits.isEmpty then
    .error (unexpected text)
  else
    let exponent : Int := digitsValue digits
    .ok (if negative then -exponent else exponent, rest)

/-- Reads a number behind its sign, as digits and a decimal exponent; the
exponent is absent where the number is written as a plain integer. -/
def readMagnitude (text : List Char) :
    Except Fault ((Nat × Option Int) × List Char) := do
  let (digits, text) := spanDigits text
  if digits.isEmpty then
    throw (unexpected text)
  if digits.head? = some '0' ∧ 1 < digits.length then
    throw .malformed
  let (places, text) ← match text with
    | '.' :: rest =>
        let (places, rest) := spanDigits rest
        if places.isEmpty then
          throw (unexpected rest)
        pure (some places, rest)
    | _ => pure (none, text)
  let (exponent, text) ← match text with
    | 'e' :: rest => do
        let (exponent, rest) ← readExponent rest
        pure (some exponent, rest)
    | 'E' :: rest => do
        let (exponent, rest) ← readExponent rest
        pure (some exponent, rest)
    | _ => pure (none, text)
  let written := digits ++ places.getD []
  if places.isNone && exponent.isNone then
    return ((digitsValue written, none), text)
  return ((digitsValue written,
    some (exponent.getD 0 - (places.getD []).length)), text)

/-- Reads a number and returns it if it is a natural number written plainly. A
number too large for a double is malformed. -/
def readNumber (text : List Char) :
    Except Fault (Option Nat × List Char) := do
  let (negative, text) :=
    match text with
    | '-' :: rest => (true, rest)
    | _ => (false, text)
  let ((digits, exponent), rest) ← readMagnitude text
  if !isInRange digits (exponent.getD 0) then
    throw .malformed
  if negative || exponent.isSome then
    return (none, rest)
  return (some digits, rest)

def skipDigits (text : List Char) : Except Fault (List Char) :=
  let (digits, rest) := spanDigits text
  if digits.isEmpty then .error .malformed else .ok rest

/-- Passes over a number behind its sign. A number that nobody wants may be of
any size, and one that is cut short is malformed. -/
def skipMagnitude (text : List Char) : Except Fault (List Char) := do
  let (digits, text) := spanDigits text
  if digits.isEmpty || digits.head? = some '0' && digits.length != 1 then
    throw .malformed
  let text ← match text with
    | '.' :: rest => skipDigits rest
    | _ => pure text
  let skipSigned := fun (rest : List Char) =>
    match rest with
    | '+' :: rest => skipDigits rest
    | '-' :: rest => skipDigits rest
    | rest => skipDigits rest
  match text with
  | 'e' :: rest => skipSigned rest
  | 'E' :: rest => skipSigned rest
  | _ => pure text

/-! ## Values that nobody wants -/

/-- Passes over a word whose first letter was read. -/
def skipWord (word text : List Char) : Except Fault (List Char) := do
  let ((), rest) ← readWord word text
  return rest

mutual

/-- Passes over one value. Twice the length of the text is fuel enough, because
of any two steps one reads a character. -/
def skipValue : Nat → List Char → Except Fault (List Char)
  | 0, _ => .error .malformed
  | fuel + 1, text =>
      match skipBlanks text with
      | [] => .error .endOfText
      | 'n' :: rest => skipWord "ull".toList rest
      | 't' :: rest => skipWord "rue".toList rest
      | 'f' :: rest => skipWord "alse".toList rest
      | '"' :: rest => skipStringBody rest
      | '-' :: rest => skipMagnitude rest
      | '[' :: rest =>
          match skipBlanks rest with
          | ']' :: rest => .ok rest
          | [] => .error .endOfText
          | rest => skipElements fuel rest
      | '\x7b' :: rest =>
          match skipBlanks rest with
          | '\x7d' :: rest => .ok rest
          | rest => skipMembers fuel rest
      | c :: rest =>
          if c.isDigit then skipMagnitude (c :: rest) else .error .malformed

/-- Passes over the elements of a list, of which there is one at least, and
over its end. -/
def skipElements : Nat → List Char → Except Fault (List Char)
  | 0, _ => .error .malformed
  | fuel + 1, text => do
      let text ← skipValue fuel text
      match skipBlanks text with
      | ',' :: rest => skipElements fuel rest
      | ']' :: rest => .ok rest
      | rest => .error (unexpected rest)

/-- Passes over the members of an object, of which there is one at least, and
over its end. -/
def skipMembers : Nat → List Char → Except Fault (List Char)
  | 0, _ => .error .malformed
  | fuel + 1, text => do
      let ((), text) ← readMark '"' text
      let text ← skipStringBody text
      let ((), text) ← readMark ':' text
      let text ← skipValue fuel text
      match skipBlanks text with
      | ',' :: rest => skipMembers fuel rest
      | '\x7d' :: rest => .ok rest
      | rest => .error (unexpected rest)

end

/-- The fault of a value where one of another shape is wanted. Words, numbers
and strings are read first, and their own faults come before; lists and
objects are refused as soon as they begin. -/
def refusal (text : List Char) : Fault :=
  let outcome : Except Fault Unit :=
    match text with
    | 'n' :: rest => (readWord "ull".toList rest).map fun _ => ()
    | 't' :: rest => (readWord "rue".toList rest).map fun _ => ()
    | 'f' :: rest => (readWord "alse".toList rest).map fun _ => ()
    | '"' :: rest => (readStringBody rest).map fun _ => ()
    | '[' :: _ => .ok ()
    | '\x7b' :: _ => .ok ()
    | c :: rest =>
        if c = '-' || c.isDigit then
          (readNumber (c :: rest)).map fun _ => ()
        else
          .error .malformed
    | [] => .error .endOfText
  match outcome with
  | .ok () => .shape
  | .error fault => fault

/-! ## Values of a wanted shape -/

def readString : Reader String := fun text =>
  match skipBlanks text with
  | '"' :: rest => do
      let (characters, rest) ← readStringBody rest
      return (String.ofList characters, rest)
  | rest => .error (refusal rest)

def readCount (bound : Nat) : Reader Nat := fun text =>
  match skipBlanks text with
  | [] => .error .endOfText
  | c :: rest =>
      if c = '-' || c.isDigit then do
        match ← readNumber (c :: rest) with
        | (some n, rest) =>
            if n < bound then return (n, rest) else throw .shape
        | (none, _) => throw .shape
      else
        .error (refusal (c :: rest))

/-- Reads one of a finite family of names: a string, or an object with the
name as its only key and the value null. -/
def readName {α : Type} (name? : String → Option α) : Reader α := fun text =>
  match skipBlanks text with
  | '"' :: rest => do
      let (characters, rest) ← readStringBody rest
      match name? (String.ofList characters) with
      | some member => return (member, rest)
      | none => throw .shape
  | '\x7b' :: rest => do
      let (key, rest) ← readString rest
      match name? key with
      | none => throw .shape
      | some member => do
          let ((), rest) ← readMark ':' rest
          match skipBlanks rest with
          | 'n' :: rest => do
              let ((), rest) ← readWord "ull".toList rest
              let ((), rest) ← readMark '\x7d' rest
              return (member, rest)
          | rest => throw (refusal rest)
  | rest => .error (unexpected rest)

/-- The start of the next member of an object: the text at its key, or the
text behind the end of the object. -/
inductive NextMember where
  | key (text : List Char)
  | finished (rest : List Char)

/-- Finds the next member of an object, of which `isFirst` tells whether it
would be the first. -/
def nextMember (isFirst : Bool) (text : List Char) :
    Except Fault NextMember :=
  match skipBlanks text with
  | '\x7d' :: rest => .ok (.finished rest)
  | ',' :: rest =>
      if isFirst then
        .error .malformed
      else
        match skipBlanks rest with
        | '"' :: rest => .ok (.key ('"' :: rest))
        | rest => .error (unexpected rest)
  | '"' :: rest =>
      if isFirst then .ok (.key ('"' :: rest)) else .error .malformed
  | rest => .error (unexpected rest)

/-- Reads the members of an object with `member`, which is given the key and
what has been read before it. The fuel bounds the number of members. -/
def readMembers {α : Type} (member : α → String → Reader α) :
    Nat → Bool → α → Reader α
  | 0, _, _, _ => .error .malformed
  | fuel + 1, isFirst, state, text => do
      match ← nextMember isFirst text with
      | .finished rest => return (state, rest)
      | .key text => do
          let (key, text) ← readString text
          let (state, text) ← member state key text
          readMembers member fuel false state text

/-- Reads an object with `member`, starting from `initial`. -/
def readObject {α : Type} (member : α → String → Reader α) (initial : α) :
    Reader α := fun text =>
  match skipBlanks text with
  | '\x7b' :: rest =>
      readMembers member (rest.length + 1) true initial rest
  | rest => .error (refusal rest)

/-- A field of a record: its name, and how to read a new value into a
record. -/
structure RecordField (α : Type) where
  name : String
  read : α → Reader α

/-- Reads a member of a record. Unknown members are passed over; a field that
was read before is of the wrong shape. -/
def recordMember {α : Type} (fields : List (RecordField α))
    (state : List String × α) (key : String) : Reader (List String × α) :=
  fun text =>
    let (seen, record) := state
    match fields.find? fun field => field.name == key with
    | none => do
        let ((), text) ← readMark ':' text
        let rest ← skipValue (2 * text.length + 2) text
        return (state, rest)
    | some field =>
        if seen.contains key then
          .error .shape
        else do
          let ((), text) ← readMark ':' text
          let (record, rest) ← field.read record text
          return ((key :: seen, record), rest)

/-- Passes over the comma between two elements of a list; another element has
to follow it. -/
def nextElement : List Char → Except Fault (List Char)
  | ',' :: rest =>
      match skipBlanks rest with
      | ']' :: _ => .error .malformed
      | [] => .error .endOfText
      | rest => .ok rest
  | text => .error (unexpected text)

/-- Reads the fields of a record from the elements of a list, in order; fields
without an element keep their value. -/
def readElements {α : Type} :
    List (RecordField α) → Bool → α → Reader α
  | [], _, record, text =>
      match skipBlanks text with
      | ']' :: rest => .ok (record, rest)
      | rest => .error (unexpected rest)
  | field :: fields, isFirst, record, text =>
      match skipBlanks text with
      | ']' :: rest => .ok (record, rest)
      | [] => .error .endOfText
      | text => do
          let text ← if isFirst then pure text else nextElement text
          let (record, rest) ← field.read record text
          readElements fields false record rest

/-- Reads a record from an object or from a list, starting from the record
that holds the defaults. -/
def readRecord {α : Type} (fields : List (RecordField α)) (defaults : α) :
    Reader α := fun text =>
  match skipBlanks text with
  | '[' :: rest => readElements fields true defaults rest
  | '\x7b' :: rest => do
      let ((_, record), rest) ←
        readMembers (recordMember fields) (rest.length + 1) true
          ([], defaults) rest
      return (record, rest)
  | rest => .error (refusal rest)

def readAll {α : Type} (reader : Reader α) (text : String) :
    Except Fault α := do
  let (value, rest) ← reader text.toList
  finish rest
  return value

end Shaderwright.Json
