import Shaderwright.Formula.Token
import Shaderwright.Json.Reader

/-!
Texts as literals of the host language. Reading the literal that stands for a
text gives that text (`exists_spelling_of_quoting`).
-/

namespace Shaderwright.Token

/-! ## Reading literals -/

/-- The character that a letter behind a backslash stands for. -/
def escapedCharacter? : Char → Option Char
  | 'n' => some '\n'
  | 'r' => some '\r'
  | 't' => some '\t'
  | '0' => some '\x00'
  | '\\' => some '\\'
  | '\'' => some '\''
  | '"' => some '"'
  | _ => none

/-- What the characters behind the opening quotation mark of a literal stand
for, up to the closing one. Inside the braces of an escape by number there is
the value of the digits so far. -/
def literalBody? : Option Nat → List Char → Option (List Char)
  | _, [] => none
  | none, '"' :: rest => if rest = [] then some [] else none
  | none, '\\' :: 'x' :: high :: low :: rest => do
      let high ← Json.hexValue? high
      let low ← Json.hexValue? low
      let text ← literalBody? none rest
      return Char.ofNat (16 * high + low) :: text
  | none, '\\' :: 'u' :: '\x7b' :: rest => literalBody? (some 0) rest
  | none, '\\' :: letter :: rest => do
      let c ← escapedCharacter? letter
      let text ← literalBody? none rest
      return c :: text
  | none, c :: rest => do
      let text ← literalBody? none rest
      return c :: text
  | some value, '\x7d' :: rest => do
      let text ← literalBody? none rest
      return Char.ofNat value :: text
  | some value, c :: rest => do
      let digit ← Json.hexValue? c
      literalBody? (some (16 * value + digit)) rest

/-- The text that a literal of a text stands for. -/
def literalText? (spelling : String) : Option String :=
  match spelling.toList with
  | '"' :: rest => String.ofList <$> literalBody? none rest
  | _ => none

/-! ## Escapes -/

private theorem hexValue?_digitChar : ∀ digit < 16,
    Json.hexValue? digit.digitChar = some digit := by
  decide

private theorem literalBody?_digit {digit : Nat} (small : digit < 16)
    (value : Nat) (rest : List Char) :
    literalBody? (some value) (digit.digitChar :: rest) =
      literalBody? (some (16 * value + digit)) rest := by
  simp [literalBody?, hexValue?_digitChar digit small]

/-- The digits of a number are read back as the number. -/
private theorem literalBody?_toDigits (n : Nat) (rest : List Char) :
    literalBody? (some 0) (Nat.toDigits 16 n ++ rest) =
      literalBody? (some n) rest := by
  induction n using Nat.strongRecOn generalizing rest with
  | ind n inductionHypothesis =>
      by_cases small : n < 16
      · rw [Nat.toDigits_of_lt_base small]
        simpa using literalBody?_digit small 0 rest
      · have last : n % 16 < 16 := Nat.mod_lt n (by decide)
        rw [Nat.toDigits_of_base_le (by decide) (Nat.le_of_not_lt small),
          List.append_assoc,
          inductionHypothesis (n / 16) (Nat.div_lt_self (by omega) (by decide)),
          List.singleton_append, literalBody?_digit last, Nat.div_add_mod]

private theorem hexValue?_zero : Json.hexValue? '0' = some 0 := by
  decide

private theorem literalBody?_numericEscape (c : Char) (rest : List Char) :
    literalBody? none (Text.numericEscape c ++ rest) = do
      let text ← literalBody? none rest
      return c :: text := by
  simp [Text.numericEscape, literalBody?, literalBody?_toDigits]

/-- A character that is neither a quotation mark nor a backslash stands for
itself. -/
private theorem literalBody?_plain {c : Char} (noMark : c ≠ '"')
    (noEscape : c ≠ '\\') (rest : List Char) :
    literalBody? none (c :: rest) = do
      let text ← literalBody? none rest
      return c :: text := by
  simp [literalBody?, noEscape]

/-- A character is read back from its written form. -/
theorem literalBody?_escapeVisibly (c : Char) (rest : List Char) :
    literalBody? none (Text.escapeVisibly c ++ rest) = do
      let text ← literalBody? none rest
      return c :: text := by
  unfold Text.escapeVisibly
  split
  case h_7 null tab feed return_ mark backslash =>
    split
    · exact literalBody?_numericEscape c rest
    · exact literalBody?_plain mark backslash rest
  all_goals
    simp [literalBody?, escapedCharacter?]

/-! ## Texts -/

private theorem literalBody?_literalCharacters (text : List Char) :
    literalBody? none (literalCharacters text ++ ['"']) = some text := by
  fun_induction literalCharacters text with
  | case1 =>
      simp [literalBody?]
  | case2 next rest inductionHypothesis =>
      rw [List.append_assoc]
      split
      · simp [literalBody?, hexValue?_zero, inductionHypothesis]
      · simp [literalBody?, escapedCharacter?, inductionHypothesis]
  | case3 c rest _ inductionHypothesis =>
      rw [List.append_assoc, literalBody?_escapeVisibly, inductionHypothesis]
      rfl

/-- The literal that stands for a text is read as that text. -/
theorem exists_spelling_of_quoting (text : String) :
    ∃ spelling, quoting text = .literal .text spelling ∧
      literalText? spelling = some text :=
  ⟨_, rfl, by simp [literalText?, literalBody?_literalCharacters]⟩

end Shaderwright.Token
