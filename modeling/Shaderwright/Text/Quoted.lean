import Shaderwright.Text.Concealed

/-!
Quoted text for reports. Quotation marks, backslashes and common control
characters are escaped by a letter, and other characters that cannot be seen
by their number.
-/

namespace Shaderwright.Text

/-- The escape of a character by its number, in lower-case hexadecimal. -/
def numericEscape (c : Char) : List Char :=
  ['\\', 'u', '\x7b'] ++ Nat.toDigits 16 c.toNat ++ ['\x7d']

/-- The written form of one character of quoted text. -/
def escapeVisibly (c : Char) : List Char :=
  match c with
  | '\x00' => ['\\', '0']
  | '\t' => ['\\', 't']
  | '\n' => ['\\', 'n']
  | '\r' => ['\\', 'r']
  | '"' => ['\\', '"']
  | '\\' => ['\\', '\\']
  | c => if isConcealed c then numericEscape c else [c]

/-- The written form of a text, with its quotation marks. -/
def quoted (text : String) : String :=
  String.ofList ('"' :: text.toList.flatMap escapeVisibly ++ ['"'])

end Shaderwright.Text
