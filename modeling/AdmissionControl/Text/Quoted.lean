import AdmissionControl.Text.Printable

/-!
# Quoted text

A quoted text stands between quotation marks on one line. Each character is shown as itself, by a
short escape, or by its number in braces, so different texts have different quoted forms.
-/

namespace AdmissionControl.Text

/-- How quoted text shows one character. -/
def quoteCharacter (character : Char) : List Char :=
  if character = '\x00' then ['\\', '0']
  else if character = '\t' then ['\\', 't']
  else if character = '\n' then ['\\', 'n']
  else if character = '\r' then ['\\', 'r']
  else if character = '"' then ['\\', '"']
  else if character = '\\' then ['\\', '\\']
  else if isPrintable character then [character]
  else ['\\', 'u', '\x7b'] ++ Nat.toDigits 16 character.toNat ++ ['\x7d']

/-- A text between quotation marks. -/
def quote (text : List Char) : List Char :=
  '"' :: text.flatMap quoteCharacter ++ ['"']

end AdmissionControl.Text
